import StorageMedia.Proofs.Handle.Asking
import StorageMedia.Proofs.Handle.Clamping

/-! # A session asks once

What a session finds out about its media is found out once and holds until the session ends,
whatever the device would answer later. The calls of a session, of which there may be any number in
any order, therefore all draw on the facts that are known at its end.
-/

namespace StorageMedia

variable {σ : Type} [Device σ]

/-- A call of a session draws on the facts that are known at the end of the session. -/
structure Call.DrawsOn (host : Host σ) (patience : Nat) (after : Handle σ) (call : Call σ) :
    Prop where
  /-- What succeeds is well formed and has found out what it needs. -/
  learns : ∀ topic value, call.operation.topic? = some topic →
    (call.response host patience).outcome.result = .ok value →
    call.operation.fault? call.handle.options = none ∧
      ∃ fact, (call.response host patience).outcome.state.known topic = some fact
  /-- What is found out stays, and what it tells is what is answered. -/
  tells : ∀ topic fact, call.operation.topic? = some topic →
    call.operation.fault? call.handle.options = none →
    (call.response host patience).outcome.state.known topic = some fact →
    after.known topic = some fact ∧
      ∀ told, topic.tells? fact call.operation = some told →
        (call.response host patience).outcome.result = told
  /-- Reads are clamped to the media that is known. -/
  clamped : ∀ start size, call.operation.Requests call.handle start size →
    (∀ event ∈ (call.response host patience).outcome.events,
      event.Serves after.knownSize start size) ∧
    ∀ value, (call.response host patience).outcome.result = .ok value →
      value.amount ≤ min (after.knownSize - start) size
  /-- What needs to be known is found out first, and the device is asked if it is not known. -/
  consults : ∀ topic, call.operation.topic? = some topic →
    call.operation.fault? call.handle.options = none →
    ∃ session, call.handle.session = some session ∧
      Handle.Consults topic session (call.response host patience).outcome ∧
      (call.handle.known topic = none →
        [.query session.device topic.question] <+: (call.response host patience).outcome.events)
  /-- Nothing else is asked for. -/
  asks : Handle.AsksOnly call.operation.topic? (call.response host patience).outcome

namespace Operation

variable {host : Host σ} {patience : Nat} {handle middle after : Handle σ}
  {past future history : List (Call σ)}

open Handle

/-- A run in one session leaves the handle open. -/
theorem Runs.staysOpen (runs : Runs host patience handle history after)
    (lasts : InOneSession host patience history) (opened : handle.isOpen = true) :
    after.isOpen = true := by
  induction runs with
  | nil => exact opened
  | cons operation _ _ ih =>
    exact ih (fun call member => lasts call (List.mem_cons_of_mem _ member))
      (lasts _ (List.mem_cons_self ..))

private theorem formed_of_ok {operation : Operation σ} {value : Value}
    (succeeded : (operation.apply host patience handle).outcome.result = .ok value) :
    operation.fault? handle.options = none := by
  cases malformed : operation.fault? handle.options with
  | none => rfl
  | some fault =>
    rw [apply_of_fault malformed] at succeeded
    cases succeeded

private theorem apply_learns {operation : Operation σ} {topic : Topic} {session : Session σ}
    {value : Value} (opened : handle.session = some session)
    (needs : operation.topic? = some topic)
    (succeeded : (operation.apply host patience handle).outcome.result = .ok value) :
    operation.fault? handle.options = none ∧
      ∃ fact, (operation.apply host patience handle).outcome.state.known topic = some fact := by
  have formed := formed_of_ok succeeded
  have consults : Consults topic session (operation.apply host patience handle).outcome :=
    apply_consults opened formed needs
  cases consults with
  | failed _ result =>
    rw [result] at succeeded
    cases succeeded
  | found _ known => exact ⟨formed, _, known⟩

private theorem result_of_known {operation : Operation σ} {topic : Topic} {session : Session σ}
    {fact : topic.Fact} {told : Result Value} (opened : handle.session = some session)
    (formed : operation.fault? handle.options = none) (needs : operation.topic? = some topic)
    (known : (operation.apply host patience handle).outcome.state.known topic = some fact)
    (tells : topic.tells? fact operation = some told) :
    (operation.apply host patience handle).outcome.result = told := by
  have consults : Consults topic session (operation.apply host patience handle).outcome :=
    apply_consults opened formed needs
  cases consults with
  | failed _ _ unknown =>
    rw [unknown] at known
    cases known
  | found found learnt =>
    obtain rfl := Option.some.inj (learnt.symm.trans known)
    exact apply_tells opened formed found tells

private theorem Runs.drawsOn {call : Call σ} (runs : Runs host patience handle history after)
    (lasts : InOneSession host patience history) (opened : handle.isOpen = true)
    (member : call ∈ history) : call.DrawsOn host patience after := by
  obtain ⟨before, rest, rfl, first, second⟩ := runs.split member
  have isOpen :=
    first.staysOpen (fun other early => lasts other (List.mem_append_left _ early)) opened
  -- What is known after the call is known until the end.
  have keeps {topic : Topic} {fact : topic.Fact}
      (known : (call.response host patience).outcome.state.known topic = some fact) :
      after.known topic = some fact :=
    (second.keeps (fun other late => lasts other
      (List.mem_append_right _ (List.mem_cons_of_mem _ late))) known).1
  obtain ⟨session, opened⟩ := Option.isSome_iff_exists.mp isOpen
  constructor
  case learns => exact fun topic value needs succeeded => apply_learns opened needs succeeded
  case tells =>
    intro topic fact needs formed known
    exact ⟨keeps known, fun told tells => result_of_known opened formed needs known tells⟩
  case clamped =>
    intro start size requests
    obtain ⟨serves, given⟩ := requests.serves host patience
    refine ⟨fun event member => serves_of_keeps (fun _ => keeps) (serves event member), ?_⟩
    intro value succeeded
    have few := given value succeeded
    have le : (call.response host patience).outcome.state.knownSize ≤ after.knownSize := by
      rcases knownSize_of_keeps fun _ => keeps with unknown | same
      · rw [unknown]
        exact Nat.zero_le _
      · exact Nat.le_of_eq same
    simp only [Call.response] at few le ⊢
    omega
  case consults =>
    intro topic needs formed
    have consults : Consults topic session (call.response host patience).outcome :=
      apply_consults opened formed needs
    refine ⟨session, opened, consults, fun unknown => ?_⟩
    rw [known_of_session opened] at unknown
    have begins := (Session.find_of_unknown unknown).begins
    cases consults with
    | failed _ _ _ events =>
      rw [events]
      exact begins
    | found _ _ events =>
      rw [events]
      exact begins.trans (List.prefix_append _ _)
  case asks => exact apply_asksOnly host patience call.handle call.operation

/-- What a session finds out it finds out once. Opening asks nothing, and nothing is known at first.
What is known at any time of the session is known until it ends and not asked for any more. Every
call of the session draws on what is known at the end, and asks about nothing that it does not need.
The geometry alone needs more than one question; it is not found out exactly if neither the metadata
gives a positive size nor a seek finds the end. -/
theorem session_asks_once {opening : Operation σ}
    (begins : opening.Begins (opening.apply host patience handle))
    (earlier : Runs host patience (opening.apply host patience handle).outcome.state past middle)
    (later : Runs host patience middle future after)
    (lasts : InOneSession host patience (past ++ future)) :
    (∀ topic : Topic, (opening.apply host patience handle).outcome.state.known topic = none ∧
      ∀ event ∈ (opening.apply host patience handle).outcome.events, ¬ event.Asks topic) ∧
    (∀ (topic : Topic) (fact : topic.Fact), middle.known topic = some fact →
      after.known topic = some fact ∧
        ∀ call ∈ future, ∀ event ∈ (call.response host patience).outcome.events,
          ¬ event.Asks topic) ∧
    (∀ call ∈ past ++ future, call.DrawsOn host patience after) ∧
    ∀ session : Session σ, session.known .geometry = none → ∀ cause,
      (session.find .geometry).result = .error cause ↔
        cause = .geometryUnavailable ∧
        (∀ size, (Device.mediaSize session.device).2 = .ok (some size) → size = 0) ∧
          ∃ error, (Device.seekEnd (Device.mediaSize session.device).1).2 = .error error := by
  obtain ⟨_, _, _, started⟩ := begins.startsSession
  refine ⟨fun topic => ⟨?_, ?_⟩, ?_, ?_, ?_⟩
  · rw [started]
    cases topic <;> rfl
  · intro event member
    obtain ⟨fact, rfl⟩ := (apply_opening host patience handle opening begins.1).1 event member
    exact id
  · intro topic fact known
    obtain ⟨kept, unasked⟩ :=
      later.keeps (fun call late => lasts call (List.mem_append_right _ late)) known
    exact ⟨kept, fun call member => (unasked call member).unasked⟩
  · intro call member
    have opened : (opening.apply host patience handle).outcome.state.isOpen = true := by
      rw [started]
      rfl
    exact (earlier.append later).drawsOn lasts opened member
  · intro session unknown cause
    have resolves : (session.find .geometry).result = (resolveGeometry session.device).result := by
      simp only [Session.known] at unknown
      simp only [Session.find, Session.geometry, unknown]
    rw [resolves]
    exact resolveGeometry_error_iff

/-- A device that reports another size whenever it is asked for it, none at first. -/
structure Fickle where
  asked : Nat

instance : Device Fickle where
  read device _ := { device, result := .ok 0 }
  seek device target := (device, .ok target)
  mediaSize device := (⟨device.asked + 1⟩, .ok (some (UInt64.ofNat device.asked)))
  seekEnd device := (device, .error (.system SystemError.noEntry))

/-- A session on a fickle device asks again after a failure, and keeps to the size that it finds
then. -/
theorem fickle_asked_once :
    let opened : Handle Fickle := (Handle.withOptions {}).startSession "drive" ⟨0⟩
    let failed := apply Host.empty 0 opened .mediaSize
    let found := apply Host.empty 0 failed.outcome.state .mediaSize
    let again := apply Host.empty 0 found.outcome.state .mediaSize
    failed.outcome.result = .error .geometryUnavailable ∧ found.outcome.result = .ok (.nat 1) ∧
      again.outcome.result = .ok (.nat 1) ∧
      ∀ event ∈ again.outcome.events, ¬ event.Asks .geometry := by
  intro opened failed found again
  have begins : (openDevice "drive" ⟨0⟩ : Operation Fickle).Begins
      (apply Host.empty 0 (Handle.withOptions {}) (.openDevice "drive" ⟨0⟩)) := ⟨rfl, rfl⟩
  let past : List (Call Fickle) := [⟨opened, .mediaSize⟩, ⟨failed.outcome.state, .mediaSize⟩]
  let future : List (Call Fickle) := [⟨found.outcome.state, .mediaSize⟩]
  have earlier : Runs Host.empty 0 opened past found.outcome.state :=
    .cons .mediaSize (by rintro ⟨⟩) (.cons .mediaSize (by rintro ⟨⟩) (.nil _))
  have later : Runs Host.empty 0 found.outcome.state future again.outcome.state :=
    .cons .mediaSize (by rintro ⟨⟩) (.nil _)
  have lasts : InOneSession Host.empty 0 (past ++ future) := by
    rintro call (_ | ⟨_, _ | ⟨_, _ | ⟨_, ⟨⟩⟩⟩⟩) <;> rfl
  have once := (session_asks_once begins earlier later lasts).2.1 .geometry { mediaSize := 1 } rfl
  exact ⟨rfl, rfl, rfl, once.2 _ (List.mem_singleton.mpr rfl)⟩

end Operation

end StorageMedia
