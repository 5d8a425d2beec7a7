import StorageMedia.Proofs.Device.Disturbed
import StorageMedia.Proofs.Transfer.Delivery
import StorageMedia.Proofs.Transfer.Endings

/-! # Transfers on disturbed devices

A transfer on a device and one on a disturbed version of it run side by side. A fault is a step of
the disturbed transfer alone: its read fails, nothing is kept, and the seek that comes next brings
both devices in step again. All other steps the transfers do together. As long as no more faults
count than there are retries, nothing is given up on either side, and both transfers come to the
same result.

What a fault left in the buffer is written over by the read that follows, as far as that stores what
it counts. `Event.Delivers` picks out the bytes for which a read did both.
-/

namespace StorageMedia

variable {σ τ : Type}

/-- The options let the faults pass: each is an interruption or can be tolerated, and those that
count, together with the failures that were counted before, are no more than there are retries. -/
structure Options.Allows (options : Options) (failures : Nat) (faults : List (Option IoError)) :
    Prop where
  kinds : ∀ error, some error ∈ faults →
    error.isInterrupted = true ∨ options.tolerateErrors = true ∧ error.isRetryable = true
  few : failures + faults.countP (·.any fun error => !error.isInterrupted) ≤
    options.errorRetries.toNat

namespace Options.Allows

variable {options : Options} {failures : Nat} {fault : Option IoError} {error : IoError}
  {faults : List (Option IoError)}

/-- What is allowed next to another fault is allowed without it. -/
theorem rest (allows : options.Allows failures (fault :: faults)) :
    options.Allows failures faults where
  kinds error member := allows.kinds error (List.mem_cons_of_mem _ member)
  few := by
    have few := allows.few
    rw [List.countP_cons] at few
    omega

theorem tail (allows : options.Allows failures faults) : options.Allows failures faults.tail := by
  cases faults with
  | nil => exact allows
  | cons fault faults => exact allows.rest

/-- A fault that counts is one failure more. -/
theorem counted (allows : options.Allows failures (some error :: faults))
    (counts : error.isInterrupted = false) : options.Allows (failures + 1) faults where
  kinds := allows.rest.kinds
  few := by
    have few := allows.few
    rw [List.countP_cons_of_pos (by simp [counts])] at few
    omega

end Options.Allows

namespace Event

/-- A device read failed in a way that is worth a retry, and was not merely interrupted. -/
def isRetryableFailure : Event σ → Bool
  | read _ _ _ (.error error) => !error.isInterrupted && error.isRetryable
  | _ => false

variable [Device σ]

/-- The device read of the event gave the byte at an offset of the media: it reported and stored
it. -/
def Delivers (byte : Nat) : Event σ → Prop
  | read device offset capacity (.ok count) =>
    offset ≤ byte ∧ byte < offset + count ∧
      byte < offset + (Device.read device capacity).stored.size
  | _ => False

/-- A device read stored all bytes that it reported. -/
def storesReported : Event σ → Bool
  | read device _ capacity (.ok count) =>
    decide (count ≤ (Device.read device capacity).stored.size)
  | _ => true

variable {event : Event σ} {byte : Nat}

theorem Reports.delivers (reports : event.Reports byte) (stores : event.storesReported = true) :
    event.Delivers byte := by
  cases event with
  | read device offset capacity outcome =>
    cases outcome with
    | ok count =>
      simp only [Reports, storesReported, decide_eq_true_eq, Delivers] at reports stores ⊢
      omega
    | error => exact reports.elim
  | query | seek | notice => exact reports.elim

theorem not_delivers_of_isInquiry (inquiry : event.isInquiry = true) : ¬ event.Delivers byte := by
  cases event with
  | read => simp [isInquiry] at inquiry
  | query | seek | notice => exact id

end Event

variable [Device σ] [Device τ] {disturbance : Disturbance σ τ} {faults : List (Option IoError)}
  {error : IoError}

namespace Session

variable {session after : Session σ} {other : Session τ} {offset : Nat}

omit [Device τ] in
/-- A device that is not known to stand at an offset is moved there. -/
theorem device_moveTo (unknown : session.position ≠ some offset) :
    (session.moveTo offset).state.device = (Device.seek session.device offset).1 := by
  simp only [moveTo, if_neg unknown]
  split <;> rfl

/-- Sessions that believe the same of a device and of a disturbed one. -/
structure Disturbed (disturbance : Disturbance σ τ) (faults : List (Option IoError))
    (session : Session σ) (other : Session τ) : Prop where
  position : other.position = session.position
  inStep : disturbance.InStep faults session.device other.device
  /-- The device stands where the session believes. -/
  stands : ∀ offset, session.position = some offset → disturbance.Stands session.device offset

/-- Brought to an offset, the devices of two sessions are in step there. -/
structure Abreast (disturbance : Disturbance σ τ) (faults : List (Option IoError)) (offset : Nat)
    (session : Session σ) (other : Session τ) : Prop where
  arrives : (session.moveTo offset).result = .ok ()
  follows : (other.moveTo offset).result = .ok ()
  /-- Nobody signals an abort on the way there. -/
  calm : Device.signalsInSeek session.device offset = false ∧
    Device.signalsInSeek other.device offset = false
  inStep : disturbance.InStep faults (session.moveTo offset).state.device
    (other.moveTo offset).state.device
  stands : disturbance.Stands (session.moveTo offset).state.device offset

/-- Devices that are in step are so wherever they are brought. -/
theorem Disturbed.abreast (disturbed : session.Disturbed disturbance faults other) (offset : Nat) :
    session.Abreast disturbance faults offset other := by
  have calm := disturbance.calm disturbed.inStep offset
  by_cases known : session.position = some offset
  · have stays := moveTo_of_position known
    have follows := moveTo_of_position (disturbed.position.trans known)
    constructor
    · rw [stays]
      rfl
    · rw [follows]
      rfl
    · exact calm
    · rw [stays, follows]
      exact disturbed.inStep
    · rw [stays]
      exact disturbed.stands offset known
  · have also : other.position ≠ some offset := disturbed.position ▸ known
    obtain ⟨⟨_, sought⟩, _, follows⟩ := disturbance.seeks disturbed.inStep offset
    have inStep := disturbance.sought disturbed.inStep offset
    refine ⟨moveTo_of_seek sought, moveTo_of_seek follows, calm, ?_, ?_⟩
    · rw [device_moveTo known, device_moveTo also]
      exact inStep.1
    · rw [device_moveTo known]
      exact inStep.2

/-- A fault is over once the device is brought back. -/
theorem Abreast.fault {next : Session τ} {capacity : Nat}
    (abreast : session.Abreast disturbance (some error :: faults) offset other)
    (device : next.device = (Device.read (other.moveTo offset).state.device capacity).device)
    (lost : next.position = none) : session.Abreast disturbance faults offset next := by
  obtain ⟨_, _, ⟨_, sought⟩, calm, inStep⟩ :=
    disturbance.fails abreast.inStep abreast.stands capacity
  have unknown : next.position ≠ some offset := by simp [lost]
  rw [← device] at sought calm inStep
  refine ⟨abreast.arrives, moveTo_of_seek sought, ⟨abreast.calm.1, calm⟩, ?_, abreast.stands⟩
  rw [device_moveTo unknown]
  exact inStep

end Session

/-- The same bytes stored at the same place can be read back alike. -/
theorem Buffer.getElem?_store_alike {buffer other : Buffer} {bytes : Bytes} {ahead : Nat}
    (done : other.done = buffer.done) (free : other.free = buffer.free)
    (stored : ahead < bytes.size) :
    (other.store bytes).bytes.toList[buffer.done + ahead]? =
      (buffer.store bytes).bytes.toList[buffer.done + ahead]? := by
  rcases Nat.lt_or_ge ahead buffer.free with fits | beyond
  · rw [buffer.getElem?_store_add stored fits, ← done,
      other.getElem?_store_add stored (free ▸ fits)]
  · have length : (buffer.store bytes).bytes.toList.length = buffer.done + buffer.free :=
      length_bytes _
    have also : (other.store bytes).bytes.toList.length = other.done + other.free :=
      length_bytes _
    rw [List.getElem?_eq_none (by omega), List.getElem?_eq_none (by omega)]

namespace Transfer

variable {options : Options} {start : Nat} {transfer : Transfer σ} {other : Transfer τ}
  {outcome : Except IoError Nat}

/-- A transfer and a disturbed one have given up nothing and hold the same bytes wherever the reads
of the first one delivered them. -/
structure Matches (start : Nat) (transfer : Transfer σ) (other : Transfer τ) : Prop where
  aborted : other.aborted = transfer.aborted
  whole : transfer.skipped = {}
  unspoiled : other.skipped = {}
  bytes : ∀ index, (∃ event ∈ transfer.events, event.Delivers (start + index)) →
    other.buffer.bytes.toList[index]? = transfer.buffer.bytes.toList[index]?

/-- A transfer and a disturbed one are equally far. The faults that are still to come are allowed,
and as long as bytes are missing the devices can be brought in step. -/
structure Together (disturbance : Disturbance σ τ) (options : Options) (start : Nat)
    (faults : List (Option IoError)) (transfer : Transfer σ) (other : Transfer τ) : Prop
    extends transfer.Matches start other where
  done : other.buffer.done = transfer.buffer.done
  free : other.buffer.free = transfer.buffer.free
  behind : ∀ event ∈ transfer.events, ∀ byte, event.Delivers byte →
    byte < start + transfer.buffer.done
  allows : options.Allows other.failures faults
  abreast : 0 < transfer.buffer.free →
    transfer.session.Abreast disturbance faults (start + transfer.buffer.done) other.session

/-- Two steps go on together or end with the same result. -/
inductive StepsAlike (disturbance : Disturbance σ τ) (options : Options) (start : Nat)
    (faults : List (Option IoError)) : TransferStep σ → TransferStep τ → Prop
  | more {next : Transfer σ} {following : Transfer τ}
      (together : Together disturbance options start faults next following) :
      StepsAlike disturbance options start faults (.more next) (.more following)
  | ended {final : Transfer σ} {last : Transfer τ} (result : Result Nat)
      (ends : final.Matches start last) :
      StepsAlike disturbance options start faults (.ended final result) (.ended last result)

omit [Device τ] in
private theorem getElem?_fetched {index : Nat} (done : index < transfer.buffer.done) :
    (transfer.fetched start).buffer.bytes.toList[index]? = transfer.buffer.bytes.toList[index]? :=
  transfer.buffer.getElem?_store_of_lt done

omit [Device τ] in
private theorem Fetches.delivers (fetches : transfer.Fetches start outcome) {event : Event σ}
    {byte : Nat} (member : event ∈ (transfer.fetched start).events)
    (delivers : event.Delivers byte) :
    event ∈ transfer.events ∨
      (∃ count, outcome = .ok count ∧ byte < start + transfer.buffer.done + count) ∧
        start + transfer.buffer.done ≤ byte ∧
        byte < start + transfer.buffer.done +
          (Device.read (transfer.brought start).session.device
            transfer.buffer.free).stored.size := by
  rw [fetches.events_fetched] at member
  rcases List.mem_cons.mp member with rfl | member
  · cases outcome with
    | ok count => exact .inr ⟨⟨count, rfl, delivers.2.1⟩, delivers.1, delivers.2.2⟩
    | error => exact delivers.elim
  · rcases List.mem_append.mp member with moving | before
    · obtain rfl := Session.eq_seek_of_mem_moveTo (List.mem_reverse.mp moving)
      exact delivers.elim
    · exact .inl before

namespace Together

private theorem fetches (together : Together disturbance options start faults transfer other)
    (room : 0 < transfer.buffer.free) (running : transfer.aborted = false) :
    transfer.Fetches start
      (Device.read (transfer.brought start).session.device transfer.buffer.free).result :=
  ⟨room, running, (together.abreast room).arrives, rfl⟩

private theorem follows (together : Together disturbance options start faults transfer other)
    (fetches : transfer.Fetches start outcome) :
    other.Fetches start
      (Device.read (other.brought start).session.device other.buffer.free).result :=
  ⟨together.free ▸ fetches.room, together.aborted.trans fetches.running,
    together.done ▸ (together.abreast fetches.room).follows, rfl⟩

/-- A fault is a step of the disturbed transfer alone. -/
theorem fault (together : Together disturbance options start (some error :: faults) transfer other)
    (fetches : transfer.Fetches start outcome) :
    ∃ next, other.step options start = .more next ∧
      Together disturbance options start faults transfer next := by
  have abreast := together.abreast fetches.room
  rw [← together.done] at abreast
  obtain ⟨failed, calm, _⟩ :=
    disturbance.fails abreast.inStep abreast.stands other.buffer.free
  have follows := together.follows fetches
  have quiet : (other.fetched start).aborted = transfer.aborted := by
    rw [aborted_fetched_of_calm follows.running abreast.calm.2 calm, fetches.running]
  have holds : ∀ index, (∃ event ∈ transfer.events, event.Delivers (start + index)) →
      (other.fetched start).buffer.bytes.toList[index]? =
        transfer.buffer.bytes.toList[index]? := by
    rintro index ⟨event, member, delivers⟩
    have done := together.behind event member _ delivers
    rw [getElem?_fetched (by rw [together.done]; omega)]
    exact together.bytes index ⟨event, member, delivers⟩
  have back : transfer.session.Abreast disturbance faults (start + transfer.buffer.done)
      (other.fetched start).loseTrack.session := together.done ▸ abreast.fault rfl rfl
  have outcome : (Device.read (other.brought start).session.device other.buffer.free).result =
      .error error := failed
  rw [outcome] at follows
  cases interrupted : error.isInterrupted with
  | true =>
    exact ⟨_, follows.step_interrupted options interrupted,
      ⟨quiet, together.whole, together.unspoiled, holds⟩, together.done, together.free,
      together.behind, together.allows.rest, fun _ => back⟩
  | false =>
    obtain ⟨tolerant, retryable⟩ :=
      (together.allows.kinds error List.mem_cons_self).resolve_left (by simp [interrupted])
    have allows := together.allows.counted interrupted
    refine ⟨_, follows.step_tolerated tolerant interrupted retryable, ?_⟩
    -- There are retries left, so the failure is only noted.
    rcases tolerate_cases options start (other.fetched start).loseTrack error with
      ⟨spent, _⟩ | ⟨_, noted⟩
    · have few := allows.few
      have same : (other.fetched start).loseTrack.failures = other.failures := rfl
      omega
    · rw [noted]
      exact ⟨⟨quiet, together.whole, together.unspoiled, holds⟩, together.done, together.free,
        together.behind, allows, fun _ => back⟩

private theorem fetched (together : Together disturbance options start faults transfer other)
    (calm : faults.head?.join = none) (fetches : transfer.Fetches start outcome) :
    other.Fetches start outcome ∧ (transfer.fetched start).Matches start (other.fetched start) ∧
      disturbance.InStep faults.tail (transfer.fetched start).session.device
        (other.fetched start).session.device := by
  have place : (other.brought start).session.device =
      (other.session.moveTo (start + transfer.buffer.done)).state.device := by
    simp only [brought, together.done]
  have abreast := together.abreast fetches.room
  obtain ⟨result, stored, abort, inStep⟩ :=
    disturbance.reads abreast.inStep calm transfer.buffer.free
  rw [← place] at result stored abort inStep
  have follows := together.follows fetches
  rw [together.free, result] at follows
  have reported : (Device.read (transfer.session.moveTo
      (start + transfer.buffer.done)).state.device transfer.buffer.free).result = outcome :=
    fetches.reported
  refine ⟨reported ▸ follows, ⟨?_, together.whole, together.unspoiled, ?_⟩, ?_⟩
  · have first := aborted_brought_of_calm fetches.running abreast.calm.1
    have second := aborted_brought_of_calm follows.running (together.done ▸ abreast.calm.2)
    simp only [Transfer.fetched, readDevice, first, second, buffer_brought, together.free, abort]
    rfl
  · rintro index ⟨event, member, delivers⟩
    have buffer : (other.fetched start).buffer = other.buffer.store
        (Device.read (transfer.brought start).session.device transfer.buffer.free).stored := by
      simp only [Transfer.fetched, readDevice, buffer_brought, together.free, stored]
      rfl
    rcases fetches.delivers member delivers with before | ⟨_, behind, stored⟩
    · have done := together.behind event before _ delivers
      rw [getElem?_fetched (by rw [together.done]; omega), getElem?_fetched (by omega)]
      exact together.bytes index ⟨event, before, delivers⟩
    · obtain ⟨ahead, rfl⟩ : ∃ ahead, index = transfer.buffer.done + ahead :=
        ⟨index - transfer.buffer.done, by omega⟩
      rw [buffer]
      exact Buffer.getElem?_store_alike together.done together.free (by omega)
  · simp only [Transfer.fetched, readDevice, buffer_brought, together.free]
    exact inStep

private theorem kept {count : Nat}
    (together : Together disturbance options start faults transfer other)
    (calm : faults.head?.join = none) (fetches : transfer.Fetches start (.ok count))
    (fits : count ≤ transfer.buffer.free) :
    Together disturbance options start faults.tail
      ((transfer.fetched start).keep (start + transfer.buffer.done) count)
      ((other.fetched start).keep (start + other.buffer.done) count) := by
  obtain ⟨_, ends, inStep⟩ := together.fetched calm fetches
  constructor
  case toMatches =>
    refine ⟨ends.aborted, ends.whole, ends.unspoiled, ?_⟩
    simp only [keep, Buffer.bytes_advance]
    exact ends.bytes
  case done =>
    simp only [keep, Buffer.advance, done_fetched, free_fetched, together.done, together.free]
  case free => simp only [keep, Buffer.advance, free_fetched, together.free]
  case behind =>
    intro event member byte delivers
    simp only [keep, Buffer.advance, done_fetched, free_fetched]
    rcases fetches.delivers member delivers with before | ⟨⟨_, ⟨⟩, counted⟩, _⟩
    · have done := together.behind event before byte delivers
      omega
    · omega
  case allows => exact together.allows.tail
  case abreast =>
    intro room
    have part : count < transfer.buffer.free := by
      simp only [keep, Buffer.advance, free_fetched] at room
      omega
    have before := together.abreast fetches.room
    have stands := disturbance.passes before.inStep before.stands fetches.reported part
    have disturbed : ((transfer.fetched start).keep (start + transfer.buffer.done)
        count).session.Disturbed disturbance faults.tail
          ((other.fetched start).keep (start + other.buffer.done) count).session := by
      refine ⟨by simp only [keep, together.done], inStep, ?_⟩
      rintro _ ⟨⟩
      exact stands
    exact disturbed.abreast _

private theorem interrupted
    (together : Together disturbance options start faults transfer other)
    (calm : faults.head?.join = none) (fetches : transfer.Fetches start (.error error)) :
    Together disturbance options start faults.tail (transfer.fetched start).loseTrack
      (other.fetched start).loseTrack := by
  obtain ⟨_, ends, inStep⟩ := together.fetched calm fetches
  constructor
  case toMatches => exact ⟨ends.aborted, ends.whole, ends.unspoiled, ends.bytes⟩
  case done => exact together.done
  case free => exact together.free
  case behind =>
    intro event member byte delivers
    rcases fetches.delivers member delivers with before | ⟨⟨_, ⟨⟩, _⟩, _⟩
    exact together.behind event before byte delivers
  case allows => exact together.allows.tail
  case abreast =>
    have disturbed : (transfer.fetched start).loseTrack.session.Disturbed disturbance faults.tail
        (other.fetched start).loseTrack.session := ⟨rfl, inStep, by rintro _ ⟨⟩⟩
    exact fun _ => disturbed.abreast _

/-- A transfer that has all bytes or was aborted ends, whatever faults are still to come. -/
theorem stop (together : Together disturbance options start faults transfer other)
    (stops : transfer.buffer.free = 0 ∨ transfer.aborted = true) :
    StepsAlike disturbance options start faults (transfer.step options start)
      (other.step options start) := by
  have ends := together.toMatches
  by_cases full : transfer.buffer.free = 0
  · rw [step_of_full full, step_of_full (together.free.trans full), together.done]
    exact .ended _ ends
  · have raised := stops.resolve_left full
    simp only [step, full, together.free, raised, together.aborted, if_false, if_true]
    refine .ended _ ⟨ends.aborted, ends.whole, ends.unspoiled, ?_⟩
    rintro index ⟨event, member, delivers⟩
    rcases List.mem_cons.mp member with rfl | before
    · exact delivers.elim
    · exact ends.bytes index ⟨event, before, delivers⟩

/-- Without a fault both transfers take the same step, as long as the options give no failure
another try. -/
theorem step (together : Together disturbance options start faults transfer other)
    (calm : faults.head?.join = none) (room : 0 < transfer.buffer.free)
    (running : transfer.aborted = false)
    (unfailing : options.tolerateErrors = true →
      ∀ event ∈ (transfer.step options start).transfer.events,
        event.isRetryableFailure = false) :
    StepsAlike disturbance options start faults.tail (transfer.step options start)
      (other.step options start) := by
  have reads := together.fetches room running
  generalize (Device.read (transfer.brought start).session.device
    transfer.buffer.free).result = outcome at reads
  obtain ⟨follows, ends, _⟩ := together.fetched calm reads
  have lost : (transfer.fetched start).loseTrack.Matches start (other.fetched start).loseTrack :=
    ⟨ends.aborted, ends.whole, ends.unspoiled, ends.bytes⟩
  rw [reads.step_eq] at unfailing ⊢
  rw [follows.step_eq]
  cases outcome with
  | ok count =>
    rw [settle, settle]
    by_cases nothing : count = 0
    · rw [if_pos nothing, if_pos nothing, done_fetched, done_fetched, together.done]
      exact .ended _ ends
    rw [if_neg nothing, if_neg nothing, free_fetched, free_fetched, together.free]
    by_cases exceeds : transfer.buffer.free < count
    · rw [if_pos exceeds, if_pos exceeds]
      exact .ended _ lost
    · rw [if_neg exceeds, if_neg exceeds]
      exact .more (together.kept calm reads (Nat.le_of_not_lt exceeds))
  | error error =>
    simp only [settle] at unfailing ⊢
    split
    · exact .more (together.interrupted calm reads)
    split
    · next counted tolerable =>
      -- The failure would have got another try.
      simp only [counted, tolerable, if_true, Bool.false_eq_true, if_false] at unfailing
      rw [Bool.and_eq_true] at tolerable
      have shown := unfailing tolerable.1 _ (subset_tolerate error (by
        rw [loseTrack, reads.events_fetched]
        exact List.mem_cons_self))
      simp [Event.isRetryableFailure, counted, tolerable.2] at shown
    · exact .ended _ lost

omit [Device τ] in
private theorem run_of_more {next : Transfer σ} {count : Nat}
    (more : transfer.step options start = .more next) :
    transfer.run options start (count + 1) = next.run options start count := by
  rw [Transfer.run, more]

/-- A run and a disturbed one that has a step more for every fault come to the same result. -/
theorem run (count : Nat)
    (together : Together disturbance options start faults transfer other)
    (ended : (transfer.run options start count).2 ≠ .pending)
    (unfailing : options.tolerateErrors = true →
      ∀ event ∈ (transfer.run options start count).1.events,
        event.isRetryableFailure = false) :
    (other.run options start (count + faults.countP (·.isSome))).2 =
        (transfer.run options start count).2 ∧
      (transfer.run options start count).1.Matches start
        (other.run options start (count + faults.countP (·.isSome))).1 := by
  induction count generalizing faults transfer other with
  | zero => exact absurd rfl ended
  | succ count ih =>
    -- Once the step is taken on both sides, what is left is a shorter run.
    have goesOn {faults : List (Option IoError)} {other : Transfer τ}
        (alike : StepsAlike disturbance options start faults (transfer.step options start)
          (other.step options start)) :
        (other.run options start (count + faults.countP (·.isSome) + 1)).2 =
            (transfer.run options start (count + 1)).2 ∧
          (transfer.run options start (count + 1)).1.Matches start
            (other.run options start (count + faults.countP (·.isSome) + 1)).1 := by
      simp only [Transfer.run] at ended unfailing ⊢
      generalize transfer.step options start = step at alike ended unfailing ⊢
      generalize other.step options start = following at alike ⊢
      cases alike with
      | more together => exact ih together ended unfailing
      | ended result ends => exact ⟨rfl, ends⟩
    have unfailingStep : options.tolerateErrors = true →
        ∀ event ∈ (transfer.step options start).transfer.events,
          event.isRetryableFailure = false := by
      intro tolerant event member
      refine unfailing tolerant event ?_
      rw [Transfer.run]
      split
      · next more => exact subset_run _ _ _ _ (by rwa [more] at member)
      · next ends => rwa [ends] at member
    rw [Nat.add_right_comm]
    by_cases stops : transfer.buffer.free = 0 ∨ transfer.aborted = true
    · exact goesOn (together.stop stops)
    rw [not_or, Bool.not_eq_true] at stops
    obtain ⟨some, running⟩ := stops
    have room := Nat.pos_of_ne_zero some
    -- The faults that come first are steps of the disturbed run alone.
    induction faults generalizing other with
    | nil => exact goesOn (together.step rfl room running unfailingStep)
    | cons fault faults rest =>
      cases fault with
      | none =>
        rw [List.countP_cons_of_neg (by simp)]
        exact goesOn (together.step rfl room running unfailingStep)
      | some error =>
        obtain ⟨next, more, together⟩ := together.fault (together.fetches room running)
        rw [List.countP_cons_of_pos (by simp), run_of_more more]
        exact rest together

end Together

/-- A whole transfer comes to the same result on a disturbed device, as long as it waits for the
faults besides. -/
theorem read_matches {session : Session σ} {other : Session τ} {patience longer : Nat}
    {aborted : Bool} {bytes : Bytes} (disturbed : session.Disturbed disturbance faults other)
    (allows : options.Allows 0 faults)
    (ended : (read options patience session aborted start bytes).2 ≠ .pending)
    (unfailing : options.tolerateErrors = true →
      ∀ event ∈ (read options patience session aborted start bytes).1.events,
        event.isRetryableFailure = false)
    (enough : patience + faults.countP (·.isSome) ≤ longer) :
    (read options longer other aborted start bytes).2 =
        (read options patience session aborted start bytes).2 ∧
      (read options patience session aborted start bytes).1.Matches start
        (read options longer other aborted start bytes).1 := by
  have together : Together disturbance options start faults
      { session, aborted, buffer := .ofBytes bytes }
      { session := other, aborted, buffer := .ofBytes bytes } :=
    ⟨⟨rfl, rfl, rfl, by simp⟩, rfl, rfl, by simp, allows, fun _ => disturbed.abreast _⟩
  obtain ⟨result, ends⟩ := together.run (steps options patience bytes.size) ended unfailing
  obtain ⟨more, rfl⟩ := Nat.exists_eq_add_of_le enough
  have longer : steps options (patience + faults.countP (·.isSome) + more) bytes.size =
      steps options patience bytes.size + faults.countP (·.isSome) + more := by
    simp only [steps]
    omega
  have stays := run_add more (result ▸ ended)
  rw [← longer] at stays
  rw [← stays] at result ends
  exact ⟨result, ends⟩

end Transfer

end StorageMedia
