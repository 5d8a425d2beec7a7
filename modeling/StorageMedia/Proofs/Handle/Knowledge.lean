import StorageMedia.Proofs.Handle.Runs
import StorageMedia.Proofs.Transfer.Bounds

/-! # What a session knows

A session finds out about three topics by asking its device: the geometry of the media, its
identification and the contents of the disc. Each topic is asked for when it is first needed. Once a
fact is known it is kept until the session ends, and the device, which might answer otherwise by
then, is not asked for it again; a question that failed leaves the topic open.
-/

namespace StorageMedia

variable {σ : Type}

/-- What is known once a topic is found out. -/
abbrev Topic.Fact : Topic → Type
  | geometry => Geometry
  | information => MediaInformation
  | contents => TableOfContents

def Topic.question : Topic → Query
  | geometry => .mediaSize
  | information => .mediaInformation
  | contents => .tableOfContents

def Event.Asks (topic : Topic) : Event σ → Prop
  | .query _ asked => asked.topic = topic
  | _ => False

/-- Events about a topic ask nothing about another one. -/
theorem Event.IsAbout.eq_of_asks {event : Event σ} {topic other : Topic}
    (about : event.IsAbout topic) (asks : event.Asks other) : other = topic := by
  cases event with
  | query => exact asks.symm.trans about
  | seek | read | notice => exact asks.elim

/-- A transfer asks nothing. -/
theorem Event.Pursues.unasked {event : Event σ} {start stop : Nat}
    (pursues : event.Pursues start stop) (topic : Topic) : ¬ event.Asks topic := by
  cases event with
  | query => exact pursues.elim
  | seek | read | notice => exact id

namespace Session

def known : (topic : Topic) → Session σ → Option topic.Fact
  | .geometry, session => session.knownGeometry
  | .information, session => session.knownInformation
  | .contents, session => session.knownContents

def find [Device σ] : (topic : Topic) → Session σ → Outcome σ (Session σ) topic.Fact
  | .geometry, session => session.geometry
  | .information, session => session.mediaInformation
  | .contents, session => session.tableOfContents

theorem known_of_knowledge {session other : Session σ} (same : session.knowledge = other.knowledge)
    (topic : Topic) : session.known topic = other.known topic := by
  simp only [knowledge, Prod.mk.injEq] at same
  obtain ⟨_, geometry, information, contents⟩ := same
  cases topic with
  | geometry => exact geometry
  | information => exact information
  | contents => exact contents

variable [Device σ] {topic : Topic} {session : Session σ}

/-- A known fact is the answer, and nothing happens. -/
theorem find_of_known {fact : topic.Fact} (known : session.known topic = some fact) :
    session.find topic = .answer fact session := by
  cases topic with
  | geometry => exact geometry_of_known known
  | information => exact mediaInformation_of_known known
  | contents => exact tableOfContents_of_known known

/-- What comes of asking the device about a topic. -/
structure Asked (topic : Topic) (session : Session σ)
    (found : Outcome σ (Session σ) topic.Fact) : Prop where
  begins : [.query session.device topic.question] <+: found.events
  about : ∀ event ∈ found.events, event.IsAbout topic
  learns : ∀ fact, found.result = .ok fact → found.state.known topic = some fact
  fails : ∀ cause, found.result = .error cause → found.state.known topic = none
  others : ∀ other, other ≠ topic → found.state.known other = session.known other
  returns : found.result ≠ .pending

/-- What is not known is asked for. It is known if the answer is one, and it is unknown again
otherwise. -/
theorem find_of_unknown (unknown : session.known topic = none) :
    Asked topic session (session.find topic) := by
  cases topic with
  | geometry =>
    simp only [known] at unknown
    constructor
    case learns => exact fun fact found => knownGeometry_of_geometry_ok found
    case returns => exact geometry_ne_pending session
    all_goals simp only [find, geometry, unknown]
    case begins => exact resolveGeometry_begins session.device
    case about => exact resolveGeometry_isAbout session.device
    case fails =>
      intro cause failed
      simp only [known, failed]
    case others => rintro (_ | _ | _) different <;> first | rfl | exact absurd rfl different
  | information | contents =>
    simp only [known] at unknown
    simp only [find, mediaInformation, tableOfContents, unknown]
    split
    · constructor
      case begins => exact List.prefix_append _ _
      case about => simp [Event.IsAbout, Query.topic, Notice.isOfTransfer]
      case learns =>
        rintro fact ⟨⟩
        rfl
      case fails => rintro cause ⟨⟩
      case others => rintro (_ | _ | _) different <;> first | rfl | exact absurd rfl different
      case returns => rintro ⟨⟩
    · constructor
      case begins => exact List.prefix_append _ _
      case about => simp [Event.IsAbout, Query.topic]
      case learns => rintro fact ⟨⟩
      case fails => exact fun _ _ => rfl
      case others => rintro (_ | _ | _) different <;> first | rfl | exact absurd rfl different
      case returns => rintro ⟨⟩

theorem find_returns (topic : Topic) (session : Session σ) :
    (session.find topic).result ≠ .pending := by
  cases known : session.known topic with
  | some fact =>
    rw [find_of_known known]
    rintro ⟨⟩
  | none => exact (find_of_unknown known).returns

/-- What is found out is known. -/
theorem known_of_found (topic : Topic) {fact : topic.Fact}
    (found : (session.find topic).result = .ok fact) :
    (session.find topic).state.known topic = some fact := by
  cases known : session.known topic with
  | some fact =>
    rw [find_of_known known] at found ⊢
    cases found
    exact known
  | none => exact (find_of_unknown known).learns fact found

/-- What is not found out was not known and is not known. -/
theorem unknown_of_failed (topic : Topic) {cause : Error}
    (failed : (session.find topic).result = .error cause) :
    session.known topic = none ∧ (session.find topic).state.known topic = none := by
  cases known : session.known topic with
  | some fact =>
    rw [find_of_known known] at failed
    cases failed
  | none => exact ⟨rfl, (find_of_unknown known).fails cause failed⟩

theorem find_about (topic : Topic) (session : Session σ) :
    ∀ event ∈ (session.find topic).events, event.IsAbout topic := by
  cases known : session.known topic with
  | some fact => simp [find_of_known known, Outcome.answer]
  | none => exact (find_of_unknown known).about

/-- A session that finds something out keeps what it knows of other topics. -/
theorem known_find_other {other : Topic} (different : topic ≠ other) :
    (session.find other).state.known topic = session.known topic := by
  cases known : session.known other with
  | some fact => rw [find_of_known known]; rfl
  | none => exact (find_of_unknown known).others topic different

end Session

namespace Handle

/-- The fact that the session of a handle keeps about a topic. -/
def known (topic : Topic) (handle : Handle σ) : Option topic.Fact :=
  handle.session.bind (·.known topic)

theorem known_of_session {topic : Topic} {handle : Handle σ} {session : Session σ}
    (opened : handle.session = some session) : handle.known topic = session.known topic := by
  simp [known, opened]

theorem session_afterTransfer (handle : Handle σ) (transfer : Transfer σ) (result : Result Nat) :
    (handle.afterTransfer transfer result).session = some transfer.session := by
  simp only [afterTransfer]
  split <;> rfl

/-- A transfer learns nothing and forgets nothing. -/
theorem known_transferred [Device σ] (topic : Topic) (handle : Handle σ) (options : Options)
    (patience : Nat) (session : Session σ) (aborted : Bool) (start : Nat) (bytes : Bytes)
    (result : Result Nat) :
    (handle.afterTransfer (Transfer.read options patience session aborted start bytes).1
      result).known topic = session.known topic := by
  rw [known_of_session (session_afterTransfer ..)]
  exact Session.known_of_knowledge (Transfer.knowledge_read ..) topic

/-- The session of a handle knows a fact after events in which its topic was not asked about. -/
structure Keeps (topic : Topic) (fact : topic.Fact) (events : List (Event σ)) (after : Handle σ) :
    Prop where
  known : after.known topic = some fact
  unasked : ∀ event ∈ events, ¬ event.Asks topic

variable [Device σ] {patience : Nat} {handle after : Handle σ} {events : List (Event σ)}
  {topic : Topic} {fact : topic.Fact}

private theorem keeps_found {session : Session σ} (opened : handle.session = some session)
    (known : handle.known topic = some fact) (other : Topic) :
    Keeps topic fact (session.find other).events (handle.resume (session.find other)) := by
  rw [known_of_session opened] at known
  by_cases same : topic = other
  · subst same
    rw [Session.find_of_known known]
    exact ⟨known, by simp [Outcome.answer]⟩
  · refine ⟨(Session.known_find_other same).trans known, fun event member asks => same ?_⟩
    exact (session.find_about other event member).eq_of_asks asks

theorem Step.keeps (step : Step patience handle events after)
    (known : handle.known topic = some fact) : Keeps topic fact events after := by
  cases step with
  | move => exact ⟨known, by simp⟩
  | measure opened => exact keeps_found opened known .geometry
  | identify opened => exact keeps_found opened known .information
  | survey opened => exact keeps_found opened known .contents
  | @transfer session geometry bytes opened =>
    constructor
    case known => rw [known_transferred, ← known_of_session opened, known]
    case unasked =>
      intro event member
      have confined := Transfer.read_confined handle.options patience session handle.aborted
        handle.cursor bytes
      exact (confined.events event (List.mem_reverse.mp member)).unasked topic

theorem Steps.keeps (steps : Steps patience handle events after)
    (known : handle.known topic = some fact) : Keeps topic fact events after := by
  induction steps with
  | nil => exact ⟨known, by simp⟩
  | cons step _ ih =>
    have first := step.keeps known
    have rest := ih first.known
    refine ⟨rest.known, fun event member => ?_⟩
    rcases List.mem_append.mp member with early | late
    · exact first.unasked event early
    · exact rest.unasked event late

end Handle

namespace Operation

variable [Device σ] {host : Host σ} {patience : Nat} {handle after : Handle σ}
  {history : List (Call σ)} {topic : Topic} {fact : topic.Fact}

open Handle

/-- As long as a session lasts it keeps what it knows and does not ask for it. -/
theorem apply_keeps {operation : Operation σ} (known : handle.known topic = some fact)
    (stays : (operation.apply host patience handle).outcome.state.isOpen = true) :
    Keeps topic fact (operation.apply host patience handle).outcome.events
      (operation.apply host patience handle).outcome.state := by
  have effect := apply_effect host patience handle operation
  generalize (operation.apply host patience handle).outcome.events = events at effect ⊢
  generalize (operation.apply host patience handle).outcome.state = after at effect stays ⊢
  cases effect with
  | works steps => exact steps.keeps known
  | opens closed => simp [Handle.known, closed] at known
  | closes => simp [Handle.isOpen] at stays
  | configures | signals => exact ⟨known, by simp⟩

/-- A run in one session: no call of it leaves the handle closed. -/
def InOneSession (host : Host σ) (patience : Nat) (history : List (Call σ)) : Prop :=
  ∀ call ∈ history, (call.response host patience).outcome.state.isOpen = true

/-- What is known before a run in one session is known after it and is not asked for during it. -/
theorem Runs.keeps (runs : Runs host patience handle history after)
    (lasts : InOneSession host patience history) (known : handle.known topic = some fact) :
    after.known topic = some fact ∧
      ∀ call ∈ history, Keeps topic fact (call.response host patience).outcome.events
        (call.response host patience).outcome.state := by
  induction runs with
  | nil => exact ⟨known, by simp⟩
  | @cons handle _ _ operation _ _ ih =>
    have first : Keeps topic fact _ _ :=
      apply_keeps known (lasts ⟨handle, operation⟩ (List.mem_cons_self ..))
    obtain ⟨last, rest⟩ :=
      ih (fun call member => lasts call (List.mem_cons_of_mem _ member)) first.known
    refine ⟨last, fun call member => ?_⟩
    rcases List.mem_cons.mp member with rfl | later
    · exact first
    · exact rest call later

end Operation

end StorageMedia
