import StorageMedia.Error
import StorageMedia.Event

/-! # Outcomes of operations

An operation on some state answers with a result, leaves a new state and reports its events. A
device may interrupt reads for ever; a call that was watched through more interruptions than its
patience allows has no answer yet and is pending. `Outcome.andThen` runs a second operation on what
the first one left, unless the first one failed.
-/

namespace StorageMedia

/-- Answer of an operation. -/
inductive Result (α : Type)
  | ok (value : α)
  | error (cause : Error)
  /-- The operation has not returned. -/
  | pending
deriving DecidableEq, Repr

namespace Result

variable {α β : Type}

def map (f : α → β) : Result α → Result β
  | ok value => ok (f value)
  | error cause => error cause
  | pending => pending

end Result

/-- Result, final state and events of an operation that runs on `S` over a device of type `σ`. -/
structure Outcome (σ S α : Type) where
  result : Result α
  state : S
  events : List (Event σ) := []

namespace Outcome

variable {σ S T α β : Type}

def map (f : α → β) (outcome : Outcome σ S α) : Outcome σ S β :=
  { outcome with result := outcome.result.map f }

/-- Look at the final state as part of a larger state. -/
def mapState (f : S → T) (outcome : Outcome σ S α) : Outcome σ T α :=
  { outcome with state := f outcome.state }

/-- Run an operation on what a successful one left; a failure ends the sequence. -/
def andThen (outcome : Outcome σ S α) (rest : α → S → Outcome σ S β) : Outcome σ S β :=
  match outcome.result with
  | .ok value =>
    let final := rest value outcome.state
    { final with events := outcome.events ++ final.events }
  | .error cause => { result := .error cause, state := outcome.state, events := outcome.events }
  | .pending => { result := .pending, state := outcome.state, events := outcome.events }

/-- Refuse an operation: nothing changes and nothing happens. -/
def refuse (cause : Error) (state : S) : Outcome σ S α := { result := .error cause, state }

/-- Answer without doing anything. -/
def answer (value : α) (state : S) : Outcome σ S α := { result := .ok value, state }

@[simp] theorem map_state (f : α → β) (outcome : Outcome σ S α) :
    (outcome.map f).state = outcome.state := rfl

@[simp] theorem map_events (f : α → β) (outcome : Outcome σ S α) :
    (outcome.map f).events = outcome.events := rfl

@[simp] theorem andThen_refuse (cause : Error) (state : S) (rest : α → S → Outcome σ S β) :
    (refuse cause state : Outcome σ S α).andThen rest = refuse cause state := rfl

@[simp] theorem andThen_answer (value : α) (state : S) (rest : α → S → Outcome σ S β) :
    (answer value state : Outcome σ S α).andThen rest = rest value state := rfl

/-- After a success the second operation runs on what the first one left. -/
theorem andThen_of_ok {outcome : Outcome σ S α} {value : α} (succeeded : outcome.result = .ok value)
    (rest : α → S → Outcome σ S β) :
    outcome.andThen rest =
      { rest value outcome.state with
        events := outcome.events ++ (rest value outcome.state).events } := by
  simp only [andThen, succeeded]

/-- A sequence succeeds through a success of its first operation. -/
theorem ok_of_andThen {outcome : Outcome σ S α} {rest : α → S → Outcome σ S β} {final : β}
    (succeeded : (outcome.andThen rest).result = .ok final) :
    ∃ value, outcome.result = .ok value ∧ (rest value outcome.state).result = .ok final := by
  simp only [andThen] at succeeded
  split at succeeded
  · next value first => exact ⟨value, first, succeeded⟩
  · simp at succeeded
  · simp at succeeded

/-- A success with another value comes from a success. -/
theorem ok_of_map {f : α → β} {outcome : Outcome σ S α} {final : β}
    (succeeded : (outcome.map f).result = .ok final) :
    ∃ value, outcome.result = .ok value ∧ f value = final := by
  simp only [map] at succeeded
  cases first : outcome.result <;> simp_all [Result.map]

/-- What the first operation leaves and the second one keeps holds at the end of a sequence. -/
theorem andThen_state_of {Holds : S → Prop} {outcome : Outcome σ S α}
    (first : Holds outcome.state) {rest : α → S → Outcome σ S β}
    (second : ∀ value, Holds (rest value outcome.state).state) :
    Holds (outcome.andThen rest).state := by
  simp only [andThen]
  split
  · exact second _
  · exact first
  · exact first

/-- A sequence begins with the events of its first operation. -/
theorem events_andThen_begin (outcome : Outcome σ S α) (rest : α → S → Outcome σ S β) :
    outcome.events <+: (outcome.andThen rest).events := by
  simp only [andThen]
  split
  · exact List.prefix_append _ _
  · exact List.prefix_rfl
  · exact List.prefix_rfl

/-- What holds of the events of both operations holds of all events of a sequence. -/
theorem andThen_events_of {Holds : Event σ → Prop} {outcome : Outcome σ S α}
    (first : ∀ event ∈ outcome.events, Holds event) {rest : α → S → Outcome σ S β}
    (second : ∀ value, ∀ event ∈ (rest value outcome.state).events, Holds event) :
    ∀ event ∈ (outcome.andThen rest).events, Holds event := by
  simp only [andThen]
  split
  · intro event member
    rcases List.mem_append.mp member with before | after
    · exact first event before
    · exact second _ event after
  · exact first
  · exact first

end Outcome

end StorageMedia
