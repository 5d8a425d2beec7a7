import Mathlib.Data.List.Defs
import StorageMedia.Proofs.Handle.Accounting
import StorageMedia.Proofs.Handle.Lifecycle

/-! # A closed handle starts over

A handle that was closed is as good as a new one with its options. What earlier sessions knew, gave
up and read is gone; the only trace that they can leave is an abort signal, and it does not show:
while the handle is closed nothing looks at it, and an opening takes it back. Two runs of the same
operations, one on the closed handle and one on a new handle, therefore answer alike, by induction
along both of them, and from the first session on they are the same.
-/

namespace StorageMedia

variable {σ : Type}

/-- Two handles that are the same, but for the signal while they are closed. -/
inductive Handle.Alike : Handle σ → Handle σ → Prop
  | same (handle : Handle σ) : Alike handle handle
  | closed {handle : Handle σ} (closed : handle.session = none) (signal : Bool) :
      Alike handle { handle with aborted := signal }

/-- Responses that show no difference to a caller and leave handles that are alike. -/
structure Response.Alike (left right : Response σ) : Prop where
  result : left.outcome.result = right.outcome.result
  events : left.outcome.events = right.outcome.events
  buffer : left.buffer = right.buffer
  state : left.outcome.state.Alike right.outcome.state

namespace Handle

variable {handle : Handle σ}

/-- A closed handle at the start that has recorded nothing is like a new one. -/
theorem alike_withOptions (closed : handle.session = none) (start : handle.cursor = 0)
    (clean : handle.errors = {}) : handle.Alike (.withOptions handle.options) := by
  have new : Handle.withOptions handle.options = { handle with aborted := false } := by
    obtain ⟨session, cursor, options, errors, aborted⟩ := handle
    cases closed
    cases start
    cases clean
    rfl
  rw [new]
  exact .closed closed false

end Handle

variable [Device σ] {host : Host σ} {patience : Nat}

namespace Operation

variable {handle left right : Handle σ}

private theorem opening_alike (closed : handle.session = none) (signal : Bool)
    {operation : Operation σ} (opening : operation.isOpening = true) :
    (operation.apply host patience handle).Alike
      (operation.apply host patience { handle with aborted := signal }) := by
  have shut : handle.isOpen = false := by simp [Handle.isOpen, closed]
  have stillShut : ({ handle with aborted := signal } : Handle σ).isOpen = false := shut
  cases operation with
  | openPath path mode =>
    simp only [apply, Handle.openPath, shut, stillShut]
    split
    · exact ⟨rfl, rfl, rfl, .closed closed signal⟩
    split
    · exact ⟨rfl, rfl, rfl, .closed closed signal⟩
    simp only [Bool.false_eq_true, if_false]
    split
    · exact ⟨rfl, rfl, rfl, .closed closed signal⟩
    · exact ⟨rfl, rfl, rfl, .same _⟩
  | openDevice path device =>
    simp only [apply, Handle.openDevice, shut, stillShut]
    split
    · exact ⟨rfl, rfl, rfl, .closed closed signal⟩
    · exact ⟨rfl, rfl, rfl, .same _⟩
  | _ => cases opening

/-- An operation answers alike on handles that are alike. -/
theorem apply_alike (alike : left.Alike right) (operation : Operation σ) :
    (operation.apply host patience left).Alike (operation.apply host patience right) := by
  cases alike with
  | same => exact ⟨rfl, rfl, rfl, .same _⟩
  | closed closed signal =>
    -- The arguments, and whether a session is open, are looked at on both sides alike.
    have arguments : operation.fault? ({ left with aborted := signal } : Handle σ).options =
      operation.fault? left.options := rfl
    cases malformed : operation.fault? left.options with
    | some fault =>
      rw [apply_of_fault malformed, apply_of_fault (arguments.trans malformed)]
      exact ⟨rfl, rfl, rfl, .closed closed signal⟩
    | none =>
      by_cases needs : operation.needsSession = true
      · rw [apply_of_closed malformed needs closed,
          apply_of_closed (arguments.trans malformed) needs closed]
        exact ⟨rfl, rfl, rfl, .closed closed signal⟩
      cases operation with
      | openPath | openDevice => exact opening_alike closed signal rfl
      | isOpen | filename | options | numberOfErrors | errorAt | describe =>
        exact ⟨rfl, rfl, rfl, .closed closed signal⟩
      | setOptions chosen =>
        have still : (left.setOptions chosen).session = none := closed
        exact ⟨rfl, rfl, rfl, .closed still signal⟩
      | signalAbort => exact ⟨rfl, rfl, rfl, .same _⟩
      | streamReadExact bytes =>
        have empty : bytes.size = 0 := by simpa [needsSession] using needs
        simp only [apply, Handle.readExact, Handle.fill, empty, if_true]
        exact ⟨rfl, rfl, rfl, .closed closed signal⟩
      | _ => exact absurd rfl needs

/-- Runs of the same operations on handles that are alike answer alike. -/
theorem run_alike (alike : left.Alike right) (operations : List (Operation σ)) :
    List.Forall₂ Response.Alike (run host patience left operations)
      (run host patience right operations) := by
  induction operations generalizing left right with
  | nil => exact .nil
  | cons operation rest ih =>
    have first : (operation.apply host patience left).Alike (operation.apply host patience right) :=
      apply_alike alike operation
    simp only [run, ← first.result]
    split
    · exact .cons first .nil
    · exact .cons first (ih first.state)

/-- No session leaves anything to a later one. A closed handle stands at the start and has recorded
nothing, whatever its sessions were like, and all operations answer on it and after it as they do on
a new handle with its options. Once both are opened on the same device, whichever way, they do not
even differ in a signal. An opening that fails, at any time, changes nothing. -/
theorem closed_handle_starts_over (reached : Reachable host patience handle) :
    (∀ opening : Operation σ, opening.isOpening = true →
      ¬ opening.Begins (opening.apply host patience handle) →
      (opening.apply host patience handle).outcome.state = handle) ∧
    (handle.isOpen = false →
      (handle.cursor = 0 ∧ handle.errors = {}) ∧
      (∀ operations : List (Operation σ),
        List.Forall₂ Response.Alike (run host patience handle operations)
          (run host patience (.withOptions handle.options) operations)) ∧
      ∀ (opening again : Operation σ) (path : String) (device : σ),
        opening.Opens host path device → again.Opens host path device →
        opening.Begins (opening.apply host patience handle) →
        again.Begins (again.apply host patience (.withOptions handle.options)) →
        ∀ operations,
          run host patience (opening.apply host patience handle).outcome.state operations =
            run host patience
              (again.apply host patience (.withOptions handle.options)).outcome.state operations) := by
  constructor
  · intro opening opens failed
    obtain ⟨_, ⟨begins, _⟩ | ⟨_, same⟩⟩ := apply_opening host patience handle opening opens
    · exact absurd begins failed
    · exact same
  · intro shut
    have closed : handle.session = none := by simpa [Handle.isOpen] using shut
    obtain ⟨start, clean⟩ := reached.closed closed
    refine ⟨⟨start, clean⟩, run_alike (Handle.alike_withOptions closed start clean), ?_⟩
    intro opening again path device opens reopens begins begun operations
    -- An opening looks at nothing of the handle but its options.
    rw [opens.apply_state begins, reopens.apply_state begun]
    rfl

/-- A handle that was closed with a signal raised, after a read around damage. -/
def usedHandle : Handle ScriptedDevice :=
  let session := tolerantHandle.startSession "drive" ScriptedDevice.damaged
  let read := (apply Host.empty 0 session (.readBuffer (.replicate 8 0x77))).outcome.state
  (apply Host.empty 0 (apply Host.empty 0 read .signalAbort).outcome.state .close).outcome.state

/-- A handle with a past is opened and read like a new one. -/
theorem used_starts_over :
    usedHandle.aborted = true ∧ usedHandle.cursor = 0 ∧ usedHandle.errors = {} ∧
      ∀ operations,
        run Host.empty 0 (apply Host.empty 0 usedHandle (.openDevice "drive" .damaged)).outcome.state
            operations =
          run Host.empty 0
            (apply Host.empty 0 tolerantHandle (.openDevice "drive" .damaged)).outcome.state
            operations := by
  have opened : Reachable Host.empty 0 (tolerantHandle.startSession "drive" .damaged) :=
    .step (.openDevice "drive" ScriptedDevice.damaged) (.fresh _) (by rintro ⟨⟩)
  have signalled := (opened.step (.readBuffer (.replicate 8 0x77)) (by rintro ⟨⟩)).step
    .signalAbort (by rintro ⟨⟩)
  have closed : Reachable Host.empty 0 usedHandle := signalled.step .close (by
    simp only [apply, Response.of, Outcome.map, Handle.close]
    split <;> rintro ⟨⟩)
  have shut : usedHandle.isOpen = false := by decide
  have options : usedHandle.options = tolerantHandle.options := by decide
  have opens : (openDevice "drive" ScriptedDevice.damaged).Opens Host.empty "drive" .damaged :=
    .device ..
  have begins : (openDevice "drive" .damaged).Begins
      (apply Host.empty 0 usedHandle (.openDevice "drive" .damaged)) :=
    ⟨rfl, by simp [apply, Response.of, Outcome.map, Handle.openDevice, shut, Result.map]⟩
  obtain ⟨⟨start, clean⟩, _, renewed⟩ := (closed_handle_starts_over closed).2 shut
  rw [options] at renewed
  exact ⟨by decide, start, clean, renewed _ _ _ _ opens opens begins ⟨rfl, rfl⟩⟩

end Operation

end StorageMedia
