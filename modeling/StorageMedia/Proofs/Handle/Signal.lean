import StorageMedia.Proofs.Handle.Causes
import StorageMedia.Proofs.Handle.Openings
import StorageMedia.Proofs.Transfer.Abort

/-! # The abort signal of a handle

Once the signal is raised, by a caller or while the device is called, a handle reads and moves its
device no more, but for the read that follows a seek during which it was raised, and keeps the
signal until it is opened again. Nothing but the signal makes an operation fail as aborted.
-/

namespace StorageMedia

variable {σ : Type} [Device σ]

namespace Handle

variable {patience : Nat} {handle after : Handle σ} {events : List (Event σ)}

omit [Device σ] in
@[simp] theorem aborted_afterTransfer (handle : Handle σ) (transfer : Transfer σ)
    (result : Result Nat) : (handle.afterTransfer transfer result).aborted = transfer.aborted := by
  simp only [afterTransfer]
  split <;> rfl

theorem Step.heedsAbort (step : Step patience handle events after) :
    HeedsAbort handle.aborted after.aborted events := by
  cases step with
  | move => exact .notices _ (by simp)
  | measure => exact heedsAbort_of_inquiries _ (Session.geometry_inquires _)
  | identify => exact heedsAbort_of_inquiries _ (Session.mediaInformation_inquires _)
  | survey => exact heedsAbort_of_inquiries _ (Session.tableOfContents_inquires _)
  | transfer bytes =>
    rw [aborted_afterTransfer]
    exact Transfer.read_heedsAbort ..

theorem Steps.heedsAbort (steps : Steps patience handle events after) :
    HeedsAbort handle.aborted after.aborted events := by
  induction steps with
  | nil => exact .notices _ (by simp)
  | cons step _ ih => exact step.heedsAbort.append ih

/-- A handle that a failure left aborted has its signal raised. -/
theorem FailsAs.raised (fails : FailsAs patience .aborted handle) : handle.aborted = true := by
  cases fails with
  | refused refuses => cases refuses
  | unmeasured _ failed => cases Session.geometry_error failed
  | unidentified _ failed =>
    obtain ⟨_, other⟩ := Session.mediaInformation_error failed
    cases other
  | unsurveyed _ failed =>
    obtain ⟨_, other⟩ := Session.tableOfContents_error failed
    cases other
  | broken runs =>
    rw [aborted_afterTransfer]
    rw [Transfer.read] at runs
    have raised := Transfer.raised_of_run_aborted (by rw [runs])
    rwa [runs] at raised

end Handle

namespace Operation

variable {host : Host σ} {patience : Nat} {handle : Handle σ} {operation : Operation σ}

/-- Opening calls no device. -/
theorem opening_calls_nothing (host : Host σ) (patience : Nat) (handle : Handle σ)
    (opening : operation.isOpening = true) :
    ∀ event ∈ (operation.apply host patience handle).outcome.events, event.isCall = false := by
  intro event member
  obtain ⟨fact, rfl⟩ := (apply_opening host patience handle operation opening).1 event member
  rfl

/-- All operations but a successful opening respect the signal, and of them only the one that raises
it touches it other than by calls of the device. -/
theorem apply_heedsAbort (kept : ¬ operation.Begins (operation.apply host patience handle))
    (plain : operation ≠ .signalAbort) :
    HeedsAbort handle.aborted (operation.apply host patience handle).outcome.state.aborted
      (operation.apply host patience handle).outcome.events := by
  by_cases opening : operation.isOpening = true
  · obtain ⟨_, began | same⟩ := apply_opening host patience handle operation opening
    · exact absurd began.1 kept
    · rw [same.2]
      exact .notices _ (apply_opening host patience handle operation opening).1
  cases operation with
  | openPath | openDevice => exact absurd rfl opening
  | close =>
    cases opened : handle.session with
    | none =>
      simp only [apply, Response.of, Handle.close, opened]
      exact .notices _ (by simp [Outcome.refuse])
    | some session =>
      simp only [apply, Response.of, Handle.close, opened]
      exact .notices _ (by simp)
  | setOptions => exact .notices _ (by simp [apply, Response.look, Outcome.answer])
  | signalAbort => exact absurd rfl plain
  | _ => exact (apply_steps rfl).heedsAbort

end Operation

end StorageMedia
