import StorageMedia.Proofs.Device.Tolerable
import StorageMedia.Proofs.Transfer.Blocks
import StorageMedia.Proofs.Transfer.Retries

/-! # Failures that end a transfer

A failed read is rejected when the options tolerate no failures, or when the device says that it is
gone, refuses reads or cannot seek, which no option tolerates. A rejected read is the last thing
that happens in its transfer, and its error is what the transfer comes to, whatever was read, tried
again or given up before. Without tolerance a transfer gives up nothing.
-/

namespace StorageMedia

variable {σ : Type}

/-- A read that failed with the error ends its transfer. Interrupted reads do not. -/
def Options.Rejects (options : Options) (error : IoError) : Prop :=
  (options.tolerateErrors = false ∧ error.isInterrupted = false) ∨ error.IsFinal

theorem IoError.IsFinal.not_interrupted {error : IoError} (final : error.IsFinal) :
    error.isInterrupted = false := by
  simp only [IsFinal, List.mem_cons, List.not_mem_nil, or_false] at final
  rcases final with rfl | rfl | rfl | rfl <;> rfl

/-- What is rejected is neither tried again as interrupted nor as worth a retry. -/
theorem Options.rejects_iff {options : Options} {error : IoError} :
    options.Rejects error ↔
      error.isInterrupted = false ∧ (options.tolerateErrors && error.isRetryable) = false := by
  have final : error.IsFinal ↔ error.isRetryable = false := by
    rw [← Bool.not_eq_true, IoError.isRetryable_iff, Classical.not_not]
  rw [Rejects, Bool.and_eq_false_iff, ← final]
  constructor
  · rintro (⟨strict, counted⟩ | gone)
    · exact ⟨counted, .inl strict⟩
    · exact ⟨gone.not_interrupted, .inr gone⟩
  · rintro ⟨counted, strict | gone⟩
    · exact .inl ⟨strict, counted⟩
    · exact .inr gone

/-- A device read failed with an error that the options reject. -/
def Event.IsRejected (options : Options) : Event σ → Prop
  | read _ _ _ (.error error) => options.Rejects error
  | _ => False

namespace Transfer

/-- Rejected reads among the events of a transfer, last first: there are none, or there is one,
which is the last event of all and of which the error is the result. -/
inductive EndsRejected (options : Options) : List (Event σ) → Result Nat → Prop
  | none {events : List (Event σ)} (clear : ∀ event ∈ events, ¬ event.IsRejected options)
      (result : Result Nat) : EndsRejected options events result
  | last {earlier : List (Event σ)} {error : IoError} (device : σ) (offset capacity : Nat)
      (clear : ∀ event ∈ earlier, ¬ event.IsRejected options) (rejects : options.Rejects error) :
      EndsRejected options (.read device offset capacity (.error error) :: earlier)
        (.error (.platform .reading error))

/-- A transfer that has given up nothing. -/
structure IsWhole (transfer : Transfer σ) : Prop where
  skipped : transfer.skipped = {}
  silent : ∀ event ∈ transfer.events, event.isSkip = false

variable [Device σ] {options : Options} {start : Nat} {transfer : Transfer σ}

private theorem clear_brought (clear : ∀ event ∈ transfer.events, ¬ event.IsRejected options) :
    ∀ event ∈ (transfer.brought start).events, ¬ event.IsRejected options :=
  forall_events_brought (fun _ _ => id) clear

private theorem clear_fetched {outcome : Except IoError Nat}
    (clear : ∀ event ∈ transfer.events, ¬ event.IsRejected options)
    (fetches : transfer.Fetches start outcome)
    (allowed : ∀ error, outcome = .error error → ¬ options.Rejects error) :
    ∀ event ∈ (transfer.fetched start).events, ¬ event.IsRejected options := by
  rw [fetches.events_fetched]
  rintro event (_ | ⟨_, before⟩)
  · cases outcome with
    | ok count => exact id
    | error error => exact allowed error rfl
  · exact clear_brought clear event before

omit [Device σ] in
private theorem clear_tolerate (clear : ∀ event ∈ transfer.events, ¬ event.IsRejected options)
    (error : IoError) :
    ∀ event ∈ (transfer.tolerate options start error).events, ¬ event.IsRejected options := by
  rcases tolerate_cases options start transfer error with ⟨_, same⟩ | ⟨_, same⟩ <;> rw [same]
  · rintro event (_ | ⟨_, _ | ⟨_, before⟩⟩)
    · exact id
    · exact id
    · exact clear event before
  · rintro event (_ | ⟨_, before⟩)
    · exact id
    · exact clear event before

private theorem step_endsRejected (start : Nat)
    (clear : ∀ event ∈ transfer.events, ¬ event.IsRejected options) :
    match transfer.step options start with
    | .more next => ∀ event ∈ next.events, ¬ event.IsRejected options
    | .ended final result => EndsRejected options final.events result := by
  have cases := step_stepsTo options start transfer
  generalize transfer.step options start = outcome at cases ⊢
  cases cases with
  | full => exact .none clear _
  | aborted =>
    refine .none ?_ _
    rintro event (_ | ⟨_, before⟩)
    · exact id
    · exact clear event before
  | astray => exact .none (clear_brought clear) _
  | drained fetches => exact .none (clear_fetched clear fetches (by rintro _ ⟨⟩)) _
  | overrun fetches => exact .none (clear_fetched clear fetches (by rintro _ ⟨⟩)) _
  | kept fetches => exact clear_fetched clear fetches (by rintro _ ⟨⟩)
  | interrupted fetches interrupted =>
    refine clear_fetched clear fetches ?_
    rintro _ ⟨⟩ rejects
    have counted := (Options.rejects_iff.mp rejects).1
    simp [interrupted] at counted
  | tolerated fetches _ tolerant retryable =>
    have lost : ∀ event ∈ (transfer.fetched start).loseTrack.events,
        ¬ event.IsRejected options := by
      refine clear_fetched clear fetches ?_
      rintro _ ⟨⟩ rejects
      have fatal := (Options.rejects_iff.mp rejects).2
      simp [tolerant, retryable] at fatal
    exact clear_tolerate lost _
  | failed fetches counted fatal =>
    simp only [loseTrack, fetches.events_fetched]
    exact .last _ _ _ (clear_brought clear) (Options.rejects_iff.mpr ⟨counted, fatal⟩)

private theorem run_endsRejected (count : Nat) {transfer : Transfer σ}
    (clear : ∀ event ∈ transfer.events, ¬ event.IsRejected options) :
    EndsRejected options (transfer.run options start count).1.events
      (transfer.run options start count).2 := by
  induction count generalizing transfer with
  | zero => exact .none clear _
  | succ count ih =>
    have ends := step_endsRejected start clear
    rw [run]
    split
    · next more =>
      rw [more] at ends
      exact ih ends
    · next ended =>
      rw [ended] at ends
      exact ends

theorem read_endsRejected (options : Options) (patience : Nat) (session : Session σ)
    (aborted : Bool) (start : Nat) (bytes : Bytes) :
    EndsRejected options (read options patience session aborted start bytes).1.events
      (read options patience session aborted start bytes).2 :=
  run_endsRejected _ (by simp)

namespace IsWhole

private theorem fetched (whole : transfer.IsWhole) : (transfer.fetched start).IsWhole := by
  refine ⟨whole.skipped, ?_⟩
  rintro event (_ | ⟨_, member⟩)
  · rfl
  · exact forall_events_brought (fun _ _ => rfl) whole.silent event member

private theorem step (whole : transfer.IsWhole) (strict : options.tolerateErrors = false) :
    (transfer.step options start).transfer.IsWhole := by
  have fetched : (transfer.fetched start).IsWhole := whole.fetched
  have cases := step_stepsTo options start transfer
  generalize transfer.step options start = outcome at cases ⊢
  cases cases with
  | full => exact whole
  | aborted =>
    refine ⟨whole.skipped, ?_⟩
    rintro event (_ | ⟨_, before⟩)
    · rfl
    · exact whole.silent event before
  | astray =>
    exact ⟨whole.skipped, fun event member => fetched.silent event (List.mem_cons_of_mem _ member)⟩
  | tolerated _ _ tolerant => simp [strict] at tolerant
  | drained | overrun | kept | interrupted | failed => exact ⟨fetched.skipped, fetched.silent⟩

end IsWhole

/-- Without tolerance a transfer gives up nothing. -/
theorem read_isWhole (strict : options.tolerateErrors = false) (patience : Nat)
    (session : Session σ) (aborted : Bool) (start : Nat) (bytes : Bytes) :
    (read options patience session aborted start bytes).1.IsWhole :=
  run_keeps IsWhole (fun _ whole => whole.step strict) _ ⟨rfl, by simp⟩

/-- Without tolerance the buffer of a transfer holds what its device reads left there. -/
theorem bytes_read_of_strict (strict : options.tolerateErrors = false) (patience : Nat)
    (session : Session σ) (aborted : Bool) (start : Nat) (bytes : Bytes)
    (fits : start + bytes.size ≤ maxOffset) (index : Nat) :
    (read options patience session aborted start bytes).1.buffer.bytes.toList[index]? =
      Event.leftAt start bytes
        (read options patience session aborted start bytes).1.events.reverse (start + index) := by
  have whole := read_isWhole strict patience session aborted start bytes
  have spares := read_spares options patience session aborted start bytes fits
  refine spares.untouched index ?_
  rw [whole.skipped]
  exact ErrorRanges.not_covers_empty _

end Transfer

end StorageMedia
