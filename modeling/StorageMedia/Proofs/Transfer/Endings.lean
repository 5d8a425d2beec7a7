import StorageMedia.Proofs.Transfer.Measure
import StorageMedia.Proofs.Transfer.Retries

/-! # How a transfer ends

A transfer that does not end within its steps was interrupted more often than it waits for: every
other step that goes on uses up one of the tries that its missing bytes have. A transfer that
succeeds has filled its buffer unless the device reported the end of its data. Waiting for more
interruptions does not change how a transfer ends.
-/

namespace StorageMedia

variable {σ : Type}

namespace Event

def isInterruption : Event σ → Bool
  | read _ _ _ (.error error) => error.isInterrupted
  | _ => false

def reportsEnd : Event σ → Bool
  | read _ _ _ (.ok count) => count == 0
  | _ => false

def interruptions (events : List (Event σ)) : Nat := events.countP isInterruption

@[simp] theorem interruptions_append (events others : List (Event σ)) :
    interruptions (events ++ others) = interruptions events + interruptions others :=
  List.countP_append

@[simp] theorem interruptions_reverse (events : List (Event σ)) :
    interruptions events.reverse = interruptions events :=
  List.countP_reverse

theorem interruptions_of_quiet {events : List (Event σ)}
    (quiet : ∀ event ∈ events, event.isInterruption = false) : interruptions events = 0 :=
  List.countP_eq_zero.mpr fun event member => by simp [quiet event member]

end Event

namespace Transfer

open Event

variable [Device σ] {options : Options} {start stop : Nat} {transfer : Transfer σ}

omit [Device σ] in
private theorem events_tolerate (options : Options) (start : Nat) (transfer : Transfer σ)
    (error : IoError) :
    attempts (transfer.tolerate options start error).events = attempts transfer.events ∧
      interruptions (transfer.tolerate options start error).events =
        interruptions transfer.events := by
  rcases tolerate_cases options start transfer error with ⟨_, same⟩ | ⟨_, same⟩ <;> rw [same] <;>
    exact ⟨rfl, rfl⟩

private theorem interruptions_fetched {outcome : Except IoError Nat}
    (fetches : transfer.Fetches start outcome) :
    interruptions (transfer.fetched start).events = interruptions transfer.events +
      (Event.read transfer.session.device 0 0 outcome).isInterruption.toNat := by
  have none : interruptions
      (transfer.session.moveTo (start + transfer.buffer.done)).events.reverse = 0 := by
    refine interruptions_of_quiet fun event member => ?_
    obtain rfl := Session.eq_seek_of_mem_moveTo (List.mem_reverse.mp member)
    rfl
  rw [fetches.events_fetched, interruptions, List.countP_cons, ← interruptions, brought,
    interruptions_append, none, Nat.zero_add]
  cases outcome with
  | ok count => rfl
  | error error => cases interrupted : error.isInterrupted <;> simp [isInterruption, interrupted]

private theorem events_interrupted {error : IoError}
    (fetches : transfer.Fetches start (.error error)) (interrupted : error.isInterrupted = true) :
    attempts (transfer.fetched start).events = attempts transfer.events ∧
      interruptions (transfer.fetched start).events = interruptions transfer.events + 1 := by
  obtain ⟨_, rfl, attempted, _⟩ := Tries.fetched_attempts fetches
  constructor
  · simpa [attempt?, interrupted] using attempted
  · rw [interruptions_fetched fetches, isInterruption, interrupted, Bool.toNat_true]

private theorem events_tried {outcome : Except IoError Nat}
    (fetches : transfer.Fetches start outcome)
    (counted : ∀ error, outcome = .error error → error.isInterrupted = false) :
    (∃ attempt, attempts (transfer.fetched start).events = attempt :: attempts transfer.events) ∧
      interruptions (transfer.fetched start).events = interruptions transfer.events := by
  obtain ⟨_, rfl, attempted, _⟩ := Tries.fetched_attempts fetches
  have interruptions := interruptions_fetched fetches
  cases outcome with
  | ok count => exact ⟨⟨_, attempted⟩, interruptions⟩
  | error error =>
    have counted := counted error rfl
    simp only [attempt?, isInterruption, counted, Bool.false_eq_true, if_false]
      at attempted interruptions
    exact ⟨⟨_, attempted⟩, interruptions⟩

/-- What a step of a transfer uses up: nothing if its device read is interrupted, and else, as long
as the transfer goes on, some of what is left to it. -/
inductive Spends (options : Options) (start : Nat) (transfer : Transfer σ) :
    TransferStep σ → Prop
  | interrupted {next : Transfer σ} {error : IoError}
      (fetches : transfer.Fetches start (.error error)) (interrupted : error.isInterrupted = true)
      (attempted : attempts next.events = attempts transfer.events)
      (waited : interruptions next.events = interruptions transfer.events + 1)
      (still : next.remaining options = transfer.remaining options) :
      Spends options start transfer (.more next)
  | tried {next : Transfer σ} {attempt : Attempt} (room : 0 < transfer.buffer.free)
      (attempted : attempts next.events = attempt :: attempts transfer.events)
      (waited : interruptions next.events = interruptions transfer.events)
      (nearer : Prod.Lex (· < ·) (· < ·) (next.remaining options) (transfer.remaining options)) :
      Spends options start transfer (.more next)
  | ended {final : Transfer σ} {result : Result Nat} (decided : result ≠ .pending)
      (attempted : attempts final.events = attempts transfer.events ∨
        0 < transfer.buffer.free ∧
          ∃ attempt, attempts final.events = attempt :: attempts transfer.events) :
      Spends options start transfer (.ended final result)

/-- A transfer whose buffer is for the offsets from `start` to `stop` and whose next byte has a try
left. -/
structure Budgeted (options : Options) (start stop : Nat) (transfer : Transfer σ) : Prop where
  spans : transfer.Spans start stop
  left : transfer.failures ≤ options.errorRetries.toNat

namespace Budgeted

omit [Device σ] in
theorem begins (options : Options) (session : Session σ) (aborted : Bool) (start : Nat)
    (bytes : Bytes) :
    Budgeted options start (start + bytes.size) { session, aborted, buffer := .ofBytes bytes } where
  spans := rfl
  left := Nat.zero_le _

/-- A step leaves its next byte a try. -/
theorem step (budgeted : transfer.Budgeted options start stop) (fits : stop ≤ maxOffset) :
    (transfer.step options start).transfer.Budgeted options start stop := by
  refine ⟨budgeted.spans.step, ?_⟩
  have left := budgeted.left
  have cases := step_stepsTo options start transfer
  generalize transfer.step options start = outcome at cases ⊢
  cases cases with
  | @tolerated error fetches =>
    have lost : (transfer.fetched start).loseTrack.Spans start stop := budgeted.spans
    exact (remaining_tolerate options fits lost fetches.room error).2
  | full | aborted | astray | drained | overrun | kept | interrupted | failed => exact left

theorem step_more (budgeted : transfer.Budgeted options start stop) (fits : stop ≤ maxOffset)
    {next : Transfer σ} (more : transfer.step options start = .more next) :
    next.Budgeted options start stop := by
  have onward := budgeted.step fits
  rw [more] at onward
  exact onward

/-- A step spends what it uses up. -/
theorem step_spends (budgeted : transfer.Budgeted options start stop) (fits : stop ≤ maxOffset) :
    Spends options start transfer (transfer.step options start) := by
  have cases := step_stepsTo options start transfer
  generalize transfer.step options start = outcome at cases ⊢
  cases cases with
  | full => exact .ended (by rintro ⟨⟩) (.inl rfl)
  | aborted => exact .ended (by rintro ⟨⟩) (.inl rfl)
  | astray =>
    exact .ended (by rintro ⟨⟩)
      (.inl (attempts_append_of_asides _ (Tries.asides transfer start)).1)
  | drained fetches =>
    exact .ended (by rintro ⟨⟩) (.inr ⟨fetches.room, (events_tried fetches (by simp)).1⟩)
  | overrun fetches =>
    exact .ended (by rintro ⟨⟩) (.inr ⟨fetches.room, (events_tried fetches (by simp)).1⟩)
  | failed fetches counted =>
    exact .ended (by rintro ⟨⟩)
      (.inr ⟨fetches.room, (events_tried fetches (by simpa using counted)).1⟩)
  | kept fetches positive =>
    obtain ⟨⟨_, attempted⟩, waited⟩ := events_tried fetches (by simp)
    exact .tried fetches.room attempted waited (remaining_keep fetches positive)
  | interrupted fetches interrupted =>
    obtain ⟨attempted, waited⟩ := events_interrupted fetches interrupted
    exact .interrupted fetches interrupted attempted waited rfl
  | @tolerated error fetches counted =>
    obtain ⟨⟨_, attempted⟩, waited⟩ := events_tried fetches (by simpa using counted)
    obtain ⟨same, quiet⟩ :=
      events_tolerate options start (transfer.fetched start).loseTrack error
    have lost : (transfer.fetched start).loseTrack.Spans start stop := budgeted.spans
    exact .tried fetches.room (same.trans attempted) (quiet.trans waited)
      (remaining_tolerate options fits lost fetches.room error).1

private theorem run_pending (fits : stop ≤ maxOffset) {count : Nat} {transfer : Transfer σ}
    (budgeted : transfer.Budgeted options start stop)
    (pending : (transfer.run options start count).2 = .pending) :
    count + interruptions transfer.events ≤ transfer.triesLeft options +
      interruptions (transfer.run options start count).1.events := by
  induction count generalizing transfer with
  | zero =>
    simp only [Transfer.run]
    omega
  | succ count ih =>
    rw [Transfer.run] at pending ⊢
    have spends := budgeted.step_spends fits
    cases step : transfer.step options start with
    | more next =>
      simp only [step] at spends pending ⊢
      have onward := budgeted.step_more fits step
      have rest := ih onward pending
      cases spends with
      | interrupted _ _ _ waited still =>
        have same := triesLeft_of_remaining budgeted.left onward.left still
        omega
      | tried room _ waited nearer =>
        have fewer := triesLeft_lt room budgeted.left nearer
        omega
    | ended final result =>
      simp only [step] at spends pending
      cases spends with
      | ended decided => exact absurd pending decided

end Budgeted

/-- A transfer that does not come to an end was interrupted more often than it waits for. -/
theorem patience_lt_of_pending {patience : Nat} {session : Session σ} {aborted : Bool}
    {bytes : Bytes} (fits : start + bytes.size ≤ maxOffset)
    (pending : (read options patience session aborted start bytes).2 = .pending) :
    patience < interruptions (read options patience session aborted start bytes).1.events := by
  have spent := (Budgeted.begins options session aborted start bytes).run_pending fits pending
  have all : steps options patience bytes.size =
    bytes.size * (options.errorRetries.toNat + 1) + patience + 1 := rfl
  have none : interruptions ([] : List (Event σ)) = 0 := rfl
  have whole : ({ session, aborted, buffer := .ofBytes bytes } : Transfer σ).triesLeft options =
    bytes.size * (options.errorRetries.toNat + 1) := by simp [triesLeft, Buffer.ofBytes]
  rw [whole] at spent
  rw [read]
  omega

/-- Waiting for more interruptions does not change how a transfer ends. -/
theorem read_add {patience : Nat} {session : Session σ} {aborted : Bool} {bytes : Bytes}
    (ended : (read options patience session aborted start bytes).2 ≠ .pending) (more : Nat) :
    read options (patience + more) session aborted start bytes =
      read options patience session aborted start bytes := by
  rw [read, show steps options (patience + more) bytes.size =
    steps options patience bytes.size + more by simp only [steps]; omega]
  exact run_add more ended

private theorem run_ok {count filled : Nat} {transfer : Transfer σ}
    (succeeded : (transfer.run options start count).2 = .ok filled) :
    (transfer.run options start count).1.buffer.free = 0 ∨
      ∃ event ∈ (transfer.run options start count).1.events, event.reportsEnd = true := by
  induction count generalizing transfer with
  | zero => simp [run] at succeeded
  | succ count ih =>
    have cases := step_stepsTo options start transfer
    rw [run] at succeeded ⊢
    generalize transfer.step options start = outcome at cases succeeded ⊢
    cases cases with
    | full full => exact .inl full
    | drained fetches =>
      refine .inr ⟨.read (transfer.brought start).session.device (start + transfer.buffer.done)
        transfer.buffer.free (.ok 0), ?_, rfl⟩
      rw [fetches.events_fetched]
      exact List.mem_cons_self
    | aborted => simp at succeeded
    | astray => simp at succeeded
    | overrun => simp at succeeded
    | failed => simp at succeeded
    | kept => exact ih succeeded
    | interrupted => exact ih succeeded
    | tolerated => exact ih succeeded

/-- A transfer that succeeds with fewer bytes than it was to read found the end of the data. -/
theorem read_short {patience : Nat} {session : Session σ} {aborted : Bool} {bytes : Bytes}
    {count : Nat} (succeeded : (read options patience session aborted start bytes).2 = .ok count)
    (short : count ≠ bytes.size) :
    ∃ event ∈ (read options patience session aborted start bytes).1.events,
      event.reportsEnd = true := by
  have done := (read_done succeeded).1
  have spans := (read_confined options patience session aborted start bytes).spans
  simp only [Spans] at spans
  rcases run_ok succeeded with full | ends
  · rw [← read] at full
    omega
  · exact ends

end Transfer

end StorageMedia
