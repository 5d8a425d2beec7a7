import StorageMedia.Proofs.Device.Inquiry
import StorageMedia.Transfer.Basic

/-! # What a step of a transfer does

A step brings the device to the place of the next byte, reads it once and settles what the read
reported. `Transfer.StepsTo` lists everything that a step can come to, with what was checked on the
way there, so that a property of transfers is proved case by case without opening the step itself.
`Transfer.run_keeps` takes a property that every step keeps to the end of a run.
-/

namespace StorageMedia

/-- The transfer that a step leaves, whether it goes on or has ended. -/
def TransferStep.transfer {σ : Type} : TransferStep σ → Transfer σ
  | more transfer => transfer
  | ended transfer _ => transfer

/-- A device that takes a seek is brought to its offset. -/
theorem Session.moveTo_of_seek {σ : Type} [Device σ] {session : Session σ} {offset answer : Nat}
    (sought : (Device.seek session.device offset).2 = .ok answer) :
    (session.moveTo offset).result = .ok () := by
  simp only [moveTo]
  split
  · rfl
  · rw [sought]

/-- A session brings its device to an offset with a seek, if it calls it at all. -/
theorem Session.eq_seek_of_mem_moveTo {σ : Type} [Device σ] {session : Session σ} {offset : Nat}
    {event : Event σ} (member : event ∈ (session.moveTo offset).events) :
    event = .seek session.device offset := by
  simp only [moveTo] at member
  split at member
  · simp [Outcome.answer] at member
  · split at member <;> exact List.mem_singleton.mp member

namespace Transfer

variable {σ : Type} {options : Options} {start : Nat} {transfer : Transfer σ}

@[simp] theorem position_loseTrack : transfer.loseTrack.session.position = none := rfl

/-- Tolerating a failure either only notes it or gives up a block besides. -/
theorem tolerate_cases (options : Options) (start : Nat) (transfer : Transfer σ) (error : IoError) :
    (options.errorRetries.toNat < transfer.failures + 1 ∧
      transfer.tolerate options start error =
        (({ transfer with failures := transfer.failures + 1 } : Transfer σ).report
          (.readFailed (transfer.failures + 1) (start + transfer.buffer.done) error)).giveUp
            options start) ∨
    (transfer.failures + 1 ≤ options.errorRetries.toNat ∧
      transfer.tolerate options start error =
        ({ transfer with failures := transfer.failures + 1 } : Transfer σ).report
          (.readFailed (transfer.failures + 1) (start + transfer.buffer.done) error)) := by
  by_cases spent : options.errorRetries.toNat < transfer.failures + 1
  · exact .inl ⟨spent, by simp only [tolerate, spent, if_true]⟩
  · exact .inr ⟨by omega, by simp only [tolerate, spent, if_false]⟩

variable [Device σ]

/-- The transfer after its device was told to go to the place of the next byte. -/
def brought (start : Nat) (transfer : Transfer σ) : Transfer σ :=
  { transfer with
    session := (transfer.session.moveTo (start + transfer.buffer.done)).state
    aborted := transfer.aborted ||
      (transfer.session.moveTo (start + transfer.buffer.done)).events.any Event.raises
    events := (transfer.session.moveTo (start + transfer.buffer.done)).events.reverse ++
      transfer.events }

/-- The transfer after the device read of a step. -/
def fetched (start : Nat) (transfer : Transfer σ) : Transfer σ :=
  ((transfer.brought start).readDevice start).1

/-- A step of the transfer gets as far as its device read, which reports an outcome. -/
structure Fetches (start : Nat) (transfer : Transfer σ) (outcome : Except IoError Nat) : Prop where
  /-- Bytes are missing. -/
  room : 0 < transfer.buffer.free
  running : transfer.aborted = false
  arrived : (transfer.session.moveTo (start + transfer.buffer.done)).result = .ok ()
  reported : ((transfer.brought start).readDevice start).2 = outcome

/-- Everything that a step of a transfer can come to. -/
inductive StepsTo (options : Options) (start : Nat) (transfer : Transfer σ) :
    TransferStep σ → Prop
  /-- The buffer was full. -/
  | full (full : transfer.buffer.free = 0) :
      StepsTo options start transfer (.ended transfer (.ok transfer.buffer.done))
  | aborted (room : 0 < transfer.buffer.free) (raised : transfer.aborted = true) :
      StepsTo options start transfer
        (.ended (transfer.report (.aborted (start + transfer.buffer.done))).loseTrack
          (.error .aborted))
  /-- The device did not reach the place of the next byte. -/
  | astray {cause : Error} (room : 0 < transfer.buffer.free) (running : transfer.aborted = false)
      (failed : (transfer.session.moveTo (start + transfer.buffer.done)).result = .error cause) :
      StepsTo options start transfer (.ended (transfer.brought start) (.error cause))
  /-- The device reported the end of its data. -/
  | drained (fetches : transfer.Fetches start (.ok 0)) :
      StepsTo options start transfer
        (.ended (transfer.fetched start) (.ok transfer.buffer.done))
  /-- The device reported more bytes than were asked for. -/
  | overrun {count : Nat} (fetches : transfer.Fetches start (.ok count))
      (exceeds : transfer.buffer.free < count) :
      StepsTo options start transfer
        (.ended (transfer.fetched start).loseTrack
          (.error (.platform .countingRead (.excessiveCount count))))
  | kept {count : Nat} (fetches : transfer.Fetches start (.ok count)) (positive : 0 < count)
      (fits : count ≤ transfer.buffer.free) :
      StepsTo options start transfer
        (.more ((transfer.fetched start).keep (start + transfer.buffer.done) count))
  | interrupted {error : IoError} (fetches : transfer.Fetches start (.error error))
      (interrupted : error.isInterrupted = true) :
      StepsTo options start transfer (.more (transfer.fetched start).loseTrack)
  | tolerated {error : IoError} (fetches : transfer.Fetches start (.error error))
      (counted : error.isInterrupted = false) (tolerant : options.tolerateErrors = true)
      (retryable : error.isRetryable = true) :
      StepsTo options start transfer
        (.more ((transfer.fetched start).loseTrack.tolerate options start error))
  | failed {error : IoError} (fetches : transfer.Fetches start (.error error))
      (counted : error.isInterrupted = false)
      (fatal : (options.tolerateErrors && error.isRetryable) = false) :
      StepsTo options start transfer
        (.ended (transfer.fetched start).loseTrack (.error (.platform .reading error)))

@[simp] theorem buffer_brought : (transfer.brought start).buffer = transfer.buffer := rfl

@[simp] theorem done_fetched : (transfer.fetched start).buffer.done = transfer.buffer.done := rfl

@[simp] theorem free_fetched : (transfer.fetched start).buffer.free = transfer.buffer.free := rfl

theorem aborted_brought_of_calm (running : transfer.aborted = false)
    (calm : Device.signalsInSeek transfer.session.device (start + transfer.buffer.done) = false) :
    (transfer.brought start).aborted = false := by
  simp only [brought, running, Bool.false_or, List.any_eq_false]
  intro event member
  obtain rfl := Session.eq_seek_of_mem_moveTo member
  simp [Event.raises, calm]

/-- Only the calls of a step can raise the abort signal. -/
theorem aborted_fetched_of_calm (running : transfer.aborted = false)
    (calmSeek : Device.signalsInSeek transfer.session.device (start + transfer.buffer.done) = false)
    (calm : (Device.read (transfer.brought start).session.device transfer.buffer.free).abort =
      false) : (transfer.fetched start).aborted = false := by
  have brought := aborted_brought_of_calm running calmSeek
  simp only [fetched, readDevice, buffer_brought, brought, calm, Bool.or_false]

/-- A transfer that lacks bytes and is not aborted goes where the next byte is and reads there. -/
theorem step_of_room (room : transfer.buffer.free ≠ 0) (running : transfer.aborted = false) :
    transfer.step options start =
      match (transfer.session.moveTo (start + transfer.buffer.done)).result with
      | .ok () =>
        (transfer.fetched start).settle options start ((transfer.brought start).readDevice start).2
      | .error cause => .ended (transfer.brought start) (.error cause)
      | .pending => .ended (transfer.brought start) .pending := by
  rw [step, if_neg room, if_neg (by simp [running])]
  rfl

/-- A step that gets as far as its device read goes on with what that reported. -/
theorem Fetches.step_eq {outcome : Except IoError Nat} (fetches : transfer.Fetches start outcome)
    (options : Options) :
    transfer.step options start = (transfer.fetched start).settle options start outcome := by
  rw [step_of_room (Nat.ne_of_gt fetches.room) fetches.running, fetches.arrived, fetches.reported]

/-- Bytes that fit into the free part are kept. -/
theorem Fetches.step_kept {count : Nat} (fetches : transfer.Fetches start (.ok count))
    (options : Options) (positive : 0 < count) (fits : count ≤ transfer.buffer.free) :
    transfer.step options start =
      .more ((transfer.fetched start).keep (start + transfer.buffer.done) count) := by
  rw [fetches.step_eq, settle, if_neg (Nat.ne_of_gt positive), free_fetched,
    if_neg (Nat.not_lt.mpr fits), done_fetched]

/-- An interrupted read is tried again. -/
theorem Fetches.step_interrupted {error : IoError} (fetches : transfer.Fetches start (.error error))
    (options : Options) (interrupted : error.isInterrupted = true) :
    transfer.step options start = .more (transfer.fetched start).loseTrack := by
  rw [fetches.step_eq, settle, if_pos interrupted]

/-- A failed read that may be tried again is tolerated. -/
theorem Fetches.step_tolerated {error : IoError} (fetches : transfer.Fetches start (.error error))
    (tolerant : options.tolerateErrors = true) (counted : error.isInterrupted = false)
    (retryable : error.isRetryable = true) :
    transfer.step options start =
      .more ((transfer.fetched start).loseTrack.tolerate options start error) := by
  rw [fetches.step_eq, settle, if_neg (by simp [counted]), if_pos (by simp [tolerant, retryable])]

/-- What is true of all seeks stays true of all events on the way to a device read. -/
theorem forall_events_brought {shows : Event σ → Prop}
    (seeks : ∀ device target, shows (.seek device target))
    (before : ∀ event ∈ transfer.events, shows event) :
    ∀ event ∈ (transfer.brought start).events, shows event := by
  intro event member
  rcases List.mem_append.mp member with moving | earlier
  · obtain rfl := Session.eq_seek_of_mem_moveTo (List.mem_reverse.mp moving)
    exact seeks _ _
  · exact before event earlier

/-- The device read of a step is the last event that it shows. -/
theorem Fetches.events_fetched {outcome : Except IoError Nat}
    (fetches : transfer.Fetches start outcome) :
    (transfer.fetched start).events =
      .read (transfer.brought start).session.device (start + transfer.buffer.done)
        transfer.buffer.free outcome :: (transfer.brought start).events := by
  rw [← fetches.reported]
  rfl

/-- The next read of an interrupted transfer follows a seek back. -/
theorem device_brought_loseTrack :
    ((transfer.fetched start).loseTrack.brought start).session.device =
      (Device.seek (Device.read (transfer.brought start).session.device transfer.buffer.free).device
        (start + transfer.buffer.done)).1 := by
  simp only [brought, Session.moveTo, position_loseTrack, reduceCtorEq, if_false]
  split <;> rfl

/-- A seek answers at once. -/
theorem moveTo_ne_pending (session : Session σ) (offset : Nat) :
    (session.moveTo offset).result ≠ .pending := by
  simp only [Session.moveTo]
  split
  · rintro ⟨⟩
  · split <;> rintro ⟨⟩

private theorem settle_stepsTo {outcome : Except IoError Nat}
    (fetches : transfer.Fetches start outcome) :
    StepsTo options start transfer ((transfer.fetched start).settle options start outcome) := by
  cases outcome with
  | ok count =>
    rcases Nat.eq_zero_or_pos count with rfl | positive
    · exact .drained fetches
    · rw [settle, if_neg (Nat.ne_of_gt positive), free_fetched, done_fetched]
      by_cases exceeds : transfer.buffer.free < count
      · rw [if_pos exceeds]
        exact .overrun fetches exceeds
      · rw [if_neg exceeds]
        exact .kept fetches positive (Nat.le_of_not_lt exceeds)
  | error error =>
    simp only [settle]
    split
    · next interrupted => exact .interrupted fetches interrupted
    · next counted =>
      have counted := eq_false_of_ne_true counted
      split
      · next tolerable =>
        rw [Bool.and_eq_true] at tolerable
        exact .tolerated fetches counted tolerable.1 tolerable.2
      · next fatal => exact .failed fetches counted (eq_false_of_ne_true fatal)

/-- The list of what a step can come to is complete. -/
theorem step_stepsTo (options : Options) (start : Nat) (transfer : Transfer σ) :
    StepsTo options start transfer (transfer.step options start) := by
  by_cases full : transfer.buffer.free = 0
  · rw [step_of_full full]
    exact .full full
  have room : 0 < transfer.buffer.free := Nat.pos_of_ne_zero full
  cases running : transfer.aborted with
  | true =>
    simp only [step, full, running, if_false, if_true]
    exact .aborted room running
  | false =>
    rw [step_of_room full running]
    split
    · next arrived => exact settle_stepsTo ⟨room, running, arrived, rfl⟩
    · next failed => exact .astray room running failed
    · next waiting => exact absurd waiting (moveTo_ne_pending _ _)

/-- What every step keeps holds at the end of a run. -/
theorem run_keeps (Holds : Transfer σ → Prop)
    (keeps : ∀ transfer, Holds transfer → Holds (transfer.step options start).transfer)
    (count : Nat) {transfer : Transfer σ} (holds : Holds transfer) :
    Holds (transfer.run options start count).1 := by
  induction count generalizing transfer with
  | zero => exact holds
  | succ count ih =>
    have next := keeps transfer holds
    rw [run]
    split
    · next more => rw [more] at next; exact ih next
    · next ended => rw [ended] at next; exact next

omit [Device σ] in
theorem subset_tolerate (error : IoError) :
    transfer.events ⊆ (transfer.tolerate options start error).events := by
  rcases tolerate_cases options start transfer error with ⟨_, same⟩ | ⟨_, same⟩ <;> rw [same]
  · exact fun _ member => List.mem_cons_of_mem _ (List.mem_cons_of_mem _ member)
  · exact fun _ member => List.mem_cons_of_mem _ member

/-- What a step shows is added to what was shown before. -/
theorem subset_step (options : Options) (start : Nat) (transfer : Transfer σ) :
    transfer.events ⊆ (transfer.step options start).transfer.events := by
  have brought : transfer.events ⊆ (transfer.brought start).events := List.subset_append_right ..
  have fetched : transfer.events ⊆ (transfer.fetched start).events := fun _ member =>
    List.mem_cons_of_mem _ (brought member)
  have cases := step_stepsTo options start transfer
  generalize transfer.step options start = outcome at cases ⊢
  cases cases with
  | full => exact List.Subset.refl _
  | aborted => exact List.subset_cons_self ..
  | astray => exact brought
  | drained | overrun | kept | interrupted | failed => exact fetched
  | tolerated => exact fun _ member => subset_tolerate _ (fetched member)

theorem subset_run (options : Options) (start count : Nat) (transfer : Transfer σ) :
    transfer.events ⊆ (transfer.run options start count).1.events :=
  run_keeps (transfer.events ⊆ ·.events)
    (fun next shown => List.Subset.trans shown (subset_step options start next)) count
    (List.Subset.refl _)

/-- A run that succeeds has filled as many bytes as it says. -/
theorem done_of_run_ok {count filled : Nat} {transfer : Transfer σ}
    (succeeded : (transfer.run options start count).2 = .ok filled) :
    (transfer.run options start count).1.buffer.done = filled := by
  induction count generalizing transfer with
  | zero => simp [run] at succeeded
  | succ count ih =>
    have cases := step_stepsTo options start transfer
    rw [run] at succeeded ⊢
    generalize transfer.step options start = outcome at cases succeeded ⊢
    cases cases with
    | full => simpa using succeeded
    | drained => simpa using succeeded
    | aborted => simp at succeeded
    | astray => simp at succeeded
    | overrun => simp at succeeded
    | failed => simp at succeeded
    | kept => exact ih succeeded
    | interrupted => exact ih succeeded
    | tolerated => exact ih succeeded

end Transfer

end StorageMedia
