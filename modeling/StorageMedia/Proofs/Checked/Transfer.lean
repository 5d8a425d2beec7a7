import StorageMedia.Proofs.Checked.ErrorRanges
import StorageMedia.Proofs.Transfer.Delivery

/-! # Transfers on a machine

The loop of a transfer counts the bytes that are done and the reads that failed, adds what is done to
the offset where its buffer begins, and zeroes a range of the buffer for every block that it gives
up. `Transfer.Guarded` is what the loop keeps: the buffer ends below the largest offset, no more
reads failed in a row than there are retries, and what was given up is separated. It is all that the
arithmetic of the next turn needs, whatever the device answers.
-/

namespace StorageMedia

def Options.blockChecked (options : Options) (start stop position : Nat) :
    Checked (Nat × Nat) := do
  let granularity ← Checked.convert maxOffset options.errorGranularity
  if granularity = 0 then return (start, stop)
  else
    let block ← Checked.div position granularity
    let blockStart ← Checked.mul maxOffset block granularity
    return (blockStart, rangeEnd blockStart granularity)

def Options.lossChecked (options : Options) (start stop position : Nat) : Checked Loss := do
  let (blockStart, blockStop) ← options.blockChecked start stop position
  return {
    start := if options.zeroOnError then max blockStart start else position
    stop := min blockStop stop }

theorem Options.lossChecked_eq {options : Options} {start stop position : Nat}
    (sized : options.errorGranularity ≤ maxOffset) (inside : position ≤ maxOffset) :
    options.lossChecked start stop position = .ok (options.loss start stop position) := by
  simp only [lossChecked, blockChecked, loss, Checked.convert_eq sized, Checked.ok_bind]
  rcases Nat.eq_zero_or_pos options.errorGranularity with whole | positive
  · simp only [whole, if_true]
    rfl
  · have low := Nat.div_mul_le_self position options.errorGranularity
    simp only [if_neg (Nat.ne_of_gt positive), Checked.div_eq positive, Checked.ok_bind,
      Checked.mul_eq (Nat.le_trans low inside)]
    rfl

namespace Buffer

def size (buffer : Buffer) : Nat := buffer.done + buffer.free

variable (buffer : Buffer)

theorem done_le_size : buffer.done ≤ buffer.size := Nat.le_add_right _ _

theorem done_lt_size : buffer.done < buffer.size ↔ 0 < buffer.free := by
  simp only [size]
  omega

theorem size_sub_done : buffer.size - buffer.done = buffer.free := Nat.add_sub_cancel_left ..

end Buffer

variable {σ : Type}

namespace Transfer

def giveUpChecked (options : Options) (start : Nat) (transfer : Transfer σ) :
    Checked (Transfer σ) := do
  let buffer := transfer.buffer
  let stop ← Checked.ahead start buffer.size
  let position ← Checked.ahead start buffer.done
  let loss ← options.lossChecked start stop position
  let first ← Checked.convert maxOffset (← Checked.sub loss.start start)
  let last ← Checked.convert maxOffset (← Checked.sub loss.stop start)
  let zeroed ← Checked.range buffer.size first last
  let lost ← Checked.sub loss.stop loss.start
  let skipped ← transfer.skipped.insertChecked loss.start lost
  let skip ← Checked.convert maxOffset (← Checked.sub loss.stop position)
  let done ← Checked.add maxOffset buffer.done skip
  return { transfer with
    buffer := buffer.zero (zeroed - skip) (done - buffer.done)
    skipped
    failures := 0
    events := .notice (.skipped lost loss.start skip) :: transfer.events }

def tolerateChecked (options : Options) (start position : Nat) (transfer : Transfer σ)
    (error : IoError) : Checked (Transfer σ) := do
  let failures ← Checked.add largestHalfWord transfer.failures 1
  let noted := ({ transfer with failures } : Transfer σ).report (.readFailed failures position error)
  let retries ← Checked.convert largestHalfWord options.errorRetries.toNat
  if retries < failures then noted.giveUpChecked options start else return noted

variable [Device σ]

def readDeviceChecked (position : Nat) (transfer : Transfer σ) :
    Checked (Transfer σ × Except IoError Nat) := do
  let device := transfer.session.device
  let room ← Checked.behind transfer.buffer.size transfer.buffer.done
  let reply := Device.read device room
  return (
    { transfer with
      session := { transfer.session with device := reply.device }
      aborted := transfer.aborted || reply.abort
      buffer := transfer.buffer.store reply.stored
      events := .read device position room reply.result :: transfer.events },
    reply.result)

def settleChecked (options : Options) (start position : Nat) (transfer : Transfer σ) :
    Except IoError Nat → Checked (TransferStep σ)
  | .ok count =>
    if count = 0 then .ok (.ended transfer (.ok transfer.buffer.done))
    else do
      let room ← Checked.sub transfer.buffer.size transfer.buffer.done
      if room < count then
        return .ended transfer.loseTrack (.error (.platform .countingRead (.excessiveCount count)))
      else
        let done ← Checked.add maxOffset transfer.buffer.done count
        let next ← Checked.ahead position count
        return .more { transfer with
          buffer := transfer.buffer.advance (done - transfer.buffer.done)
          session := { transfer.session with position := some next } }
  | .error error =>
    if error.isInterrupted then .ok (.more transfer.loseTrack)
    else if options.tolerateErrors && error.isRetryable then do
      return .more (← transfer.loseTrack.tolerateChecked options start position error)
    else .ok (.ended transfer.loseTrack (.error (.platform .reading error)))

def fetchChecked (options : Options) (start position : Nat) (transfer : Transfer σ) :
    Checked (TransferStep σ) :=
  let moved := transfer.session.moveTo position
  let ready : Transfer σ :=
    { transfer with
      session := moved.state
      aborted := transfer.aborted || moved.events.any Event.raises
      events := moved.events.reverse ++ transfer.events }
  match moved.result with
  | .ok () => do
    let (transfer, outcome) ← ready.readDeviceChecked position
    transfer.settleChecked options start position outcome
  | .error cause => .ok (.ended ready (.error cause))
  | .pending => .ok (.ended ready .pending)

/-- One turn of the loop of a transfer whose buffer starts at `start` on the media. -/
def stepChecked (options : Options) (start : Nat) (transfer : Transfer σ) :
    Checked (TransferStep σ) :=
  if transfer.buffer.done < transfer.buffer.size then do
    let position ← Checked.ahead start transfer.buffer.done
    if transfer.aborted then
      return .ended (transfer.report (.aborted position)).loseTrack (.error .aborted)
    else transfer.fetchChecked options start position
  else .ok (.ended transfer (.ok transfer.buffer.done))

def runChecked (options : Options) (start : Nat) : Nat → Transfer σ →
    Checked (Transfer σ × Result Nat)
  | 0, transfer => .ok (transfer, .pending)
  | turns + 1, transfer => do
    match ← transfer.stepChecked options start with
    | .more transfer => transfer.runChecked options start turns
    | .ended transfer result => return (transfer, result)

def readChecked (options : Options) (patience : Nat) (session : Session σ) (aborted : Bool)
    (start : Nat) (bytes : Bytes) : Checked (Transfer σ × Result Nat) :=
  ({ session, aborted, buffer := .ofBytes bytes } : Transfer σ).runChecked options start
    (steps options patience bytes.size)

omit [Device σ] in
/-- What the loop of a transfer keeps. -/
structure Guarded (options : Options) (start stop : Nat) (transfer : Transfer σ) : Prop where
  spans : transfer.Spans start stop
  /-- The next failure is at most the one after the last retry. -/
  left : transfer.failures ≤ options.errorRetries.toNat
  separated : transfer.skipped.IsSeparated

variable {options : Options} {start stop : Nat} {transfer : Transfer σ}

omit [Device σ] in
private theorem ahead_le (spans : transfer.Spans start stop) (fits : stop ≤ maxOffset) :
    start + transfer.buffer.done ≤ maxOffset ∧ start + transfer.buffer.size ≤ maxOffset := by
  simp only [Spans, Buffer.size] at spans ⊢
  omega

omit [Device σ] in
/-- A block that is given up lies in the buffer. -/
theorem giveUpChecked_eq (spans : transfer.Spans start stop)
    (separated : transfer.skipped.IsSeparated) (room : 0 < transfer.buffer.free)
    (fits : stop ≤ maxOffset) (sized : options.errorGranularity ≤ maxOffset) :
    transfer.giveUpChecked options start = .ok (transfer.giveUp options start) := by
  obtain ⟨here, whole⟩ := ahead_le spans fits
  have size : start + transfer.buffer.size = start + transfer.buffer.done + transfer.buffer.free :=
    (Nat.add_assoc ..).symm
  obtain ⟨low, before, after, high⟩ := options.loss_bounds
    (Nat.le_add_right start transfer.buffer.done) (Nat.lt_add_of_pos_right room) (size ▸ whole)
  simp only [giveUpChecked, giveUp, Checked.ahead_eq here, Checked.ahead_eq whole, size,
    Options.lossChecked_eq sized here, Checked.ok_bind]
  generalize options.loss start (start + transfer.buffer.done + transfer.buffer.free)
    (start + transfer.buffer.done) = loss at low before after high ⊢
  have most : loss.stop ≤ maxOffset := by omega
  have back : loss.stop - start - (loss.start - start) - (loss.stop - (start + transfer.buffer.done)) =
      start + transfer.buffer.done - loss.start := by omega
  have skip : transfer.buffer.done + (loss.stop - (start + transfer.buffer.done)) -
      transfer.buffer.done = loss.stop - (start + transfer.buffer.done) := Nat.add_sub_cancel_left ..
  simp (disch := omega) only [Checked.sub_eq, Checked.convert_eq, Checked.range_eq, Checked.add_eq,
    ErrorRanges.insertChecked_eq separated, Checked.ok_bind, back, skip]
  rfl

omit [Device σ] in
/-- A failure is counted, and the one after the last retry is the last that is. -/
theorem tolerateChecked_eq (guarded : transfer.Guarded options start stop)
    (room : 0 < transfer.buffer.free) (fits : stop ≤ maxOffset)
    (sized : options.errorGranularity ≤ maxOffset) (error : IoError) :
    transfer.tolerateChecked options start (start + transfer.buffer.done) error =
      .ok (transfer.tolerate options start error) := by
  have left := guarded.left
  have retries : options.errorRetries.toNat < 256 := options.errorRetries.toNat_lt
  have counts : transfer.failures + 1 ≤ largestHalfWord := by
    simp only [largestHalfWord]
    omega
  have few : options.errorRetries.toNat ≤ largestHalfWord := by
    simp only [largestHalfWord]
    omega
  simp only [tolerateChecked, tolerate, Checked.add_eq counts, Checked.convert_eq few,
    Checked.ok_bind]
  split
  · exact giveUpChecked_eq guarded.spans guarded.separated room fits sized
  · rfl

namespace Guarded

omit [Device σ] in
theorem giveUp (spans : transfer.Spans start stop) (separated : transfer.skipped.IsSeparated)
    (room : 0 < transfer.buffer.free) (fits : stop ≤ maxOffset) :
    (transfer.giveUp options start).Guarded options start stop := by
  have bounds := options.loss_bounds (Nat.le_add_right start transfer.buffer.done)
    (Nat.lt_add_of_pos_right room) (Nat.le_trans (Nat.le_of_eq spans) fits)
  refine ⟨Spans.giveUp spans, Nat.zero_le _, ErrorRanges.isSeparated_insert separated ?_⟩
  simp only [Spans] at spans
  omega

theorem step (guarded : transfer.Guarded options start stop) (fits : stop ≤ maxOffset) :
    (transfer.step options start).transfer.Guarded options start stop := by
  have spans := @Spans.step _ _ options _ _ _ guarded.spans
  have cases := step_stepsTo options start transfer
  generalize transfer.step options start = outcome at spans cases ⊢
  cases cases with
  | @tolerated error fetches =>
    rcases tolerate_cases options start (transfer.fetched start).loseTrack error with
      ⟨_, same⟩ | ⟨left, same⟩
    · simp only [TransferStep.transfer, same]
      exact giveUp guarded.spans guarded.separated fetches.room fits
    · simp only [TransferStep.transfer, same]
      exact ⟨guarded.spans, left, guarded.separated⟩
  | _ => exact ⟨spans, guarded.left, guarded.separated⟩

end Guarded

omit [Device σ] in
private theorem settleChecked_eq (guarded : transfer.Guarded options start stop)
    (fits : stop ≤ maxOffset) (sized : options.errorGranularity ≤ maxOffset)
    (outcome : Except IoError Nat) (room : 0 < transfer.buffer.free) :
    transfer.settleChecked options start (start + transfer.buffer.done) outcome =
      .ok (transfer.settle options start outcome) := by
  cases outcome with
  | ok count =>
    simp only [settleChecked, settle]
    by_cases none : count = 0
    · rw [if_pos none, if_pos none]
    rw [if_neg none, if_neg none, Checked.sub_eq transfer.buffer.done_le_size, Checked.ok_bind,
      transfer.buffer.size_sub_done]
    by_cases exceeds : transfer.buffer.free < count
    · rw [if_pos exceeds, if_pos exceeds]
      rfl
    have spans := guarded.spans
    simp only [Spans] at spans
    rw [if_neg exceeds, if_neg exceeds, Checked.add_eq (by omega), Checked.ok_bind,
      Checked.ahead_eq (by omega), Checked.ok_bind, Nat.add_sub_cancel_left]
    rfl
  | error error =>
    simp only [settleChecked, settle]
    split
    · rfl
    split
    · have lost : transfer.loseTrack.Guarded options start stop :=
        ⟨guarded.spans, guarded.left, guarded.separated⟩
      rw [show start + transfer.buffer.done = start + transfer.loseTrack.buffer.done from rfl,
        tolerateChecked_eq lost room fits sized, Checked.ok_bind]
      rfl
    · rfl

private theorem readDeviceChecked_eq (start : Nat) (transfer : Transfer σ) :
    transfer.readDeviceChecked (start + transfer.buffer.done) = .ok (transfer.readDevice start) := by
  rw [readDeviceChecked, Checked.behind_eq transfer.buffer.done_le_size, Checked.ok_bind,
    transfer.buffer.size_sub_done]
  rfl

private theorem fetchChecked_eq (guarded : transfer.Guarded options start stop)
    (fits : stop ≤ maxOffset) (sized : options.errorGranularity ≤ maxOffset)
    (room : 0 < transfer.buffer.free) (running : transfer.aborted = false) :
    transfer.fetchChecked options start (start + transfer.buffer.done) =
      .ok (transfer.step options start) := by
  have fetched : (transfer.fetched start).Guarded options start stop :=
    ⟨guarded.spans, guarded.left, guarded.separated⟩
  have reads : (transfer.brought start).readDeviceChecked (start + transfer.buffer.done) =
      .ok ((transfer.brought start).readDevice start) :=
    readDeviceChecked_eq start (transfer.brought start)
  have settles := settleChecked_eq fetched fits sized
    ((transfer.brought start).readDevice start).2 room
  rw [step_of_room (Nat.ne_of_gt room) running]
  simp only [fetchChecked]
  cases arrived : (transfer.session.moveTo (start + transfer.buffer.done)).result with
  | ok =>
    show (transfer.brought start).readDeviceChecked (start + transfer.buffer.done) >>= _ = _
    rw [reads, Checked.ok_bind]
    exact settles
  | error cause => rfl
  | pending => rfl

/-- A turn of the loop does what a step does. -/
theorem stepChecked_eq (guarded : transfer.Guarded options start stop) (fits : stop ≤ maxOffset)
    (sized : options.errorGranularity ≤ maxOffset) :
    transfer.stepChecked options start = .ok (transfer.step options start) := by
  by_cases full : transfer.buffer.free = 0
  · rw [step_of_full full, stepChecked, if_neg (by rw [transfer.buffer.done_lt_size]; omega)]
  have room : 0 < transfer.buffer.free := Nat.pos_of_ne_zero full
  rw [stepChecked, if_pos (transfer.buffer.done_lt_size.mpr room),
    Checked.ahead_eq (ahead_le guarded.spans fits).1, Checked.ok_bind]
  cases running : transfer.aborted with
  | true =>
    simp only [step, if_neg full, running, if_true]
    rfl
  | false =>
    rw [if_neg Bool.false_ne_true]
    exact fetchChecked_eq guarded fits sized room running

theorem runChecked_eq (guarded : transfer.Guarded options start stop) (fits : stop ≤ maxOffset)
    (sized : options.errorGranularity ≤ maxOffset) (turns : Nat) :
    transfer.runChecked options start turns = .ok (transfer.run options start turns) := by
  induction turns generalizing transfer with
  | zero => rfl
  | succ turns ih =>
    have next := guarded.step fits
    rw [runChecked, run, stepChecked_eq guarded fits sized, Checked.ok_bind]
    cases outcome : transfer.step options start with
    | ended => rfl
    | more transfer =>
      rw [outcome] at next
      exact ih next

/-- No arithmetic of a transfer faults whose buffer ends below the largest offset. -/
theorem readChecked_eq (sized : options.errorGranularity ≤ maxOffset) (patience : Nat)
    (session : Session σ) (aborted : Bool) {bytes : Bytes}
    (fits : start + bytes.size ≤ maxOffset) :
    readChecked options patience session aborted start bytes =
      .ok (read options patience session aborted start bytes) := by
  have begins : ({ session, aborted, buffer := .ofBytes bytes } : Transfer σ).Guarded options start
      (start + bytes.size) := ⟨rfl, Nat.zero_le _, ErrorRanges.isSeparated_empty⟩
  exact runChecked_eq begins fits sized _

/-- What a transfer gave up is separated, also when it failed. -/
theorem read_separated (options : Options) (patience : Nat) (session : Session σ) (aborted : Bool)
    {bytes : Bytes} (fits : start + bytes.size ≤ maxOffset) :
    (read options patience session aborted start bytes).1.skipped.IsSeparated := by
  have begins : ({ session, aborted, buffer := .ofBytes bytes } : Transfer σ).Guarded options start
      (start + bytes.size) := ⟨rfl, Nat.zero_le _, ErrorRanges.isSeparated_empty⟩
  exact (run_keeps (Guarded options start (start + bytes.size)) (fun _ guarded => guarded.step fits) _
    begins).separated

end Transfer

end StorageMedia
