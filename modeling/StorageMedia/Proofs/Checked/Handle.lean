import StorageMedia.Handle.Operation
import StorageMedia.Proofs.Checked.Transfer
import StorageMedia.Proofs.Handle.Accounting

/-! # Handles on a machine

A handle adds what a read gave to its offset, records the ranges that were given up, slices buffers
and turns the target of a seek into an offset. None of this faults on a `Handle.Sound` handle, which
is one whose recorded ranges are in order and whose granularity is a number of the machine. Reads
are clamped to the media before anything is added, and a media ends at the largest offset.
-/

namespace StorageMedia

variable {σ : Type}

def Outcome.andThenChecked {S α β : Type} (outcome : Outcome σ S α)
    (rest : α → S → Checked (Outcome σ S β)) : Checked (Outcome σ S β) :=
  match outcome.result with
  | .ok value => do
    let final ← rest value outcome.state
    return { final with events := outcome.events ++ final.events }
  | .error cause =>
    .ok { result := .error cause, state := outcome.state, events := outcome.events }
  | .pending => .ok { result := .pending, state := outcome.state, events := outcome.events }

theorem Outcome.andThenChecked_eq {S α β : Type} {outcome : Outcome σ S α}
    {rest : α → S → Checked (Outcome σ S β)} {plain : α → S → Outcome σ S β}
    (same : ∀ value, rest value outcome.state = .ok (plain value outcome.state)) :
    outcome.andThenChecked rest = .ok (outcome.andThen plain) := by
  simp only [andThenChecked, andThen]
  cases outcome.result with
  | ok value =>
    simp only [same value, Checked.ok_bind]
    rfl
  | error | pending => rfl

namespace Handle

def afterTransferChecked (handle : Handle σ) (transfer : Transfer σ) (result : Result Nat) :
    Checked (Handle σ) :=
  let settled := { handle with session := some transfer.session, aborted := transfer.aborted }
  match result with
  | .ok count => do
    let errors ← handle.errors.mergeChecked transfer.skipped
    let cursor ← Checked.ahead handle.cursor count
    return { settled with cursor, errors }
  | _ => .ok settled

def seekFromChecked (handle : Handle σ) (base : Nat) (offset : Int) (origin : Origin) :
    Checked (Outcome σ (Handle σ) Nat) :=
  let target := (base : Int) + offset
  if base ≤ maxSeekOffset ∧ 0 ≤ target ∧ target ≤ maxSeekOffset then do
    let cursor ← Checked.convert maxOffset target
    return .answer cursor { handle with cursor }
  else .ok (.refuse (.outOfBounds offset origin) handle)

variable [Device σ]

def seekChecked (handle : Handle σ) (offset : Int) (origin : Origin) :
    Checked (Outcome σ (Handle σ) Nat) :=
  match origin with
  | .start =>
    if handle.isOpen then handle.seekFromChecked 0 offset .start
    else .ok (.refuse .notOpen handle)
  | .current =>
    if handle.isOpen then handle.seekFromChecked handle.cursor offset .current
    else .ok (.refuse .notOpen handle)
  | .mediaEnd =>
    handle.mediaSize.andThenChecked fun size handle =>
      handle.seekFromChecked size.toNat offset .mediaEnd

def seekByCodeChecked (handle : Handle σ) (offset code : Int) :
    Checked (Outcome σ (Handle σ) Nat) :=
  match Origin.ofCode code with
  | .ok origin => handle.seekChecked offset origin
  | .error cause => .ok (.refuse cause handle)

def seekStartChecked (handle : Handle σ) (offset : Nat) : Checked (Outcome σ (Handle σ) Nat) :=
  if offset ≤ maxSeekOffset then handle.seekChecked offset .start
  else .ok (.refuse (.invalidArgument .excessiveOffset) handle)

def streamSeekChecked (handle : Handle σ) : StreamPosition → Checked (Outcome σ (Handle σ) Nat)
  | .start offset => handle.seekStartChecked offset
  | .current offset => handle.seekChecked offset .current
  | .streamEnd offset => handle.seekChecked offset .mediaEnd

/-- Fill a part of a buffer that lies on the media. The result holds the transfer, what it came to
and what it leaves of the handle. -/
def transferChecked (patience : Nat) (handle : Handle σ) (session : Session σ) (bytes : Bytes) :
    Checked (Transfer σ × Result Nat × Handle σ) := do
  let (transfer, result) ← Transfer.readChecked handle.options patience session handle.aborted
    handle.cursor bytes
  let after ← handle.afterTransferChecked transfer result
  return (transfer, result, after)

def readBufferChecked (patience : Nat) (handle : Handle σ) (bytes : Bytes) :
    Checked (BufferRead σ) :=
  match handle.session with
  | none => .ok { buffer := bytes, outcome := .refuse .notOpen handle }
  | some session =>
    let found := session.geometry
    let handle := handle.resume found
    match found.result with
    | .error cause =>
      .ok
        { buffer := bytes
          outcome := { result := .error cause, state := handle, events := found.events } }
    | .pending =>
      .ok
        { buffer := bytes
          outcome := { result := .pending, state := handle, events := found.events } }
    | .ok geometry =>
      let size := handle.clampedSize geometry.mediaSize bytes.size
      if size = 0 then
        .ok
          { buffer := bytes
            outcome := { result := .ok 0, state := handle, events := found.events } }
      else do
        let room ← Checked.range bytes.size 0 size
        let (transfer, result, state) ←
          handle.transferChecked patience found.state (bytes.take room)
        return {
          buffer := transfer.buffer.bytes ++ bytes.drop room
          outcome := { result, state, events := found.events ++ transfer.events.reverse } }

def readBufferAtChecked (patience : Nat) (handle : Handle σ) (bytes : Bytes) (offset : Nat) :
    Checked (BufferRead σ) := do
  let moved ← handle.seekStartChecked offset
  match moved.result with
  | .ok _ =>
    let read ← moved.state.readBufferChecked patience bytes
    return {
      read with outcome := { read.outcome with events := moved.events ++ read.outcome.events } }
  | .error cause =>
    return {
      buffer := bytes
      outcome := { result := .error cause, state := moved.state, events := moved.events } }
  | .pending =>
    return {
      buffer := bytes
      outcome := { result := .pending, state := moved.state, events := moved.events } }

def readUpToChecked (patience : Nat) (handle : Handle σ) (size : Nat) :
    Checked (Outcome σ (Handle σ) Bytes) :=
  handle.mediaSize.andThenChecked fun mediaSize handle => do
    let read ← handle.readBufferChecked patience
      (.replicate (handle.clampedSize mediaSize size) 0)
    return read.outcome.map fun count => read.buffer.take count

def readChecked (patience : Nat) (handle : Handle σ) (size : Int) :
    Checked (Outcome σ (Handle σ) Bytes) :=
  match checkReadSize size with
  | .ok size => handle.readUpToChecked patience size
  | .error cause => .ok (.refuse cause handle)

def readAtChecked (patience : Nat) (handle : Handle σ) (size offset : Int) :
    Checked (Outcome σ (Handle σ) Bytes) :=
  match checkReadSize size with
  | .error cause => .ok (.refuse cause handle)
  | .ok size =>
    if offset < 0 then .ok (.refuse (.invalidArgument (.negativeOffset offset)) handle)
    else do
      (← handle.seekChecked offset .start).andThenChecked fun _ handle =>
        handle.readUpToChecked patience size

def fillChecked (patience : Nat) : Nat → Handle σ → Filling → List (Event σ) →
    Checked (Filling × Outcome σ (Handle σ) Unit)
  | 0, handle, filling, events => .ok (filling, { result := .pending, state := handle, events })
  | calls + 1, handle, filling, events =>
    if filling.rest.size = 0 then .ok (filling, { result := .ok (), state := handle, events })
    else do
      let read ← handle.readBufferChecked patience filling.rest
      let handle := read.outcome.state
      let events := events ++ read.outcome.events
      let refilled : Filling := { filling with rest := read.buffer }
      match read.outcome.result with
      | .ok 0 =>
        return (refilled,
          { result := .error (.platform .fillingBuffer .unfilledBuffer), state := handle, events })
      | .ok count =>
        let left ← Checked.behind read.buffer.size count
        let shifted := Bytes.shift (read.buffer.size - left) filling.filled read.buffer.stretches
        handle.fillChecked patience calls { filled := shifted.1, rest := ⟨shifted.2⟩ } events
      | .error cause =>
        if cause.toIo.isInterrupted then handle.fillChecked patience calls refilled events
        else return (refilled, { result := .error cause, state := handle, events })
      | .pending => return (refilled, { result := .pending, state := handle, events })

def readExactChecked (patience : Nat) (handle : Handle σ) (bytes : Bytes) :
    Checked (Bytes × Outcome σ (Handle σ) Unit) := do
  let (filling, outcome) ← handle.fillChecked patience (bytes.size + patience + 1)
    { rest := bytes } []
  return (filling.bytes, outcome)

omit [Device σ] in
/-- The ranges that the handle recorded are in order, and its granularity has 64 bits. -/
structure Sound (handle : Handle σ) : Prop where
  recorded : handle.Recorded
  sized : handle.options.errorGranularity ≤ maxOffset

variable {patience : Nat} {handle after : Handle σ} {events : List (Event σ)}

/-- Whatever an operation does in a session keeps the handle sound. -/
theorem Sound.steps (sound : handle.Sound) (steps : Steps patience handle events after) :
    after.Sound :=
  ⟨steps.keep Step.recorded sound.recorded, steps.options ▸ sound.sized⟩

omit [Device σ] in
theorem knownSize_le_maxOffset (handle : Handle σ) : handle.knownSize ≤ maxOffset := by
  cases known : handle.knownGeometry with
  | none => simp [knownSize, known]
  | some geometry =>
    rw [knownSize_eq known]
    exact Nat.le_of_lt_succ geometry.mediaSize.toNat_lt

omit [Device σ] in
/-- The target of a seek is checked before it is converted. -/
theorem seekFromChecked_eq (handle : Handle σ) (base : Nat) (offset : Int) (origin : Origin) :
    handle.seekFromChecked base offset origin = .ok (handle.seekFrom base offset origin) := by
  simp only [seekFromChecked, seekFrom]
  split
  · next inside =>
    have fits : (maxSeekOffset : Int) ≤ maxOffset := by decide
    rw [Checked.convert_toNat inside.2.1 (by omega), Checked.ok_bind]
    rfl
  · rfl

theorem seekChecked_eq (handle : Handle σ) (offset : Int) (origin : Origin) :
    handle.seekChecked offset origin = .ok (handle.seek offset origin) := by
  cases origin with
  | start | current =>
    simp only [seekChecked, seek, seekFromChecked_eq]
    split <;> rfl
  | mediaEnd =>
    rw [seekChecked, seek]
    exact Outcome.andThenChecked_eq fun size => seekFromChecked_eq _ size.toNat offset .mediaEnd

theorem seekByCodeChecked_eq (handle : Handle σ) (offset code : Int) :
    handle.seekByCodeChecked offset code = .ok (handle.seekByCode offset code) := by
  simp only [seekByCodeChecked, seekByCode, seekChecked_eq]
  cases Origin.ofCode code <;> rfl

theorem seekStartChecked_eq (handle : Handle σ) (offset : Nat) :
    handle.seekStartChecked offset = .ok (handle.seekStart offset) := by
  simp only [seekStartChecked, seekStart, seekChecked_eq]
  split <;> rfl

theorem streamSeekChecked_eq (handle : Handle σ) (position : StreamPosition) :
    handle.streamSeekChecked position = .ok (handle.streamSeek position) := by
  cases position with
  | start offset => exact seekStartChecked_eq handle offset
  | current offset => exact seekChecked_eq handle offset .current
  | streamEnd offset => exact seekChecked_eq handle offset .mediaEnd

omit [Device σ] in
private theorem afterTransferChecked_eq {transfer : Transfer σ} {result : Result Nat}
    (separated : handle.errors.IsSeparated) (skipped : transfer.skipped.IsSeparated)
    (fits : ∀ count, result = .ok count → handle.cursor + count ≤ maxOffset) :
    handle.afterTransferChecked transfer result = .ok (handle.afterTransfer transfer result) := by
  cases result with
  | ok count =>
    simp only [afterTransferChecked, ErrorRanges.mergeChecked_eq separated skipped,
      Checked.ok_bind, Checked.ahead_eq (fits count rfl)]
    rfl
  | error | pending => rfl

private theorem transferChecked_eq (sound : handle.Sound) {session : Session σ} {bytes : Bytes}
    (fits : handle.cursor + bytes.size ≤ maxOffset) {read : Transfer σ × Result Nat}
    (runs : Transfer.read handle.options patience session handle.aborted handle.cursor bytes = read) :
    handle.transferChecked patience session bytes =
      .ok (read.1, read.2, handle.afterTransfer read.1 read.2) := by
  have skipped := Transfer.read_separated handle.options patience session handle.aborted fits
  have counts (count : Nat) (succeeded : read.2 = .ok count) :
      handle.cursor + count ≤ maxOffset := by
    have most := (Transfer.read_done (runs ▸ succeeded)).2
    omega
  rw [runs] at skipped
  rw [transferChecked, Transfer.readChecked_eq sound.sized _ _ _ fits, Checked.ok_bind, runs]
  dsimp only
  rw [afterTransferChecked_eq sound.recorded.separated skipped counts]
  rfl

/-- Reading into a buffer faults nowhere. -/
theorem readBufferChecked_eq (sound : handle.Sound) (patience : Nat) (bytes : Bytes) :
    handle.readBufferChecked patience bytes = .ok (handle.readBuffer patience bytes) := by
  cases opened : handle.session with
  | none => simp only [readBufferChecked, readBuffer, opened]
  | some session =>
    simp only [readBufferChecked, readBuffer, opened]
    cases found : session.geometry.result with
    | error | pending => rfl
    | ok geometry =>
      dsimp only
      split
      · rfl
      next some =>
      have positive := Nat.pos_of_ne_zero some
      have measured := sound.steps (show Steps 0 handle _ _ from (Step.measure opened).single)
      rw [Checked.range_eq (Nat.zero_le _) (clamped_bounds rfl positive).2.1, Checked.ok_bind,
        Nat.sub_zero, transferChecked_eq measured (clamped_fits rfl positive) rfl, Checked.ok_bind]
      rfl

/-- Reading at an offset faults nowhere. -/
theorem readBufferAtChecked_eq (sound : handle.Sound) (patience : Nat) (bytes : Bytes)
    (offset : Nat) :
    handle.readBufferAtChecked patience bytes offset =
      .ok (handle.readBufferAt patience bytes offset) := by
  have moved := sound.steps (seekStart_steps patience handle offset)
  simp only [readBufferAtChecked, readBufferAt, seekStartChecked_eq, Checked.ok_bind]
  cases (handle.seekStart offset).result with
  | ok target =>
    simp only [readBufferChecked_eq moved, Checked.ok_bind]
    rfl
  | error | pending => rfl

theorem readUpToChecked_eq (sound : handle.Sound) (patience size : Nat) :
    handle.readUpToChecked patience size = .ok (handle.readUpTo patience size) := by
  have measured := sound.steps (mediaSize_steps patience handle)
  rw [readUpToChecked, readUpTo]
  refine Outcome.andThenChecked_eq fun mediaSize => ?_
  rw [readBufferChecked_eq measured, Checked.ok_bind]
  rfl

theorem readChecked_eq (sound : handle.Sound) (patience : Nat) (size : Int) :
    handle.readChecked patience size = .ok (handle.read patience size) := by
  rw [readChecked, read]
  cases checkReadSize size with
  | ok size => exact readUpToChecked_eq sound patience size
  | error => rfl

theorem readAtChecked_eq (sound : handle.Sound) (patience : Nat) (size offset : Int) :
    handle.readAtChecked patience size offset = .ok (handle.readAt patience size offset) := by
  have moved := sound.steps (seek_steps patience handle offset .start)
  rw [readAtChecked, readAt]
  cases checkReadSize size with
  | error => rfl
  | ok size =>
    dsimp only
    split
    · rfl
    · rw [seekChecked_eq, Checked.ok_bind]
      exact Outcome.andThenChecked_eq fun _ => readUpToChecked_eq moved patience size

/-- What a read gave is never more than the buffer holds, so that the rest of it is a slice. -/
theorem fillChecked_eq (sound : handle.Sound) (patience calls : Nat) (filling : Filling)
    (events : List (Event σ)) :
    handle.fillChecked patience calls filling events =
      .ok (handle.fill patience calls filling events) := by
  induction calls generalizing handle filling events with
  | zero => rfl
  | succ calls ih =>
    have within := readBuffer_staysWithin patience handle filling.rest
    have next := sound.steps (readBuffer_steps patience handle filling.rest)
    rw [fillChecked, fill]
    split
    · rfl
    rw [readBufferChecked_eq sound, Checked.ok_bind]
    cases result : (handle.readBuffer patience filling.rest).outcome.result with
    | ok count =>
      have given := within.given count result
      have size := within.size
      cases count with
      | zero =>
        simp only [result]
        rfl
      | succ count =>
        have fits : count + 1 ≤ (handle.readBuffer patience filling.rest).buffer.size := by omega
        simp only [result, Checked.behind_eq fits, Checked.ok_bind, Nat.sub_sub_self fits]
        exact ih next ..
    | error cause =>
      simp only [result]
      split
      · exact ih next ..
      · rfl
    | pending =>
      simp only [result]
      rfl

theorem readExactChecked_eq (sound : handle.Sound) (patience : Nat) (bytes : Bytes) :
    handle.readExactChecked patience bytes = .ok (handle.readExact patience bytes) := by
  rw [readExactChecked, fillChecked_eq sound, Checked.ok_bind]
  rfl

end Handle

end StorageMedia
