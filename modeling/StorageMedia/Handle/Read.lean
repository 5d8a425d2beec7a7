import StorageMedia.Handle.Seek
import StorageMedia.Transfer.Basic

/-! # Reading

Every read starts at the offset of the handle and is clamped to the media, so that reading at or
past the end gives no bytes. A read that succeeds moves the offset by the bytes it gave and records
the ranges it gave up; a read that fails leaves both as they were.

The reads take the number of interruptions that they wait out at least, see `Transfer.run`.
-/

namespace StorageMedia

/-- A read into a buffer: what the buffer holds afterwards, also when the read failed, and the
outcome with the number of bytes that were read. -/
structure BufferRead (σ : Type) where
  buffer : Bytes
  outcome : Outcome σ (Handle σ) Nat

def checkReadSize (size : Int) : Except Error Nat :=
  if size < 0 then .error (.invalidArgument (.negativeReadSize size))
  else if (maximumReadSize : Int) < size then
    .error (.invalidArgument (.excessiveReadSize size.toNat))
  else .ok size.toNat

namespace Handle

variable {σ : Type} [Device σ]

/-- Number of bytes of a request that lie on the media. -/
def clampedSize (handle : Handle σ) (mediaSize : UInt64) (size : Nat) : Nat :=
  min (mediaSize.toNat - handle.cursor) size

@[simp] theorem clampedSize_resume {α : Type} (handle : Handle σ)
    (ran : Outcome σ (Session σ) α) (mediaSize : UInt64) (size : Nat) :
    (handle.resume ran).clampedSize mediaSize size = handle.clampedSize mediaSize size := rfl

/-- What a transfer leaves of the handle. -/
def afterTransfer (handle : Handle σ) (transfer : Transfer σ) (result : Result Nat) : Handle σ :=
  let settled := { handle with session := some transfer.session, aborted := transfer.aborted }
  match result with
  | .ok count =>
    { settled with
      cursor := handle.cursor + count
      errors := handle.errors.merge transfer.skipped }
  | _ => settled

@[simp] theorem afterTransfer_resume {α : Type} (handle : Handle σ)
    (ran : Outcome σ (Session σ) α) (transfer : Transfer σ) (result : Result Nat) :
    (handle.resume ran).afterTransfer transfer result = handle.afterTransfer transfer result := by
  cases result <;> rfl

def readBuffer (patience : Nat) (handle : Handle σ) (bytes : Bytes) : BufferRead σ :=
  match handle.session with
  | none => { buffer := bytes, outcome := .refuse .notOpen handle }
  | some session =>
    let found := session.geometry
    let handle := handle.resume found
    match found.result with
    | .error cause =>
      { buffer := bytes
        outcome := { result := .error cause, state := handle, events := found.events } }
    | .pending =>
      { buffer := bytes, outcome := { result := .pending, state := handle, events := found.events } }
    | .ok geometry =>
      let size := handle.clampedSize geometry.mediaSize bytes.size
      if size = 0 then
        { buffer := bytes, outcome := { result := .ok 0, state := handle, events := found.events } }
      else
        let (transfer, result) := Transfer.read handle.options patience found.state handle.aborted
          handle.cursor (bytes.take size)
        { buffer := transfer.buffer.bytes ++ bytes.drop size
          outcome :=
            { result
              state := handle.afterTransfer transfer result
              events := found.events ++ transfer.events.reverse } }

def readBufferAt (patience : Nat) (handle : Handle σ) (bytes : Bytes) (offset : Nat) :
    BufferRead σ :=
  let moved := handle.seekStart offset
  match moved.result with
  | .ok _ =>
    let read := moved.state.readBuffer patience bytes
    { read with outcome := { read.outcome with events := moved.events ++ read.outcome.events } }
  | .error cause =>
    { buffer := bytes
      outcome := { result := .error cause, state := moved.state, events := moved.events } }
  | .pending =>
    { buffer := bytes
      outcome := { result := .pending, state := moved.state, events := moved.events } }

/-- Read up to a number of bytes into a buffer of their own, which is no larger than what is left of
the media. -/
def readUpTo (patience : Nat) (handle : Handle σ) (size : Nat) : Outcome σ (Handle σ) Bytes :=
  handle.mediaSize.andThen fun mediaSize handle =>
    let read := handle.readBuffer patience (.replicate (handle.clampedSize mediaSize size) 0)
    read.outcome.map fun count => read.buffer.take count

def read (patience : Nat) (handle : Handle σ) (size : Int) : Outcome σ (Handle σ) Bytes :=
  match checkReadSize size with
  | .ok size => handle.readUpTo patience size
  | .error cause => .refuse cause handle

/-- Read as many bytes as the options say. -/
def readDefault (patience : Nat) (handle : Handle σ) : Outcome σ (Handle σ) Bytes :=
  handle.read patience handle.options.defaultReadSize

def readAt (patience : Nat) (handle : Handle σ) (size offset : Int) :
    Outcome σ (Handle σ) Bytes :=
  match checkReadSize size with
  | .error cause => .refuse cause handle
  | .ok size =>
    if offset < 0 then .refuse (.invalidArgument (.negativeOffset offset)) handle
    else (handle.seek offset .start).andThen fun _ handle => handle.readUpTo patience size

/-- Reading a closed handle is refused and leaves the buffer alone. -/
theorem readBuffer_closed {patience : Nat} {handle : Handle σ} (closed : handle.session = none)
    (bytes : Bytes) :
    handle.readBuffer patience bytes = { buffer := bytes, outcome := .refuse .notOpen handle } := by
  simp [readBuffer, closed]

/-- A read size passes exactly if it lies between zero and the largest read size. -/
theorem checkReadSize_eq_ok_iff {size : Int} {checked : Nat} :
    checkReadSize size = .ok checked ↔ size = checked ∧ checked ≤ maximumReadSize := by
  simp only [checkReadSize]
  split
  · simp only [reduceCtorEq, false_iff, not_and]
    omega
  · split
    · simp only [reduceCtorEq, false_iff, not_and]
      omega
    · simp only [Except.ok.injEq]
      omega

end Handle

end StorageMedia
