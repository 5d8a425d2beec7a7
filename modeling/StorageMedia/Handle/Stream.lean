import StorageMedia.Handle.Read

/-! # A handle as a byte stream

Callers that only know byte streams read and seek through these operations. They do what the
operations of the handle do; their errors are meant to be seen through `Error.toIo`.
-/

namespace StorageMedia

/-- Where a stream is told to go. -/
inductive StreamPosition
  | start (offset : Nat)
  | current (offset : Int)
  | streamEnd (offset : Int)
deriving DecidableEq, Repr

/-- A buffer that a stream fills piece by piece: the part that is full, last stretch first, and the
part that is still to be filled. -/
structure Filling where
  filled : List Stretch := []
  rest : Bytes

def Filling.bytes (filling : Filling) : Bytes := ⟨filling.filled.reverse⟩ ++ filling.rest

namespace Handle

variable {σ : Type} [Device σ]

/-- Move the stream and answer with its new position. -/
def streamSeek (handle : Handle σ) : StreamPosition → Outcome σ (Handle σ) Nat
  | .start offset => handle.seekStart offset
  | .current offset => handle.seek offset .current
  | .streamEnd offset => handle.seek offset .mediaEnd

def rewind (handle : Handle σ) : Outcome σ (Handle σ) Unit :=
  (handle.streamSeek (.start 0)).map fun _ => ()

def streamPosition (handle : Handle σ) : Outcome σ (Handle σ) Nat :=
  handle.streamSeek (.current 0)

/-- Read until a buffer is full, in at most `calls` reads. A read that was interrupted is tried
again; the end of the data before the buffer is full is an error. -/
def fill (patience : Nat) : Nat → Handle σ → Filling → List (Event σ) →
    Filling × Outcome σ (Handle σ) Unit
  | 0, handle, filling, events => (filling, { result := .pending, state := handle, events })
  | calls + 1, handle, filling, events =>
    if filling.rest.size = 0 then (filling, { result := .ok (), state := handle, events })
    else
      let read := handle.readBuffer patience filling.rest
      let handle := read.outcome.state
      let events := events ++ read.outcome.events
      let refilled : Filling := { filling with rest := read.buffer }
      match read.outcome.result with
      | .ok 0 =>
        (refilled,
          { result := .error (.platform .fillingBuffer .unfilledBuffer), state := handle, events })
      | .ok count =>
        let shifted := Bytes.shift count filling.filled read.buffer.stretches
        handle.fill patience calls { filled := shifted.1, rest := ⟨shifted.2⟩ } events
      | .error cause =>
        if cause.toIo.isInterrupted then handle.fill patience calls refilled events
        else (refilled, { result := .error cause, state := handle, events })
      | .pending => (refilled, { result := .pending, state := handle, events })

/-- Fill a whole buffer from the stream. The first part is the buffer afterwards. -/
def readExact (patience : Nat) (handle : Handle σ) (bytes : Bytes) :
    Bytes × Outcome σ (Handle σ) Unit :=
  let (filling, outcome) :=
    handle.fill patience (bytes.size + patience + 1) { rest := bytes } []
  (filling.bytes, outcome)

/-- An empty buffer is full, also on a closed handle. -/
theorem readExact_empty (patience : Nat) (handle : Handle σ) :
    handle.readExact patience .empty = (.empty, .answer () handle) :=
  rfl

end Handle

end StorageMedia
