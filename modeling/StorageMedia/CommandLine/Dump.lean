import StorageMedia.Handle.Read

/-! # Copying a range of the media

A dump reads a range of the media chunk by chunk, each chunk where the last one ended, and passes
on the bytes of every chunk that was read. It ends when the range is done, when the data ends or
when a chunk fails; what was passed on before stays.
-/

namespace StorageMedia.CommandLine

/-- A dump on its way. -/
structure Dump (σ : Type) where
  handle : Handle σ
  /-- Number of bytes still to be read. -/
  remaining : Nat
  /-- Offset of the next chunk. -/
  offset : Nat
  /-- Chunks that were passed on, last chunk first. -/
  chunks : List Bytes := []
  /-- Number of bytes that were passed on. -/
  total : Nat := 0
  events : List (Event σ) := []

namespace Dump

variable {σ : Type}

/-- All bytes that were passed on. -/
def bytes (dump : Dump σ) : Bytes := ⟨dump.chunks.reverse.flatMap Bytes.stretches⟩

variable [Device σ]

/-- Read chunks of at most `chunkSize` bytes, at most `chunks` of them. -/
def run (patience chunkSize : Nat) : Nat → Dump σ → Dump σ × Result Unit
  | 0, dump => (dump, .ok ())
  | chunks + 1, dump =>
    if dump.remaining = 0 then (dump, .ok ())
    else
      let read := dump.handle.readBufferAt patience
        (.replicate (min dump.remaining chunkSize) 0) dump.offset
      let dump :=
        { dump with
          handle := read.outcome.state
          events := dump.events ++ read.outcome.events }
      match read.outcome.result with
      | .ok 0 => (dump, .ok ())
      | .ok count =>
        run patience chunkSize chunks
          { dump with
            remaining := dump.remaining - count
            offset := dump.offset + count
            chunks := read.buffer.take count :: dump.chunks
            total := dump.total + count }
      | .error cause => (dump, .error cause)
      | .pending => (dump, .pending)

/-- Dump a range of the media. Every chunk holds a byte, so no more chunks than bytes are read. -/
def ofRange (patience chunkSize : Nat) (handle : Handle σ) (offset length : Nat) :
    Dump σ × Result Unit :=
  run patience chunkSize length { handle, remaining := length, offset }

/-- A dump of nothing reads nothing. -/
@[simp] theorem ofRange_zero (patience chunkSize : Nat) (handle : Handle σ) (offset : Nat) :
    ofRange patience chunkSize handle offset 0 = ({ handle, remaining := 0, offset }, .ok ()) :=
  rfl

end Dump

end StorageMedia.CommandLine
