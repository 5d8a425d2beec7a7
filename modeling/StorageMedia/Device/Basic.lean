import StorageMedia.Device.Bytes
import StorageMedia.IoError
import StorageMedia.Media.Contents
import StorageMedia.Media.Information

/-! # Devices

A device is a state with the operations of `Device`. Every operation gives the next state together
with its answer, so that a device may change its mind, fail for a while or report nonsense. The
class has no laws: what a handle promises on an arbitrary device holds for every instance.

Every call tells whether an abort is signalled while it lasts, by the device itself or by anybody
else. A signal that comes between two calls counts as one of the first call, or as one of the second
call if the handle has looked at the signal before.
-/

namespace StorageMedia

/-- Questions that a device is asked about its media. -/
inductive Query
  | mediaSize
  | seekEnd
  | bytesPerSector
  | maxTransferSize
  | mediaInformation
  | tableOfContents
deriving DecidableEq, Repr

/-- Everything that one device read does. -/
structure ReadReply (σ : Type) where
  /-- The device after the read. -/
  device : σ
  /-- Bytes that the read left at the front of the buffer, whatever it reported. -/
  stored : Bytes := .empty
  /-- Number of bytes that the read reported. -/
  result : Except IoError Nat
  /-- Whether an abort was signalled during the read. -/
  abort : Bool := false

/-- Reading, seeking and geometry of an opened device. A query that answers `none` is one that the
device does not support. -/
class Device (σ : Type) where
  /-- Read at the position of the device into a buffer of some bytes. -/
  read : σ → Nat → ReadReply σ
  /-- Move the position of the device to an offset. -/
  seek : σ → Nat → σ × Except IoError Nat
  /-- Size of the media as the device describes it. -/
  mediaSize : σ → σ × Except IoError (Option UInt64)
  /-- Offset of the end of the device, found by seeking there. -/
  seekEnd : σ → σ × Except IoError UInt64
  /-- Size of a logical sector. -/
  bytesPerSector : σ → σ × Except IoError (Option UInt32) := fun device => (device, .ok none)
  /-- Size of the largest single transfer. -/
  maxTransferSize : σ → σ × Except IoError (Option UInt32) := fun device => (device, .ok none)
  /-- Media, bus and identification strings. -/
  mediaInformation : σ → σ × Except IoError (Option MediaInformation) :=
    fun device => (device, .ok none)
  /-- Sessions and tracks of an optical disc. -/
  tableOfContents : σ → σ × Except IoError (Option TableOfContents) :=
    fun device => (device, .ok none)
  /-- Whether an abort is signalled during a seek to an offset. -/
  signalsInSeek : σ → Nat → Bool := fun _ _ => false
  /-- Whether an abort is signalled during a query. -/
  signalsInQuery : σ → Query → Bool := fun _ _ => false

end StorageMedia
