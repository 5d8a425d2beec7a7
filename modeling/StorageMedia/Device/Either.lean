import StorageMedia.Device.Basic
import StorageMedia.Device.Host

/-! # Devices of two types

A handle that may be opened on devices of two types works over their sum, which passes every
operation on to the device that it holds.
-/

namespace StorageMedia

variable {σ τ : Type}

/-- The same reply from a device that is part of another one. -/
def ReadReply.map (f : σ → τ) (reply : ReadReply σ) : ReadReply τ :=
  { device := f reply.device, stored := reply.stored, result := reply.result, abort := reply.abort }

/-- Pass an operation on to the device that a sum holds. -/
def eitherDevice {α : Type} (left : σ → σ × α) (right : τ → τ × α) : σ ⊕ τ → (σ ⊕ τ) × α
  | .inl device => ((left device).1 |> .inl, (left device).2)
  | .inr device => ((right device).1 |> .inr, (right device).2)

instance [Device σ] [Device τ] : Device (σ ⊕ τ) where
  read
    | .inl device, capacity => (Device.read device capacity).map .inl
    | .inr device, capacity => (Device.read device capacity).map .inr
  seek device offset := eitherDevice (Device.seek · offset) (Device.seek · offset) device
  mediaSize := eitherDevice Device.mediaSize Device.mediaSize
  seekEnd := eitherDevice Device.seekEnd Device.seekEnd
  bytesPerSector := eitherDevice Device.bytesPerSector Device.bytesPerSector
  maxTransferSize := eitherDevice Device.maxTransferSize Device.maxTransferSize
  mediaInformation := eitherDevice Device.mediaInformation Device.mediaInformation
  tableOfContents := eitherDevice Device.tableOfContents Device.tableOfContents
  signalsInSeek
    | .inl device, offset => Device.signalsInSeek device offset
    | .inr device, offset => Device.signalsInSeek device offset
  signalsInQuery
    | .inl device, query => Device.signalsInQuery device query
    | .inr device, query => Device.signalsInQuery device query

/-- A host of devices of the second type, among devices of two types. -/
def Host.inSum (host : Host τ) : Host (σ ⊕ τ) where
  openDevice path := (host.openDevice path).map .inr
  adviseSequential
    | .inl _ => .ok ()
    | .inr device => host.adviseSequential device

end StorageMedia
