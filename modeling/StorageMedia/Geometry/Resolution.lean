import StorageMedia.Geometry
import StorageMedia.Outcome

/-! # Finding out the geometry of a device

The size of the media comes from the metadata of the device when that gives a positive size, and
from a seek to the end otherwise: some devices describe themselves as empty until they are probed.
Sector and transfer sizes that a device fails to give are unknown; only a missing size is an error.
-/

namespace StorageMedia

variable {σ : Type} [Device σ]

/-- Positive size of the media that the metadata of a device gives. -/
def sizeFromMetadata (device : σ) : Outcome σ σ (Option UInt64) :=
  let asked := Device.mediaSize device
  match asked.2 with
  | .ok (some size) =>
    if 0 < size then
      { result := .ok (some size), state := asked.1
        events := [.query device .mediaSize, .notice (.sizeFromMetadata size)] }
    else
      { result := .ok none, state := asked.1
        events := [.query device .mediaSize, .notice .sizeNotReported] }
  | .ok none =>
    { result := .ok none, state := asked.1
      events := [.query device .mediaSize, .notice .sizeNotReported] }
  | .error error =>
    { result := .ok none, state := asked.1
      events := [.query device .mediaSize, .notice (.sizeQueryFailed error)] }

/-- Size of the media that a seek to the end gives. -/
def sizeFromEnd (device : σ) : Outcome σ σ UInt64 :=
  let asked := Device.seekEnd device
  match asked.2 with
  | .ok size =>
    { result := .ok size, state := asked.1
      events := [.query device .seekEnd, .notice (.sizeFromSeek size)] }
  | .error error =>
    { result := .error .geometryUnavailable, state := asked.1
      events := [.query device .seekEnd, .notice (.seekToEndFailed error)] }

/-- Size of the media, by whichever strategy gives one first. -/
def resolveMediaSize (device : σ) : Outcome σ σ UInt64 :=
  (sizeFromMetadata device).andThen fun size? device =>
    match size? with
    | some size => .answer size device
    | none => sizeFromEnd device

/-- Size of a logical sector, unknown when the device fails to give it. -/
def resolveBytesPerSector (device : σ) : Outcome σ σ (Option UInt32) :=
  let asked := Device.bytesPerSector device
  match asked.2 with
  | .ok size? =>
    { result := .ok size?, state := asked.1, events := [.query device .bytesPerSector] }
  | .error error =>
    { result := .ok none, state := asked.1
      events := [.query device .bytesPerSector, .notice (.sectorSizeQueryFailed error)] }

/-- Size of the largest transfer, unknown when the device fails to give it. -/
def resolveMaxTransferSize (device : σ) : Outcome σ σ (Option UInt32) :=
  let asked := Device.maxTransferSize device
  match asked.2 with
  | .ok size? =>
    { result := .ok size?, state := asked.1, events := [.query device .maxTransferSize] }
  | .error error =>
    { result := .ok none, state := asked.1
      events := [.query device .maxTransferSize, .notice (.transferSizeQueryFailed error)] }

def resolveGeometry (device : σ) : Outcome σ σ Geometry :=
  (resolveMediaSize device).andThen fun mediaSize device =>
    (resolveBytesPerSector device).andThen fun bytesPerSector device =>
      (resolveMaxTransferSize device).map fun maxTransferSize =>
        { mediaSize, bytesPerSector, maxTransferSize }

end StorageMedia
