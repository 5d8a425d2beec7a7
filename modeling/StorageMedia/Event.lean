import StorageMedia.Device.Basic

/-! # What happens during an operation

An operation on a handle calls its device and reports what it does. The events of an operation are
both, in the order in which they happened. A call carries the state of the device on which it was
made, a notice the facts that its line of text tells.
-/

namespace StorageMedia

/-- Facts that an operation reports while it runs. -/
inductive Notice
  | opened (path : String)
  | adviceFailed (error : IoError)
  | closing (path : String)
  | sizeFromMetadata (size : UInt64)
  | sizeNotReported
  | sizeQueryFailed (error : IoError)
  | sizeFromSeek (size : UInt64)
  | seekToEndFailed (error : IoError)
  | sectorSizeQueryFailed (error : IoError)
  | transferSizeQueryFailed (error : IoError)
  | mediaInformation (mediaType : MediaType) (busType : BusType)
  | contents (sessions tracks : Nat)
  | aborted (offset : Nat)
  | readFailed (failures offset : Nat) (error : IoError)
  | skipped (zeroed zeroStart distance : Nat)
deriving DecidableEq, Repr

/-- Line of text of a notice: the operation that reports it and what it reports. -/
def Notice.text : Notice → String
  | opened path => s!"open: opened device: {path}"
  | adviceFailed error => s!"open: unable to set sequential access behavior: {error.message}"
  | closing path => s!"close: closing device: {path}"
  | sizeFromMetadata size => s!"resolve_media_size: media size from metadata: {size}"
  | sizeNotReported => "resolve_media_size: media size not reported by metadata"
  | sizeQueryFailed error => s!"resolve_media_size: unable to query media size: {error.message}"
  | sizeFromSeek size => s!"resolve_media_size: media size from seek to end: {size}"
  | seekToEndFailed error =>
    s!"resolve_media_size: unable to seek to end of device: {error.message}"
  | sectorSizeQueryFailed error =>
    s!"resolve_geometry: unable to query bytes per sector: {error.message}"
  | transferSizeQueryFailed error =>
    s!"resolve_geometry: unable to query maximum transfer size: {error.message}"
  | mediaInformation mediaType busType =>
    s!"media_information: media type: {mediaType.text}, bus type: {busType.text}"
  | contents sessions tracks => s!"table_of_contents: sessions: {sessions}, tracks: {tracks}"
  | aborted offset => s!"read_buffer: aborted at offset: {offset}"
  | readFailed failures offset error =>
    s!"read_buffer: read error: {failures} at offset: {offset}: {error.message}"
  | skipped zeroed zeroStart distance =>
    s!"read_buffer: zeroed {zeroed} bytes at offset: {zeroStart}, skipping {distance} bytes"

/-- One thing that happened during an operation. -/
inductive Event (σ : Type)
  /-- The device was asked a question. -/
  | query (device : σ) (query : Query)
  /-- The device was told to move to an offset. -/
  | seek (device : σ) (target : Nat)
  /-- The device was read: the offset on the media that the read is for, the size of the buffer and
  what the device reported. -/
  | read (device : σ) (offset capacity : Nat) (outcome : Except IoError Nat)
  /-- A fact was reported. -/
  | notice (fact : Notice)

/-- Whether an abort was signalled during a call. -/
def Event.raises {σ : Type} [Device σ] : Event σ → Bool
  | query device asked => Device.signalsInQuery device asked
  | seek device target => Device.signalsInSeek device target
  | read device _ capacity _ => (Device.read device capacity).abort
  | notice _ => false

def Event.notice? {σ : Type} : Event σ → Option Notice
  | notice fact => some fact
  | _ => none

/-- Lines of text that the events of an operation report. -/
def Event.lines {σ : Type} (events : List (Event σ)) : List String :=
  events.filterMap fun event => event.notice?.map Notice.text

end StorageMedia
