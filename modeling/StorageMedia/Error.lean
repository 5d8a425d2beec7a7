import StorageMedia.IoError
import StorageMedia.Text.Quoted

/-! # Errors of a device handle

An operation on a handle fails for one of a few reasons. Arguments are refused with the fault that
was found in them, and a failure of the device is passed on together with what the handle was
doing at that time. `Error.toIo` says how an error looks to a caller that only knows streams.
-/

namespace StorageMedia

/-- Origin of a seek. -/
inductive Origin
  | start
  | current
  | mediaEnd
deriving DecidableEq, Repr

def Origin.name : Origin → String
  | start => "Start"
  | current => "Current"
  | mediaEnd => "End"

/-- Fault in the arguments of an operation. -/
inductive ArgumentFault
  | emptyPath
  | unsupportedMode (mode : String)
  | negativeReadSize (size : Int)
  | excessiveReadSize (size : Nat)
  | negativeOffset (offset : Int)
  | excessiveOffset
  | unsupportedOrigin (code : Int)
  | emptyIdentifier
  | sessionIndex (index : Nat)
  | trackIndex (index : Nat)
  | other (text : String)
deriving DecidableEq, Repr

def ArgumentFault.message : ArgumentFault → String
  | emptyPath => "empty path"
  | unsupportedMode mode => s!"unsupported mode: {Text.quote mode}"
  | negativeReadSize size => s!"read size value less than zero: {size}"
  | excessiveReadSize size => s!"read size value exceeds maximum: {size}"
  | negativeOffset offset => s!"offset value less than zero: {offset}"
  | excessiveOffset => "offset exceeds maximum"
  | unsupportedOrigin code => s!"unsupported whence: {code}"
  | emptyIdentifier => "empty information value identifier"
  | sessionIndex index => s!"session index out of bounds: {index}"
  | trackIndex index => s!"track index out of bounds: {index}"
  | other text => text

/-- What a handle was doing when its device failed. -/
inductive Activity
  | opening
  | seeking
  | reading
  | countingRead
  | fillingBuffer
  | queryingMedia
  | readingContents
  | other (text : String)
deriving DecidableEq, Repr

def Activity.message : Activity → String
  | opening => "unable to open device"
  | seeking => "unable to seek offset in device"
  | reading => "unable to read from device"
  | countingRead => "invalid read count value exceeds read size"
  | fillingBuffer => "unable to fill buffer"
  | queryingMedia => "unable to determine media information"
  | readingContents => "unable to read table of contents"
  | other text => text

/-- Why an operation on a handle failed. -/
inductive Error
  /-- The arguments make no sense, whatever the state of the handle. -/
  | invalidArgument (fault : ArgumentFault)
  /-- A seek leads before the start of the media or past the largest offset. -/
  | outOfBounds (offset : Int) (origin : Origin)
  | notOpen
  | alreadyOpen
  /-- No strategy gave the size of the media. -/
  | geometryUnavailable
  /-- An abort was signalled. -/
  | aborted
  /-- The device failed. -/
  | platform (activity : Activity) (source : IoError)
deriving DecidableEq, Repr

namespace Error

def message : Error → String
  | invalidArgument fault => s!"invalid argument: {fault.message}"
  | outOfBounds offset origin => s!"seek offset {offset} from {origin.name} is out of bounds"
  | notOpen => "device handle is not open"
  | alreadyOpen => "device handle is already open"
  | geometryUnavailable => "unable to determine media size"
  | aborted => "operation aborted"
  | platform activity source => s!"{activity.message}: {source.message}"

/-- The error as a failure of a stream: a failure of the device is passed on unchanged, every other
error keeps its text under the kind that fits it best. -/
def toIo (error : Error) : IoError :=
  match error with
  | platform _ source => source
  | invalidArgument _ | outOfBounds .. => .custom .invalidInput error.message
  | notOpen => .custom .notConnected error.message
  | alreadyOpen => .custom .alreadyExists error.message
  | geometryUnavailable => .custom .unsupported error.message
  | aborted => .custom .other error.message

/-- A stream sees the failure of a device itself. -/
@[simp] theorem toIo_platform (activity : Activity) (source : IoError) :
    (platform activity source).toIo = source := rfl

/-- A stream sees every other error under its own text and without a number. -/
theorem toIo_message {error : Error} (own : ∀ activity source, error ≠ platform activity source) :
    error.toIo.message = error.message ∧ error.toIo.code? = none := by
  cases error with
  | platform activity source => exact absurd rfl (own activity source)
  | _ => exact ⟨rfl, rfl⟩

end Error

/-- The origin that a numeric code stands for: 0, 1 and 2 are the start, the current offset and
the end. -/
def Origin.ofCode (code : Int) : Except Error Origin :=
  if code = 0 then .ok .start
  else if code = 1 then .ok .current
  else if code = 2 then .ok .mediaEnd
  else .error (.invalidArgument (.unsupportedOrigin code))

end StorageMedia
