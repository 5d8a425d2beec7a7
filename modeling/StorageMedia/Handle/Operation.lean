import StorageMedia.Handle.Description
import StorageMedia.Handle.Stream

/-! # Operations and runs

Every operation of a handle, with its arguments, is an `Operation`. `Operation.apply` performs one
on a handle and gives its response; `Operation.run` performs a list of operations one after the
other and stops at the first that does not return.
-/

namespace StorageMedia

/-- An operation on a handle over devices of type `σ`. -/
inductive Operation (σ : Type)
  | openPath (path mode : String)
  | openDevice (path : String) (device : σ)
  | close
  | isOpen
  | filename
  | options
  | setOptions (options : Options)
  | geometry
  | mediaSize
  | bytesPerSector
  | maxTransferSize
  | numberOfSectors
  | mediaInformation
  | mediaType
  | busType
  | informationValue (identifier : String)
  | numberOfSessions
  | sessionAt (index : Nat)
  | numberOfTracks
  | trackAt (index : Nat)
  | offset
  | seek (offset : Int) (origin : Origin)
  | seekByCode (offset code : Int)
  | read (size : Int)
  | readDefault
  | readAt (size offset : Int)
  | readBuffer (bytes : Bytes)
  | readBufferAt (bytes : Bytes) (offset : Nat)
  | streamRead (bytes : Bytes)
  | streamReadExact (bytes : Bytes)
  | streamSeek (position : StreamPosition)
  | streamRewind
  | streamPosition
  | numberOfErrors
  | errorAt (index : Nat)
  | signalAbort
  | describe

/-- What operations answer with. -/
inductive Value
  | unit
  | bool (value : Bool)
  | nat (value : Nat)
  | optionalNat (value : Option Nat)
  | text (value : String)
  | optionalText (value : Option String)
  | options (value : Options)
  | geometry (value : Geometry)
  /-- A number of sectors, which a sector size of zero leaves without a value. -/
  | sectorCount (value : Except ArithmeticFault (Option Nat))
  | mediaInformation (value : MediaInformation)
  | mediaType (value : MediaType)
  | busType (value : BusType)
  | session (value : SectorRange)
  | track (value : Track)
  | errorRange (value : Option ErrorRange)
  | bytes (value : Bytes)
  /-- A number of bytes that were put into the buffer of the caller. -/
  | count (value : Nat)

/-- What an operation gives back to its caller. -/
structure Response (σ : Type) where
  outcome : Outcome σ (Handle σ) Value
  /-- The buffer of the caller afterwards, if the operation was given one. -/
  buffer : Option Bytes := none

namespace Response

variable {σ : Type}

/-- Response of an operation without a buffer. -/
def of {α : Type} (outcome : Outcome σ (Handle σ) α) (value : α → Value) : Response σ :=
  { outcome := outcome.map value }

/-- Response that only looks at the handle. -/
def look (handle : Handle σ) (value : Value) : Response σ :=
  { outcome := .answer value handle }

/-- Response of a read into a buffer. -/
def ofRead (read : BufferRead σ) : Response σ :=
  { outcome := read.outcome.map .count, buffer := some read.buffer }

end Response

namespace Operation

variable {σ : Type}

/-- Whether the caller sees the handle as a byte stream, and its errors as those of a stream. -/
def isStream : Operation σ → Bool
  | streamRead _ | streamReadExact _ | streamSeek _ | streamRewind | streamPosition => true
  | _ => false

variable [Device σ]

def apply (host : Host σ) (patience : Nat) (handle : Handle σ) : Operation σ → Response σ
  | openPath path mode => .of (handle.openPath host path mode) fun _ => .unit
  | openDevice path device => .of (handle.openDevice path device) fun _ => .unit
  | close => .of handle.close fun _ => .unit
  | isOpen => .look handle (.bool handle.isOpen)
  | filename => .look handle (.optionalText handle.filename?)
  | options => .look handle (.options handle.options)
  | setOptions chosen => .look (handle.setOptions chosen) .unit
  | geometry => .of handle.geometry .geometry
  | mediaSize => .of handle.mediaSize fun size => .nat size.toNat
  | bytesPerSector => .of handle.bytesPerSector fun size? => .optionalNat (size?.map (·.toNat))
  | maxTransferSize => .of handle.maxTransferSize fun size? => .optionalNat (size?.map (·.toNat))
  | numberOfSectors => .of handle.geometry fun found => .sectorCount found.numberOfSectors
  | mediaInformation => .of handle.mediaInformation .mediaInformation
  | mediaType => .of handle.mediaType .mediaType
  | busType => .of handle.busType .busType
  | informationValue identifier => .of (handle.informationValue identifier) .optionalText
  | numberOfSessions => .of handle.numberOfSessions .nat
  | sessionAt index => .of (handle.sessionAt index) .session
  | numberOfTracks => .of handle.numberOfTracks .nat
  | trackAt index => .of (handle.trackAt index) .track
  | offset => .of handle.offset .nat
  | seek distance origin => .of (handle.seek distance origin) .nat
  | seekByCode distance code => .of (handle.seekByCode distance code) .nat
  | read size => .of (handle.read patience size) .bytes
  | readDefault => .of (handle.readDefault patience) .bytes
  | readAt size target => .of (handle.readAt patience size target) .bytes
  | readBuffer bytes => .ofRead (handle.readBuffer patience bytes)
  | readBufferAt bytes target => .ofRead (handle.readBufferAt patience bytes target)
  | streamRead bytes => .ofRead (handle.readBuffer patience bytes)
  | streamReadExact bytes =>
    let (buffer, outcome) := handle.readExact patience bytes
    { outcome := outcome.map fun _ => .unit, buffer := some buffer }
  | streamSeek position => .of (handle.streamSeek position) .nat
  | streamRewind => .of handle.rewind fun _ => .unit
  | streamPosition => .of handle.streamPosition .nat
  | numberOfErrors => .look handle (.nat handle.errors.size)
  | errorAt index => .look handle (.errorRange (handle.errors.get? index))
  | signalAbort => .look handle.signalAbort .unit
  | describe => .look handle (.text handle.describe)

/-- Perform operations one after the other. The run ends early at one that does not return. -/
def run (host : Host σ) (patience : Nat) : Handle σ → List (Operation σ) → List (Response σ)
  | _, [] => []
  | handle, operation :: rest =>
    let response := operation.apply host patience handle
    match response.outcome.result with
    | .pending => [response]
    | _ => response :: run host patience response.outcome.state rest

/-- Handles that operations reach from a closed handle. -/
inductive Reachable (host : Host σ) (patience : Nat) : Handle σ → Prop
  | fresh (options : Options) : Reachable host patience (.withOptions options)
  | step {handle : Handle σ} (operation : Operation σ) (reached : Reachable host patience handle)
      (returned : (operation.apply host patience handle).outcome.result ≠ .pending) :
      Reachable host patience (operation.apply host patience handle).outcome.state

end Operation

end StorageMedia
