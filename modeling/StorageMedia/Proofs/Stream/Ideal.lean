import StorageMedia.Handle.Operation

/-! # Ideal streams

An ideal stream is nothing but a content and an offset into it. `Ideal.reply` says what each
operation of a stream gives and where it leaves the offset: reads give the bytes from the offset on,
as far as there are any, and seeks go anywhere a seek reaches. What a device tells of its media
besides their bytes is an input of the operations that ask for it.
-/

namespace StorageMedia

/-- What a device tells of its media besides their bytes. -/
structure Description where
  geometry : Geometry
  information : Result MediaInformation
  contents : Result TableOfContents

/-- All that a caller can learn from a response: its result and the buffer that it was given, byte
by byte, and what the handle then answers about its offset and its unreadable ranges. -/
structure Answer where
  result : Result Value
  buffer : Option (List UInt8) := none
  offset : Nat
  errors : ErrorRanges := {}

/-- The value with its bytes given one by one. -/
def Value.plain : Value → Value
  | bytes value => bytes (.ofList value.toList)
  | value => value

/-- What a caller learns from a response. -/
def Response.answer {σ : Type} (response : Response σ) : Answer where
  result := response.outcome.result.map Value.plain
  buffer := response.buffer.map Bytes.toList
  offset := response.outcome.state.cursor
  errors := response.outcome.state.errors

namespace Operation

variable {σ : Type}

/-- Whether an operation is one of a stream: a question about the media or the offset, a seek or a
read. The other operations open, close, steer and describe handles. -/
def isOfStream : Operation σ → Bool
  | openPath .. | openDevice .. | close | filename | options | setOptions _ | signalAbort
  | describe => false
  | _ => true

end Operation

namespace Ideal

variable {σ : Type}

def base (content : Content) (offset : Nat) : Origin → Nat
  | .start => 0
  | .current => offset
  | .mediaEnd => content.size

/-- Go to a distance from an origin, unless no seek reaches there. -/
def seek (content : Content) (offset : Nat) (distance : Int) (origin : Origin) : Answer :=
  let target := base content offset origin + distance
  if 0 ≤ target ∧ target ≤ maxSeekOffset then
    { result := .ok (.nat target.toNat), offset := target.toNat }
  else { result := .error (.outOfBounds distance origin), offset }

def seekTo (offset target : Nat) : Answer :=
  if target ≤ maxSeekOffset then { result := .ok (.nat target), offset := target }
  else { result := .error (.invalidArgument .excessiveOffset), offset }

def readBytes (content : Content) (offset size : Nat) : Answer :=
  let data := content.slice offset size
  { result := .ok (.bytes (.ofList data)), offset := offset + data.length }

/-- Call for a number of bytes, unless no read may ask for so many. -/
def sized (offset : Nat) (size : Int) (call : Nat → Answer) : Answer :=
  if size < 0 then { result := .error (.invalidArgument (.negativeReadSize size)), offset }
  else if (maximumReadSize : Int) < size then
    { result := .error (.invalidArgument (.excessiveReadSize size.toNat)), offset }
  else call size.toNat

def readAt (content : Content) (offset : Nat) (target : Int) (size : Nat) : Answer :=
  if target < 0 then { result := .error (.invalidArgument (.negativeOffset target)), offset }
  else if (maxSeekOffset : Int) < target then
    { result := .error (.outOfBounds target .start), offset }
  else readBytes content target.toNat size

def fill (content : Content) (offset : Nat) (bytes : Bytes) : Answer :=
  let data := content.slice offset bytes.size
  { result := .ok (.count data.length)
    buffer := some (data ++ bytes.toList.drop data.length)
    offset := offset + data.length }

def fillAt (content : Content) (offset : Nat) (bytes : Bytes) (target : Nat) : Answer :=
  if target ≤ maxSeekOffset then fill content target bytes
  else
    { result := .error (.invalidArgument .excessiveOffset), buffer := some bytes.toList, offset }

/-- Read into a buffer, which must get full. -/
def fillWhole (content : Content) (offset : Nat) (bytes : Bytes) : Answer :=
  { fill content offset bytes with
    result :=
      if (content.slice offset bytes.size).length = bytes.size then .ok .unit
      else .error (.platform .fillingBuffer .unfilledBuffer) }

/-- An element of what a device tells, if there is one at an index. -/
def pick {α : Type} (told : Result (List α)) (index : Nat) (value : α → Value)
    (fault : ArgumentFault) : Result Value :=
  match told with
  | .ok elements =>
    match elements[index]? with
    | some element => .ok (value element)
    | none => .error (.invalidArgument fault)
  | .error cause => .error cause
  | .pending => .pending

/-- What an ideal stream answers. Operations that are not of a stream get no answer. -/
def reply (content : Content) (options : Options) (description : Description) (offset : Nat) :
    Operation σ → Answer
  | .isOpen => { result := .ok (.bool true), offset }
  | .geometry => { result := .ok (.geometry description.geometry), offset }
  | .mediaSize => { result := .ok (.nat content.size), offset }
  | .bytesPerSector =>
    { result := .ok (.optionalNat (description.geometry.bytesPerSector.map (·.toNat))), offset }
  | .maxTransferSize =>
    { result := .ok (.optionalNat (description.geometry.maxTransferSize.map (·.toNat))), offset }
  | .numberOfSectors =>
    { result := .ok (.sectorCount description.geometry.numberOfSectors), offset }
  | .mediaInformation => { result := description.information.map .mediaInformation, offset }
  | .mediaType => { result := description.information.map (.mediaType ·.mediaType), offset }
  | .busType => { result := description.information.map (.busType ·.busType), offset }
  | .informationValue identifier =>
    { result :=
        if identifier = "" then .error (.invalidArgument .emptyIdentifier)
        else description.information.map (.optionalText <| ·.value? identifier)
      offset }
  | .numberOfSessions =>
    { result := description.contents.map (.nat ·.sessions.length), offset }
  | .sessionAt index =>
    { result := pick (description.contents.map (·.sessions)) index .session (.sessionIndex index)
      offset }
  | .numberOfTracks => { result := description.contents.map (.nat ·.tracks.length), offset }
  | .trackAt index =>
    { result := pick (description.contents.map (·.tracks)) index .track (.trackIndex index)
      offset }
  | .offset => { result := .ok (.nat offset), offset }
  | .seek distance origin => seek content offset distance origin
  | .seekByCode distance code =>
    match Origin.ofCode code with
    | .ok origin => seek content offset distance origin
    | .error cause => { result := .error cause, offset }
  | .read size => sized offset size (readBytes content offset)
  | .readDefault => sized offset options.defaultReadSize (readBytes content offset)
  | .readAt size target => sized offset size (readAt content offset target)
  | .readBuffer bytes | .streamRead bytes => fill content offset bytes
  | .readBufferAt bytes target => fillAt content offset bytes target
  | .streamReadExact bytes => fillWhole content offset bytes
  | .streamSeek (.start target) => seekTo offset target
  | .streamSeek (.current distance) => seek content offset distance .current
  | .streamSeek (.streamEnd distance) => seek content offset distance .mediaEnd
  | .streamRewind => { result := .ok .unit, offset := 0 }
  | .streamPosition => { result := .ok (.nat offset), offset }
  | .numberOfErrors => { result := .ok (.nat 0), offset }
  | .errorAt _ => { result := .ok (.errorRange none), offset }
  | _ => { result := .pending, offset }

/-- The answers of an ideal stream to operations one after the other. -/
def run (content : Content) (options : Options) :
    Nat → List (Operation σ × Description) → List Answer
  | _, [] => []
  | offset, (operation, description) :: rest =>
    let answer := reply content options description offset operation
    answer :: run content options answer.offset rest

end Ideal

end StorageMedia
