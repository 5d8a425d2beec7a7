import StorageMedia.Device.Bytes
import StorageMedia.Device.Surface
import StorageMedia.Event

/-! # Scripted devices

A scripted device reads a surface of patterned data as a well-behaved device would, except where
its script says otherwise: single reads may come up short, report the end, fail, report more bytes
than the buffer holds, leave garbage behind or signal an abort. The answers to queries are given.
-/

namespace StorageMedia

/-- What a scripted read does apart from leaving garbage and signalling. -/
inductive ReadAction
  /-- Read the surface. -/
  | normal
  /-- Read the surface, but at most so many bytes. -/
  | short (limit : Nat)
  /-- Report the end of the data. -/
  | ended
  /-- Report having read more bytes than the buffer holds, without touching it. -/
  | over (excess : Nat)
  /-- Fail. -/
  | failed (error : IoError)
deriving DecidableEq, Repr

/-- One step of a read script. -/
structure ScriptedRead where
  action : ReadAction := .normal
  /-- Number of garbage bytes that are left at the front of the buffer first. -/
  scribble : Nat := 0
  /-- Whether an abort is signalled at the end of the step. -/
  abort : Bool := false
deriving DecidableEq, Repr

/-- A device that follows a script. -/
structure ScriptedDevice where
  content : Content
  position : Nat := 0
  /-- What the coming reads do; reads after the last step are normal. -/
  script : List ScriptedRead := []
  surface : Surface := []
  /-- Offsets that seeks fail at. -/
  badSeeks : Surface := []
  /-- Largest number of bytes that one read gives. -/
  maxRead : Option Nat := none
  /-- Whether the device supports no queries but those for its size. -/
  isMinimal : Bool := false
  mediaSize : Except IoError (Option UInt64)
  seekEnd : Except IoError UInt64
  bytesPerSector : Except IoError (Option UInt32) := .ok none
  maxTransferSize : Except IoError (Option UInt32) := .ok none
  mediaInformation : Except IoError (Option MediaInformation) := .ok none
  tableOfContents : Except IoError (Option TableOfContents) := .ok none

namespace ScriptedDevice

/-- The byte that garbage is made of. -/
def garbage : UInt8 := 0xee

/-- Leave garbage at the front of a buffer of some bytes, under the bytes that were read. -/
def scribbled (read : ScriptedRead) (capacity : Nat) (bytes : Bytes) : Bytes :=
  bytes ++ .replicate (min read.scribble capacity - bytes.size) garbage

/-- Read the surface into a buffer of some bytes, but at most `limit` of them. -/
def readSurface (device : ScriptedDevice) (limit capacity : Nat) :
    ScriptedDevice × Except IoError Bytes :=
  match device.surface.fault? device.position with
  | some code =>
    ({ device with surface := device.surface.wear device.position }, .error (.system code))
  | none =>
    let length := min (min capacity limit) (device.maxRead.getD capacity)
    let bytes :=
      Bytes.ofContent device.content device.position (device.surface.reach device.position length)
    ({ device with position := device.position + bytes.size }, .ok bytes)

/-- Read as the next step of the script says. -/
def read (device : ScriptedDevice) (capacity : Nat) : ReadReply ScriptedDevice :=
  let step := device.script.headD {}
  let device := { device with script := device.script.tail }
  let reply (device : ScriptedDevice) (bytes : Bytes) (result : Except IoError Nat) :
      ReadReply ScriptedDevice :=
    { device, stored := scribbled step capacity bytes, result, abort := step.abort }
  let readAtMost (limit : Nat) : ReadReply ScriptedDevice :=
    match device.readSurface limit capacity with
    | (device, .ok bytes) => reply device bytes (.ok bytes.size)
    | (device, .error error) => reply device .empty (.error error)
  match step.action with
  | .normal => readAtMost capacity
  | .short limit => readAtMost limit
  | .ended => reply device .empty (.ok 0)
  | .over excess => reply device .empty (.ok (capacity + excess))
  | .failed error => reply device .empty (.error error)

/-- Seek, unless the offset is a bad one. -/
def seek (device : ScriptedDevice) (offset : Nat) : ScriptedDevice × Except IoError Nat :=
  match device.badSeeks.fault? offset with
  | some code => (device, .error (.system code))
  | none => ({ device with position := offset }, .ok offset)

def supports (device : ScriptedDevice) : Query → Bool
  | .mediaSize | .seekEnd => true
  | _ => !device.isMinimal

/-- The given answer to a query, if the device supports it. -/
def answer {α : Type} (device : ScriptedDevice) (query : Query)
    (given : Except IoError (Option α)) : ScriptedDevice × Except IoError (Option α) :=
  (device, if device.supports query then given else .ok none)

/-- Seek to the end that the script gives. -/
def seekToEnd (device : ScriptedDevice) : ScriptedDevice × Except IoError UInt64 :=
  match device.seekEnd with
  | .ok size => ({ device with position := size.toNat }, .ok size)
  | .error error => (device, .error error)

end ScriptedDevice

instance : Device ScriptedDevice where
  read := ScriptedDevice.read
  seek := ScriptedDevice.seek
  mediaSize device := (device, device.mediaSize)
  seekEnd := ScriptedDevice.seekToEnd
  bytesPerSector device := device.answer .bytesPerSector device.bytesPerSector
  maxTransferSize device := device.answer .maxTransferSize device.maxTransferSize
  mediaInformation device := device.answer .mediaInformation device.mediaInformation
  tableOfContents device := device.answer .tableOfContents device.tableOfContents

end StorageMedia
