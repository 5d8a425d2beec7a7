import StorageMedia.Device.Basic
import StorageMedia.Device.Drive
import StorageMedia.Device.Surface
import StorageMedia.Offset
import StorageMedia.Sysfs.Information

/-! # Files and block devices

A raw device is an opened file: a regular file, whose size its metadata tells, a block device,
which answers control requests and is described in the system's tree of devices, the null device or
a directory, which opens but cannot be read. Bytes come from the content of the file, as far as
its surface can be read.
-/

namespace StorageMedia

/-- How a file behaves apart from its content. -/
structure Behaviour where
  isBlockDevice : Bool := false
  drive : Drive := {}
  surface : Surface := []
  /-- Largest number of bytes that one read gives. -/
  maxRead : Option Nat := none
  /-- Error of advice on the order of reads. -/
  adviceFault : Option Int := none
  /-- Error of seeks to the end. -/
  endFault : Option Int := none

/-- What was opened. -/
inductive RawKind
  | regular
  | block
  | directory
  | null
deriving DecidableEq, Repr

/-- An opened file. -/
structure RawDevice where
  /-- The path that the file was opened with. -/
  path : String
  /-- Where the file stands. -/
  location : Location
  kind : RawKind
  content : Content := .empty
  behaviour : Behaviour := {}
  position : Nat := 0
  /-- The tree in which the system describes block devices. -/
  deviceTree : FileTree := {}

namespace RawDevice

def isBlockDevice (device : RawDevice) : Bool := device.kind == .block

/-- Advise the system that the device will be read sequentially. -/
def adviseSequential (device : RawDevice) : Except IoError Unit :=
  match device.behaviour.adviceFault with
  | some code => .error (.system code)
  | none => .ok ()

/-- Read at the position of the device. -/
def read (device : RawDevice) (capacity : Nat) : ReadReply RawDevice :=
  match device.kind with
  | .directory => { device, result := .error (.system SystemError.isDirectory) }
  | .null => { device, result := .ok 0 }
  | .regular | .block =>
    let length := min capacity (device.behaviour.maxRead.getD capacity)
    match device.behaviour.surface.fault? device.position with
    | some code => { device, result := .error (.system code) }
    | none =>
      let bytes := Bytes.ofContent device.content device.position
        (device.behaviour.surface.reach device.position length)
      { device := { device with position := device.position + bytes.size }
        stored := bytes
        result := .ok bytes.size }

/-- Move to an offset. Offsets past the end are fine, those out of the reach of seeks are not. The
null device stays at its start whatever the offset. -/
def seek (device : RawDevice) (offset : Nat) : RawDevice × Except IoError Nat :=
  if device.kind = .null then (device, .ok 0)
  else if maxSeekOffset < offset then (device, .error (.system SystemError.invalidArgument))
  else ({ device with position := offset }, .ok offset)

/-- Offset of the end. A directory ends at the largest offset. -/
def endOffset (device : RawDevice) : Nat :=
  if device.kind = .directory then maxSeekOffset else device.content.size

def seekEnd (device : RawDevice) : RawDevice × Except IoError UInt64 :=
  match device.behaviour.endFault with
  | some code => (device, .error (.system code))
  | none =>
    ({ device with position := device.endOffset }, .ok (UInt64.ofNat device.endOffset))

/-- Size that the metadata of the file or the device itself tells. -/
def mediaSize (device : RawDevice) : Except IoError (Option UInt64) :=
  match device.kind with
  | .block => device.behaviour.drive.size.map some
  | .regular => .ok (some (UInt64.ofNat device.content.size))
  | .directory | .null => .ok none

/-- Answer of a block device; other files support no control requests. -/
def ofBlockDevice {α : Type} (device : RawDevice) (answer : Except IoError (Option α)) :
    RawDevice × Except IoError (Option α) :=
  (device, if device.isBlockDevice then answer else .ok none)

end RawDevice

instance : Device RawDevice where
  read := RawDevice.read
  seek := RawDevice.seek
  mediaSize device := (device, device.mediaSize)
  seekEnd := RawDevice.seekEnd
  bytesPerSector device := device.ofBlockDevice device.behaviour.drive.bytesPerSector
  maxTransferSize device := device.ofBlockDevice device.behaviour.drive.maxTransferSize
  mediaInformation device :=
    device.ofBlockDevice
      (.ok (Sysfs.information? device.deviceTree (.ofPacked device.behaviour.drive.number)))
  tableOfContents device := device.ofBlockDevice device.behaviour.drive.tableOfContents

end StorageMedia
