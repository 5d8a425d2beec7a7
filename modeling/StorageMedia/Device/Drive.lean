import StorageMedia.Media.Address
import StorageMedia.Media.Contents
import StorageMedia.Sysfs.DeviceNumber

/-! # Control requests of block devices

A block device answers control requests for its size, its sector size, its largest transfer and,
if it is an optical drive, for the contents of the disc in it. A request that the device does not
know fails. Contents are all or nothing: every track in the range that the drive announces and the
lead-out must be readable, while the start of the last session may stay unknown.
-/

namespace StorageMedia

/-- Answer of an optical drive about one track. -/
structure TrackAnswer where
  /-- Control bits in the upper half, address type in the lower half. -/
  addressControl : UInt8
  format : UInt8
  address : Int
deriving DecidableEq, Repr

/-- Whether a track holds data: bit 2 of the control half. -/
def TrackAnswer.isData (answer : TrackAnswer) : Bool := answer.addressControl.toNat.testBit 6

/-- Answer of an optical drive about its last session. -/
structure SessionAnswer where
  address : Int
  /-- Zero if the disc has one session only. -/
  multiple : UInt8
  format : UInt8
deriving DecidableEq, Repr

/-- Failure of a request that a device does not know. -/
def unknownRequest : IoError := .system SystemError.unknownRequest

/-- What a block device answers to control requests. -/
structure Drive where
  /-- Packed device number. -/
  number : Nat := 0
  size : Except IoError UInt64 := .error unknownRequest
  sectorSize : Except IoError Int := .error unknownRequest
  /-- Largest number of sectors in one request. -/
  maxSectors : Except IoError UInt16 := .error unknownRequest
  /-- First and last track number of the disc. -/
  header : Except IoError (UInt8 × UInt8) := .error unknownRequest
  track : Nat → Except IoError TrackAnswer := fun _ => .error (.system SystemError.inputOutput)
  lastSession : Except IoError SessionAnswer := .error unknownRequest

namespace Drive

/-- Track number that stands for the lead-out. -/
def leadOutTrack : Nat := 0xaa

/-- Bytes in the sectors that block requests are counted in. -/
def requestSectorSize : UInt32 := 512

/-- Errors with which a device says that it has no disc. -/
def noDiscErrors : List Int :=
  [SystemError.unknownRequest, SystemError.invalidArgument, SystemError.notImplemented,
    SystemError.noMedium]

/-- Size of a logical sector, unless the device reports none that is positive. -/
def bytesPerSector (drive : Drive) : Except IoError (Option UInt32) :=
  drive.sectorSize.map fun size => if 0 < size then some (UInt32.ofNat size.toNat) else none

/-- Size of the largest transfer, unless the device reports none that is positive. -/
def maxTransferSize (drive : Drive) : Except IoError (Option UInt32) :=
  drive.maxSectors.map fun sectors =>
    if sectors = 0 then none else some (sectors.toUInt32 * requestSectorSize)

/-- Start of a track, and whether it holds data. -/
def trackStart (drive : Drive) (number : Nat) : Except IoError (Nat × Bool) :=
  match drive.track number with
  | .error error => .error error
  | .ok answer =>
    match sectorOfAddress answer.format.toNat answer.address with
    | .error error => .error error
    | .ok start => .ok (start, answer.isData)

/-- Entries of some tracks. The first one that cannot be read fails all of them. -/
def entries (drive : Drive) : List Nat → Except IoError (List TocEntry)
  | [] => .ok []
  | number :: rest =>
    match drive.trackStart number with
    | .error error => .error error
    | .ok (start, isData) => (drive.entries rest).map (⟨number, start, isData⟩ :: ·)

/-- First sector of the last session, if the drive tells one that lies on the disc. -/
def lastSessionStart? (drive : Drive) : Option Nat :=
  match drive.lastSession with
  | .error _ => none
  | .ok answer =>
    if answer.multiple = 0 then none
    else (sectorOfAddress answer.format.toNat answer.address).toOption

/-- Track numbers from the first to the last one, none if the last one comes first. -/
def trackNumbers (first last : UInt8) : List Nat :=
  List.range' first.toNat (last.toNat + 1 - first.toNat)

/-- Contents of the disc in the drive, if there is one. -/
def tableOfContents (drive : Drive) : Except IoError (Option TableOfContents) :=
  match drive.header with
  | .error error =>
    if error.code?.any (noDiscErrors.contains ·) then .ok none else .error error
  | .ok (first, last) =>
    match drive.entries (trackNumbers first last) with
    | .error error => .error error
    | .ok entries =>
      match drive.trackStart leadOutTrack with
      | .error error => .error error
      | .ok (leadOut, _) =>
        (TableOfContents.ofEntries entries leadOut drive.lastSessionStart?).map some

/-- Tracks are numbered from the first to the last one of the header. -/
theorem mem_trackNumbers {first last : UInt8} {number : Nat} :
    number ∈ trackNumbers first last ↔ first.toNat ≤ number ∧ number ≤ last.toNat := by
  simp only [trackNumbers, List.mem_range'_1]
  omega

end Drive

end StorageMedia
