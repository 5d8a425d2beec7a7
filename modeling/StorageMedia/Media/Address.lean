import StorageMedia.IoError

/-! # Addresses on an optical disc

A drive gives the address of a sector as its number or as the minute, second and frame at which it
is played. One second holds 75 frames, and the first two seconds of a disc come before sector 0.
-/

namespace StorageMedia

def framesPerSecond : Nat := 75

/-- Frames before sector 0 of a disc. -/
def leadInFrames : Nat := 150

/-- Sector that is played at a minute, second and frame, negative before the first sector. -/
def sectorOfTime (minute second frame : Nat) : Int :=
  ((minute * 60 + second) * framesPerSecond + frame : Nat) - (leadInFrames : Int)

/-- Byte of a signed 32-bit number, counted from the least significant one. -/
def byteOfWord (word : Int) (index : Nat) : Nat :=
  (word % 0x1_0000_0000).toNat >>> (8 * index) % 0x100

/-- How drives write addresses. -/
inductive AddressFormat
  /-- The number of the sector. -/
  | sector
  /-- Minute, second and frame in the three lowest bytes. -/
  | time
deriving DecidableEq, Repr

def AddressFormat.ofCode? (code : Nat) : Option AddressFormat :=
  if code = 1 then some .sector else if code = 2 then some .time else none

/-- Sector of an address that is written in a format. -/
def AddressFormat.read (format : AddressFormat) (address : Int) : Int :=
  match format with
  | sector => address
  | time => sectorOfTime (byteOfWord address 0) (byteOfWord address 1) (byteOfWord address 2)

/-- Sector of an address as a drive reports it, which must not lie before the disc. -/
def sectorOfAddress (format : Nat) (address : Int) : Except IoError Nat :=
  match AddressFormat.ofCode? format with
  | none => .error (.addressFormat format)
  | some format =>
    if format.read address < 0 then .error (.addressBeforeDisc (format.read address))
    else .ok (format.read address).toNat

end StorageMedia
