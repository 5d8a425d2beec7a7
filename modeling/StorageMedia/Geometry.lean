/-! # Size and granularity of a media

The size is always known once a geometry exists; the sector size and the largest transfer only if
the device reports them. A device may report a sector size of zero, which leaves the number of
sectors without a value.
-/

namespace StorageMedia

/-- Size of a media and the bounds on its transfers, in bytes. -/
structure Geometry where
  mediaSize : UInt64
  bytesPerSector : Option UInt32 := none
  maxTransferSize : Option UInt32 := none
deriving DecidableEq, Repr

/-- An arithmetic operation without a result. -/
inductive ArithmeticFault
  | divisionByZero
deriving DecidableEq, Repr

def ArithmeticFault.message : ArithmeticFault → String
  | divisionByZero => "attempt to divide by zero"

/-- Number of whole sectors on the media, if the sector size is known. -/
def Geometry.numberOfSectors (geometry : Geometry) : Except ArithmeticFault (Option Nat) :=
  match geometry.bytesPerSector with
  | none => .ok none
  | some size =>
    if size = 0 then .error .divisionByZero
    else .ok (some (geometry.mediaSize.toNat / size.toNat))

end StorageMedia
