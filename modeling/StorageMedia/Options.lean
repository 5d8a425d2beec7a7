import StorageMedia.Error

/-! # Options of a device handle

The options say how a handle treats device reads that fail and how much a read without a size
asks for. They can be replaced at any time and take effect with the next read.
-/

namespace StorageMedia

/-- Number of bytes that a read without a size asks for, unless the options say otherwise. -/
def defaultReadSize : Nat := 64 * 1024

/-- Largest number of bytes that a single read may ask for. -/
def maximumReadSize : Nat := 0x7fff_ffff

/-- How a handle reads. -/
structure Options where
  /-- Retry failed reads and zero-fill what stays unreadable, instead of failing the read. -/
  tolerateErrors : Bool := false
  /-- Number of times a failed read is tried again before its region is given up. -/
  errorRetries : UInt8 := 0
  /-- Size of the blocks, counted from the start of the media, that are given up as a whole; zero
  makes the whole request one block. -/
  errorGranularity : Nat := 0
  /-- Zero also the part of a block that was read before the failure. -/
  zeroOnError : Bool := false
  /-- Advise the system when a device is opened that it will be read sequentially. -/
  sequentialAccess : Bool := true
  /-- Number of bytes of a read without a size. -/
  defaultReadSize : Nat := StorageMedia.defaultReadSize
deriving DecidableEq, Repr

/-- How a device may be opened. Media are only read. -/
inductive AccessMode
  | read
deriving DecidableEq, Repr

def AccessMode.name : AccessMode → String
  | read => "Read"

/-- The access mode that a mode text stands for. -/
def AccessMode.ofText (mode : String) : Except Error AccessMode :=
  if mode = "r" ∨ mode = "rb" then .ok .read
  else .error (.invalidArgument (.unsupportedMode mode))

end StorageMedia
