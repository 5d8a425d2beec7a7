/-! # Device numbers

The system packs the major and the minor number of a device into one 64-bit number. Numbers up to
twelve and eight bits stand together at the bottom; what goes beyond them is kept in higher bits,
so that every pair of 32-bit numbers has a place of its own.
-/

namespace StorageMedia

/-- Major and minor number of a device. -/
structure DeviceNumber where
  major : Nat
  minor : Nat
deriving DecidableEq, Repr

namespace DeviceNumber

/-- Take a packed number apart. From the lowest bit on it holds 8 bits of the minor number, 12 bits
of the major number, the upper 24 bits of the minor and the upper 20 bits of the major number. -/
def ofPacked (packed : Nat) : DeviceNumber where
  major := packed / 0x1000_0000_0000 % 0x10_0000 * 0x1000 + packed / 0x100 % 0x1000
  minor := packed / 0x10_0000 % 0x100_0000 * 0x100 + packed % 0x100

/-- Pack the two numbers into one. -/
def pack (number : DeviceNumber) : Nat :=
  number.major / 0x1000 * 0x1000_0000_0000 + number.minor / 0x100 * 0x10_0000 +
    number.major % 0x1000 * 0x100 + number.minor % 0x100

/-- Name of the entry of a device in a directory of devices. -/
def name (number : DeviceNumber) : String := s!"{number.major}:{number.minor}"

end DeviceNumber

end StorageMedia
