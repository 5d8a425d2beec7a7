import StorageMedia.Text.Blank
import StorageMedia.Text.Utf8

/-! # Identification strings

The system describes a device in small files. Their text is padded, may hold any bytes and counts
as absent when nothing but padding is in it. A serial number may also stand in the unit serial
number page of a SCSI device: four bytes of header, whose second byte names the page and whose
fourth byte is the length of the number, and then the number itself.
-/

namespace StorageMedia.Sysfs

/-- Text of an attribute without its padding, if anything is left. -/
def identification? (bytes : List UInt8) : Option String :=
  let text := Text.trim (Text.decodeLossy bytes)
  if text.isEmpty then none else some (String.ofList text)

/-- Code of the unit serial number page. -/
def unitSerialNumberPage : UInt8 := 0x80

/-- Bytes of the serial number in a unit serial number page. A length past the end of the page
means the rest of the page. -/
def unitSerialNumber? : List UInt8 → Option (List UInt8)
  | _ :: code :: _ :: length :: number =>
    if code = unitSerialNumberPage ∧ number ≠ [] then some (number.take length.toNat) else none
  | _ => none

/-- Serial number from the contents of a unit serial number page. -/
def serialOfPage? (page : List UInt8) : Option String :=
  (unitSerialNumber? page).bind identification?

/-- A reported text is never empty. -/
theorem identification?_ne_empty {bytes : List UInt8} {text : String}
    (reported : identification? bytes = some text) : text ≠ "" := by
  simp only [identification?] at reported
  split at reported
  · cases reported
  · next nonempty =>
    cases reported
    intro same
    exact nonempty (by simpa using congrArg String.toList same)

end StorageMedia.Sysfs
