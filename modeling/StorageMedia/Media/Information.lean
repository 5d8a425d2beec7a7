/-! # What a device says about its media

The kind of media, the bus that the device is attached to and the identification strings of the
device. Whatever a device does not report is unknown or absent.
-/

namespace StorageMedia

/-- Kind of media behind a device. -/
inductive MediaType
  | fixed
  | removable
  /-- A CD, DVD or Blu-ray disc. -/
  | opticalDisc
  /-- A memory card or RAM disk. -/
  | memory
  | unknown
deriving DecidableEq, Repr

def MediaType.text : MediaType → String
  | fixed => "Fixed"
  | removable => "Removable"
  | opticalDisc => "Optical"
  | memory => "Memory"
  | unknown => "Unknown"

/-- Bus that a device is attached to. -/
inductive BusType
  | ata
  | scsi
  | usb
  | fireWire
  | unknown
deriving DecidableEq, Repr

def BusType.text : BusType → String
  | ata => "ATA/ATAPI"
  | scsi => "SCSI"
  | usb => "USB"
  | fireWire => "FireWire (IEEE1394)"
  | unknown => "Unknown"

/-- Media, bus and identification strings of a device. -/
structure MediaInformation where
  mediaType : MediaType := .unknown
  busType : BusType := .unknown
  vendor : Option String := none
  model : Option String := none
  serialNumber : Option String := none
deriving DecidableEq, Repr

/-- Identification string of a name. Other names stand for nothing that a device reports. -/
def MediaInformation.value? (information : MediaInformation) (identifier : String) :
    Option String :=
  if identifier = "vendor" then information.vendor
  else if identifier = "model" then information.model
  else if identifier = "serial_number" then information.serialNumber
  else none

end StorageMedia
