import StorageMedia.Media.Information

/-! # The bus of a device

The canonical path of a device names the busses on the way to it, from the outermost one inwards.
The first name that is a numbered USB, FireWire or ATA bus decides. A path without such a name
belongs to a SCSI device exactly if the subsystem of the device is called so.
-/

namespace StorageMedia

/-- Whether a name is the name of a bus followed by a decimal number. -/
def isNumbered (bus name : List Char) : Bool :=
  bus.isPrefixOf name && name.length != bus.length &&
    (name.drop bus.length).all fun c => '0' ≤ c && c ≤ '9'

namespace BusType

/-- Bus that a name in a device path stands for. -/
def ofName? (name : String) : Option BusType :=
  if isNumbered ['u', 's', 'b'] name.toList then some .usb
  else if isNumbered ['f', 'w'] name.toList || name == "firewire" then some .fireWire
  else if isNumbered ['a', 't', 'a'] name.toList then some .ata
  else none

/-- Bus of a device with the given names in its path and in the path of its subsystem. -/
def ofDevice (path : List String) (subsystem : Option (List String)) : BusType :=
  match path.findSome? ofName? with
  | some bus => bus
  | none =>
    match subsystem with
    | some names => if names.getLast? = some "scsi" then .scsi else .unknown
    | none => .unknown

end BusType

end StorageMedia
