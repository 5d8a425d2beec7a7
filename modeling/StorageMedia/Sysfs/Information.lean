import StorageMedia.Files.Tree
import StorageMedia.Sysfs.Bus
import StorageMedia.Sysfs.DeviceNumber
import StorageMedia.Sysfs.Identification

/-! # Media information of block devices

The system lists each block device under its number. The entry leads to the directory of a disk or
of a partition, which lies in the directory of its disk. Attributes of the disk and of the device
behind it tell the media, the bus and the identification strings; what is missing is unknown.

Locations are those of the tree that describes devices, whose root is the mount point.
-/

namespace StorageMedia.Sysfs

/-- Directory of the disk behind a block device. -/
def diskDirectory? (tree : FileTree) (number : DeviceNumber) : Option Location :=
  match tree.find FileTree.maximumLinks [] ["dev", "block", number.name] with
  | .error _ => none
  | .ok directory =>
    if tree.leadsSomewhere directory ["partition"] then some directory.dropLast
    else some directory

def attribute? (tree : FileTree) (directory : Location) (names : List String) : Option String :=
  (tree.read? directory names).bind identification?

/-- Kind of the media in a disk. Memory cards and RAM disks are known by their names; the peripheral
type 5 of a SCSI device is that of an optical drive. -/
def mediaType (tree : FileTree) (directory : Location) : MediaType :=
  let name := (directory.getLast?.getD "").toList
  if attribute? tree directory ["device", "type"] = some "5" then .opticalDisc
  else if ['m', 'm', 'c', 'b', 'l', 'k'].isPrefixOf name || ['r', 'a', 'm'].isPrefixOf name then
    .memory
  else
    match attribute? tree directory ["removable"] with
    | some removable => if removable = "1" then .removable else .fixed
    | none => .unknown

/-- Bus of a disk, unknown if the device behind it cannot be found. -/
def busType (tree : FileTree) (directory : Location) : BusType :=
  match tree.find FileTree.maximumLinks directory ["device"] with
  | .error _ => .unknown
  | .ok device =>
    .ofDevice device
      (tree.find FileTree.maximumLinks directory ["device", "subsystem"]).toOption

/-- Media information of the disk in a directory. -/
def information (tree : FileTree) (directory : Location) : MediaInformation where
  mediaType := mediaType tree directory
  busType := busType tree directory
  vendor := attribute? tree directory ["device", "vendor"]
  model := attribute? tree directory ["device", "model"]
  serialNumber :=
    match attribute? tree directory ["device", "serial"] with
    | some serial => some serial
    | none => (tree.read? directory ["device", "vpd_pg80"]).bind serialOfPage?

def information? (tree : FileTree) (number : DeviceNumber) : Option MediaInformation :=
  (diskDirectory? tree number).map (information tree)

end StorageMedia.Sysfs
