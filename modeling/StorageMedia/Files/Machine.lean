import StorageMedia.Device.Host
import StorageMedia.Device.Raw

/-! # Opening files

A machine holds a file tree, a working directory and the tree in which it describes its devices.
One of its files may behave in a special way. Paths are looked up from the working directory when
a file is opened for reading or created for writing.
-/

namespace StorageMedia

/-- Where files are opened. -/
structure Machine where
  files : FileTree := {}
  workingDirectory : Location := []
  /-- A file that behaves in a special way, by its path. -/
  special : Option (String × Behaviour) := none
  deviceTree : FileTree := {}

namespace Machine

/-- Location that a text leads to as a path. -/
def locate (machine : Machine) (path : String) : Except IoError Location :=
  match FilePath.check path with
  | .error error => .error error
  | .ok path => machine.files.resolve machine.workingDirectory path

/-- How the file at a location behaves. -/
def behaviourAt (machine : Machine) (location : Location) : Behaviour :=
  match machine.special with
  | none => {}
  | some (path, behaviour) =>
    match machine.locate path with
    | .ok special => if special = location then behaviour else {}
    | .error _ => {}

/-- Open the file at a path for reading. -/
def openDevice (machine : Machine) (path : String) : Except IoError RawDevice :=
  match machine.locate path with
  | .error error => .error error
  | .ok location =>
    match machine.files.node? location with
    | some (.file content) =>
      let behaviour := machine.behaviourAt location
      .ok
        { path, location, content, behaviour
          kind := if behaviour.isBlockDevice then .block else .regular
          deviceTree := machine.deviceTree }
    | some .directory => .ok { path, location, kind := .directory }
    | some .nullDevice => .ok { path, location, kind := .null }
    | _ => .error (.system SystemError.noEntry)

/-- How raw devices are opened on a machine. -/
def host (machine : Machine) : Host RawDevice where
  openDevice := machine.openDevice
  adviseSequential := RawDevice.adviseSequential

/-- Location of the file that is created or emptied at a path. -/
def locateOutput (machine : Machine) (path : String) : Except IoError Location :=
  match FilePath.check path with
  | .error error => .error error
  | .ok path =>
    let parent := { path with names := path.names.dropLast, endsInSlash := false }
    match machine.files.resolve machine.workingDirectory parent, path.names.getLast? with
    | .error error, _ => .error error
    | .ok _, none => .error (.system SystemError.isDirectory)
    | .ok directory, some name =>
      match machine.files.node? directory with
      | some .directory =>
        if path.endsInSlash ∨ name = "." ∨ name = ".." then .error (.system SystemError.isDirectory)
        else if FilePath.maximumNameSize < name.utf8ByteSize then
          .error (.system SystemError.nameTooLong)
        else
          match machine.files.find FileTree.maximumLinks directory [name] with
          | .error _ => .ok (directory ++ [name])
          | .ok location =>
            match machine.files.node? location with
            | some .directory => .error (.system SystemError.isDirectory)
            | _ => .ok location
      | _ => .error (.system SystemError.notDirectory)

/-- The machine after bytes were written to the file at a location. The null device takes them. -/
def write (machine : Machine) (location : Location) (bytes : Bytes) : Machine :=
  match machine.files.node? location with
  | some .nullDevice => machine
  | _ =>
    { machine with files := machine.files.put location (.file bytes.toContent) }

/-- Bytes of the file at a path, if there is one. -/
def bytesAt? (machine : Machine) (path : String) : Option Bytes :=
  match machine.locate path with
  | .error _ => none
  | .ok location =>
    match machine.files.node? location with
    | some (.file content) => some (.ofContent content 0 content.size)
    | _ => none

end Machine

end StorageMedia
