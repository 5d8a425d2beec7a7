import StorageMedia.CommandLine.Run

/-! # The program

The outer layer of the command line copies the files that the arguments name into a machine, runs
the command line on it, and then prints what the run printed and writes the file that it left
behind. Everything is decided by `CommandLine.run`. Files are copied whole, and a device node is
taken for the file of its data.
-/

namespace StorageMedia.CommandLine

/-- What stands at a path of the system, if it can be read. -/
def nodeAt? (path : String) : IO (Option Node) := do
  match ← (IO.FS.readBinFile path).toBaseIO with
  | .ok bytes => return some (.file (.ofArray bytes.data))
  | .error _ =>
    match ← (IO.FS.realPath path).toBaseIO with
    | .ok real => return if ← real.isDir then some .directory else none
    | .error _ => return none

/-- Copy everything on the way along a path into a machine. -/
def bring (machine : Machine) (path : String) : IO Machine := do
  let path := FilePath.ofText path
  let start := if path.isAbsolute then [] else machine.workingDirectory
  let mut files := machine.files
  for count in [1 : path.names.length + 1] do
    let names := path.names.take count
    if let some node ← nodeAt? ("/" ++ "/".intercalate (start ++ names)) then
      files := files.create start names node
  return { machine with files }

/-- The machine that the program runs on, with the files that the arguments name. -/
def machineFor (arguments : Arguments) : IO Machine := do
  let home := (FilePath.ofText (← IO.currentDir).toString).names
  let machine : Machine :=
    { files := ({} : FileTree).create [] home .directory, workingDirectory := home }
  let machine ← bring machine arguments.source
  match arguments.output with
  | some path => bring machine path
  | none => return machine

/-- Write the output file, if the run changed it. -/
def keepOutput (before after : Machine) (path : String) : IO Unit := do
  if let some bytes := after.bytesAt? path then
    let bytes := bytes.toList
    if (before.bytesAt? path).map Bytes.toList ≠ some bytes then
      IO.FS.writeBinFile path ⟨bytes.toArray⟩

end StorageMedia.CommandLine

open StorageMedia in
/-- Run the program and answer with its status. -/
def main (args : List String) : IO UInt32 := do
  let arguments? := (CommandLine.Arguments.parse args).toOption
  let machine ← match arguments? with
    | some arguments => CommandLine.machineFor arguments
    | none => pure {}
  let execution := CommandLine.run machine args
  (← IO.getStdout).write ⟨execution.output.toList.toArray⟩
  for message in execution.messages do
    IO.eprintln message
  if let some path := arguments?.bind (·.output) then
    CommandLine.keepOutput machine execution.machine path
  return UInt32.ofNat execution.status
