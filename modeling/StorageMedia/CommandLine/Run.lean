import StorageMedia.CommandLine.Arguments
import StorageMedia.CommandLine.Dump
import StorageMedia.CommandLine.Report
import StorageMedia.Files.Machine

/-! # Running a command line

The program opens its source, reports on it, dumps the range that it was asked for and lists what
could not be read. Messages are the report and, when they are asked for, the facts that operations
report in between; the first failure becomes the last message. `run` gives what the program prints
and what it leaves behind on the machine.
-/

namespace StorageMedia.CommandLine

def programName : String := "smdevinfo"

def version : String := "0.1.0"

def usage : String := s!"Usage: {programName} [OPTIONS] <SOURCE>"

/-- Number of bytes that a dump reads at once. -/
def chunkSize : Nat := 1024 * 1024

/-- Interruptions that a read waits out. -/
def patience : Nat := 0x1_0000_0000

/-- What a run of the program comes to. -/
structure Execution where
  /-- Zero for success, one for a failure, two for arguments that make no sense. -/
  status : Nat
  output : Bytes := .empty
  messages : List String := []
  /-- The machine afterwards. -/
  machine : Machine

/-- The program on its way. -/
structure Progress where
  machine : Machine
  verbose : Bool
  handle : Handle RawDevice
  output : Bytes := .empty
  /-- Messages, last message first. -/
  messages : List String := []

/-- A part of the program. -/
abbrev Job := ExceptT IoError (StateM Progress)

def say (lines : List String) : Job Unit :=
  modify fun progress => { progress with messages := lines.reverseAux progress.messages }

/-- Print messages that were asked for. -/
def remark (lines : List String) : Job Unit := do
  if (← get).verbose then say lines

/-- Pass the answer of an operation on. -/
def settle {α : Type} : Result α → Job α
  | .ok value => return value
  | .error cause => throw cause.toIo
  | .pending => throw (.custom .interrupted "device interrupts every read")

def perform {α : Type}
    (operation : Handle RawDevice → Outcome RawDevice (Handle RawDevice) α) : Job α := do
  let outcome := operation (← get).handle
  modify fun progress => { progress with handle := outcome.state }
  remark (Event.lines outcome.events)
  settle outcome.result

/-- Number of bytes to read. -/
def readLength (length : String) (offset : Nat) (mediaSize : UInt64) : Except IoError Nat :=
  if length = "all" then .ok (mediaSize.toNat - offset)
  else
    match Text.readNumber maxOffset length with
    | .ok length => .ok length
    | .error fault =>
      .error (.custom .invalidInput
        s!"invalid length {Text.quote length}: {fault.message}")

/-- A handle whose device sees that the file at a location was emptied. -/
def emptiedAt (location : Location) (handle : Handle RawDevice) : Handle RawDevice :=
  { handle with
    session := handle.session.map fun session =>
      if session.device.location = location then
        { session with device := { session.device with content := .empty } }
      else session }

/-- Create or empty the output file. -/
def createOutput (path : String) : Job Location := do
  let location ← ExceptT.mk (pure ((← get).machine.locateOutput path))
  modify fun progress =>
    { progress with
      machine := progress.machine.write location .empty
      handle := emptiedAt location progress.handle }
  return location

/-- Dump a range to the output file, or to the output of the program. -/
def dump (arguments : Arguments) (length : Nat) : Job Unit := do
  if length = 0 then remark ["Nothing to read (length is 0)"]
  else
    let location? ← arguments.output.mapM createOutput
    let (dump, result) :=
      Dump.ofRange patience chunkSize (← get).handle arguments.offset length
    modify fun progress =>
      match location? with
      | some location =>
        { progress with handle := dump.handle, machine := progress.machine.write location dump.bytes }
      | none => { progress with handle := dump.handle, output := dump.bytes }
    remark (Event.lines dump.events)
    settle result
    remark ["", s!"Read {dump.total} bytes at offset {arguments.offset}"]
    if let some path := arguments.output then remark [s!"Output written to: {path}"]

/-- The whole program. -/
def job (arguments : Arguments) : Job Unit := do
  let host := (← get).machine.host
  perform (·.openPath host arguments.source "r")
  let geometry ← perform Handle.geometry
  let information ← perform Handle.mediaInformation
  say (deviceLines arguments.source information geometry)
  let contents ← perform Handle.tableOfContents
  say (sessionLines contents.sessions)
  say (trackLines contents.tracks)
  if let some length := arguments.length then
    let length ← ExceptT.mk (pure (readLength length arguments.offset geometry.mediaSize))
    dump arguments length
  say (errorLines (← get).handle.errors)
  perform Handle.close

/-- Options of the handle that the program works with. -/
def Arguments.options (arguments : Arguments) : Options where
  tolerateErrors := arguments.tolerateErrors
  errorRetries := arguments.retries
  errorGranularity := arguments.granularity
  zeroOnError := arguments.zeroOnError

def execute (machine : Machine) (arguments : Arguments) : Execution :=
  let start : Progress :=
    { machine, verbose := arguments.verbose, handle := .withOptions arguments.options }
  let (result, progress) := (job arguments).run.run start
  match result with
  | .ok () =>
    { status := 0
      output := progress.output
      messages := progress.messages.reverse
      machine := progress.machine }
  | .error error =>
    { status := 1
      output := progress.output
      messages := (s!"Error: {error.message}" :: progress.messages).reverse
      machine := progress.machine }

/-- Run a command line on a machine. -/
def run (machine : Machine) (arguments : List String) : Execution :=
  match Arguments.parse arguments with
  | .ok arguments => execute machine arguments
  | .error .version =>
    { status := 0, output := .ofText s!"{programName} {version}\n", machine }
  | .error .help => { status := 0, output := .ofText s!"{usage}\n", machine }
  | .error .usage => { status := 2, messages := [usage], machine }

end StorageMedia.CommandLine
