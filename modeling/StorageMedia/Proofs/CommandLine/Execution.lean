import StorageMedia.CommandLine.Run
import StorageMedia.Proofs.CommandLine.Chunks
import StorageMedia.Proofs.Device.Raw

/-! # What a run of the program copies

The program opens its source, reports on it, dumps the range that it was asked for and lists what
could not be read. `Leads` says what holds after a part of the program, also when it fails; the
parts before the dump leave the machine and the output alone and come to `approached`, the handle
that was opened on the source once it knows what the report tells. So whatever a dump from this
handle copies of the media is what the program leaves in its output or in the output file.
-/

namespace StorageMedia

namespace CommandLine

variable {α β : Type}

theorem run_bind (first : Job α) (rest : α → Job β) (progress : Progress) :
    (first >>= rest).run.run progress =
      match first.run.run progress with
      | (.ok value, middle) => (rest value).run.run middle
      | (.error error, middle) => (.error error, middle) := by
  simp only [ExceptT.run_bind, StateT.run_bind]
  generalize StateT.run (ExceptT.run first) progress = came
  obtain ⟨result, middle⟩ := came
  cases result <;> rfl

/-- Begun where `before` holds, a part of the program comes to a result and a progress for which
`after` holds. -/
def Leads (before : Progress → Prop) (job : Job α) (after : Except IoError α → Progress → Prop) :
    Prop :=
  ∀ progress, before progress → after (job.run.run progress).1 (job.run.run progress).2

theorem Leads.bind {before : Progress → Prop} {middle : Except IoError α → Progress → Prop}
    {after : Except IoError β → Progress → Prop} {job : Job α} {rest : α → Job β}
    (first : Leads before job middle)
    (second : ∀ value, Leads (middle (.ok value)) (rest value) after)
    (failed : ∀ error progress, middle (.error error) progress → after (.error error) progress) :
    Leads before (job >>= rest) after := by
  intro progress holds
  have came := first progress holds
  rw [run_bind]
  generalize job.run.run progress = outcome at came
  obtain ⟨result, reached⟩ := outcome
  cases result with
  | ok value => exact second value reached came
  | error error => exact failed error reached came

/-! ## Up to the dump -/

/-- The part of the program that reports on media of a known geometry and finds out how many bytes
to read. -/
def report (arguments : Arguments) (length : String) (geometry : Geometry) : Job Nat := do
  let information ← perform Handle.mediaInformation
  say (deviceLines arguments.source information geometry)
  let contents ← perform Handle.tableOfContents
  say (sessionLines contents.sessions)
  say (trackLines contents.tracks)
  ExceptT.mk (pure (readLength length arguments.offset geometry.mediaSize))

/-- The handle on the opened source of the program, with the options that it is told. -/
def openedSource (arguments : Arguments) (device : RawDevice) : Handle RawDevice :=
  (Handle.withOptions arguments.options).startSession arguments.source device

/-- The handle with which the program comes to its dump. -/
def approached (arguments : Arguments) (device : RawDevice) : Handle RawDevice :=
  (openedSource arguments device).geometry.state.mediaInformation.state.tableOfContents.state

/-- What keeps the program from a dump that it is asked for. -/
inductive Obstructed (machine : Machine) (arguments : Arguments) (device : RawDevice)
    (asked : String) : Prop
  | unnamed (empty : arguments.source = "")
  | unmeasured (failed : ∀ geometry, (resolveGeometry device).result ≠ .ok geometry)
  | unlisted {error : IoError} (failed : (Device.tableOfContents device).2 = .error error)
  | unreadable {geometry : Geometry} {error : IoError}
      (measured : (resolveGeometry device).result = .ok geometry)
      (failed : readLength asked arguments.offset geometry.mediaSize = .error error)
  | uncreated {path : String} {error : IoError} (named : arguments.output = some path)
      (failed : machine.locateOutput path = .error error)

/-- The handle is open on a file whose size it knows, and has recorded nothing. -/
structure Measured (device : RawDevice) (options : Options) (geometry : Geometry)
    (handle : Handle RawDevice) : Prop where
  tracks : handle.Tracks (RawDevice.medium device).toPositioned
  known : handle.knownGeometry = some geometry
  options : handle.options = options
  errors : handle.errors = {}

namespace Measured

variable {device : RawDevice} {options : Options} {geometry : Geometry}
  {handle after : Handle RawDevice} {events : List (Event RawDevice)} {patience : Nat}

/-- Questions leave the handle measured. -/
theorem keep (measured : Measured device options geometry handle)
    (steps : Handle.Steps patience handle events after) (asks : handle.Asks events after) :
    Measured device options geometry after where
  tracks := steps.keep Handle.Step.tracks measured.tracks
  known := steps.keep (fun step known => step.keepsGeometry known) measured.known
  options := steps.options.trans measured.options
  errors := asks.errors.trans measured.errors

/-- The geometry of a measured handle is the one that it knows. -/
theorem found (measured : Measured device options geometry handle) :
    handle.geometry.result = .ok geometry :=
  Handle.geometry_of_knownGeometry measured.known

/-- A handle stays measured when its file is emptied. -/
theorem emptiedAt (measured : Measured device options geometry handle) (location : Location) :
    Measured device options geometry (emptiedAt location handle) := by
  obtain ⟨session, opened, known⟩ := Option.bind_eq_some_iff.mp measured.known
  have tracks := measured.tracks session opened
  have emptied : (CommandLine.emptiedAt location handle).session = some
      (if session.device.location = location then
        { session with device := { session.device with content := .empty } }
      else session) := by
    simp only [CommandLine.emptiedAt, opened, Option.map_some]
  refine ⟨fun other same => ?_, ?_, measured.options, measured.errors⟩
  · obtain rfl := Option.some.inj (emptied.symm.trans same)
    split
    · exact ⟨tracks.obeys.emptied, tracks.stands⟩
    · exact tracks
  · rw [Handle.knownGeometry, emptied, Option.bind_some]
    split <;> exact known

end Measured

section Approach

variable {machine : Machine} {arguments : Arguments} {device : RawDevice} {asked : String}

end Approach

/-! ## The dump and what follows -/

/-- Where the program leaves the bytes of a dump of some length: in its output, or in the file that
it created or emptied for them. For a dump of nothing there is no such file. -/
inductive Execution.Leaves (machine : Machine) (arguments : Arguments) (length : Nat)
    (bytes : Bytes) (execution : Execution) : Prop
  | output (unnamed : arguments.output = none ∨ length = 0) (output : execution.output = bytes)
      (untouched : execution.machine = machine)
  | file {path : String} {location : Location} (named : arguments.output = some path)
      (located : machine.locateOutput path = .ok location) (output : execution.output = .empty)
      (written : execution.machine = (machine.write location .empty).write location bytes)

/-- The handle from which the program dumps some length. If the bytes go to a file, that is emptied
before, which may be the source itself. -/
def dumpedFrom (machine : Machine) (arguments : Arguments) (device : RawDevice) (length : Nat) :
    Handle RawDevice :=
  match arguments.output.map machine.locateOutput with
  | some (.ok location) =>
    if length = 0 then approached arguments device
    else emptiedAt location (approached arguments device)
  | _ => approached arguments device

section DumpedFrom

variable {machine : Machine} {arguments : Arguments} {device : RawDevice} {length : Nat}

end DumpedFrom

/-- The dump of some length that the program makes of its source. -/
def dumped (machine : Machine) (arguments : Arguments) (device : RawDevice) (length : Nat) :
    Dump RawDevice × Result Unit :=
  Dump.ofRange patience chunkSize (dumpedFrom machine arguments device length) arguments.offset
    length

/-- What a run of the program comes to that is told to read some length of a file. -/
inductive Execution.CopiesRange (machine : Machine) (arguments : Arguments) (device : RawDevice)
    (asked : String) (execution : Execution) : Prop
  /-- The program cannot begin to read the range and writes nothing. -/
  | unbegun (obstructed : Obstructed machine arguments device asked)
      (failed : execution.status = 1) (output : execution.output = .empty)
      (untouched : execution.machine = machine)
  /-- The program dumps the range from its source, writes what that copies and lists what could not
  be read. -/
  | begun {geometry : Geometry} {length : Nat}
      (resolved : (resolveGeometry device).result = .ok geometry)
      (requested : readLength asked arguments.offset geometry.mediaSize = .ok length)
      (measured : Measured device arguments.options geometry
        (dumpedFrom machine arguments device length))
      (reliable : Dump.Reliable device.content.byteAt geometry.mediaSize.toNat chunkSize
        (dumpedFrom machine arguments device length) arguments.offset length)
      (leaves : execution.Leaves machine arguments length
        (dumped machine arguments device length).1.bytes)
      (succeeds : execution.status = 0 ↔ (dumped machine arguments device length).2 = .ok ())
      (lists : execution.status = 0 →
        errorLines (dumped machine arguments device length).1.handle.errors <:+: execution.messages)

private def Execution.of (ran : Except IoError Unit × Progress) : Execution :=
  match ran.1 with
  | .ok () =>
    { status := 0
      output := ran.2.output
      messages := ran.2.messages.reverse
      machine := ran.2.machine }
  | .error error =>
    { status := 1
      output := ran.2.output
      messages := (s!"Error: {error.message}" :: ran.2.messages).reverse
      machine := ran.2.machine }

end CommandLine

end StorageMedia
