import StorageMedia.Device.Host
import StorageMedia.ErrorRanges
import StorageMedia.Handle.Session
import StorageMedia.Options

/-! # Device handles

A handle owns at most one open session. It keeps its own offset on the media, the ranges that its
reads gave up and the abort signal. Opening starts over with offset zero, no ranges and no signal;
closing forgets the session, its offset and its ranges but leaves the signal as it is.

Arguments are checked before the state of the handle, so that a malformed call is refused the same
way on an open and on a closed handle.
-/

namespace StorageMedia

/-- A handle on a device that is read from an offset. -/
structure Handle (σ : Type) where
  session : Option (Session σ) := none
  /-- Offset of the next read. -/
  cursor : Nat := 0
  options : Options := {}
  /-- Ranges that the reads of this session gave up. -/
  errors : ErrorRanges := {}
  /-- Whether an abort is signalled. -/
  aborted : Bool := false

namespace Handle

variable {σ : Type}

/-- A closed handle with the given options. -/
def withOptions (options : Options) : Handle σ := { options }

/-- Replace the options, from the next read on. -/
def setOptions (handle : Handle σ) (options : Options) : Handle σ := { handle with options }

def isOpen (handle : Handle σ) : Bool := handle.session.isSome

def filename? (handle : Handle σ) : Option String := handle.session.map (·.path)

/-- Signal the handle to abort the current read, and all later ones until it is opened again. -/
def signalAbort (handle : Handle σ) : Handle σ := { handle with aborted := true }

/-- Begin a session on an opened device. -/
def startSession (handle : Handle σ) (path : String) (device : σ) : Handle σ :=
  { handle with session := some { path, device }, cursor := 0, errors := {}, aborted := false }

def openPath (handle : Handle σ) (host : Host σ) (path mode : String) : Outcome σ (Handle σ) Unit :=
  if path = "" then .refuse (.invalidArgument .emptyPath) handle
  else
    match AccessMode.ofText mode with
    | .error cause => .refuse cause handle
    | .ok .read =>
      if handle.isOpen then .refuse .alreadyOpen handle
      else
        match host.openDevice path with
        | .error error => .refuse (.platform .opening error) handle
        | .ok device =>
          let advice : List (Event σ) :=
            if handle.options.sequentialAccess then
              match host.adviseSequential device with
              | .ok () => []
              | .error error => [.notice (.adviceFailed error)]
            else []
          { result := .ok (), state := handle.startSession path device
            events := advice ++ [.notice (.opened path)] }

/-- Open the handle on a device that is open already; the path only names it. -/
def openDevice (handle : Handle σ) (path : String) (device : σ) : Outcome σ (Handle σ) Unit :=
  if path = "" then .refuse (.invalidArgument .emptyPath) handle
  else if handle.isOpen then .refuse .alreadyOpen handle
  else
    { result := .ok (), state := handle.startSession path device
      events := [.notice (.opened path)] }

def close (handle : Handle σ) : Outcome σ (Handle σ) Unit :=
  match handle.session with
  | none => .refuse .notOpen handle
  | some session =>
    { result := .ok (), state := { handle with session := none, cursor := 0, errors := {} }
      events := [.notice (.closing session.path)] }

def offset (handle : Handle σ) : Outcome σ (Handle σ) Nat :=
  if handle.isOpen then .answer handle.cursor handle else .refuse .notOpen handle

@[simp] theorem isOpen_startSession (handle : Handle σ) (path : String) (device : σ) :
    (handle.startSession path device).isOpen = true := rfl

variable {α : Type} [Device σ]

/-- The handle after an operation on its session: an abort that was signalled on the way stays. -/
def resume (handle : Handle σ) (ran : Outcome σ (Session σ) α) : Handle σ :=
  { handle with
    session := some ran.state
    aborted := handle.aborted || ran.events.any Event.raises }

section Resume

variable (handle : Handle σ) (ran : Outcome σ (Session σ) α)

@[simp] theorem session_resume : (handle.resume ran).session = some ran.state := rfl

@[simp] theorem cursor_resume : (handle.resume ran).cursor = handle.cursor := rfl

@[simp] theorem errors_resume : (handle.resume ran).errors = handle.errors := rfl

@[simp] theorem options_resume : (handle.resume ran).options = handle.options := rfl

/-- An answer that is already known changes nothing. -/
@[simp] theorem resume_answer {β : Type} (value : β) :
    (handle.resume ran).resume (.answer value ran.state) = handle.resume ran := by
  simp [resume, Outcome.answer]

end Resume

/-- Run an operation on the open session. -/
def onSession (handle : Handle σ) (run : Session σ → Outcome σ (Session σ) α) :
    Outcome σ (Handle σ) α :=
  match handle.session with
  | none => .refuse .notOpen handle
  | some session => (run session).mapState fun _ => handle.resume (run session)

/-- A closed handle refuses every operation on its session. -/
theorem onSession_closed {handle : Handle σ} (closed : handle.session = none)
    (run : Session σ → Outcome σ (Session σ) α) :
    handle.onSession run = .refuse .notOpen handle := by
  simp [onSession, closed]

theorem onSession_state {handle : Handle σ} {session : Session σ}
    (opened : handle.session = some session) (run : Session σ → Outcome σ (Session σ) α) :
    (handle.onSession run).state = handle.resume (run session) := by
  simp [onSession, opened, Outcome.mapState]

end Handle

end StorageMedia
