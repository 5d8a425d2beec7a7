import StorageMedia.Handle.Operation

/-! # A console for one handle

A console works on one handle at a time. It can replace the handle by a freshly opened one, it
keeps named abort signals that were taken from the current handle or from one before it, and it has
a switch that shows or hides what operations report. A signal that was taken from a replaced handle
no longer reaches any read, but it stays readable.
-/

namespace StorageMedia

/-- Commands of a console. -/
inductive Command (σ : Type)
  | perform (operation : Operation σ)
  /-- Replace the handle by a new one with default options, opened at a path. -/
  | replace (path : String)
  | takeSignal (name : String)
  | raiseSignal (name : String)
  | readSignal (name : String)
  | setVerbose (verbose : Bool)
  | isVerbose

/-- A handle with everything that is kept beside it. -/
structure Console (σ : Type) where
  handle : Handle σ := {}
  /-- Named signals, each with the number of the handle that it was taken from. -/
  signals : List (String × Nat) := []
  /-- Abort signals of the handles that were replaced, by the number of the handle. The current
  handle has the next number. -/
  retired : List Bool := []
  verbose : Bool := false

namespace Console

variable {σ : Type}

/-- Whether a named signal is raised, if there is one of that name. -/
def signal? (console : Console σ) (name : String) : Option Bool :=
  (console.signals.lookup name).map fun number =>
    console.retired[number]?.getD console.handle.aborted

/-- Raise a named signal, on the handle that it was taken from. -/
def raise (console : Console σ) (name : String) : Console σ :=
  match console.signals.lookup name with
  | none => console
  | some number =>
    if number < console.retired.length then
      { console with retired := console.retired.set number true }
    else { console with handle := console.handle.signalAbort }

variable [Device σ]

/-- Run a command. The console afterwards holds the handle of the response. -/
def run (host : Host σ) (patience : Nat) (console : Console σ) :
    Command σ → Response σ × Console σ
  | .perform operation =>
    let response := operation.apply host patience console.handle
    (response, { console with handle := response.outcome.state })
  | .replace path =>
    let opened := (Handle.withOptions {}).openPath host path "r"
    match opened.result with
    | .ok () =>
      (.of opened fun _ => .unit,
        { console with
          handle := opened.state
          retired := console.retired ++ [console.handle.aborted] })
    | _ => (.of { opened with state := console.handle } fun _ => .unit, console)
  | .takeSignal name =>
    (.look console.handle .unit,
      { console with signals := (name, console.retired.length) :: console.signals })
  | .raiseSignal name =>
    (.look (console.raise name).handle .unit, console.raise name)
  | .readSignal name =>
    (.look console.handle (.bool ((console.signal? name).getD false)), console)
  | .setVerbose verbose => (.look console.handle .unit, { console with verbose })
  | .isVerbose => (.look console.handle (.bool console.verbose), console)

/-- Lines of text that a response shows on the console that ran it. -/
def shown (console : Console σ) (response : Response σ) : List String :=
  if console.verbose then Event.lines response.outcome.events else []

/-- The console and the response always agree on the handle. -/
theorem run_handle (host : Host σ) (patience : Nat) (console : Console σ) (command : Command σ) :
    (console.run host patience command).2.handle =
      (console.run host patience command).1.outcome.state := by
  cases command with
  | replace path =>
    simp only [run]
    split <;> rfl
  | _ => rfl

end Console

end StorageMedia
