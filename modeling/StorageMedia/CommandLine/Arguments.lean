import StorageMedia.Offset
import StorageMedia.Text.Number

/-! # Arguments of the command line

The command line names one source and sets options. Arguments are read from left to right; the
first one that asks for the version or for help, or that makes no sense, decides. An option takes
its value from the same argument, after an equals sign or, for a one-letter option, right behind
the letter, or else from the next argument, which then must not look like an option. After two
dashes everything is a source.
-/

namespace StorageMedia.CommandLine

/-- What the program is told to do. -/
structure Arguments where
  source : String
  offset : Nat := 0
  length : Option String := none
  verbose : Bool := false
  output : Option String := none
  tolerateErrors : Bool := false
  retries : UInt8 := 2
  granularity : Nat := 0
  zeroOnError : Bool := false
  noEscalate : Bool := false
deriving DecidableEq, Repr

/-- Why the program does not start. -/
inductive Stop
  | version
  | help
  | usage
deriving DecidableEq, Repr

/-- Options with a value. -/
inductive Setting
  | offset
  | length
  | output
  | retries
  | granularity
deriving DecidableEq, Repr

/-- Options without a value. -/
inductive Switch
  | verbose
  | tolerateErrors
  | zeroOnError
  | noEscalate
  | version
  | help
deriving DecidableEq, Repr

inductive Flag
  | setting (setting : Setting)
  | switch (switch : Switch)
deriving DecidableEq, Repr

/-- The option of a name behind two dashes. -/
def Flag.ofName? (name : String) : Option Flag :=
  [("offset", setting .offset), ("length", setting .length), ("output", setting .output),
   ("retries", setting .retries), ("granularity", setting .granularity),
   ("verbose", switch .verbose), ("tolerate-errors", switch .tolerateErrors),
   ("zero-on-error", switch .zeroOnError), ("no-escalate", switch .noEscalate),
   ("version", switch .version), ("help", switch .help)].lookup name

/-- The option of a letter behind one dash. -/
def Flag.ofLetter? (letter : Char) : Option Flag :=
  [('o', setting .offset), ('l', setting .length), ('O', setting .output),
   ('v', switch .verbose), ('V', switch .version), ('h', switch .help)].lookup letter

/-- What was read so far; nothing may be given twice. -/
structure Draft where
  source : Option String := none
  offset : Option Nat := none
  length : Option String := none
  output : Option String := none
  retries : Option UInt8 := none
  granularity : Option Nat := none
  verbose : Bool := false
  tolerateErrors : Bool := false
  zeroOnError : Bool := false
  noEscalate : Bool := false
deriving DecidableEq, Repr

/-- A number of at most `largest`, or a usage error. -/
def readOffset (largest : Nat) (value : String) : Except Stop Nat :=
  match Text.readNumber largest value with
  | .ok number => .ok number
  | .error _ => .error .usage

/-- A number of retries. Unlike other numbers it may have a minus sign, which only zero survives. -/
def readRetries (value : String) : Except Stop UInt8 :=
  match value.toList with
  | '-' :: digit :: digits =>
    match Text.readDigits 0 0 (digit :: digits) with
    | .ok _ => .ok 0
    | .error _ => .error .usage
  | _ => (readOffset 255 value).map UInt8.ofNat

/-- Keep a first value and refuse a second one. -/
def once {α : Type} (given : Option α) (value : α) : Except Stop (Option α) :=
  match given with
  | none => .ok (some value)
  | some _ => .error .usage

/-- Turn a switch on and refuse to do so twice. -/
def onceOn (given : Bool) : Except Stop Bool := if given then .error .usage else .ok true

namespace Draft

def set (draft : Draft) (setting : Setting) (value : String) : Except Stop Draft :=
  match setting with
  | .offset => do
    let offset ← once draft.offset (← readOffset maxOffset value)
    return { draft with offset }
  | .length => do
    let length ← once draft.length value
    return { draft with length }
  | .output =>
    if value = "" then .error .usage
    else do
      let output ← once draft.output value
      return { draft with output }
  | .retries => do
    let retries ← once draft.retries (← readRetries value)
    return { draft with retries }
  | .granularity => do
    let granularity ← once draft.granularity (← readOffset maxOffset value)
    return { draft with granularity }

def turnOn (draft : Draft) (switch : Switch) : Except Stop Draft :=
  match switch with
  | .verbose => (onceOn draft.verbose).map fun verbose => { draft with verbose }
  | .tolerateErrors =>
    (onceOn draft.tolerateErrors).map fun tolerateErrors => { draft with tolerateErrors }
  | .zeroOnError => (onceOn draft.zeroOnError).map fun zeroOnError => { draft with zeroOnError }
  | .noEscalate => (onceOn draft.noEscalate).map fun noEscalate => { draft with noEscalate }
  | .version => .error .version
  | .help => .error .help

def setSource (draft : Draft) (value : String) : Except Stop Draft :=
  if value = "" then .error .usage
  else do
    let source ← once draft.source value
    return { draft with source }

def finish (draft : Draft) : Except Stop Arguments :=
  match draft.source with
  | none => .error .usage
  | some source =>
    .ok
      { source
        offset := draft.offset.getD 0
        length := draft.length
        verbose := draft.verbose
        output := draft.output
        tolerateErrors := draft.tolerateErrors
        retries := draft.retries.getD 2
        granularity := draft.granularity.getD 0
        zeroOnError := draft.zeroOnError
        noEscalate := draft.noEscalate }

end Draft

/-- How the next argument is to be read. -/
inductive Expecting
  | any
  /-- The value of an option. -/
  | value (setting : Setting)
  /-- A source. -/
  | source
deriving DecidableEq, Repr

/-- Whether an argument is taken for an option. -/
def looksLikeOption : List Char → Bool
  | '-' :: _ :: _ => true
  | _ => false

/-- Read the letters of an argument with one dash. -/
def readLetters (draft : Draft) : List Char → Except Stop (Draft × Expecting)
  | [] => .ok (draft, .any)
  | letter :: rest =>
    match Flag.ofLetter? letter with
    | none => .error .usage
    | some (.switch switch) => do
      let draft ← draft.turnOn switch
      readLetters draft rest
    | some (.setting setting) =>
      match rest with
      | [] => .ok (draft, .value setting)
      | '=' :: value => (draft.set setting (String.ofList value)).map (·, .any)
      | value => (draft.set setting (String.ofList value)).map (·, .any)

def readName (draft : Draft) (argument : List Char) : Except Stop (Draft × Expecting) :=
  let name := argument.takeWhile (· != '=')
  match Flag.ofName? (String.ofList name), argument.drop name.length with
  | none, _ => .error .usage
  | some (.switch switch), [] => (draft.turnOn switch).map (·, .any)
  | some (.switch _), _ => .error .usage
  | some (.setting setting), [] => .ok (draft, .value setting)
  | some (.setting setting), _ :: value => (draft.set setting (String.ofList value)).map (·, .any)

def readArgument (draft : Draft) (expecting : Expecting) (argument : String) :
    Except Stop (Draft × Expecting) :=
  match expecting with
  | .source => (draft.setSource argument).map (·, .source)
  | .value setting =>
    if looksLikeOption argument.toList then .error .usage
    else (draft.set setting argument).map (·, .any)
  | .any =>
    match argument.toList with
    | ['-', '-'] => .ok (draft, .source)
    | '-' :: '-' :: name => readName draft name
    | '-' :: letter :: letters => readLetters draft (letter :: letters)
    | _ => (draft.setSource argument).map (·, .any)

def readArguments (draft : Draft) (expecting : Expecting) : List String → Except Stop Arguments
  | [] =>
    match expecting with
    | .value _ => .error .usage
    | _ => draft.finish
  | argument :: rest => do
    let (draft, expecting) ← readArgument draft expecting argument
    readArguments draft expecting rest

/-- The arguments of a command line. -/
def Arguments.parse (arguments : List String) : Except Stop Arguments :=
  readArguments {} .any arguments

end StorageMedia.CommandLine
