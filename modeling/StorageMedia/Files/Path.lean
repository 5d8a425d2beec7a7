import StorageMedia.IoError

/-! # Paths

A path is a sequence of names, from the root of the file system or from the working directory. A
slash at its end says that it must lead to a directory. Texts that no file system takes as a path
are refused before anything is looked up.
-/

namespace StorageMedia

/-- Names to follow, one after the other. -/
structure FilePath where
  isAbsolute : Bool
  names : List String
  /-- Whether a slash ends the path. -/
  endsInSlash : Bool := false
deriving DecidableEq, Repr

namespace FilePath

/-- Largest number of bytes in a path, with its terminator. -/
def maximumSize : Nat := 4096

/-- Largest number of bytes in a name. -/
def maximumNameSize : Nat := 255

/-- Split a text at its slashes. The names come in reverse order and may be empty. -/
def splitReversed : List Char → List Char → List (List Char) → List (List Char)
  | [], name, names => name.reverse :: names
  | c :: rest, name, names =>
    if c = '/' then splitReversed rest [] (name.reverse :: names)
    else splitReversed rest (c :: name) names

/-- The path that a text stands for. Empty names between slashes lead nowhere else. -/
def ofText (text : String) : FilePath :=
  let characters := text.toList
  let names := (splitReversed characters [] []).reverse.filter (!·.isEmpty)
  { isAbsolute := characters.head? == some '/'
    names := names.map String.ofList
    endsInSlash := characters.getLast? == some '/' }

/-- Check that a text can be a path at all. -/
def check (text : String) : Except IoError FilePath :=
  if text.toList.any (·.toNat == 0) then .error .nulInPath
  else if text = "" then .error (.system SystemError.noEntry)
  else if maximumSize ≤ text.utf8ByteSize then .error (.system SystemError.nameTooLong)
  else .ok (ofText text)

/-- The names to follow, with a last step that only a directory allows when a slash ends the path. -/
def steps (path : FilePath) : List String :=
  if path.endsInSlash then path.names ++ ["."] else path.names

end FilePath

end StorageMedia
