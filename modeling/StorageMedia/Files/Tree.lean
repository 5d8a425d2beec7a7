import StorageMedia.Device.Content
import StorageMedia.Files.Path

/-! # File trees

A file tree says what stands at each location, where a location is the list of names that lead
there from the root without symbolic links. `FileTree.find` follows a path to a location as the
system does: it goes through symbolic links, up to a limit, and fails with the error of the first
name that leads nowhere.
-/

namespace StorageMedia

/-- What stands at a location. -/
inductive Node
  | file (content : Content)
  | directory
  /-- A symbolic link. -/
  | link (target : FilePath)
  /-- The device that takes everything and gives nothing. -/
  | nullDevice

/-- Names that lead from the root to a node, without symbolic links on the way. -/
abbrev Location := List String

/-- Nodes by location. The root itself is always a directory. -/
structure FileTree where
  entries : List (Location × Node) := []

namespace FileTree

/-- Number of symbolic links that a path may go through. -/
def maximumLinks : Nat := 40

def node? (tree : FileTree) (location : Location) : Option Node :=
  if location.isEmpty then some .directory
  else (tree.entries.find? (·.1 == location)).map (·.2)

def put (tree : FileTree) (location : Location) (node : Node) : FileTree :=
  ⟨(location, node) :: tree.entries.filter (·.1 != location)⟩

/-- Follow names from a location, through at most `links` symbolic links. -/
def find (tree : FileTree) (links : Nat) (location : Location) : List String → Except IoError Location
  | [] => .ok location
  | name :: rest =>
    match tree.node? location with
    | some .directory =>
      if name = "." then tree.find links location rest
      else if name = ".." then tree.find links location.dropLast rest
      else if FilePath.maximumNameSize < name.utf8ByteSize then
        .error (.system SystemError.nameTooLong)
      else
        match tree.node? (location ++ [name]) with
        | none => .error (.system SystemError.noEntry)
        | some (.link target) =>
          match links with
          | 0 => .error (.system SystemError.tooManyLinks)
          | links + 1 =>
            tree.find links (if target.isAbsolute then [] else location) (target.steps ++ rest)
        | some _ => tree.find links (location ++ [name]) rest
    | _ => .error (.system SystemError.notDirectory)
termination_by names => (links, names.length)

/-- Location that a path leads to from a directory. -/
def resolve (tree : FileTree) (directory : Location) (path : FilePath) : Except IoError Location :=
  tree.find maximumLinks (if path.isAbsolute then [] else directory) path.steps

/-- Bytes of the file that names lead to from a location, if there is one. -/
def read? (tree : FileTree) (location : Location) (names : List String) : Option (List UInt8) :=
  match tree.find maximumLinks location names with
  | .error _ => none
  | .ok found =>
    match tree.node? found with
    | some (.file content) => some content.toList
    | _ => none

/-- Whether names lead somewhere from a location. -/
def leadsSomewhere (tree : FileTree) (location : Location) (names : List String) : Bool :=
  match tree.find maximumLinks location names with
  | .ok _ => true
  | .error _ => false

/-- Make the directories that names lead through, as far as they are missing. The second part is
where the names lead, if all of them are directories. -/
def makeDirectories (tree : FileTree) (location : Location) : List String → FileTree × Option Location
  | [] => (tree, some location)
  | name :: rest =>
    match tree.find maximumLinks location [name] with
    | .ok found =>
      match tree.node? found with
      | some .directory => tree.makeDirectories found rest
      | _ => (tree, none)
    | .error _ =>
      let made := location ++ [name]
      match tree.node? made with
      | none => (tree.put made .directory).makeDirectories made rest
      | some _ => (tree, none)

/-- Put a node where names lead from a location, and make the directories on the way. A file
replaces the file that stands there; links and directories leave what stands there alone. -/
def create (tree : FileTree) (location : Location) (names : List String) (node : Node) : FileTree :=
  match tree.makeDirectories location names.dropLast, names.getLast? with
  | (tree, some parent), some name =>
    match node, tree.find maximumLinks parent [name] with
    | .file content, .ok found => tree.put found (.file content)
    | _, .ok _ => tree
    | node, .error _ =>
      match tree.node? (parent ++ [name]) with
      | none => tree.put (parent ++ [name]) node
      | some _ => tree
  | (tree, _), _ => tree

/-- A location that was put can be looked up. -/
theorem node?_put {tree : FileTree} {location : Location} (node : Node) (below : location ≠ []) :
    (tree.put location node).node? location = some node := by
  have nonempty : location.isEmpty = false := by simpa using below
  simp [node?, put, nonempty]

/-- Putting a node leaves what stands elsewhere alone. -/
theorem node?_put_of_ne {tree : FileTree} {location other : Location} (node : Node)
    (elsewhere : other ≠ location) : (tree.put location node).node? other = tree.node? other := by
  have skipped : (location == other) = false := by simpa using elsewhere.symm
  simp only [node?, put, List.find?_cons, skipped, List.find?_filter]
  congr 3
  funext entry
  by_cases same : entry.1 = other
  · simp [same, elsewhere]
  · simp [same]

/-- Following no names stays where it is. -/
@[simp] theorem find_nil (tree : FileTree) (links : Nat) (location : Location) :
    tree.find links location [] = .ok location := by
  rw [find]

end FileTree

end StorageMedia
