import RecordSmith.Files.Path
import RecordSmith.Text.Lines
import RecordSmith.Text.Quoted
import RecordSmith.Text.Utf8

/-!
# File trees

The files that the program reads and writes, as a value: a tree without links in which every name is
a directory or a file with its bytes.  An action on files gives an answer or a reason why there is
none, and what it has changed before it failed stays changed.
-/

namespace RecordSmith

/-- A place in a file tree: the names on the way to the root, the innermost first. -/
abbrev Location := List Text

/-- What can be at a place. -/
inductive Node where
  | directory
  | file (content : Bytes)
  deriving Repr, DecidableEq

/-- A file tree.  The root is a directory and is not listed. -/
structure FileTree where
  nodes : List (Location × Node) := []
  workingDirectory : Location := []
  deriving Repr

/-- Why a place cannot be used. -/
inductive FileFault where
  | missing
  | occupied
  | notDirectory
  | isDirectory
  | nameTooLong
  deriving Repr, DecidableEq

/-- Why an action on files failed: a fault at a path, a path that no file can have, or contents that
are not UTF-8 or cannot be written as UTF-8. -/
inductive FileError where
  | fault (fault : FileFault) (path : Path)
  | zeroInPath
  | surrogateInPath
  | notUtf8
  | surrogateInContent
  deriving Repr, DecidableEq

/-- The number under which systems know a fault. -/
def FileFault.number : FileFault → Nat
  | missing => 2
  | occupied => 17
  | notDirectory => 20
  | isDirectory => 21
  | nameTooLong => 36

/-- The wording of a fault. -/
def FileFault.wording : FileFault → Text
  | missing => "No such file or directory"
  | occupied => "File exists"
  | notDirectory => "Not a directory"
  | isDirectory => "Is a directory"
  | nameTooLong => "File name too long"

/-- The wording of a fault at a path. -/
def FileFault.message (fault : FileFault) (path : Path) : Text :=
  "[Errno " ++ Text.ofNat fault.number ++ "] " ++ fault.wording ++ ": " ++ path.toText.quoted

namespace FileTree

/-- What is at a place. -/
def lookup? (tree : FileTree) : Location → Option Node
  | [] => some .directory
  | name :: around => tree.nodes.lookup (name :: around)

/-- Puts a node at a place, instead of one that is there. -/
def insert (tree : FileTree) (location : Location) (node : Node) : FileTree :=
  { tree with nodes := (location, node) :: tree.nodes.filter fun entry => entry.1 != location }

/-- The bytes that a name takes; a surrogate of the range U+DC80 to U+DCFF stands for a byte. -/
def nameLength (name : Text) : Nat :=
  let widths := name.map fun c =>
    if c < 0x80 || (0xDC80 ≤ c && c ≤ 0xDCFF) then 1
    else if c < 0x800 then 2
    else if c < 0x10000 then 3
    else 4
  widths.foldl (· + ·) 0

/-- The longest name, in bytes. -/
def maxNameLength : Nat := 255

/-- The longest path, in bytes. -/
def maxPathLength : Nat := 4095

/-- The place that names lead to.  Every place on the way has to be a directory, while the last one
need not be there. -/
def follow (tree : FileTree) : Location → List Text → Except FileFault Location
  | location, [] => .ok location
  | location, name :: rest =>
    match tree.lookup? location with
    | none => .error .missing
    | some (.file _) => .error .notDirectory
    | some .directory =>
      if name == Path.up then follow tree location.tail rest
      else if maxNameLength < nameLength name then .error .nameTooLong
      else follow tree (name :: location) rest

/-- The place that a path leads to. -/
def locate (tree : FileTree) (path : Path) : Except FileFault Location :=
  if maxPathLength < nameLength path.toText then .error .nameTooLong
  else follow tree (if path.isAbsolute then [] else tree.workingDirectory) path.names

/-- What is where a path leads to. -/
def node (tree : FileTree) (path : Path) : Except FileFault Node := do
  match tree.lookup? (← tree.locate path) with
  | some node => .ok node
  | none => .error .missing

/-- A surrogate that no name can hold. -/
def isForbidden (c : CodePoint) : Bool := Text.isSurrogate c && !(0xDC80 ≤ c && c ≤ 0xDCFF)

/-- What is where a path leads to; a path that leads nowhere, or that no file can have, leads to
nothing. -/
def node? (tree : FileTree) (path : Path) : Except FileFault (Option Node) :=
  if path.toText.any fun c => isForbidden c || c == 0 then .ok none
  else
    match tree.node path with
    | .ok node => .ok (some node)
    | .error .nameTooLong => .error .nameTooLong
    | .error _ => .ok none

/-- The names from a place inward to `location`, if it lies below. -/
def below? (around location : Location) : Option (List Text) :=
  if around.isSuffixOf location && location != around then
    some (location.take (location.length - around.length)).reverse
  else none

/-- What is at any depth below a place, each by the names that lead there. -/
def nodesBelow (tree : FileTree) (around : Location) : List (List Text × Node) :=
  tree.nodes.filterMap fun (location, node) =>
    (below? around location).map fun names => (names, node)

/-- The files at any depth below a place, each by the names that lead there. -/
def filesBelow (tree : FileTree) (around : Location) : List (List Text × Bytes) :=
  (tree.nodesBelow around).filterMap fun (names, node) =>
    match node with
    | .file content => some (names, content)
    | .directory => none

end FileTree

/-- An action on files. -/
abbrev FileAction (α : Type) := ExceptT FileError (StateM FileTree) α

namespace FileAction

/-- Gives the answer that the tree determines, with a fault reported at `path`. -/
def query {α : Type} (path : Path) (question : FileTree → Except FileFault α) : FileAction α := do
  match question (← get) with
  | .ok answer => return answer
  | .error fault => throw (.fault fault path)

/-- Refuses a path that no file can have. -/
def checkPath (path : Path) : FileAction Unit :=
  if path.toText.any FileTree.isForbidden then throw .surrogateInPath
  else if path.toText.contains 0 then throw .zeroInPath
  else return ()

/-- What is at a path, if there is anything. -/
def node? (path : Path) : FileAction (Option Node) := query path (·.node? path)

/-- Something is at a path. -/
def pathExists (path : Path) : FileAction Bool := return (← node? path).isSome

/-- A directory is at a path. -/
def isDirectory (path : Path) : FileAction Bool := return (← node? path) == some .directory

/-- The bytes of a file. -/
def readBytes (path : Path) : FileAction Bytes := do
  checkPath path
  match ← query path (·.node path) with
  | .file content => return content
  | .directory => throw (.fault .isDirectory path)

/-- The text of a file, with line feeds for all line endings. -/
def readText (path : Path) : FileAction Text := do
  match Text.ofUtf8? (← readBytes path) with
  | some t => return Text.normalizeNewlines t
  | none => throw .notUtf8

/-- The text of a file that may start with a byte order mark, which is dropped. -/
def readMarkedText (path : Path) : FileAction Text := do
  match Text.ofMarkedUtf8? (← readBytes path) with
  | some t => return Text.normalizeNewlines t
  | none => throw .notUtf8

/-- The place at which a file can be put. -/
def filePlace (tree : FileTree) (path : Path) : Except FileFault Location := do
  let location ← tree.locate path
  match tree.lookup? location with
  | some .directory => .error .isDirectory
  | some (.file _) => .ok location
  | none => .ok location

/-- Writes a file, instead of one that is there.  If the text cannot be written, an empty file is
left. -/
def writeText (path : Path) (t : Text) : FileAction Unit := do
  checkPath path
  let location ← query path (filePlace · path)
  match Text.toUtf8? t with
  | some content => modify (·.insert location (.file content))
  | none =>
    modify (·.insert location (.file []))
    throw .surrogateInContent

/-- The place at which a directory can be made. -/
def directoryPlace (tree : FileTree) (path : Path) : Except FileFault Location := do
  let location ← tree.locate path
  match tree.lookup? location with
  | some _ => .error .occupied
  | none => .ok location

/-- Makes one directory. -/
def makeDirectory (path : Path) : FileAction Unit := do
  checkPath path
  let location ← query path (directoryPlace · path)
  modify (·.insert location .directory)

/-- Accepts a failure to make a directory where there is one. -/
def acceptDirectory (path : Path) (error : FileError) : FileAction Unit := do
  match error with
  | .fault _ _ => if ← isDirectory path then return () else throw error
  | _ => throw error

/-- Makes a directory if there is none, and before it the directories around it that are missing,
which are given by their names from the inside outward. -/
def makeDirectoriesUp (root : Text) : List Text → FileAction Unit
  | [] =>
    let path : Path := { root, names := [] }
    tryCatch (makeDirectory path) (acceptDirectory path)
  | name :: around => do
    let path : Path := { root, names := (name :: around).reverse }
    tryCatch (makeDirectory path) fun error => do
      match error with
      | .fault .missing _ =>
        makeDirectoriesUp root around
        tryCatch (makeDirectory path) (acceptDirectory path)
      | _ => acceptDirectory path error

/-- Makes a directory and the missing ones around it. -/
def makeDirectories (path : Path) : FileAction Unit :=
  makeDirectoriesUp path.root path.names.reverse

end FileAction

end RecordSmith
