import RecordSmith.Text.Basic

/-!
# Paths

A path is a row of names behind an optional root.  Empty names and single full stops are dropped
when a path is read; two full stops are kept, because where they lead depends on the files.
-/

namespace RecordSmith

/-- A path of a file or directory.  A path without root is relative to the working directory; two
slashes, but not three, are a root of their own. -/
structure Path where
  root : Text := []
  names : List Text
  deriving Repr, DecidableEq

namespace Path

/-- The slash, which separates names. -/
def separator : CodePoint := 0x2F

/-- The name of the directory itself. -/
def here : Text := "."

/-- The name of the directory around. -/
def up : Text := ".."

/-- The root that a text starts with. -/
def rootOf (t : Text) : Text :=
  match (t.takeWhile (· == separator)).length with
  | 0 => []
  | 2 => "//"
  | _ => "/"

/-- Reads a path. -/
def ofText (t : Text) : Path :=
  { root := rootOf t
    names := (Text.splitOn (· == separator) t).filter fun name => !name.isEmpty && name != here }

/-- The path as it is written. -/
def toText (path : Path) : Text :=
  match path.root ++ Text.join [separator] path.names with
  | [] => here
  | t => t

/-- The path starts at a root. -/
def isAbsolute (path : Path) : Bool := !path.root.isEmpty

/-- The path `other` seen from the directory `path`. -/
def join (path other : Path) : Path :=
  if other.isAbsolute then other else { path with names := path.names ++ other.names }

/-- The last name; empty if there is none. -/
def name (path : Path) : Text := path.names.getLast?.getD []

/-- The path without its last name. -/
def parent (path : Path) : Path := { path with names := path.names.dropLast }

/-- A name cut before its last full stop, if that is neither its first nor its last character. -/
def splitSuffix (name : Text) : Text × Text :=
  match Text.splitLast? 0x2E name with
  | some (stem, suffix) =>
    if stem.isEmpty || suffix.isEmpty then (name, []) else (stem, 0x2E :: suffix)
  | none => (name, [])

/-- The last name without its suffix. -/
def stem (path : Path) : Text := (splitSuffix path.name).1

/-- The suffix of the last name, with its full stop. -/
def suffix (path : Path) : Text := (splitSuffix path.name).2

/-- What paths are ordered by: the root, if there is one, and the names. -/
def key (path : Path) : List Text :=
  if path.isAbsolute then path.root :: path.names else path.names

/-- Order of rows of texts by the first place where they differ. -/
def keyLe : List Text → List Text → Bool
  | [], _ => true
  | _ :: _, [] => false
  | s :: ss, t :: ts => if s == t then keyLe ss ts else Text.le s t

/-- The order of paths, name by name. -/
def le (path other : Path) : Bool := keyLe path.key other.key

/-- Paths in increasing order, each once. -/
def sortUnique (paths : List Path) : List Path := paths.eraseDups.mergeSort le

end Path

end RecordSmith
