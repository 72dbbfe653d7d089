import RecordSmith.CommandLine.Run

/-!
# The program

The outer layer of the program.  It takes the named files and directories into a file tree, runs
the program on that, prints what it printed and writes the files that it changed.  There is no
client for URLs, so that every request for one ends without a connection.
-/

namespace RecordSmith.CommandLine

/-- A text as a string. -/
def toString (t : Text) : String := String.ofList (t.map Char.ofNat)

/-- The path from the root to a place. -/
def placeName (location : Location) : String :=
  "/" ++ toString (Text.join "/" location.reverse)

/-- Takes what is at a place into a tree, unless it is there already.  The answer says whether it is
a directory. -/
def captureNode (tree : FileTree) (location : Location) (content : Bool) :
    IO (FileTree × Bool) := do
  let place := (← IO.currentDir) / placeName location
  if ← place.isDir then
    return (if (tree.lookup? location).isSome then tree else tree.insert location .directory, true)
  if (tree.lookup? location).isSome || !(← place.pathExists) then return (tree, false)
  let bytes ← if content then IO.FS.readBinFile place else pure .empty
  return (tree.insert location (.file bytes.toList), false)

/-- Takes what is at a place and, if `depth` is not used up, in the directory there into a tree. -/
def captureBelow (content : Bool) : (depth : Nat) → FileTree → Location → IO FileTree
  | 0, tree, location => return (← captureNode tree location content).1
  | depth + 1, tree, location => do
    let (tree, isDirectory) ← captureNode tree location content
    if !isDirectory then return tree
    let place := (← IO.currentDir) / placeName location
    (← place.readDir).foldlM
      (fun tree entry => captureBelow content depth tree (Text.ofString entry.fileName :: location))
      tree

/-- Takes the directories on the way along names into a tree, and what is at the end and below. -/
def captureAlong (content : Bool) (depth : Nat) (tree : FileTree) (location : Location) :
    List Text → IO FileTree
  | [] => captureBelow content depth tree location
  | name :: rest => do
    let (tree, isDirectory) ← captureNode tree location content
    if !isDirectory then return tree
    captureAlong content depth tree
      (if name == Path.up then location.tail else name :: location) rest

/-- Takes the directories on the way along a path into a tree, and what is at the end and below. -/
def capture (content : Bool) (depth : Nat) (tree : FileTree) (path : Text) : IO FileTree :=
  let path := Path.ofText path
  captureAlong content depth tree (if path.isAbsolute then [] else tree.workingDirectory) path.names

/-- The tree without files, and the directory in which the program runs. -/
def emptyTree : IO FileTree := do
  let path := Path.ofText (Text.ofString (← IO.currentDir).toString)
  let workingDirectory := path.names.reverse
  captureAlong false 0 { workingDirectory } [] path.names

/-- The directory to which a request writes. -/
def outputDirectory (request : GenerateRequest) (files : FileTree) : Option Text := do
  let settings ← (request.settings files).toOption
  settings.outputDirectory.text?

/-- The files that matter for a request. -/
def captureFor (request : GenerateRequest) : IO FileTree := do
  let tree ← (request.paths ++ request.settingsFile.toList).foldlM
    (capture true FileTree.maxPathLength) (← emptyTree)
  (outputDirectory request tree).toList.foldlM (capture false 1) tree

/-- The files that matter for arguments. -/
def captureFiles (arguments : List Text) : IO FileTree :=
  match Request.read arguments with
  | .ok { generate := some request, .. } => captureFor request
  | _ => emptyTree

/-- Writes what is at a place of a tree. -/
def writeNode (location : Location) (node : Node) : IO Unit := do
  let place := (← IO.currentDir) / placeName location
  match node with
  | .directory => IO.FS.createDirAll place
  | .file content => IO.FS.writeBinFile place ⟨content.toArray⟩

/-- Writes what differs between two trees, the directories from the outside inward. -/
def writeChanges (before after : FileTree) : IO Unit :=
  after.nodes.reverse.forM fun (location, node) => do
    if before.lookup? location != some node then writeNode location node

/-- The status that an ending gives to the system. -/
def Ending.status : Ending → Nat
  | returned status => status
  | stopped status => status
  | failed _ => 1

/-- What is said of an ending that the run itself had no message for. -/
def Ending.note : Ending → List Text
  | failed _ => [Command.programName ++ ": the run failed"]
  | _ => []

/-- Prints what a run printed and writes what it changed. -/
def settle (before : FileTree) (run : Run) : IO UInt32 := do
  run.output.forM fun line => IO.println (toString line)
  (run.errors ++ run.ending.note).forM fun line => IO.eprintln (toString line)
  writeChanges before run.files
  return run.ending.status.toUInt32

end RecordSmith.CommandLine

open RecordSmith in
/-- Runs the program on the arguments that it was called with. -/
def main (arguments : List String) : IO UInt32 := do
  let arguments := arguments.map Text.ofString
  let files ← CommandLine.captureFiles arguments
  CommandLine.settle files (CommandLine.run (fun _ => .noConnection) files arguments)
