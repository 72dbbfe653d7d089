import RecordSmith.Batch.Generate
import RecordSmith.Console.Markup
import RecordSmith.Console.Listing
import RecordSmith.Console.Table
import RecordSmith.Loading.Documents
import RecordSmith.Registry

/-!
# Sessions

A run of the program prints lines, changes files and ends with a status, or it breaks off with a
failure that the program has no message for.  What has been printed or written before stays.
-/

namespace RecordSmith.CommandLine

/-- Why a run breaks off. -/
inductive Failure where
  /-- A message that closes a tag which is not open. -/
  | unmatchedTag
  /-- The output directory of the settings is not a text. -/
  | outputNotText (value : Value)
  | settings (error : SettingsError)
  | registry (error : RegistryError)
  | loading (error : LoadError)
  | batch (error : BatchError)
  | storing (error : FileError)
  deriving Repr

/-- What a run has printed, and the files as it has left them. -/
structure Transcript where
  lines : List Text := []
  files : FileTree
  deriving Repr

/-- A part of a run. -/
abbrev Session (α : Type) := ExceptT Failure (StateM Transcript) α

namespace Session

/-- The number of cells in a line of the terminal. -/
def width : Nat := 200

/-- The files as they are. -/
def files : Session FileTree := return (← get).files

/-- Prints lines as they are. -/
def printLines (lines : List Text) : Session Unit :=
  modify fun transcript => { transcript with lines := transcript.lines ++ lines }

/-- Prints an empty line. -/
def printEmpty : Session Unit := printLines [[]]

/-- The text that a message shows. -/
def plain (message : Text) : Session Text :=
  match Console.Markup.plain? message with
  | some t => return t
  | none => throw .unmatchedTag

/-- Prints a message with markup. -/
def print (message : Text) : Session Unit := do
  printLines (Console.wrap width .fold (← plain message))

/-- Prints a table.  Its cells are messages with markup. -/
def printTable (table : Console.Table) : Session Unit := do
  let title ← plain table.title
  let columns ← table.columns.mapM plain
  let rows ← table.rows.mapM fun row => row.mapM plain
  printLines (Console.Table.lines { table with title, columns, rows } width)

/-- Prints a panel, whose content is a message with markup. -/
def printPanel (panel : Console.Panel) : Session Unit := do
  let title ← plain panel.title
  let content ← plain panel.content
  printLines (Console.Panel.lines { title, content } width)

/-- Prints a source text. -/
def printSource (source : Text) : Session Unit := printLines (Console.listing width source)

/-- Does an action on files. -/
def withFiles {α : Type} (action : FileAction α) : Session (Except FileError α) := do
  let (answer, files) := action.run (← files)
  modify fun transcript => { transcript with files }
  return answer

/-- The answer that is there, or a failure. -/
def orFail {α ε : Type} (failure : ε → Failure) (answer : Except ε α) : Session α :=
  match answer with
  | .ok value => return value
  | .error error => throw (failure error)

end Session

end RecordSmith.CommandLine
