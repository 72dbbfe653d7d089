import RecordSmith.Json.Reader
import RecordSmith.Json.Writer
import RecordSmith.Settings.Layers
import RecordSmith.Settings.Warnings

/-!
# Catalogs of default settings

A catalog holds the default settings of each language.  The settings for a language are its
defaults, under those of a settings file, under overrides.
-/

namespace RecordSmith

namespace Value

/-- Puts each pair of surrogates together that stands in a row. -/
def joinPairs : Text → Text
  | [] => []
  | [c] => [c]
  | c :: d :: rest =>
    if Json.isHighSurrogate c && Json.isLowSurrogate d then
      Json.joinSurrogates c d :: joinPairs rest
    else c :: joinPairs (d :: rest)

mutual

/-- The value that a JSON document for this value reads as. -/
def settle : Value → Value
  | text t => .text (joinPairs t)
  | list items => .list (settleItems items)
  | object entries => .object (Entries.ofList (settleEntries entries))
  | value => value

/-- The items that a JSON document reads as. -/
def settleItems : List Value → List Value
  | [] => []
  | item :: rest => settle item :: settleItems rest

/-- The entries that a JSON document reads as. -/
def settleEntries : List (Text × Value) → Entries
  | [] => []
  | (key, value) :: rest => (joinPairs key, settle value) :: settleEntries rest

end

end Value

/-- The default settings of each language, by its name, and the machine on which settings are made
from them. -/
structure Catalog where
  defaults : Value
  machine : Machine := {}
  deriving Repr

namespace Catalog

/-- The defaults of C#. -/
def contractDefaults : Entries :=
  [("type_case", .text "pascal"), ("field_case", .text "pascal"),
    ("namespace_case", .text "pascal"),
    ("language_config",
      .object [("nullable_context", .boolean true), ("type_keyword", .text "record")])]

/-- The defaults of Python. -/
def dataclassDefaults : Entries :=
  [("type_case", .text "pascal"), ("field_case", .text "snake"),
    ("namespace_case", .text "snake"),
    ("language_config",
      .object [("dataclass_slots", .boolean true), ("metadata_key", .text "avro_name")])]

/-- The catalog of the built-in languages. -/
def builtin : Catalog where
  defaults := .object [("csharp", .object contractDefaults), ("python", .object dataclassDefaults)]

/-- The catalog of the built-in languages on some machine. -/
def builtinOn (machine : Machine) : Catalog := { builtin with machine }

/-- The catalog with other defaults, unless these count as not set. -/
def ofDefaults (defaults : Value) : Catalog :=
  if defaults.isTruthy then { defaults := defaults.settle } else builtin

/-- The languages with defaults. -/
def languages (catalog : Catalog) : List Value := (Settings.parts? catalog.defaults).getD []

/-- The defaults of a language; a language without defaults has no entries. -/
def defaultsOf (catalog : Catalog) (language : Option Text) : Except SettingsError Value :=
  match catalog.defaults with
  | .object entries => .ok ((Entries.get? entries (language.getD [])).getD (.object []))
  | other => .error (.layerNotObject other)

/-- The refusal that follows from a failure to read a settings file. -/
def readError : FileError → SettingsError
  | .fault fault path => .fileUnreadable path fault
  | .notUtf8 => .fileNotUtf8
  | error => .pathUnusable error

/-- The object that a JSON text holds. -/
def settingsOfJson (path : Path) (t : Text) : Except SettingsError Entries :=
  match Json.read t with
  | .ok (.object entries) => .ok entries
  | .ok _ => .error (.fileNotObject path)
  | .error (.defect defect offset) => .error (.fileMalformed path (Json.locate t defect offset))
  | .error .integerTooLong => .error .integerTooLong
  | .error .nestedTooDeep => .error .nestedTooDeep

/-- The suffix of settings files. -/
def fileSuffix : Text := ".json"

/-- Reads a settings file: an object in a JSON document. -/
def readSettings (files : FileTree) (path : Path) : Except SettingsError Entries :=
  match (FileAction.pathExists path).run files with
  | (.error error, _) => .error (.pathUnusable error)
  | (.ok false, _) => .error (.fileMissing path)
  | (.ok true, _) =>
    if Text.toLower path.suffix != fileSuffix then .error (.fileNotJson path)
    else
      match (FileAction.readText path).run files with
      | (.error error, _) => .error (readError error)
      | (.ok t, _) => settingsOfJson path t

/-- The layer of a settings file; there is none if no path or an empty one is given. -/
def fileLayer (files : FileTree) (file : Option Text) : Except SettingsError Value :=
  match file with
  | none => .ok (.object [])
  | some [] => .ok (.object [])
  | some path => (readSettings files (Path.ofText path)).map .object

/-- The layer of overrides; what counts as not set is empty. -/
def overrideLayer (overrides : Value) : Value :=
  if overrides.isTruthy then overrides else .object []

/-- The settings for a language with those of a file and overrides over its defaults. -/
def settings (catalog : Catalog) (files : FileTree) (language : Option Text := none)
    (overrides : Value := .null) (file : Option Text := none) : Except SettingsError Settings := do
  let defaults ← catalog.defaultsOf language
  let layered ← Settings.mergeValues defaults (← fileLayer files file)
  let layered ← Settings.mergeValues layered (overrideLayer overrides)
  let settings ← Settings.ofValue layered
  let _ ← settings.warnings catalog.machine
  return settings

end Catalog

namespace Settings

/-- The stray options, each under the text that its key is written as. -/
def strayEntries (settings : Settings) : Entries :=
  settings.strayOptions.map fun option => (Json.write option.1, option.2)

/-- The settings with the stray options behind the others. -/
def withStrayEntries (settings : Settings) : Settings :=
  match settings.languageOptions with
  | .object options =>
    { settings with languageOptions := .object (options ++ settings.strayEntries) }
  | _ => settings

/-- The settings as entries, copied level by level. -/
def copied (settings : Settings) (machine : Machine := {}) : Except SettingsError Entries :=
  let entries := settings.withStrayEntries.toEntries
  if machine.savedDepth < (Value.object entries).nesting then .error .nestedTooDeep
  else .ok entries

/-- The settings as a JSON document. -/
def document (settings : Settings) (machine : Machine := {}) : Except SettingsError Text := do
  let entries ← settings.copied machine
  if Value.entriesHoldLong entries || settings.strayOptions.any (·.1.holdsLong) then
    throw .integerTooLong
  return Json.write (.object entries)

/-- The refusal that follows from a failure to write a settings file. -/
def writeError : FileError → SettingsError
  | .fault fault path => .fileUnwritable path fault
  | .surrogateInContent => .contentNotUtf8
  | error => .pathUnusable error

/-- Saves settings as a JSON document.  Nothing is written unless there is one. -/
def save (settings : Settings) (path : Path) (machine : Machine := {}) :
    ExceptT SettingsError (StateM FileTree) Unit :=
  match settings.document machine with
  | .ok t => (FileAction.writeText path t).adapt writeError
  | .error error => throw error

end Settings

end RecordSmith
