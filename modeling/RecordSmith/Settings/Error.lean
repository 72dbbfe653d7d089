import RecordSmith.Files.Tree
import RecordSmith.Settings.Basic
import RecordSmith.Value.Display

/-!
# Reasons to refuse settings

A refusal is either announced, with a message that says what is wrong, or it follows from a value
of a kind for which an operation has no rule, or from one that goes beyond a limit.  Only the first
have a message.
-/

namespace RecordSmith

/-- Why settings cannot be made, read, saved or used. -/
inductive SettingsError where
  /-- A naming case that is none of those that give identifiers, as it is shown. -/
  | invalidCase (setting : Setting) (shown : Text)
  | invalidTypeKeyword (shown : Text)
  | invalidMetadataKey (shown : Text)
  | fileMissing (path : Path)
  | fileNotJson (path : Path)
  /-- A file that is no JSON document; the report says where it stops being one. -/
  | fileMalformed (path : Path) (report : Text)
  | fileUnreadable (path : Path) (fault : FileFault)
  | fileNotObject (path : Path)
  | fileUnwritable (path : Path) (fault : FileFault)
  /-- A key that is no setting, where only settings are expected. -/
  | unknownSetting (key : Text)
  /-- A naming case or keyword that is a list or object. -/
  | choiceNotScalar (value : Value)
  /-- A layer of settings, or what is to become settings, that is no object. -/
  | layerNotObject (value : Value)
  /-- A value without entries, to which an entry was to be added. -/
  | baseNotObject (value : Value)
  /-- A value without options, to which options were to be added. -/
  | optionsNotMergeable (value : Value)
  /-- Options that are no object. -/
  | optionsNotObject (value : Value)
  /-- Options from which no entries can be taken. -/
  | optionsNotEntries (value : Value)
  /-- A part of a list of options that has no parts itself. -/
  | optionNotPair (value : Value)
  /-- A part of a list of options that has a number of parts other than two. -/
  | optionNotTwo (value : Value)
  /-- The key of an option that is not a text. -/
  | optionKeyNotText (value : Value)
  /-- An option with a name that is taken. -/
  | optionReserved (key : Text)
  | suffixesNotIterable (value : Value)
  | suffixNotText (value : Value)
  | markerNotSearchable (value : Value)
  | fileNotUtf8
  | contentNotUtf8
  | pathUnusable (error : FileError)
  | integerTooLong
  | nestedTooDeep
  deriving Repr

namespace SettingsError

/-- The naming cases that give identifiers; kebab case does not. -/
def identifierCases : List NamingCase := [.camel, .pascal, .screamingSnake, .snake]

/-- The keywords that can declare a type. -/
def typeKeywords : List Text := ["class", "record", "record class", "record struct"]

/-- The failure to show a value. -/
def ofDisplay : DisplayFault → SettingsError
  | .integerTooLong => integerTooLong
  | .nestedTooDeep => nestedTooDeep

/-- A refusal that shows a value, or the failure to show it. -/
def refusal (refuse : Text → SettingsError) : Except DisplayFault Text → SettingsError
  | .ok shown => refuse shown
  | .error fault => ofDisplay fault

/-- Names a value that is none of a list of texts. -/
def notOneOf (what shown : Text) (choices : List Text) : Text :=
  "Invalid " ++ what ++ ": " ++ shown ++ ". Expected one of: " ++ Text.join ", " choices

/-- The message of an announced refusal. -/
def message? : SettingsError → Option Text
  | invalidCase setting shown =>
    some (notOneOf setting.key shown (identifierCases.map NamingCase.name))
  | invalidTypeKeyword shown => some (notOneOf "type_keyword" shown typeKeywords)
  | invalidMetadataKey shown => some ("Invalid metadata_key: " ++ shown)
  | fileMissing path => some ("Configuration file not found: " ++ path.toText)
  | fileNotJson path => some ("Configuration file must be JSON: " ++ path.toText)
  | fileMalformed path report =>
    some ("Invalid JSON in configuration file " ++ path.toText ++ ": " ++ report)
  | fileUnreadable path fault =>
    some ("Failed to read configuration file " ++ path.toText ++ ": " ++ fault.message path)
  | fileNotObject path =>
    some ("Configuration file must contain a JSON object: " ++ path.toText)
  | fileUnwritable path fault =>
    some ("Failed to save configuration to " ++ path.toText ++ ": " ++ fault.message path)
  | _ => none

end SettingsError

end RecordSmith
