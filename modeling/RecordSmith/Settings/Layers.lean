import RecordSmith.Settings.Error

/-!
# Layers of settings

Settings are put together from layers, the later ones winning.  A layer is an object.  Its language
options are merged into those below it, one by one, while every other entry replaces the one below.
Entries that are no settings become language options when all layers are in place.
-/

namespace RecordSmith.Settings

/-- Puts one entry of a layer over what is below. -/
def mergeEntry (base : Entries) (entry : Text × Value) : Except SettingsError Entries :=
  match entry with
  | (key, .object options) =>
    if key == Setting.languageOptions.key then
      match (base.get? key).getD (.object []) with
      | .object current => .ok (base.set key (.object (Entries.setAll current options)))
      | other => .error (.optionsNotMergeable other)
    else .ok (base.set key (.object options))
  | (key, value) => .ok (base.set key value)

/-- Puts a layer over what is below. -/
def merge (base layer : Entries) : Except SettingsError Entries := layer.foldlM mergeEntry base

/-- Puts one entry over a value that is no object. -/
def mergeEntryInto (base : Value) (entry : Text × Value) : SettingsError :=
  if entry.1 == Setting.languageOptions.key && entry.2.entries?.isSome then
    .optionsNotMergeable base
  else .baseNotObject base

/-- Puts a value over a value. -/
def mergeValues (base layer : Value) : Except SettingsError Value :=
  match base, layer with
  | .object entries, .object changes => (merge entries changes).map .object
  | _, .object [] => .ok base
  | _, .object (entry :: _) => .error (mergeEntryInto base entry)
  | _, _ => .error (.layerNotObject layer)

/-- The two values in a part of a list of options. -/
def optionPair (part : Value) : Except SettingsError (Value × Value) :=
  match part with
  | .list [key, value] => .ok (key, value)
  | .text [key, value] => .ok (.text [key], .text [value])
  | .object [(key, _), (value, _)] => .ok (.text key, .text value)
  | .list _ => .error (.optionNotTwo part)
  | .text _ => .error (.optionNotTwo part)
  | .object _ => .error (.optionNotTwo part)
  | _ => .error (.optionNotPair part)

/-- Adds an option given as a part of a list. -/
def addOption (options : List (Value × Value)) (part : Value) :
    Except SettingsError (List (Value × Value)) := do
  let (key, value) ← optionPair part
  if key.isScalar then return options ++ [(key, value)] else throw (.choiceNotScalar key)

/-- The options that a value gives, which can be an object or a list of pairs.  What does not count
as set gives none. -/
def optionsOfValue (value : Value) : Except SettingsError (List (Value × Value)) :=
  if !value.isTruthy then .ok []
  else
    match value with
    | .object entries => .ok (entries.map fun entry => (.text entry.1, entry.2))
    | .list parts => parts.foldlM addOption []
    | .text (c :: _) => .error (.optionNotTwo (.text [c]))
    | other => .error (.optionsNotEntries other)

/-- The options whose keys are texts. -/
def textOptions (options : List (Value × Value)) : List (Text × Value) :=
  options.filterMap fun option => option.1.text?.map fun key => (key, option.2)

/-- The options whose keys are no texts, each with its last value. -/
def otherOptions (options : List (Value × Value)) : List (Value × Value) :=
  (options.filter fun option => option.1.text?.isNone).foldl
    (fun result option => setStray option.1 option.2 result) []

/-- The cases that generated identifiers can have. -/
def isIdentifierCase (value : Value) : Bool :=
  ((value.text?.bind NamingCase.ofName?).map SettingsError.identifierCases.contains).getD false

/-- Refuses a naming case that gives no identifiers. -/
def checkCase (settings : Settings) (setting : Setting) : Except SettingsError Unit :=
  let value := settings.get setting
  if !value.isScalar then .error (.choiceNotScalar value)
  else if isIdentifierCase value then .ok ()
  else .error (.refusal (.invalidCase setting) (value.displayPlain 0))

/-- The settings that are naming cases. -/
def caseSettings : List Setting := [.typeCase, .fieldCase, .namespaceCase]

/-- The settings, if their naming cases give identifiers. -/
def checked (settings : Settings) : Except SettingsError Settings := do
  caseSettings.forM settings.checkCase
  return settings

/-- Changes the setting that an entry names, if it names one. -/
def putEntry (settings : Settings) (entry : Text × Value) : Settings :=
  match Setting.ofKey? entry.1 with
  | some setting => settings.put entry.2 setting
  | none => settings

/-- Settings from entries each of which has to name a setting. -/
def ofArguments (arguments : Entries) : Except SettingsError Settings :=
  match arguments.find? fun entry => (Setting.ofKey? entry.1).isNone with
  | some (key, _) => .error (.unknownSetting key)
  | none => checked (arguments.foldl putEntry {})

/-- The entries that name no setting: options of the language. -/
def extraOptions (entries : Entries) : Entries :=
  entries.filter fun entry => (Setting.ofKey? entry.1).isNone

/-- Settings from entries; those that name no setting become language options. -/
def ofEntries (entries : Entries) : Except SettingsError Settings := do
  let declared ← optionsOfValue ((entries.get? Setting.languageOptions.key).getD .null)
  let settings ← checked (entries.foldl putEntry {})
  return { settings with
    languageOptions :=
      .object (Entries.setAll (Entries.ofList (textOptions declared)) (extraOptions entries))
    strayOptions := otherOptions declared }

/-- Settings from a value, which has to be an object. -/
def ofValue (value : Value) : Except SettingsError Settings :=
  match value with
  | .object entries => ofEntries entries
  | other => .error (.layerNotObject other)

end RecordSmith.Settings
