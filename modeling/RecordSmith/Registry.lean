import RecordSmith.Generator.Template
import RecordSmith.Settings.Catalog

/-!
# Registries of languages

A registry knows languages by name and by alias.  Names are compared in lower case.  A registered
language keeps its entry until it is replaced or removed, and an alias belongs to the language that
took it last.
-/

namespace RecordSmith

/-- A registered language. -/
structure RegistryEntry where
  name : Text
  target : Target
  aliases : List Text
  deriving Repr, DecidableEq

/-- The registered languages and the language that each alias stands for. -/
structure Registry where
  languages : List RegistryEntry := []
  aliases : List (Text × Text) := []
  deriving Repr, DecidableEq

/-- Why a registry refuses. -/
inductive RegistryError where
  | notAGenerator
  | aliasIsLanguage (name : Text)
  | aliasTaken (name owner : Text)
  | unknownLanguage (language : Text) (available : List Text)
  /-- An alias for a language that is not there. -/
  | danglingAlias (language : Text)
  | invalidSettings (value : Value)
  /-- Settings that do not fit the language, which is named as it was asked for. -/
  | creationFailed (language : Text) (reason : SettingsError)
  deriving Repr

/-- The message of an announced refusal. -/
def RegistryError.message? : RegistryError → Option Text
  | notAGenerator => some "Generator class must inherit from CodeGenerator"
  | aliasIsLanguage name =>
    some ("Alias '" ++ name ++ "' conflicts with existing primary language")
  | aliasTaken name owner =>
    some ("Alias '" ++ name ++ "' already points to '" ++ owner ++ "'")
  | unknownLanguage language available =>
    some ("No generator registered for language: " ++ language ++ ". Available: " ++
      Text.join ", " available)
  | danglingAlias _ => none
  | invalidSettings value =>
    some ("Invalid config type: <class '" ++ value.kindName ++ "'>")
  | creationFailed language reason =>
    reason.message?.map fun message =>
      "Failed to create " ++ language ++ " generator: " ++ message

namespace Registry

/-- The entry of a language. -/
def entry? (registry : Registry) (name : Text) : Option RegistryEntry :=
  registry.languages.find? (·.name == name)

/-- The language that an alias stands for. -/
def aliasTarget? (registry : Registry) (name : Text) : Option Text := registry.aliases.lookup name

/-- The languages by name, in order. -/
def languageNames (registry : Registry) : List Text :=
  (registry.languages.map RegistryEntry.name).mergeSort Text.le

/-- The aliases as they are registered for a language: in lower case, in order, each once, and
without the language itself. -/
def aliasKeys (name : Text) (aliases : List Text) : List Text :=
  Text.sortUnique ((aliases.map Text.toLower).filter (· != name))

/-- Refuses an alias that is a language or, unless entries are replaced, belongs to another one. -/
def checkAlias (registry : Registry) (name : Text) (replace : Bool) (key : Text) :
    Except RegistryError Unit :=
  if (registry.entry? key).isSome then .error (.aliasIsLanguage key)
  else
    match registry.aliasTarget? key with
    | none => .ok ()
    | some owner =>
      if owner != name && !replace then .error (.aliasTaken key owner) else .ok ()

/-- Removes a language, and those of its aliases that still stand for it. -/
def unregister (registry : Registry) (language : Text) : Registry :=
  match registry.entry? (Text.toLower language) with
  | none => registry
  | some entry =>
    { languages := registry.languages.filter fun other => other.name != entry.name
      aliases := registry.aliases.filter fun (key, owner) =>
        !(entry.aliases.contains key && owner == entry.name) }

/-- Makes an alias stand for a language. -/
def setAlias (aliases : List (Text × Text)) (name key : Text) : List (Text × Text) :=
  (key, name) :: aliases.filter fun entry => entry.1 != key

/-- Adds an entry for a language that is not registered. -/
def insert (registry : Registry) (entry : RegistryEntry) : Registry :=
  { languages := registry.languages ++ [entry]
    aliases := entry.aliases.foldl (fun aliases key => setAlias aliases entry.name key)
      registry.aliases }

/-- Registers a language.  What is to generate its code may turn out to be no generator.  An entry
that exists is kept unless it is to be replaced. -/
def register (registry : Registry) (language : Text) (generator : Option Target)
    (aliases : List Text := []) (replace : Bool := false) : Except RegistryError Registry := do
  let some target := generator | throw .notAGenerator
  let name := Text.toLower language
  if (registry.entry? name).isSome && !replace then return registry
  let keys := aliasKeys name aliases
  keys.forM (registry.checkAlias name replace)
  let registry := if replace then registry.unregister name else registry
  return registry.insert { name, target, aliases := keys }

/-- The name of the language that a name or alias stands for. -/
def resolve (registry : Registry) (language : Text) : Except RegistryError Text :=
  let key := Text.toLower language
  if (registry.entry? key).isSome then .ok key
  else
    match registry.aliasTarget? key with
    | some name => .ok name
    | none => .error (.unknownLanguage language registry.languageNames)

/-- The entry that a name or alias stands for. -/
def find (registry : Registry) (language : Text) : Except RegistryError RegistryEntry := do
  let name ← registry.resolve language
  match registry.entry? name with
  | some entry => return entry
  | none => throw (.danglingAlias name)

/-- The aliases registered for a language; an alias has none of its own. -/
def aliasesOf (registry : Registry) (language : Text) : List Text :=
  ((registry.entry? (Text.toLower language)).map RegistryEntry.aliases).getD []

/-- The name is registered, as a language or as an alias. -/
def isSupported (registry : Registry) (language : Text) : Bool :=
  let key := Text.toLower language
  (registry.entry? key).isSome || (registry.aliasTarget? key).isSome

end Registry

/-- Where the settings of a new generator come from. -/
inductive SettingsSource where
  /-- Settings that are used as they are. -/
  | given (settings : Settings)
  /-- Overrides of the defaults, the path of a settings file, or a value that is neither. -/
  | layered (value : Value)
  deriving Repr

/-- The settings from a source, for a language of a catalog. -/
def SettingsSource.settings (source : SettingsSource) (catalog : Catalog) (files : FileTree)
    (language : Text) : Except SettingsError Settings :=
  match source with
  | given settings => .ok settings
  | layered (.text path) => catalog.settings files language .null path
  | layered value => catalog.settings files language value

/-- The value can be a source of settings: null, an object or the path of a file. -/
def SettingsSource.isUsable : SettingsSource → Bool
  | given _ => true
  | layered .null => true
  | layered (.object _) => true
  | layered (.text _) => true
  | layered _ => false

/-- What is shown about a language. -/
structure LanguageInfo where
  target : Target
  aliases : List Text
  settings : Settings
  deriving Repr

namespace Registry

/-- The registry of the built-in languages. -/
def builtin : Registry :=
  { languages :=
      [{ name := "csharp", target := .csharp, aliases := ["c#", "cs"] },
        { name := "python", target := .python, aliases := ["py"] }]
    aliases := [("cs", "csharp"), ("c#", "csharp"), ("py", "python")] }

/-- Makes a generator for a language. -/
def create (registry : Registry) (catalog : Catalog) (files : FileTree) (language : Text)
    (source : SettingsSource := .layered .null) : Except RegistryError Generator := do
  let entry ← registry.find language
  match source with
  | .given settings =>
    (Generator.build entry.target settings catalog.machine).mapError (.creationFailed language)
  | .layered value =>
    if !(SettingsSource.layered value).isUsable then throw (.invalidSettings value)
    let made : Except SettingsError Generator := do
      Generator.build entry.target (← source.settings catalog files entry.name) catalog.machine
    made.mapError (.creationFailed language)

/-- What is shown about a language. -/
def info (registry : Registry) (catalog : Catalog) (files : FileTree) (language : Text) :
    Except RegistryError LanguageInfo := do
  let name ← registry.resolve language
  let generator ← registry.create catalog files name
  return {
    target := generator.target
    aliases := registry.aliasesOf name
    settings := generator.settings }

end Registry

namespace Target

/-- The name under which the generator of a language is shown. -/
def generatorName : Target → Text
  | csharp => "CSharpGenerator"
  | python => "PythonGenerator"

/-- The module that is shown for the generator of a language. -/
def moduleName (target : Target) : Text :=
  "avsc_codegen.codegen.languages." ++ target.name ++ ".generator"

end Target

end RecordSmith
