import RecordSmith.Contract.Layout
import RecordSmith.Dataclass.Layout
import RecordSmith.Dataclass.Options
import RecordSmith.Machine
import RecordSmith.Settings.Error
import RecordSmith.Target

/-!
# Generators

A generator is a target language with settings.  The options of the language are checked when the
generator is made; the other settings are looked at when they are needed, and those that cannot be
used stop the generation then.
-/

namespace RecordSmith

/-- The options of a language. -/
inductive LanguageOptions where
  | contract (options : Contract.Options)
  | dataclass (options : Dataclass.Options)
  deriving Repr

/-- The language that the options belong to. -/
def LanguageOptions.target : LanguageOptions → Target
  | contract _ => .csharp
  | dataclass _ => .python

/-- A target language with settings. -/
structure Generator where
  settings : Settings
  options : LanguageOptions
  /-- The machine that it runs on. -/
  machine : Machine := {}
  deriving Repr

/-- What a machine is short of. -/
inductive Shortage where
  /-- Memory for an indent. -/
  | memory (width : Int)
  /-- What it takes to show a value. -/
  | display (fault : DisplayFault)
  deriving Repr

/-- Why a setting cannot be used. -/
inductive GenerationError where
  /-- A value that is no naming case, as it is shown. -/
  | unknownCase (shown : Text)
  | indentNotNumber (value : Value)
  /-- An indent with a width that no size can express. -/
  | indentNotCountable (width : Int)
  | lineEndingNotText (value : Value)
  /-- A setting that the machine is too small for. -/
  | outgrown (shortage : Shortage)
  deriving Repr

namespace GenerationError

/-- An indent that cannot be stored, for the shortage that it meets. -/
@[match_pattern] abbrev indentNotStorable (shortage : Shortage) : GenerationError :=
  outgrown shortage

/-- The message of an announced error. -/
def message? : GenerationError → Option Text
  | unknownCase shown => some ("Unknown naming case: " ++ shown)
  | _ => none

end GenerationError

namespace LanguageOptions

/-- The name under which an option cannot be given. -/
def reservedKey : Text := "self"

/-- The refusal of a type keyword. -/
def keywordError (value : Value) : SettingsError :=
  if value.isScalar then .refusal .invalidTypeKeyword (value.displayPlain 0)
  else .choiceNotScalar value

/-- The options that the entries of a setting choose. -/
def ofEntries (target : Target) (entries : Entries) (machine : Machine := {}) :
    Except SettingsError LanguageOptions :=
  if (entries.get? reservedKey).isSome then .error (.optionReserved reservedKey)
  else
    match target with
    | .csharp =>
      match Contract.Options.ofEntries entries with
      | .ok options => .ok (.contract options)
      | .error value => .error (keywordError value)
    | .python =>
      match Dataclass.Options.ofEntries entries with
      | .ok options => .ok (.dataclass options)
      | .error value => .error (.refusal .invalidMetadataKey (value.display machine.shownDepth))

/-- The options that settings choose.  None of them can be a stray one. -/
def ofSettings (target : Target) (settings : Settings) (machine : Machine := {}) :
    Except SettingsError LanguageOptions :=
  match settings.languageOptions, settings.strayOptions with
  | .object entries, [] => ofEntries target entries machine
  | .object _, (key, _) :: _ => .error (.optionKeyNotText key)
  | other, _ => .error (.optionsNotObject other)

end LanguageOptions

namespace Generator

/-- A generator with settings. -/
def build (target : Target) (settings : Settings) (machine : Machine := {}) :
    Except SettingsError Generator := do
  return { settings, machine, options := ← LanguageOptions.ofSettings target settings machine }

/-- The language of the generator. -/
def target (generator : Generator) : Target := generator.options.target

/-- The naming case that a setting holds. -/
def namingCase (generator : Generator) (setting : Setting) : Except GenerationError NamingCase :=
  let value := generator.settings.get setting
  match value.text?.bind NamingCase.ofName? with
  | some target => .ok target
  | none =>
    match value.displayPlain generator.machine.shownDepth with
    | .ok shown => .error (.unknownCase shown)
    | .error fault => .error (.outgrown (.display fault))

/-- Widths of this size and above cannot be expressed. -/
def countLimit : Nat := Nat.pow 2 63

/-- An indent of some width; none for a negative width. -/
def indentOfWidth (machine : Machine) (width : Int) : Except GenerationError Text :=
  if width < -(countLimit : Int) || (countLimit : Int) ≤ width then
    .error (.indentNotCountable width)
  else if machine.holds width then .ok (List.replicate width.toNat 0x20)
  else .error (.indentNotStorable (.memory width))

/-- The indent that the settings hold; a truth value counts as a number. -/
def indent (generator : Generator) : Except GenerationError Text :=
  match generator.settings.indentSize with
  | .integer width => indentOfWidth generator.machine width
  | .boolean wide => indentOfWidth generator.machine (if wide then 1 else 0)
  | other => .error (.indentNotNumber other)

/-- The line ending that the settings hold. -/
def lineEnding (generator : Generator) : Except GenerationError Text :=
  match generator.settings.lineEnding with
  | .text t => .ok t
  | other => .error (.lineEndingNotText other)

/-- The settings ask for comments. -/
def comments (generator : Generator) : Bool := generator.settings.addComments.isTruthy

/-- The parts of the source of a type, with an indent. -/
def layout (generator : Generator) (indent : Text) (type : TypeDeclaration) : Layout.Source :=
  match generator.options with
  | .contract options =>
    let style : Contract.Style :=
      { comments := generator.comments, nullableContext := options.nullableContext.isTruthy,
        typeKeyword := options.typeKeyword, indent }
    { header := Contract.header style type
      members := type.members.map (Contract.memberLines style)
      footer := Contract.footer }
  | .dataclass options =>
    let style : Dataclass.Style :=
      { comments := generator.comments, slots := options.slots, metadataKey := options.metadataKey,
        indent }
    { header := Dataclass.header style type
      members := type.members.map (Dataclass.memberLines style)
      footer := Dataclass.footer }

/-- The parts of the source of a type. -/
def lay (generator : Generator) (type : TypeDeclaration) :
    Except GenerationError Layout.Source := do
  return generator.layout (← generator.indent) type

/-- Cleans up a source text with the line ending of the settings. -/
def cleanUp (generator : Generator) (t : Text) : Except GenerationError Text := do
  return Layout.cleanUp (← generator.lineEnding) t

/-- The source text of a type. -/
def source (generator : Generator) (type : TypeDeclaration) : Except GenerationError Text := do
  generator.cleanUp (← generator.lay type).assemble

/-- The name under which the source of a type is stored: namespace, type, marker and extension. -/
def artifactName (generator : Generator) (space typeName : Text) : Text :=
  let marker := generator.settings.artifactMarker
  space ++ "." ++ typeName ++ (if marker.isTruthy then "." ++ marker.plainExpression else []) ++
    generator.target.extension

/-- Refuses a marker that cannot be shown, so that there is no name with it. -/
def checkMarker (generator : Generator) : Except GenerationError Unit :=
  match generator.settings.artifactMarker.displayFault? generator.machine.shownDepth with
  | none => .ok ()
  | some fault => .error (.outgrown (.display fault))

end Generator

end RecordSmith
