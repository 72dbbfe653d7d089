import RecordSmith.Machine
import RecordSmith.Settings.Error

/-!
# Questionable settings

Settings that can be used but are probably a mistake are pointed out by warnings.
-/

namespace RecordSmith

/-- A questionable setting. -/
inductive SettingsWarning where
  | noSuffixes
  | suffixWithoutStop (suffix : Text)
  /-- An artifact marker, as it is shown. -/
  | invalidMarker (shown : Text)
  deriving Repr

/-- The wording of a warning. -/
def SettingsWarning.message : SettingsWarning → Text
  | noSuffixes => "No schema suffixes configured; no files will be read"
  | suffixWithoutStop suffix => "Schema suffix should start with '.': " ++ suffix
  | invalidMarker shown => "Invalid artifact_marker: " ++ shown

namespace Settings

/-- The parts of a value: the items of a list, the characters of a text, the keys of an object. -/
def parts? : Value → Option (List Value)
  | .list items => some items
  | .text t => some (t.map fun c => .text [c])
  | .object entries => some (entries.map fun entry => .text entry.1)
  | _ => none

/-- The warning about one suffix. -/
def suffixWarning (suffix : Value) : Except SettingsError (List SettingsWarning) :=
  match suffix with
  | .text t => .ok (if t.head? == some 0x2E then [] else [.suffixWithoutStop t])
  | other => .error (.suffixNotText other)

/-- The warnings about the suffixes. -/
def suffixWarnings (suffixes : Value) : Except SettingsError (List SettingsWarning) :=
  match parts? suffixes with
  | none => .error (.suffixesNotIterable suffixes)
  | some items => do
    let missing := if suffixes.isTruthy then [] else [SettingsWarning.noSuffixes]
    return missing ++ (← items.mapM suffixWarning).flatten

/-- The artifact marker holds a slash. -/
def hasSlash : Value → Option Bool
  | .text t => some (t.contains 0x2F)
  | .list items => some (items.any fun item => item.equal (.text "/"))
  | .object entries => some ((Entries.keys entries).contains "/")
  | _ => none

/-- The warning that shows an artifact marker, following `depth` levels of it. -/
def markerWarning (depth : Nat) (marker : Value) : Except SettingsError (List SettingsWarning) :=
  match marker.display depth with
  | .ok shown => .ok [.invalidMarker shown]
  | .error fault => .error (.ofDisplay fault)

/-- The warnings about an artifact marker. -/
def markerWarnings (depth : Nat) (marker : Value) : Except SettingsError (List SettingsWarning) :=
  if !marker.isTruthy then markerWarning depth marker
  else
    match hasSlash marker with
    | none => .error (.markerNotSearchable marker)
    | some true => markerWarning depth marker
    | some false => .ok []

/-- The warnings about settings. -/
def warnings (settings : Settings) (machine : Machine := {}) :
    Except SettingsError (List SettingsWarning) := do
  return (← suffixWarnings settings.schemaSuffixes) ++
    (← markerWarnings machine.shownDepth settings.artifactMarker)

end Settings

end RecordSmith
