import RecordSmith.Naming.Identifier
import RecordSmith.Value.Equal

/-!
# Settings

What can be chosen about generated code.  Settings come from files and overrides and can hold any
value; only the naming cases are checked when settings are made, and every other one when it is
used.  The options of one language are entries of a setting of their own.  An option can have a key
that is no text, which no language knows; such options are kept apart.
-/

namespace RecordSmith

/-- The names of the settings. -/
inductive Setting where
  | schemaSuffixes
  | outputDirectory
  | artifactMarker
  | indentSize
  | lineEnding
  | typeCase
  | fieldCase
  | namespaceCase
  | addComments
  | languageOptions
  deriving Repr, DecidableEq

namespace Setting

/-- Every setting, in the order in which settings are listed. -/
def all : List Setting :=
  [schemaSuffixes, outputDirectory, artifactMarker, indentSize, lineEnding, typeCase, fieldCase,
    namespaceCase, addComments, languageOptions]

/-- The key of a setting. -/
def key : Setting → Text
  | schemaSuffixes => "schema_suffixes"
  | outputDirectory => "output_dir"
  | artifactMarker => "artifact_marker"
  | indentSize => "indent_size"
  | lineEnding => "line_ending"
  | typeCase => "type_case"
  | fieldCase => "field_case"
  | namespaceCase => "namespace_case"
  | addComments => "add_comments"
  | languageOptions => "language_config"

/-- The setting with a key. -/
def ofKey? (key : Text) : Option Setting := all.find? (·.key == key)

end Setting

/-- The value of every setting. -/
structure Settings where
  schemaSuffixes : Value := .list [.text ".avsc"]
  outputDirectory : Value := .null
  artifactMarker : Value := .text "g"
  indentSize : Value := .integer 4
  lineEnding : Value := .text [0x0A]
  typeCase : Value := .text NamingCase.pascal.name
  fieldCase : Value := .text NamingCase.pascal.name
  namespaceCase : Value := .text NamingCase.pascal.name
  addComments : Value := .boolean true
  languageOptions : Value := .object []
  /-- The options whose keys are no texts. -/
  strayOptions : List (Value × Value) := []
  deriving Repr

namespace Settings

/-- The value of a setting. -/
def get (settings : Settings) : Setting → Value
  | .schemaSuffixes => settings.schemaSuffixes
  | .outputDirectory => settings.outputDirectory
  | .artifactMarker => settings.artifactMarker
  | .indentSize => settings.indentSize
  | .lineEnding => settings.lineEnding
  | .typeCase => settings.typeCase
  | .fieldCase => settings.fieldCase
  | .namespaceCase => settings.namespaceCase
  | .addComments => settings.addComments
  | .languageOptions => settings.languageOptions

/-- The settings with another value for one of them, which is not checked. -/
def put (settings : Settings) (value : Value) : Setting → Settings
  | .schemaSuffixes => { settings with schemaSuffixes := value }
  | .outputDirectory => { settings with outputDirectory := value }
  | .artifactMarker => { settings with artifactMarker := value }
  | .indentSize => { settings with indentSize := value }
  | .lineEnding => { settings with lineEnding := value }
  | .typeCase => { settings with typeCase := value }
  | .fieldCase => { settings with fieldCase := value }
  | .namespaceCase => { settings with namespaceCase := value }
  | .addComments => { settings with addComments := value }
  | .languageOptions => { settings with languageOptions := value }

/-- The settings as entries, in the order of the settings. -/
def toEntries (settings : Settings) : Entries :=
  Setting.all.map fun setting => (setting.key, settings.get setting)

/-- Sets the value of a stray option; a key that is present, if as another kind of number, is
kept. -/
def setStray (key value : Value) : List (Value × Value) → List (Value × Value)
  | [] => [(key, value)]
  | (k, v) :: rest =>
    if k.equal key then (k, value) :: rest else (k, v) :: setStray key value rest

/-- The same stray options, in any order. -/
def equalStray (options others : List (Value × Value)) : Bool :=
  options.length == others.length && options.all fun option =>
    others.any fun other => option.1.equal other.1 && option.2.equal other.2

/-- The same value for every setting and every stray option. -/
def equal (settings others : Settings) : Bool :=
  (Setting.all.all fun setting => (settings.get setting).equal (others.get setting)) &&
    equalStray settings.strayOptions others.strayOptions

end Settings

end RecordSmith
