import RecordSmith.CommandLine.Arguments
import RecordSmith.CommandLine.Integer
import RecordSmith.Naming.Identifier

/-!
# Requests

What the arguments of the program ask for.  Reading them ends early if help or the version is asked
for, or if an argument is refused.
-/

namespace RecordSmith.CommandLine

/-- What is asked of the generation of code. -/
structure GenerateRequest where
  paths : List Text := []
  urls : List Text := []
  language : Text := "csharp"
  outputDirectory : Option Text := none
  settingsFile : Option Text := none
  omitsComments : Bool := false
  typeCase : Option Text := none
  fieldCase : Option Text := none
  /-- How many workers share the work, which the results do not depend on. -/
  workers : Int := 4
  showsDiagnostics : Bool := false
  deriving Repr

/-- What is asked of the program. -/
structure Request where
  listsLanguages : Bool := false
  language : Option Text := none
  generate : Option GenerateRequest := none
  deriving Repr

/-- Why the reading of arguments ends early. -/
inductive Stop where
  | help (command : Command)
  | version
  | refused (command : Command) (error : ArgumentError)
  deriving Repr

/-- The options of the program. -/
inductive ProgramOption where
  | help
  | version
  | listLanguages
  | languageInfo
  deriving Repr, DecidableEq

/-- The options of the program with their names. -/
def programOptions : List (OptionSpec ProgramOption) :=
  [⟨["-h", "--help"], false, .help⟩,
    ⟨["--version"], false, .version⟩,
    ⟨["--list-languages"], false, .listLanguages⟩,
    ⟨["--language-info"], true, .languageInfo⟩]

/-- The options of the generation of code. -/
inductive GenerateOption where
  | help
  | url
  | language
  | outputDirectory
  | settingsFile
  | noComments
  | typeCase
  | fieldCase
  | workers
  | verbose
  deriving Repr, DecidableEq

/-- The options of the generation of code with their names. -/
def generateOptions : List (OptionSpec GenerateOption) :=
  [⟨["-h", "--help"], false, .help⟩,
    ⟨["--url"], true, .url⟩,
    ⟨["--language", "-l"], true, .language⟩,
    ⟨["--output-dir", "-o"], true, .outputDirectory⟩,
    ⟨["--config"], true, .settingsFile⟩,
    ⟨["--no-comments"], false, .noComments⟩,
    ⟨["--type-case"], true, .typeCase⟩,
    ⟨["--field-case"], true, .fieldCase⟩,
    ⟨["--workers"], true, .workers⟩,
    ⟨["--verbose", "-v"], false, .verbose⟩]

/-- The naming cases that can be asked for. -/
def caseChoices : List Text :=
  [NamingCase.pascal.name, NamingCase.camel.name, NamingCase.snake.name]

/-- A value that has to be among the choices. -/
def choice (names choices : List Text) (value : Text) : Except ArgumentError Text :=
  if choices.contains value then .ok value else .error (.notAChoice names value choices)

/-- A value that has to be a number. -/
def number (names : List Text) (value : Text) : Except ArgumentError Int :=
  match integer? value with
  | some n => .ok n
  | none => .error (.notANumber names value)

namespace GenerateRequest

/-- Takes an option without a value into a request. -/
def takeSwitch (request : GenerateRequest) (spec : OptionSpec GenerateOption) :
    Except Stop GenerateRequest :=
  match spec.meaning with
  | .help => .error (.help .generate)
  | .noComments => .ok { request with omitsComments := true }
  | .verbose => .ok { request with showsDiagnostics := true }
  | _ => .ok request

/-- Takes an option with a value into a request. -/
def takeSetting (request : GenerateRequest) (spec : OptionSpec GenerateOption) (value : Text) :
    Except ArgumentError GenerateRequest := do
  match spec.meaning with
  | .url => return { request with urls := request.urls ++ [value] }
  | .language => return { request with language := value }
  | .outputDirectory => return { request with outputDirectory := value }
  | .settingsFile => return { request with settingsFile := value }
  | .typeCase => return { request with typeCase := ← choice spec.names caseChoices value }
  | .fieldCase => return { request with fieldCase := ← choice spec.names caseChoices value }
  | .workers => return { request with workers := ← number spec.names value }
  | _ => return request

/-- Takes the items of arguments into a request and collects the strays. -/
def takeAll (request : GenerateRequest) (strays : List Text) :
    List (Item GenerateOption) → Except Stop (GenerateRequest × List Text)
  | [] => .ok (request, strays)
  | .switch spec :: rest => do takeAll (← request.takeSwitch spec) strays rest
  | .setting spec value :: rest => do
    let request ← (request.takeSetting spec value).mapError (.refused .generate)
    takeAll request strays rest
  | .operands arguments :: rest =>
    takeAll { request with paths := request.paths ++ arguments } strays rest
  | .stray argument :: rest => takeAll request (strays ++ [argument]) rest
  | .faulty error :: _ => .error (.refused .generate error)

/-- Reads the arguments of the generation of code, and the strays among them. -/
def read (arguments : List Text) : Except Stop (GenerateRequest × List Text) := do
  let tokens ← (classifyAll generateOptions arguments).mapError (.refused .generate)
  takeAll {} [] (items generateOptions .before false tokens)

end GenerateRequest

namespace Request

/-- The name of the subcommand that generates code. -/
def generateName : Text := "generate"

/-- Takes an option of the program without a value into a request. -/
def takeSwitch (request : Request) (spec : OptionSpec ProgramOption) : Except Stop Request :=
  match spec.meaning with
  | .help => .error (.help .program)
  | .version => .error .version
  | .listLanguages => .ok { request with listsLanguages := true }
  | .languageInfo => .ok request

/-- Takes an option of the program with a value into a request. -/
def takeSetting (request : Request) (spec : OptionSpec ProgramOption) (value : Text) : Request :=
  match spec.meaning with
  | .languageInfo => { request with language := value }
  | _ => request

/-- Takes the subcommand and its arguments into a request, and gives its strays. -/
def takeCommand (request : Request) : List Text → Except Stop (Request × List Text)
  | [] => .ok (request, [])
  | command :: arguments => do
    let _ ← (choice ["command"] [generateName] command).mapError (.refused .program)
    let (generate, strays) ← GenerateRequest.read arguments
    return ({ request with generate }, strays)

/-- Takes the items of arguments into a request and collects the strays. -/
def takeAll (request : Request) (strays : List Text) :
    List (Item ProgramOption) → Except Stop (Request × List Text)
  | [] => .ok (request, strays)
  | .switch spec :: rest => do takeAll (← request.takeSwitch spec) strays rest
  | .setting spec value :: rest => takeAll (request.takeSetting spec value) strays rest
  | .operands arguments :: rest => do
    let (request, others) ← request.takeCommand arguments
    takeAll request (strays ++ others) rest
  | .stray argument :: rest => takeAll request (strays ++ [argument]) rest
  | .faulty error :: _ => .error (.refused .program error)

/-- Reads the arguments of the program.  There must be no strays. -/
def read (arguments : List Text) : Except Stop Request := do
  let tokens ← (classifyAll programOptions arguments).mapError (.refused .program)
  let (request, strays) ← takeAll {} [] (itemsBefore programOptions false tokens)
  if !strays.isEmpty then throw (.refused .program (.unrecognized strays))
  return request

end Request

end RecordSmith.CommandLine
