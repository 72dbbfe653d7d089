import RecordSmith.Text.Quoted

/-!
# Usage

The commands of the program, the texts that describe them, and what is said about arguments that
they do not accept.
-/

namespace RecordSmith.CommandLine

/-- A command: the program itself or one of its subcommands. -/
inductive Command where
  | program
  | generate
  deriving Repr, DecidableEq

/-- What is wrong with arguments.  An option is known by all its names. -/
inductive ArgumentError where
  | ambiguous (argument : Text) (candidates : List Text)
  | valueMissing (names : List Text)
  | valueNotTaken (names : List Text) (value : Text)
  | notAChoice (names : List Text) (value : Text) (choices : List Text)
  | notANumber (names : List Text) (value : Text)
  | unrecognized (arguments : List Text)
  deriving Repr, DecidableEq

/-- Names what an error is about. -/
def ArgumentError.about (names : List Text) (problem : Text) : Text :=
  "argument " ++ Text.join "/" names ++ ": " ++ problem

/-- The wording of an error. -/
def ArgumentError.message : ArgumentError → Text
  | ambiguous argument candidates =>
    "ambiguous option: " ++ argument ++ " could match " ++ Text.join ", " candidates
  | valueMissing names => about names "expected one argument"
  | valueNotTaken names value => about names ("ignored explicit argument " ++ value.quoted)
  | notAChoice names value choices =>
    about names ("invalid choice: " ++ value.quoted ++ " (choose from " ++
      Text.join ", " (choices.map Text.quoted) ++ ")")
  | notANumber names value => about names ("invalid int value: " ++ value.quoted)
  | unrecognized arguments => "unrecognized arguments: " ++ Text.join " " arguments

namespace Command

/-- The name of the program. -/
def programName : Text := "avsc-codegen"

/-- The version that the program reports. -/
def version : Text := "0.1.0"

/-- The name under which a command is called. -/
def name : Command → Text
  | program => programName
  | generate => programName ++ " generate"

/-- The lines that show how the program is called. -/
def programUsage : List String :=
  ["usage: avsc-codegen [-h] [--version] [--list-languages]",
    "                    [--language-info LANGUAGE]",
    "                    \x7bgenerate\x7d ..."]

/-- The lines that show how code is generated. -/
def generateUsage : List String :=
  ["usage: avsc-codegen generate [-h] [--url URL] [--language LANGUAGE]",
    "                             [--output-dir OUTPUT_DIR] [--config CONFIG]",
    "                             [--no-comments]",
    "                             [--type-case \x7bpascal,camel,snake\x7d]",
    "                             [--field-case \x7bpascal,camel,snake\x7d]",
    "                             [--workers WORKERS] [--verbose]",
    "                             [PATH ...]"]

/-- The lines that describe the arguments of the program. -/
def programDescription : List String :=
  ["",
    "Generate immutable types from Avro record schemas",
    "",
    "positional arguments:",
    "  \x7bgenerate\x7d",
    "    generate            Generate code from Avro schema files",
    "",
    "options:",
    "  -h, --help            show this help message and exit",
    "  --version             show program's version number and exit",
    "",
    "information:",
    "  --list-languages      List supported languages and exit",
    "  --language-info LANGUAGE",
    "                        Show detailed info about a language and exit",
    "",
    "Examples:",
    "  avsc-codegen generate schemas/ -l csharp -o generated/",
    "  avsc-codegen generate user.avsc -l python",
    "  avsc-codegen --list-languages",
    "  avsc-codegen --language-info csharp"]

/-- The lines that describe the arguments for the generation of code. -/
def generateDescription : List String :=
  ["",
    "Translate Avro record schemas into source files",
    "",
    "positional arguments:",
    "  PATH                  Schema files or directories",
    "",
    "options:",
    "  -h, --help            show this help message and exit",
    "  --url URL             URL to fetch a schema from",
    "  --language LANGUAGE, -l LANGUAGE",
    "                        Target language (default: csharp)",
    "  --output-dir OUTPUT_DIR, -o OUTPUT_DIR",
    "                        Directory for generated files (default: stdout)",
    "  --config CONFIG       Configuration file path (JSON)",
    "  --no-comments         Don't add comments to generated code",
    "  --type-case \x7bpascal,camel,snake\x7d",
    "                        Naming case for generated types",
    "  --field-case \x7bpascal,camel,snake\x7d",
    "                        Naming case for members",
    "  --workers WORKERS     Number of worker threads (default: 4)",
    "  --verbose, -v         Show dropped fields, skipped documents and debug",
    "                        logging"]

/-- The lines that show how a command is called. -/
def usage : Command → List Text
  | program => programUsage.map Text.ofString
  | generate => generateUsage.map Text.ofString

/-- The lines of the help on a command. -/
def help : Command → List Text
  | program => program.usage ++ programDescription.map Text.ofString
  | generate => generate.usage ++ generateDescription.map Text.ofString

/-- The lines that report an error in the arguments of a command. -/
def report (command : Command) (error : ArgumentError) : List Text :=
  command.usage ++ Text.splitLines (command.name ++ ": error: " ++ error.message)

end Command

end RecordSmith.CommandLine
