import RecordSmith.CommandLine.Generate
import RecordSmith.CommandLine.Languages

/-!
# Runs

The program as a function of its arguments, the files and what requests for URLs come to.
-/

namespace RecordSmith.CommandLine

/-- How a run ends: with a status that it returns, before it has begun because of its arguments, or
with a failure. -/
inductive Ending where
  | returned (status : Nat)
  | stopped (status : Nat)
  | failed (failure : Failure)
  deriving Repr

/-- A finished run: its ending, what it printed as output and as errors, and the files. -/
structure Run where
  ending : Ending
  output : List Text
  errors : List Text := []
  files : FileTree
  deriving Repr

/-- Does what is asked of the program.  The list of languages comes before all else, and without a
request there is help. -/
def answer (fetch : Text → Reply) (request : Request) : Session Nat :=
  if request.listsLanguages then listLanguages
  else
    match request.language, request.generate with
    | some (c :: rest), _ => showLanguage (c :: rest)
    | _, some generateRequest => generate fetch generateRequest
    | _, none => do
      Session.printLines Command.program.help
      return 1

/-- The run that ends while the arguments are read. -/
def stoppedRun (files : FileTree) : Stop → Run
  | .help command => { ending := .stopped 0, output := command.help, files }
  | .version =>
    { ending := .stopped 0, output := [Command.program.name ++ " " ++ Command.version], files }
  | .refused command error =>
    { ending := .stopped 2, output := [], errors := command.report error, files }

/-- Runs the program. -/
def run (fetch : Text → Reply) (files : FileTree) (arguments : List Text) : Run :=
  match Request.read arguments with
  | .error stop => stoppedRun files stop
  | .ok request =>
    let (status, transcript) := (answer fetch request).run { files }
    let ending := match status with
      | .ok status => .returned status
      | .error failure => .failed failure
    { ending, output := transcript.lines, files := transcript.files }

end RecordSmith.CommandLine
