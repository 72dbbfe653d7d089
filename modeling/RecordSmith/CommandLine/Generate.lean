import RecordSmith.Batch.Store
import RecordSmith.CommandLine.Request
import RecordSmith.CommandLine.Session

/-!
# Generating code

What the program does with schema documents: it loads them, generates code and writes it below a
directory or prints it.  Problems with the input or the settings are reported with status 1.
-/

namespace RecordSmith.CommandLine

open Console

/-- Reports a problem. -/
def complain (problem : Text) : Session Nat := do
  Session.print ("[red]✗ Error:[/red] " ++ problem)
  return 1

/-- Reports that a language is not known. -/
def complainOfLanguage (language : Text) : Session Nat := do
  Session.print ("[red]✗ Unsupported language '" ++ language ++ "'[/red]")
  Session.print
    ("[dim]Supported languages: " ++ Text.join ", " Registry.builtin.languageNames ++ "[/dim]")
  return 1

/-- The overriding entry of a setting, if a text that is not empty was given. -/
def override (setting : Setting) : Option Text → Entries
  | none => []
  | some [] => []
  | some t => [(setting.key, .text t)]

namespace GenerateRequest

/-- The settings that a request overrides. -/
def overrides (request : GenerateRequest) : Entries :=
  (if request.omitsComments then [(Setting.addComments.key, .boolean false)] else []) ++
    override .typeCase request.typeCase ++
    override .fieldCase request.fieldCase ++
    override .outputDirectory request.outputDirectory

/-- The settings for a request. -/
def settings (request : GenerateRequest) (files : FileTree) : Except SettingsError Settings :=
  let name := (Registry.builtin.resolve request.language).toOption
  Catalog.builtin.settings files name (.object request.overrides) request.settingsFile

/-- The documents of a request, those at paths first. -/
def documents (request : GenerateRequest) (fetch : Text → Reply) (files : FileTree)
    (settings : Settings) : Except LoadError (List Schema.Document) := do
  let suffixes := Loading.Suffixes.ofValue settings.schemaSuffixes
  let stored ← Loading.loadDocuments files (request.paths.map Path.ofText) suffixes
  let fetched ← request.urls.mapM (Loading.loadUrl fetch)
  return stored ++ fetched

end GenerateRequest

/-- Reports why documents cannot be loaded. -/
def complainOfLoading (error : LoadError) : Session Nat :=
  match error.message? with
  | some message =>
    complain (if error.isMissing then message else "Failed to load input: " ++ message)
  | none => throw (.loading error)

/-- Reports why settings cannot be used. -/
def complainOfSettings (error : SettingsError) : Session Nat :=
  match error.message? with
  | some message => complain ("Configuration error: " ++ message)
  | none => throw (.settings error)

/-- Reports why there is no generator. -/
def complainOfGenerator (error : RegistryError) : Session Nat := do
  match error.message? with
  | some message =>
    Session.print ("[red]✗[/red] " ++ message)
    return 1
  | none => throw (.registry error)

/-- The rows of the table of diagnostics. -/
def diagnosticRows (results : List GenerationResult) : List (List Text) :=
  results.flatMap fun result => result.diagnostics.map fun diagnostic =>
    [diagnostic.document, diagnostic.finding.kind.word, diagnostic.finding.field?.getD [],
      diagnostic.finding.message]

/-- Prints the diagnostics of results, if there are any. -/
def printDiagnostics (results : List GenerationResult) : Session Unit := do
  let rows := diagnosticRows results
  if rows.isEmpty then return ()
  Session.printEmpty
  Session.printTable {
    title := "⚠️  Diagnostics"
    border := .simple
    columns := ["Document", "Kind", "Field", "Message"]
    rows }

/-- Prints the source texts of results, each after its artifact name. -/
def printSources (results : List GenerationResult) : Session Unit :=
  (results.filterMap (·.generated)).forM fun generated => do
    Session.print ("\n[green]📄 " ++ generated.artifactName ++ "[/green]\n")
    Session.printSource generated.source

/-- Writes the source texts of results below a directory.  The answer is false if that fails. -/
def storeSources (directory : Text) (results : List GenerationResult) : Session Bool := do
  match ← Session.withFiles (Batch.storeAll (Path.ofText directory) results) with
  | .ok paths =>
    paths.forM fun path =>
      Session.print ("[green]✓[/green] Wrote [cyan]" ++ path.toText ++ "[/cyan]")
    return true
  | .error (.fault fault path) =>
    Session.print ("[red]✗ Failed to write to " ++ directory ++ ":[/red] " ++ fault.message path)
    return false
  | .error error => throw (.storing error)

/-- Puts out the source texts of results: below the output directory of the settings, or on the
terminal if none is set. -/
def outputSources (settings : Settings) (results : List GenerationResult) : Session Bool := do
  let directory := settings.outputDirectory
  if !directory.isTruthy then
    printSources results
    return true
  match directory with
  | .text t => storeSources t results
  | value => throw (.outputNotText value)

/-- The code of a document could not be generated for reasons of the generator. -/
def hasFailed (result : GenerationResult) : Bool :=
  result.diagnostics.any fun diagnostic => diagnostic.finding.kind == .generationError

/-- Puts out the results of a request and counts them. -/
def report (request : GenerateRequest) (settings : Settings) (results : List GenerationResult) :
    Session Nat := do
  if !(← outputSources settings results) then return 1
  if request.showsDiagnostics then printDiagnostics results
  let generated := (results.filter (·.generated.isSome)).length
  Session.print
    ("\n[bold]" ++ Text.ofNat generated ++ "[/bold] of [bold]" ++ Text.ofNat results.length ++
      "[/bold] schema documents generated")
  return if results.any hasFailed then 1 else 0

/-- Generates the code of documents.  An empty line stands for the display of the progress. -/
def generateDocuments (generator : Generator) (documents : List Schema.Document) :
    Session (List GenerationResult) := do
  Session.printEmpty
  Session.orFail .batch (generator.generateAllWithCache documents {}).1

/-- Generates code with the settings of a request. -/
def generateWith (fetch : Text → Reply) (request : GenerateRequest) (settings : Settings) :
    Session Nat := do
  match request.documents fetch (← Session.files) settings with
  | .error error => complainOfLoading error
  | .ok [] =>
    Session.print "[yellow]⚠️  No schema documents found[/yellow]"
    return 0
  | .ok documents =>
    let files ← Session.files
    match Registry.builtin.create Catalog.builtin files request.language (.given settings) with
    | .error error => complainOfGenerator error
    | .ok generator => do
      report request settings (← generateDocuments generator documents)

/-- Does what is asked of the generation of code. -/
def generate (fetch : Text → Reply) (request : GenerateRequest) : Session Nat := do
  if request.paths.isEmpty && request.urls.isEmpty then
    return ← complain "Input source required (PATH or --url)"
  if !Registry.builtin.isSupported request.language then
    return ← complainOfLanguage request.language
  match request.settings (← Session.files) with
  | .error error => complainOfSettings error
  | .ok settings => generateWith fetch request settings

end RecordSmith.CommandLine
