import RecordSmith.CommandLine.Session

/-!
# Information on languages

The list of the languages that code is generated for, and what there is to know about one of them.
-/

namespace RecordSmith.CommandLine

open Console

/-- A name of words with underscores between them, as it is shown in a heading. -/
def heading (name : Text) : Text :=
  Text.join [0x20] ((Text.splitOn (· == '_'.toNat) name).map Text.capitalizeFirst)

/-- The row of a language in the list of languages. -/
def languageRow (info : LanguageInfo) : List Text :=
  [info.target.name, info.target.extension, info.target.generatorName,
    if info.aliases.isEmpty then "[dim]none[/dim]" else Text.join ", " info.aliases]

/-- The list of languages. -/
def languageTable (infos : List LanguageInfo) : Table where
  title := "📋 Supported Languages"
  border := .rounded
  columns := ["Language", "Extension", "Generator Class", "Aliases"]
  rows := infos.map languageRow

/-- How to go on from the list of languages. -/
def quickStart : Panel where
  title := "💡 Quick Start"
  content := Text.join [0x0A]
    ["[bold]Usage:[/bold] avsc-codegen generate [dim]schemas/[/dim] -l [cyan]LANGUAGE[/cyan]",
      "[bold]Info:[/bold] avsc-codegen --language-info [cyan]LANGUAGE[/cyan]"]

/-- What there is to know about a registered language. -/
def languageInfo (language : Text) : Session LanguageInfo := do
  Session.orFail .registry (Registry.builtin.info Catalog.builtin (← Session.files) language)

/-- Lists the languages. -/
def listLanguages : Session Nat := do
  let infos ← Registry.builtin.languageNames.mapM languageInfo
  Session.printEmpty
  Session.printTable (languageTable infos)
  Session.printEmpty
  Session.printPanel quickStart
  return 0

/-- The line of a panel that gives a property of a language. -/
def propertyLine (name value : Text) : Text := "[bold]" ++ name ++ ":[/bold] " ++ value

/-- The properties of a language. -/
def languagePanel (info : LanguageInfo) : Panel where
  title := "🔧 " ++ heading info.target.name ++ " Generator"
  content := Text.join [0x0A]
    ([propertyLine "Language" info.target.name,
      propertyLine "File Extension" info.target.extension,
      propertyLine "Generator Class" info.target.generatorName,
      propertyLine "Module" info.target.moduleName,
      propertyLine "Templates" (Text.join ", " info.target.templateNames)] ++
      if info.aliases.isEmpty then []
      else [propertyLine "Aliases" (Text.join ", " info.aliases)])

/-- The settings that are shown for a language, besides the options of that language. -/
def shownSettings : List Setting :=
  [.typeCase, .fieldCase, .namespaceCase, .artifactMarker, .indentSize, .addComments]

/-- The default settings of a language. -/
def settingsTable (settings : Settings) : Table where
  title := "⚙️  Default Configuration"
  border := .simple
  columns := ["Setting", "Value"]
  rows :=
    let options : Entries :=
      match settings.languageOptions with
      | .object entries => entries.mergeSort fun a b => Text.le a.1 b.1
      | _ => []
    (shownSettings.map fun setting =>
      [heading setting.key, (settings.get setting).plainExpression]) ++
      options.map fun (key, value) => [heading key, value.plainExpression]

/-- How to generate code for a language, by the name that was asked for. -/
def usageExamples (language : Text) : Panel where
  title := "💡 Usage Examples"
  content := Text.join [0x0A]
    ["Print generated code:",
      "[cyan]avsc-codegen generate -l " ++ language ++ " user.avsc[/cyan]",
      [],
      "Generate a directory of schemas:",
      "[cyan]avsc-codegen generate -l " ++ language ++ " -o generated/ schemas/[/cyan]"]

/-- Shows what there is to know about a language. -/
def showLanguage (language : Text) : Session Nat := do
  if !Registry.builtin.isSupported language then
    Session.print ("[red]✗ Language '" ++ language ++ "' is not supported[/red]")
    Session.print "[dim]Use --list-languages to see available options[/dim]"
    return 1
  let info ← languageInfo language
  Session.printEmpty
  Session.printPanel (languagePanel info)
  Session.printEmpty
  Session.printTable (settingsTable info.settings)
  Session.printEmpty
  Session.printPanel (usageExamples language)
  return 0

end RecordSmith.CommandLine
