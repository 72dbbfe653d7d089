import RecordSmith.Generator.Basic

/-!
# Parts of a source by name

The layout of a language consists of three named templates.  A template can be rendered on its own,
as long as everything it refers to is given; what it does not refer to may be missing.
-/

namespace RecordSmith

/-- A part of a source text. -/
inductive SourcePart where
  | header
  | member
  | footer
  deriving Repr, DecidableEq

/-- What a template can refer to. -/
inductive TemplateVariable where
  | settings
  | options
  | type
  | indent
  | member
  deriving Repr, DecidableEq

/-- Why a template cannot be rendered. -/
inductive TemplateError where
  | unknownTemplate (name : Text)
  | undefinedVariable (missing : TemplateVariable)
  deriving Repr

namespace SourcePart

/-- Every part, in the order of their names. -/
def all : List SourcePart := [footer, header, member]

/-- The name of a part. -/
def name : SourcePart → Text
  | header => "header"
  | member => "member"
  | footer => "footer"

end SourcePart

namespace Target

/-- The name of a template. -/
def templateName (target : Target) (part : SourcePart) : Text :=
  part.name ++ target.extension ++ ".j2"

/-- The names of all templates. -/
def templateNames (target : Target) : List Text := SourcePart.all.map target.templateName

/-- The name of a variable in templates. -/
def variableName (target : Target) : TemplateVariable → Text
  | .settings => "config"
  | .options => target.name
  | .type => "record"
  | .indent => "indent"
  | .member => "member"

/-- The part whose template is found under a name.  Slashes separate directories, and empty names
and single full stops lead nowhere else. -/
def templatePart? (target : Target) (name : Text) : Option SourcePart :=
  let parts := Text.splitOn (· == 0x2F) name
  match parts.filter fun part => !part.isEmpty && part != Text.ofString "." with
  | [single] => SourcePart.all.find? fun part => target.templateName part == single
  | _ => none

/-- What the template of a part refers to. -/
def templateVariables : Target → SourcePart → List TemplateVariable
  | csharp, .header => [.settings, .type, .options]
  | python, .header => [.settings, .type, .options, .indent]
  | _, .member => [.indent, .member]
  | _, .footer => []

end Target

namespace Generator

/-- The variables that every template can refer to. -/
def commonVariables : List TemplateVariable := [.type, .settings, .indent, .options]

/-- The lines of a part of a source without members; of members there are none. -/
def partLines (source : Layout.Source) : SourcePart → List Text
  | .header => source.header
  | .member => source.members.flatten
  | .footer => source.footer

/-- Renders one template with the given variables for a type. -/
def renderTemplate (generator : Generator) (source : Layout.Source)
    (given : List TemplateVariable) (name : Text) : Except TemplateError Text :=
  match generator.target.templatePart? name with
  | none => .error (.unknownTemplate name)
  | some part =>
    match (generator.target.templateVariables part).find? fun v => !given.contains v with
    | some missing => .error (.undefinedVariable missing)
    | none => .ok (Layout.unlines (partLines source part))

end Generator

end RecordSmith
