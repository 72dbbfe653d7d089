import RecordSmith.Dataclass.Literal
import RecordSmith.Declaration
import RecordSmith.Layout.Source

/-!
# Layout of Python sources

A Python source declares one frozen dataclass with keyword-only members.  The names of the schema
stand in class variables and in the metadata of the fields.
-/

namespace RecordSmith.Dataclass

/-- What can be chosen about a dataclass. -/
structure Style where
  /-- Start the file with comments and document the class. -/
  comments : Bool
  /-- Declare slots. -/
  slots : Bool
  /-- The key of the field metadata that holds the name in the schema. -/
  metadataKey : Text
  indent : Text
  deriving Repr, DecidableEq

/-- The arguments of the decorator. -/
def decoratorArguments (slots : Bool) : Text :=
  if slots then Text.ofString "frozen=True, kw_only=True, slots=True"
  else Text.ofString "frozen=True, kw_only=True"

/-- The notice that the file is generated. -/
def notice (type : TypeDeclaration) : List Text :=
  ["# Generated from Avro schema " ++ type.wireFullName ++ " into module " ++ type.space ++ ".",
    "# Changes to this file will be lost."]

/-- The documentation of the class: that of the schema, or else its name there. -/
def documentation (type : TypeDeclaration) : Text :=
  match type.shownDoc? with
  | some doc => docstring doc
  | none => "Avro record ``" ++ docstring type.wireFullName ++ "``."

/-- The imports of the module. -/
def imports : List Text :=
  ["from dataclasses import dataclass, field", "from typing import ClassVar", [], []]

/-- The decorator of the class and the line that opens it. -/
def classLines (style : Style) (type : TypeDeclaration) : List Text :=
  ["@dataclass(" ++ decoratorArguments style.slots ++ ")", "class " ++ type.typeName ++ ":"]

/-- The literal that documents the class; it spans as many lines as the documentation does. -/
def documentationLiteral (style : Style) (type : TypeDeclaration) : Text :=
  style.indent ++ tripleQuote ++ documentation type ++ tripleQuote

/-- The class variables that hold the names in the schema. -/
def wireNames (style : Style) (type : TypeDeclaration) : List Text :=
  [style.indent ++ "__avro_name__: ClassVar[str] = " ++ stringLiteral type.wireName,
    style.indent ++ "__avro_namespace__: ClassVar[str] = " ++ stringLiteral type.wireSpace]

/-- The lines before the members. -/
def header (style : Style) (type : TypeDeclaration) : List Text :=
  (if style.comments then notice type else []) ++ imports ++ classLines style type ++
    (if style.comments then [documentationLiteral style type, []] else []) ++
    wireNames style type ++ [[]]

/-- The metadata of a field. -/
def fieldMetadata (style : Style) (wireName : Text) : Text :=
  "\x7b" ++ stringLiteral style.metadataKey ++ ": " ++ stringLiteral wireName ++ "\x7d"

/-- The arguments of the field that declares a member. -/
def fieldArguments (style : Style) (member : MemberDeclaration) : Text :=
  match member.defaultLiteral with
  | none => "metadata=" ++ fieldMetadata style member.wireName
  | some literal =>
    "default=" ++ literal ++ ", metadata=" ++ fieldMetadata style member.wireName

/-- The lines of a member. -/
def memberLines (style : Style) (member : MemberDeclaration) : List Text :=
  [style.indent ++ member.name ++ ": " ++ member.typeName ++ " = field(" ++
    fieldArguments style member ++ ")"]

/-- The lines after the members: none. -/
def footer : List Text := []

end RecordSmith.Dataclass
