import RecordSmith.Contract.Literal
import RecordSmith.Contract.Options
import RecordSmith.Declaration
import RecordSmith.Layout.Source

/-!
# Layout of C# sources

A C# source declares one data contract.  Members without a default are `required`, so that the
compiler rejects an initializer that leaves them out.
-/

namespace RecordSmith.Contract

/-- What can be chosen about a data contract. -/
structure Style where
  /-- Start and end the file with comments. -/
  comments : Bool
  /-- Enable nullable references, so that `string?` means what it says. -/
  nullableContext : Bool
  /-- The keyword that declares the type. -/
  typeKeyword : TypeKeyword
  indent : Text
  deriving Repr, DecidableEq

/-- The notice that the file is generated. -/
def notice (type : TypeDeclaration) : List Text :=
  ["// <auto-generated>",
    "// Generated from Avro schema " ++ type.wireFullName ++ ". Changes to this file will be lost.",
    "// </auto-generated>"]

/-- The documentation of the type, one comment line for each of its lines. -/
def summary (doc : Text) : List Text :=
  Text.ofString "/// <summary>" ::
    (Text.documentationLines doc).map (fun line => "/// " ++ xmlText line) ++
    [Text.ofString "/// </summary>"]

/-- What the file uses, and the namespace it declares. -/
def preamble (style : Style) (type : TypeDeclaration) : List Text :=
  (if style.nullableContext then [Text.ofString "#nullable enable"] else []) ++
    [Text.ofString "using System.Runtime.Serialization;", [], "namespace " ++ type.space ++ ";", []]

/-- The attribute with the names in the schema, and the line that opens the type. -/
def typeLines (style : Style) (type : TypeDeclaration) : List Text :=
  ["[DataContract(Name = " ++ stringLiteral type.wireName ++ ", Namespace = " ++
      stringLiteral type.wireSpace ++ ")]",
    "public " ++ style.typeKeyword.text ++ " " ++ type.typeName,
    Text.ofString "\x7b"]

/-- The lines before the members. -/
def header (style : Style) (type : TypeDeclaration) : List Text :=
  (if style.comments then notice type else []) ++ preamble style type ++
    (if style.comments then (type.shownDoc?.map summary).getD [] else []) ++
    typeLines style type

/-- The property that declares a member. -/
def property (member : MemberDeclaration) : Text :=
  match member.defaultLiteral with
  | none => "public required " ++ member.typeName ++ " " ++ member.name ++ " \x7b get; init; \x7d"
  | some literal =>
    "public " ++ member.typeName ++ " " ++ member.name ++ " \x7b get; init; \x7d = " ++ literal ++
      ";"

/-- The lines of a member. -/
def memberLines (style : Style) (member : MemberDeclaration) : List Text :=
  [style.indent ++ "[DataMember(Name = " ++ stringLiteral member.wireName ++ ")]",
    style.indent ++ property member]

/-- The lines after the members. -/
def footer : List Text := ["\x7d"]

end RecordSmith.Contract
