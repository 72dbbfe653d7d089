import RecordSmith.Value.Object

/-!
# Schema types

A type expression names a type or lists the branches of a union.  Unions do not contain unions, so
a branch is a kind of its own.  Nested named types are told apart by kind only; what they contain
is not read.
-/

namespace RecordSmith.Schema

/-- A type without a name of its own. -/
inductive Primitive where
  | null
  | boolean
  | int
  | long
  | float
  | double
  | bytes
  | string
  deriving Repr, DecidableEq

/-- A kind of type that is declared by an object with further attributes. -/
inductive Declared where
  | record
  | enumeration
  | array
  | map
  | fixed
  deriving Repr, DecidableEq

/-- A type that is no union.  A declared type carries its `name` attribute as it stands in the
document; every other word refers to a type defined elsewhere. -/
inductive Branch where
  | primitive (p : Primitive)
  | declared (kind : Declared) (name : Value)
  | reference (name : Text)
  deriving Repr

/-- A type expression. -/
inductive TypeExpr where
  | single (branch : Branch)
  | union (branches : List Branch)
  deriving Repr

/-- The word for a primitive type. -/
def Primitive.word : Primitive → Text
  | null => "null"
  | boolean => "boolean"
  | int => "int"
  | long => "long"
  | float => "float"
  | double => "double"
  | bytes => "bytes"
  | string => "string"

/-- Every primitive type. -/
def Primitive.all : List Primitive := [null, boolean, int, long, float, double, bytes, string]

/-- The primitive type with a word. -/
def Primitive.ofWord? (word : Text) : Option Primitive := all.find? (·.word == word)

/-- The word for a kind of declared type. -/
def Declared.word : Declared → Text
  | record => "record"
  | enumeration => "enum"
  | array => "array"
  | map => "map"
  | fixed => "fixed"

/-- The kinds by their words; errors of a protocol are records. -/
def Declared.words : List (Text × Declared) :=
  [("record", record), ("error", record), ("enum", enumeration), ("array", array), ("map", map),
    ("fixed", fixed)]

/-- The kind of declared type with a word. -/
def Declared.ofWord? (word : Text) : Option Declared := words.lookup word

/-- The branch that a bare word stands for. -/
def Branch.ofWord (word : Text) : Branch :=
  match Primitive.ofWord? word with
  | some p => .primitive p
  | none => .reference word

/-- The branch that the `type` word of an object stands for, in an object with the given `name`. -/
def Branch.ofTypeWord (word : Text) (name : Value) : Branch :=
  match Declared.ofWord? word with
  | some kind => .declared kind name
  | none => .ofWord word

namespace Branch

/-- The word for the kind of a branch. -/
def kindWord : Branch → Text
  | primitive p => p.word
  | declared kind _ => kind.word
  | reference _ => "named"

/-- The name of a branch: of a declaration what its attribute holds, of a reference the word. -/
def nameValue : Branch → Value
  | primitive _ => .null
  | declared _ name => name
  | reference name => .text name

/-- A short form for messages. -/
def describe : Branch → Text
  | reference name => if name.isEmpty then "named" else name
  | branch => branch.kindWord

/-- The null type. -/
def isNull : Branch → Bool
  | primitive .null => true
  | _ => false

end Branch

namespace TypeExpr

/-- The branches of a union; other types have none. -/
def members : TypeExpr → List Branch
  | single _ => []
  | union branches => branches

/-- The word for the kind of a type. -/
def kindWord : TypeExpr → Text
  | single branch => branch.kindWord
  | union _ => "union"

/-- The name that a type carries. -/
def nameValue : TypeExpr → Value
  | single branch => branch.nameValue
  | union _ => .null

/-- A short form for messages: unions are bracketed lists. -/
def describe : TypeExpr → Text
  | single branch => branch.describe
  | union branches => "[" ++ Text.join ", " (branches.map Branch.describe) ++ "]"

/-- The other branch of a union of null and exactly one other type. -/
def nonNull? : TypeExpr → Option Branch
  | union [first, second] =>
    match first.isNull, second.isNull with
    | true, false => some second
    | false, true => some first
    | _, _ => none
  | _ => none

end TypeExpr

mutual

/-- The type that a value expresses: a word, a list of branches, or an object whose `type` is again
one of these. -/
def readType : Value → Option TypeExpr
  | .text word => some (.single (.ofWord word))
  | .list items => if items.isEmpty then none else (readBranches items).map .union
  | .object entries => readTyped ((Entries.get? entries "name").getD .null) entries
  | _ => none

/-- The branches that a list expresses; none if one of them is a union. -/
def readBranches : List Value → Option (List Branch)
  | [] => some []
  | item :: rest =>
    match readType item with
    | some (.single branch) => (readBranches rest).map (branch :: ·)
    | _ => none

/-- The type that an object with the given `name` expresses, by its first `type` entry. -/
def readTyped (name : Value) : List (Text × Value) → Option TypeExpr
  | [] => none
  | (key, value) :: rest =>
    if key == Text.ofString "type" then
      match value with
      | .text word => some (.single (.ofTypeWord word name))
      | .list items => readType (.list items)
      | .object entries => readType (.object entries)
      | _ => none
    else readTyped name rest

end

end RecordSmith.Schema
