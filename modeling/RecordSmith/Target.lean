import RecordSmith.Contract.Literal
import RecordSmith.Contract.Reserved
import RecordSmith.Dataclass.Literal
import RecordSmith.Dataclass.Reserved
import RecordSmith.Schema.Shape
import RecordSmith.Value.Display

/-!
# Target languages

The languages that code is generated for: how each of them spells the types and default values of
members, and which names it keeps for itself.
-/

namespace RecordSmith

/-- A language that code is generated for. -/
inductive Target where
  | csharp
  | python
  deriving Repr, DecidableEq

namespace Target

/-- The name of the language. -/
def name : Target → Text
  | csharp => "csharp"
  | python => "python"

/-- The ending of file names. -/
def extension : Target → Text
  | csharp => ".cs"
  | python => ".py"

/-- The words that the language reserves. -/
def reservedWords : Target → List Text
  | csharp => Contract.keywords
  | python => Dataclass.keywords

/-- The names that generated code relies on. -/
def builtinNames : Target → List Text
  | csharp => Contract.recordMembers
  | python => Dataclass.builtinNames

/-- Members may not be called like their type. -/
def reservesTypeName : Target → Bool
  | csharp => true
  | python => false

/-- The type of a member that is not nullable. -/
def scalarType : Target → Schema.Scalar → Text
  | csharp, .string => "string"
  | csharp, .boolean => "bool"
  | python, .string => "str"
  | python, .boolean => "bool"

/-- What marks a type as nullable. -/
def nullableMark : Target → Text
  | csharp => "?"
  | python => " | None"

/-- The type of a member. -/
def memberType (target : Target) (scalar : Schema.Scalar) (nullable : Bool) : Text :=
  target.scalarType scalar ++ (if nullable then target.nullableMark else [])

/-- The literal of a text. -/
def textLiteral : Target → Text → Text
  | csharp => Contract.stringLiteral
  | python => Dataclass.stringLiteral

/-- The literal of a truth value. -/
def booleanLiteral : Target → Bool → Text
  | csharp, true => "true"
  | csharp, false => "false"
  | python, true => "True"
  | python, false => "False"

/-- The literal of the absent value. -/
def nullLiteral : Target → Text
  | csharp => "null"
  | python => "None"

end Target

/-- Why a declared default does not fit its field. -/
inductive DefaultProblem where
  | nullNotAllowed (scalar : Schema.Scalar)
  | notOfType (value : Value) (scalar : Schema.Scalar)
  deriving Repr

/-- The wording of a problem with a default, which is shown as it was read from a document. -/
def DefaultProblem.message : DefaultProblem → Text
  | nullNotAllowed scalar => "null default for non-nullable " ++ scalar.word ++ " field"
  | notOfType value scalar =>
    "default " ++ value.expression ++ " is not a valid " ++ scalar.word ++ " value"

/-- The literal of a declared default: null fits a nullable field, a text one of type string and a
truth value one of type boolean. -/
def Target.defaultLiteral (target : Target) (scalar : Schema.Scalar) (nullable : Bool)
    (value : Value) : Except DefaultProblem Text :=
  match value, scalar with
  | .null, _ => if nullable then .ok target.nullLiteral else .error (.nullNotAllowed scalar)
  | .text t, .string => .ok (target.textLiteral t)
  | .boolean b, .boolean => .ok (target.booleanLiteral b)
  | _, _ => .error (.notOfType value scalar)

end RecordSmith
