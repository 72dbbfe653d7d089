import RecordSmith.Text.Quoted
import RecordSmith.Value.Extent

/-!
# Values in messages

A message shows a value as an expression: texts are quoted, lists and objects are bracketed, and
the three constants have capital letters.  Where a message quotes a setting that should be a text,
a text is shown without quotes.  A value is not shown if there is a long integer in it, or if more
values are inside one another than are followed.
-/

namespace RecordSmith

/-- Why a value cannot be shown. -/
inductive DisplayFault where
  | integerTooLong
  | nestedTooDeep
  deriving Repr, DecidableEq

namespace Value

mutual

/-- The value as an expression. -/
def expression : Value → Text
  | null => "None"
  | boolean b => if b then Text.ofString "True" else Text.ofString "False"
  | integer n => Text.ofInt n
  | real x => x.toText
  | text t => t.quoted
  | list items => "[" ++ expressionOfItems items ++ "]"
  | object entries => "\x7b" ++ expressionOfEntries entries ++ "\x7d"

/-- The values of a list, separated by commas. -/
def expressionOfItems : List Value → Text
  | [] => []
  | [item] => expression item
  | item :: rest => expression item ++ ", " ++ expressionOfItems rest

/-- The entries of an object, separated by commas. -/
def expressionOfEntries : List (Text × Value) → Text
  | [] => []
  | [(key, value)] => key.quoted ++ ": " ++ expression value
  | (key, value) :: rest =>
    key.quoted ++ ": " ++ expression value ++ ", " ++ expressionOfEntries rest

end

/-- The value as an expression, or the text itself if it is one. -/
def plainExpression : Value → Text
  | text t => t
  | value => value.expression

mutual

/-- What stands first in the way of showing a value in which `depth` levels are followed. -/
def displayFault? : Nat → Value → Option DisplayFault
  | _, integer n => if isLong n then some .integerTooLong else none
  | depth, list items => faultOfItems? depth items
  | depth, object entries => faultOfEntries? depth entries
  | _, _ => none

/-- What stands first in the way of showing the values of a list. -/
def faultOfItems? : Nat → List Value → Option DisplayFault
  | _, [] => none
  | 0, _ :: _ => some .nestedTooDeep
  | depth + 1, item :: rest => (displayFault? depth item).or (faultOfItems? (depth + 1) rest)

/-- What stands first in the way of showing the values of an object. -/
def faultOfEntries? : Nat → List (Text × Value) → Option DisplayFault
  | _, [] => none
  | 0, _ :: _ => some .nestedTooDeep
  | depth + 1, (_, value) :: rest =>
    (displayFault? depth value).or (faultOfEntries? (depth + 1) rest)

end

/-- Shows a value, following `depth` levels of it. -/
def display (depth : Nat) (value : Value) : Except DisplayFault Text :=
  match value.displayFault? depth with
  | none => .ok value.expression
  | some fault => .error fault

/-- Shows a value without quotes if it is a text. -/
def displayPlain (depth : Nat) (value : Value) : Except DisplayFault Text :=
  match value.displayFault? depth with
  | none => .ok value.plainExpression
  | some fault => .error fault

/-- The name of the kind of a value. -/
def kindName : Value → Text
  | null => "NoneType"
  | boolean _ => "bool"
  | integer _ => "int"
  | real _ => "float"
  | text _ => "str"
  | list _ => "list"
  | object _ => "dict"

end Value

end RecordSmith
