import RecordSmith.Number.Shortest

/-!
# Values

The data of JSON documents: schema documents, settings files and overrides all consist of them.  An
object is a list of entries, because the order of its keys can be seen in messages and in saved
settings.
-/

namespace RecordSmith

/-- A JSON value.  Numbers without fraction and exponent are integers of any size. -/
inductive Value where
  | null
  | boolean (b : Bool)
  | integer (n : Int)
  | real (x : Binary64)
  | text (t : Text)
  | list (items : List Value)
  | object (entries : List (Text × Value))
  deriving Repr, Inhabited

/-- The entries of an object in their order. -/
abbrev Entries := List (Text × Value)

namespace Value

/-- The text of a value that is one. -/
def text? : Value → Option Text
  | text t => some t
  | _ => none

/-- The entries of a value that is an object. -/
def entries? : Value → Option Entries
  | object entries => some entries
  | _ => none

/-- Values that count as set when a setting is used as a switch: everything but null, false, zero
and what is empty. -/
def isTruthy : Value → Bool
  | null => false
  | boolean b => b
  | integer n => n != 0
  | real x => !x.isZero
  | text t => !t.isEmpty
  | list items => !items.isEmpty
  | object entries => !entries.isEmpty

/-- Scalars can be looked up among other values; lists and objects cannot. -/
def isScalar : Value → Bool
  | list _ => false
  | object _ => false
  | _ => true

/-- The number that a value counts as in comparisons; a truth value counts as zero or one. -/
def number? : Value → Option (Int ⊕ Binary64)
  | boolean b => some (.inl (if b then 1 else 0))
  | integer n => some (.inl n)
  | real x => some (.inr x)
  | _ => none

/-- Equality of numbers across integers and floating point numbers. -/
def equalNumbers : Int ⊕ Binary64 → Int ⊕ Binary64 → Bool
  | .inl m, .inl n => m == n
  | .inl m, .inr y => y.toInt? == some m
  | .inr x, .inl n => x.toInt? == some n
  | .inr x, .inr y => x.equal y

end Value

end RecordSmith
