import RecordSmith.Json.Reader

/-!
# How far values go

What is done with a value all the way down, as when it is shown or saved, takes a step further down
for each list or object inside another one, and it writes out every integer.  Both have a limit.
-/

namespace RecordSmith.Value

/-- The integer has more digits than are converted. -/
def isLong (n : Int) : Bool := Json.maxIntegerDigits < (Text.ofNat n.natAbs).length

mutual

/-- How many levels of values are inside the value. -/
def nesting : Value → Nat
  | list items => nestingOfItems items
  | object entries => nestingOfEntries entries
  | _ => 0

/-- The levels that the values of a list are, and are inside of them. -/
def nestingOfItems : List Value → Nat
  | [] => 0
  | item :: rest => max (nesting item + 1) (nestingOfItems rest)

/-- The levels that the values of an object are, and are inside of them. -/
def nestingOfEntries : List (Text × Value) → Nat
  | [] => 0
  | (_, value) :: rest => max (nesting value + 1) (nestingOfEntries rest)

end

mutual

/-- The value is a long integer, or there is one in it. -/
def holdsLong : Value → Bool
  | integer n => isLong n
  | list items => itemsHoldLong items
  | object entries => entriesHoldLong entries
  | _ => false

/-- A value of a list is a long integer, or there is one in it. -/
def itemsHoldLong : List Value → Bool
  | [] => false
  | item :: rest => holdsLong item || itemsHoldLong rest

/-- A value of an object is a long integer, or there is one in it. -/
def entriesHoldLong : List (Text × Value) → Bool
  | [] => false
  | (_, value) :: rest => holdsLong value || entriesHoldLong rest

end

end RecordSmith.Value
