import RecordSmith.Json.Reader

/-!
# Machines

What the machine allows that the program runs on.  A setting can ask for more: for an indent of any
width, or to be shown or saved with any number of values inside one another.
-/

namespace RecordSmith

/-- The limits of a machine.  They leave room to show whatever can be read from a document. -/
structure Machine where
  /-- The length of the longest indent that there is memory for, if memory is limited. -/
  memory : Option Nat := none
  /-- How many levels of a value are followed to show it. -/
  shownDepth : Nat := Json.maxDepth
  /-- How many levels are followed to save settings, which takes two calls for each of them. -/
  savedDepth : Nat := Json.maxDepth / 2
  showsRead : Json.maxDepth ≤ shownDepth := by exact Nat.le_refl _
  deriving Repr, DecidableEq

/-- There is memory for a text of some length. -/
def Machine.holds (machine : Machine) (length : Int) : Bool :=
  machine.memory.all fun longest => length ≤ longest

end RecordSmith
