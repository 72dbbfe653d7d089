import RecordSmith.Value.Object

/-!
# Equality of values

Numbers are equal by value, whatever their kind, objects regardless of the order of their entries,
and what is not a number is equal to nothing.
-/

namespace RecordSmith.Value

mutual

/-- The values are equal. -/
def equal : Value → Value → Bool
  | null, null => true
  | text s, text t => s == t
  | list xs, list ys => equalItems xs ys
  | object xs, object ys => xs.length == ys.length && equalEntries xs ys
  | x, y =>
    match x.number?, y.number? with
    | some m, some n => equalNumbers m n
    | _, _ => false

/-- The lists have equal values at equal places. -/
def equalItems : List Value → List Value → Bool
  | [], [] => true
  | x :: xs, y :: ys => equal x y && equalItems xs ys
  | _, _ => false

/-- Every entry has its equal among `others`. -/
def equalEntries : List (Text × Value) → Entries → Bool
  | [], _ => true
  | (key, x) :: rest, others =>
    (match Entries.get? others key with
      | some y => equal x y
      | none => false) && equalEntries rest others

end

end RecordSmith.Value
