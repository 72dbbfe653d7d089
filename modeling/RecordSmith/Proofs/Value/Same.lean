import RecordSmith.Value.Basic

/-!
# Deciding that values are the same

Values are the same if they are put together in the same way from the same texts and numbers.
Other than the equality of settings this tells apart the kinds of numbers and the orders of entries.
-/

namespace RecordSmith.Value

mutual

/-- The values are the same. -/
def same : Value → Value → Bool
  | null, null => true
  | boolean a, boolean b => a == b
  | integer m, integer n => m == n
  | real x, real y => decide (x = y)
  | text s, text t => s == t
  | list xs, list ys => sameItems xs ys
  | object xs, object ys => sameEntries xs ys
  | _, _ => false

/-- The lists hold the same values at the same places. -/
def sameItems : List Value → List Value → Bool
  | [], [] => true
  | x :: xs, y :: ys => same x y && sameItems xs ys
  | _, _ => false

/-- The objects hold the same entries at the same places. -/
def sameEntries : List (Text × Value) → List (Text × Value) → Bool
  | [], [] => true
  | (j, x) :: xs, (k, y) :: ys => j == k && same x y && sameEntries xs ys
  | _, _ => false

end

mutual

theorem same_self : ∀ x : Value, same x x = true
  | null => rfl
  | boolean b => beq_self_eq_true b
  | integer n => beq_self_eq_true n
  | real x => by simp [same]
  | text t => beq_self_eq_true t
  | list xs => sameItems_self xs
  | object xs => sameEntries_self xs

theorem sameItems_self : ∀ xs : List Value, sameItems xs xs = true
  | [] => rfl
  | x :: xs => by rw [sameItems, same_self x, sameItems_self xs]; rfl

theorem sameEntries_self : ∀ xs : List (Text × Value), sameEntries xs xs = true
  | [] => rfl
  | (k, x) :: xs => by
      rw [sameEntries, beq_self_eq_true, same_self x, sameEntries_self xs]
      rfl

end

mutual

theorem eq_of_same : ∀ x y : Value, same x y = true → x = y
  | null, y, h => by
      cases y with
      | null => rfl
      | boolean | integer | real | text | list | object => cases h
  | boolean a, y, h => by
      cases y with
      | boolean b => rw [eq_of_beq h]
      | null | integer | real | text | list | object => cases h
  | integer m, y, h => by
      cases y with
      | integer n => rw [eq_of_beq h]
      | null | boolean | real | text | list | object => cases h
  | real x, y, h => by
      cases y with
      | real y => rw [of_decide_eq_true h]
      | null | boolean | integer | text | list | object => cases h
  | text s, y, h => by
      cases y with
      | text t => rw [eq_of_beq h]
      | null | boolean | integer | real | list | object => cases h
  | list xs, y, h => by
      cases y with
      | list ys => rw [eq_of_sameItems xs ys h]
      | null | boolean | integer | real | text | object => cases h
  | object xs, y, h => by
      cases y with
      | object ys => rw [eq_of_sameEntries xs ys h]
      | null | boolean | integer | real | text | list => cases h

theorem eq_of_sameItems : ∀ xs ys : List Value, sameItems xs ys = true → xs = ys
  | [], [], _ => rfl
  | [], _ :: _, h => nomatch h
  | _ :: _, [], h => nomatch h
  | x :: xs, y :: ys, h => by
      rw [sameItems, Bool.and_eq_true] at h
      rw [eq_of_same x y h.1, eq_of_sameItems xs ys h.2]

theorem eq_of_sameEntries : ∀ xs ys : List (Text × Value), sameEntries xs ys = true → xs = ys
  | [], [], _ => rfl
  | [], _ :: _, h => nomatch h
  | _ :: _, [], h => nomatch h
  | (j, x) :: xs, (k, y) :: ys, h => by
      rw [sameEntries, Bool.and_eq_true, Bool.and_eq_true, beq_iff_eq] at h
      rw [h.1.1, eq_of_same x y h.1.2, eq_of_sameEntries xs ys h.2]

end

theorem same_iff {x y : Value} : same x y = true ↔ x = y :=
  ⟨eq_of_same x y, fun h => h ▸ same_self x⟩

instance : DecidableEq Value := fun _ _ => decidable_of_iff _ same_iff

end RecordSmith.Value
