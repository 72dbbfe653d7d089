import RecordSmith.Text.Ranges

/-!
# Sets of code points as numbers

A set of code points is a number with one bit for each code point.  That two tables have no code
point in common is then a single operation on two numbers.
-/

namespace RecordSmith.Text

/-- What belongs to one of the sets. -/
def union (sets : List Nat) : Nat := sets.foldr (fun members bits => members ||| bits) 0

theorem testBit_union {sets : List Nat} {members c : Nat} (hmem : members ∈ sets)
    (hc : members.testBit c = true) : (union sets).testBit c = true := by
  induction sets with
  | nil => cases hmem
  | cons first rest ih =>
      rw [union, List.foldr_cons, ← union, Nat.testBit_or, Bool.or_eq_true]
      rcases List.mem_cons.mp hmem with rfl | hrest
      · exact Or.inl hc
      · exact Or.inr (ih hrest)

theorem testBit_shiftLeft_add {members offset : Nat} (h : members.testBit offset = true)
    (start : Nat) : (members <<< start).testBit (start + offset) = true := by
  rw [Nat.testBit_shiftLeft, Nat.add_sub_cancel_left, h]
  simp

theorem testBit_single (c : Nat) : (1 <<< c).testBit c = true := by
  rw [Nat.testBit_shiftLeft, Nat.sub_self]
  simp

/-- The first multiples of a step. -/
def strided (step : Nat) : Nat → Nat
  | 0 => 0
  | count + 1 => strided step count ||| 1 <<< (step * count)

theorem testBit_strided {step count k : Nat} (hk : k < count) :
    (strided step count).testBit (step * k) = true := by
  induction count with
  | zero => cases hk
  | succ count ih =>
      rw [strided, Nat.testBit_or, Bool.or_eq_true]
      rcases Nat.lt_succ_iff_lt_or_eq.mp hk with hlt | rfl
      · exact Or.inl (ih hlt)
      · exact Or.inr (testBit_single _)

/-- The set of the code points in some ranges. -/
def bitmap (ranges : List (CodePoint × CodePoint)) : Nat :=
  ranges.foldr (fun range bits => bits ||| (1 <<< (range.2 + 1 - range.1) - 1) <<< range.1) 0

theorem testBit_range (start stop c : Nat) :
    ((1 <<< (stop + 1 - start) - 1) <<< start).testBit c =
      (decide (start ≤ c) && decide (c ≤ stop)) := by
  rw [Nat.testBit_shiftLeft, Nat.one_shiftLeft, Nat.testBit_two_pow_sub_one, Bool.eq_iff_iff]
  simp only [Bool.and_eq_true, decide_eq_true_eq]
  omega

theorem testBit_bitmap (ranges : List (CodePoint × CodePoint)) (c : CodePoint) :
    (bitmap ranges).testBit c = inRanges ranges c := by
  induction ranges with
  | nil => rw [bitmap, List.foldr_nil, Nat.zero_testBit, inRanges, List.any_nil]
  | cons range rest ih =>
      rw [bitmap, List.foldr_cons, ← bitmap, Nat.testBit_or, ih, testBit_range, Bool.or_comm]
      rfl

/-- Two sets without a common bit. -/
theorem testBit_of_disjoint {members others c : Nat} (h : members &&& others = 0)
    (hc : others.testBit c = true) : members.testBit c = false := by
  have hbit := congrArg (·.testBit c) h
  simpa [Nat.testBit_and, hc] using hbit

theorem inRanges_of_disjoint {ranges others : List (CodePoint × CodePoint)} {c : CodePoint}
    (h : bitmap ranges &&& bitmap others = 0) (hc : inRanges others c = true) :
    inRanges ranges c = false := by
  rw [← testBit_bitmap] at hc ⊢
  exact testBit_of_disjoint h hc

end RecordSmith.Text
