import RecordSmith.Text.Basic

/-!
# Ranges of code points

A property of characters is a list of closed ranges.  Membership is decided by going through the
list, so that facts about a table are facts about finitely many pairs.
-/

namespace RecordSmith.Text

/-- `c` lies in one of the closed ranges. -/
def inRanges (ranges : List (CodePoint × CodePoint)) (c : CodePoint) : Bool :=
  ranges.any fun range => range.1 ≤ c && c ≤ range.2

theorem inRanges_iff {ranges : List (CodePoint × CodePoint)} {c : CodePoint} :
    inRanges ranges c = true ↔ ∃ range ∈ ranges, range.1 ≤ c ∧ c ≤ range.2 := by
  simp [inRanges]

end RecordSmith.Text
