import RecordSmith.Proofs.Text.Casing
import RecordSmith.Text.Alphanumeric

/-!
# Lower case is reached in one step

No image of the lower case table is mapped any further, so that a text in lower case
is its own lower case.  The lower case of a letter, digit or numeral consists of others
of them, with one exception: that of U+0130 is a letter with a mark.
-/

namespace RecordSmith.Text

/-- What a code point is mapped to is kept. -/
theorem lowerOf_of_mem_lowerOf {c d : CodePoint} (hd : d ∈ lowerOf c) : lowerOf d = [d] :=
  mapCase_of_mem_mapCase (by decide +kernel) hd

theorem lowerOf_lowerSigma (before after : Text) :
    lowerOf (lowerSigma before after) = [lowerSigma before after] := by
  rw [lowerSigma]
  split
  · decide
  · decide

theorem lowerOf_capitalSigma_ne : lowerOf capitalSigma ≠ [capitalSigma] := by decide

/-- Lower case consists of code points that it keeps. -/
theorem lowerOf_of_mem_lowerAfter {before t : Text} {d : CodePoint}
    (hd : d ∈ lowerAfter before t) : lowerOf d = [d] := by
  rcases mem_lowerAfter hd with ⟨c, _, hlower⟩ | ⟨_, start, stop, rfl⟩
  · exact lowerOf_of_mem_lowerOf hlower
  · exact lowerOf_lowerSigma start stop

/-- A text of code points that lower case keeps stays as it is. -/
theorem lowerAfter_of_kept {t : Text} (ht : ∀ c ∈ t, lowerOf c = [c]) (before : Text) :
    lowerAfter before t = t := by
  induction t generalizing before with
  | nil => rfl
  | cons c rest ih =>
      obtain ⟨hc, hrest⟩ := List.forall_mem_cons.mp ht
      have hsigma : c ≠ capitalSigma := by
        rintro rfl
        exact lowerOf_capitalSigma_ne hc
      rw [lowerAfter, if_neg (by simpa using hsigma), hc, ih hrest, List.singleton_append]

@[simp]
theorem toLower_toLower (t : Text) : toLower (toLower t) = toLower t :=
  lowerAfter_of_kept (fun _ hd => lowerOf_of_mem_lowerAfter hd) []

/-! ## Lower case of letters, digits and numerals -/

/-- LATIN CAPITAL LETTER I WITH DOT ABOVE. -/
def dottedCapitalI : CodePoint := 0x130

/-- COMBINING DOT ABOVE. -/
def dotAbove : CodePoint := 0x307

theorem dotAbove_mem_lowerOf : dotAbove ∈ lowerOf dottedCapitalI := by decide

theorem isAlphanumeric_of_mem_lowerOf {c d : CodePoint} (hc : isAlphanumeric c = true)
    (hplain : c ≠ dottedCapitalI) (hd : d ∈ lowerOf c) : isAlphanumeric d = true := by
  have hruns : runsKeep (bitmap alphanumericRanges) lowerRuns = true := by decide +kernel
  have hexpansions : ∀ entry ∈ lowerExpansions, entry.1 = dottedCapitalI := by decide
  rcases mapCase_cases lowerRuns lowerExpansions c with ⟨run, hrun, image, himage, hmap⟩ |
    hentry | hmap
  · rw [lowerOf, hmap, List.mem_singleton] at hd
    exact hd ▸ inRanges_of_runsKeep hruns hrun himage hc
  · exact absurd (hexpansions _ hentry) hplain
  · rw [lowerOf, hmap, List.mem_singleton] at hd
    exact hd ▸ hc

theorem isAlphanumeric_lowerSigma (before after : Text) :
    isAlphanumeric (lowerSigma before after) = true := by
  rw [lowerSigma]
  split
  · rfl
  · rfl

end RecordSmith.Text
