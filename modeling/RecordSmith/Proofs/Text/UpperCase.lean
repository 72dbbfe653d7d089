import RecordSmith.Proofs.Text.Casing
import RecordSmith.Text.Alphanumeric

/-!
# Capitals

No image of the upper case table is mapped any further, so that a word with a capital keeps
it.  The upper case of a letter, digit or numeral starts with another one.  Only a few letters
have no capital of their own, and get one with combining marks behind it.
-/

namespace RecordSmith.Text

variable {c d : CodePoint}

/-- What a code point is mapped to is kept. -/
theorem upperOf_of_mem_upperOf (hd : d ∈ upperOf c) : upperOf d = [d] :=
  mapCase_of_mem_mapCase (by decide +kernel) hd

theorem capitalizeFirst_cons_eq_iff {rest : Text} :
    capitalizeFirst (c :: rest) = c :: rest ↔ upperOf c = [c] := by
  rw [capitalizeFirst, ← List.singleton_append, List.append_cancel_right_eq]

/-- Texts in a row start with a capital already if each of them got one. -/
theorem capitalizeFirst_flatMap_capitalizeFirst (words : List Text) :
    capitalizeFirst (words.flatMap capitalizeFirst) = words.flatMap capitalizeFirst := by
  induction words with
  | nil => rfl
  | cons word words ih =>
      cases word with
      | nil => exact ih
      | cons c rest =>
          obtain ⟨d, images, himages⟩ := List.exists_cons_of_ne_nil (upperOf_ne_nil c)
          have hkept : upperOf d = [d] :=
            upperOf_of_mem_upperOf (himages ▸ List.mem_cons_self : d ∈ upperOf c)
          rw [List.flatMap_cons, capitalizeFirst, himages, List.cons_append, List.cons_append,
            capitalizeFirst_cons_eq_iff]
          exact hkept

/-! ## Capitals of letters, digits and numerals -/

/-- The letters without a capital of their own. -/
def markedCapitals : List CodePoint :=
  [0x1F0, 0x390, 0x3B0, 0x1E96, 0x1E97, 0x1E98, 0x1E99, 0x1F50, 0x1F52, 0x1F54, 0x1F56, 0x1FB6,
   0x1FB7, 0x1FC6, 0x1FC7, 0x1FD2, 0x1FD3, 0x1FD6, 0x1FD7, 0x1FE2, 0x1FE3, 0x1FE4, 0x1FE6,
   0x1FE7, 0x1FF6, 0x1FF7]

theorem exists_mark_of_mem_markedCapitals (hc : c ∈ markedCapitals) :
    ∃ d ∈ upperOf c, isAlphanumeric d = false := by
  have htable : ∀ c ∈ markedCapitals, (listed upperRuns []).testBit c = false ∧
      ∃ expansion ∈ upperExpansions.lookup c,
        ∃ d ∈ expansion, (bitmap alphanumericRanges).testBit d = false := by
    decide +kernel
  obtain ⟨hruns, expansion, hexpansion, d, hd, hmark⟩ := htable c hc
  rw [testBit_bitmap] at hmark
  rw [upperOf, mapCase_of_expansion hruns hexpansion]
  exact ⟨d, hd, hmark⟩

theorem runsKeep_upperRuns : runsKeep (bitmap alphanumericRanges) upperRuns = true := by
  decide +kernel

/-- A longer image starts with a letter, and holds a mark only if the letter is listed. -/
theorem upperExpansions_alphanumeric : ∀ entry ∈ upperExpansions,
    entry.2.head?.any isAlphanumeric = true ∧
      (entry.1 ∈ markedCapitals ∨ ∀ d ∈ entry.2, isAlphanumeric d = true) := by
  have htable : ∀ entry ∈ upperExpansions,
      entry.2.head?.any (bitmap alphanumericRanges).testBit = true ∧
        (entry.1 ∈ markedCapitals ∨
          ∀ d ∈ entry.2, (bitmap alphanumericRanges).testBit d = true) := by
    decide +kernel
  rw [funext (testBit_bitmap alphanumericRanges)] at htable
  exact htable

theorem isAlphanumeric_of_mem_upperOf (hc : isAlphanumeric c = true) (hplain : c ∉ markedCapitals)
    (hd : d ∈ upperOf c) : isAlphanumeric d = true := by
  rcases mapCase_cases upperRuns upperExpansions c with ⟨run, hrun, image, himage, hmap⟩ |
    hentry | hmap
  · rw [upperOf, hmap, List.mem_singleton] at hd
    exact hd ▸ inRanges_of_runsKeep runsKeep_upperRuns hrun himage hc
  · exact (upperExpansions_alphanumeric _ hentry).2.resolve_left hplain d hd
  · rw [upperOf, hmap, List.mem_singleton] at hd
    exact hd ▸ hc

/-- The capital stands before its marks. -/
theorem exists_upperOf_cons (hc : isAlphanumeric c = true) :
    ∃ d marks, upperOf c = d :: marks ∧ isAlphanumeric d = true := by
  rcases mapCase_cases upperRuns upperExpansions c with ⟨run, hrun, d, himage, hmap⟩ |
    hentry | hmap
  · exact ⟨d, [], hmap, inRanges_of_runsKeep runsKeep_upperRuns hrun himage hc⟩
  · obtain ⟨d, marks, hcons⟩ := List.exists_cons_of_ne_nil (upperOf_ne_nil c)
    have hhead := (upperExpansions_alphanumeric _ hentry).1
    rw [← upperOf, hcons] at hhead
    exact ⟨d, marks, hcons, hhead⟩
  · exact ⟨c, [], hmap, hc⟩

end RecordSmith.Text
