import RecordSmith.Proofs.Naming.Namespace
import RecordSmith.Proofs.Naming.Shape
import RecordSmith.Proofs.Text.Lines

/-!
# Segments of namespaces

In Pascal case a namespace loses its word breaks and nothing else: delimiters stay where they are,
and so does every other character, in upper case at the start of a word.  So the namespace is a
dotted name only if the one in the schema was close to one already.
-/

namespace RecordSmith.Namespace

open RecordSmith.Text
open RecordSmith.Identifier (isAsciiWord StartsUndigited)

/-! ## Dotted names -/

/-- A segment of a dotted name: it does not start with a digit, and what it holds of the seven-bit
range are letters, digits and low lines. -/
structure IsSegment (segment : Text) : Prop where
  start : StartsUndigited segment
  word_of_ascii : ∀ c ∈ segment, isAscii c = true → isAsciiWord c = true

/-- What stands between the dots of the text are segments. -/
def IsDotted (t : Text) : Prop := ∀ segment ∈ splitOn (· == 0x2E) t, IsSegment segment

/-- What a namespace in a schema has to be like for a dotted name: between any two dots stands more
than word breaks and no digit first, and of the seven-bit range it holds letters, digits, dots and
word breaks only. -/
structure IsDottable (t : Text) : Prop where
  start : ∀ segment ∈ splitOn (· == 0x2E) t, StartsUndigited (segment.dropWhile isWordBreak)
  parts : ∀ c ∈ t, isWordBreak c = false → isAscii c = true → c = 0x2E ∨ isAsciiWord c = true

instance : DecidablePred StartsUndigited
  | [] => .isFalse fun ⟨_, _, h, _⟩ => nomatch h
  | c :: rest => decidable_of_iff (isDigit c = false)
    ⟨fun h => ⟨c, rest, rfl, h⟩, fun ⟨_, _, heq, h⟩ => (List.cons.inj heq).1 ▸ h⟩

instance : DecidablePred IsDottable := fun t =>
  decidable_of_iff
    ((∀ segment ∈ splitOn (· == 0x2E) t, StartsUndigited (segment.dropWhile isWordBreak)) ∧
      ∀ c ∈ t, isWordBreak c = false → isAscii c = true → c = 0x2E ∨ isAsciiWord c = true)
    ⟨fun h => ⟨h.1, h.2⟩, fun h => ⟨h.start, h.parts⟩⟩

/-! ## Characters without upper case -/

theorem upperOf_of_isDigit {c : CodePoint} (hc : isDigit c = true) : upperOf c = [c] :=
  mapCase_of_spared (by decide +kernel) hc

/-- What stands in the seven-bit range beside letters, digits and the low line. -/
def markRanges : List (CodePoint × CodePoint) :=
  [(0x00, 0x2F), (0x3A, 0x40), (0x5B, 0x5E), (0x60, 0x60), (0x7B, 0x7F)]

theorem inRanges_markRanges {c : CodePoint} (hascii : isAscii c = true)
    (hword : isAsciiWord c = false) : inRanges markRanges c = true := by
  have htable : ∀ c < 0x80, isAsciiWord c = false → inRanges markRanges c = true := by
    decide +kernel
  exact htable c (of_decide_eq_true hascii) hword

theorem upperOf_of_mark {c : CodePoint} (hascii : isAscii c = true)
    (hword : isAsciiWord c = false) : upperOf c = [c] :=
  mapCase_of_spared (by decide +kernel) (inRanges_markRanges hascii hword)

/-! ## Segments in Pascal case -/

section Segments

variable {segment : Text} {c : CodePoint}

theorem pascalSegment_cons_break (hc : isWordBreak c = true) (segment : Text) :
    pascalSegment (c :: segment) = pascalSegment segment := by
  rw [pascalSegment, splitOn, hc]
  rfl

/-- A word starts with its first character in upper case. -/
theorem exists_pascalSegment_cons (hc : isWordBreak c = false) (segment : Text) :
    ∃ rest, pascalSegment (c :: segment) = upperOf c ++ rest := by
  obtain ⟨word, words, hwords⟩ := List.exists_cons_of_ne_nil (splitOn_ne_nil isWordBreak segment)
  rw [pascalSegment, splitOn, hc, hwords]
  exact ⟨_, List.append_assoc _ _ _⟩

/-- Conversion puts no digit to the start of a segment and takes none away from it. -/
theorem startsUndigited_pascalSegment_iff :
    StartsUndigited (pascalSegment segment) ↔
      StartsUndigited (segment.dropWhile isWordBreak) := by
  induction segment with
  | nil => rfl
  | cons c segment ih =>
      by_cases hbreak : isWordBreak c = true
      · rw [pascalSegment_cons_break hbreak, List.dropWhile_cons_of_pos hbreak, ih]
      · have hkept : isWordBreak c = false := by simpa using hbreak
        obtain ⟨rest, hrest⟩ := exists_pascalSegment_cons hkept segment
        rw [hrest, List.dropWhile_cons_of_neg hbreak]
        constructor
        · rintro ⟨first, others, heq, hfirst⟩
          refine ⟨c, segment, rfl, ?_⟩
          rw [← Bool.not_eq_true]
          intro hdigit
          rw [upperOf_of_isDigit hdigit, List.singleton_append, List.cons.injEq] at heq
          rw [← heq.1, hdigit] at hfirst
          cases hfirst
        · rintro ⟨first, others, heq, hfirst⟩
          rw [List.cons.injEq] at heq
          rw [← heq.1] at hfirst
          exact Identifier.startsUndigited_append (upperOf_ne_nil c)
            (Identifier.caseClosed_not_digit.upper hfirst)

/-- A property that case mapping keeps holds of a converted segment if it holds beside word
breaks. -/
theorem forall_mem_pascalSegment_of_word {P : CodePoint → Prop} (hP : CaseClosed P)
    (h : ∀ c ∈ segment, isWordBreak c = false → P c) : ∀ c ∈ pascalSegment segment, P c := by
  rw [pascalSegment, List.forall_mem_flatMap]
  intro word hword
  have hpart := (List.mem_filter.mp hword).1
  exact hP.capitalizeFirst fun c hc => h c (mem_of_mem_splitOn hpart hc) (splitOn_part hpart c hc)

/-- Case mapping makes no word breaks. -/
theorem caseClosed_not_isWordBreak : CaseClosed fun c => isWordBreak c = false := by
  refine caseClosed_of_avoids (by decide +kernel :
    casingAvoids (blankRanges ++ [(0x5F, 0x5F), (0x2D, 0x2D)]) = true) fun c hc => ?_
  rw [inRanges_eq_false_iff, List.forall_mem_append] at hc
  obtain ⟨hblank, hothers⟩ := hc
  have hlow : c ≠ 0x5F := Nat.lt_or_gt.mpr (hothers (0x5F, 0x5F) (by decide))
  have hhyphen : c ≠ 0x2D := Nat.lt_or_gt.mpr (hothers (0x2D, 0x2D) (by decide))
  have hspace : isBlank c = false := inRanges_eq_false_iff.mpr hblank
  rw [isWordBreak, hspace, Bool.or_false, Bool.or_eq_false_iff]
  exact ⟨beq_false_of_ne hlow, beq_false_of_ne hhyphen⟩

/-- What has no upper case and breaks no word is kept. -/
theorem mem_pascalSegment (hc : c ∈ segment) (hbreak : isWordBreak c = false)
    (hupper : upperOf c = [c]) : c ∈ pascalSegment segment := by
  obtain ⟨word, hword, hin⟩ := exists_mem_splitOn hc hbreak
  obtain ⟨first, rest, rfl⟩ := List.exists_cons_of_ne_nil (List.ne_nil_of_mem hin)
  rw [pascalSegment, List.mem_flatMap]
  refine ⟨first :: rest, List.mem_filter.mpr ⟨hword, rfl⟩, ?_⟩
  rw [capitalizeFirst, List.mem_append]
  rcases List.mem_cons.mp hin with rfl | hrest
  · exact Or.inl (hupper ▸ List.mem_singleton_self c)
  · exact Or.inr hrest

end Segments

/-! ## Namespaces in Pascal case -/

section Namespaces

variable {t : Text} {c : CodePoint}

theorem isWordBreak_of_isDelimiter (hc : isDelimiter c = true) : isWordBreak c = false := by
  rw [isDelimiter, Bool.or_eq_true, beq_iff_eq, beq_iff_eq] at hc
  rcases hc with rfl | rfl
  · decide
  · decide

/-- Every character of a namespace stands in one of its segments or between two of them. -/
theorem mem_segments (hc : c ∈ t) :
    c ∈ (segments t).1 ∨ ∃ entry ∈ (segments t).2, c = entry.1 ∨ c ∈ entry.2 := by
  induction t with
  | nil => cases hc
  | cons d rest ih =>
      simp only [segments]
      by_cases hcut : isDelimiter d = true
      · rw [if_pos hcut]
        refine Or.inr ?_
        rcases List.mem_cons.mp hc with rfl | hrest
        · exact ⟨_, List.mem_cons_self, Or.inl rfl⟩
        · rcases ih hrest with hfirst | ⟨entry, hentry, hin⟩
          · exact ⟨_, List.mem_cons_self, Or.inr hfirst⟩
          · exact ⟨entry, List.mem_cons_of_mem _ hentry, hin⟩
      · rw [if_neg hcut]
        rcases List.mem_cons.mp hc with rfl | hrest
        · exact Or.inl List.mem_cons_self
        · exact (ih hrest).imp_left (List.mem_cons_of_mem d)

theorem isDelimiter_of_mem_segments {entry : CodePoint × Text} (h : entry ∈ (segments t).2) :
    isDelimiter entry.1 = true := by
  induction t with
  | nil => cases h
  | cons d rest ih =>
      simp only [segments] at h
      by_cases hcut : isDelimiter d = true
      · rw [if_pos hcut] at h
        rcases List.mem_cons.mp h with rfl | hrest
        · exact hcut
        · exact ih hrest
      · rw [if_neg hcut] at h
        exact ih h

/-- A property that case mapping keeps holds of a converted namespace if it holds beside word
breaks. -/
theorem forall_mem_normalize {P : CodePoint → Prop} (hP : CaseClosed P)
    (ht : ∀ c ∈ t, isWordBreak c = false → P c) : ∀ c ∈ normalize t, P c := by
  obtain ⟨hfirst, hothers⟩ := forall_mem_segments ht
  rw [normalize, mapSegments, List.forall_mem_append, List.forall_mem_flatMap]
  refine ⟨forall_mem_pascalSegment_of_word hP hfirst, fun entry hentry => ?_⟩
  obtain ⟨hdelimiter, hsegment⟩ := hothers entry hentry
  have hbreak := isWordBreak_of_isDelimiter (isDelimiter_of_mem_segments hentry)
  exact List.forall_mem_cons.mpr
    ⟨hdelimiter hbreak, forall_mem_pascalSegment_of_word hP hsegment⟩

/-- No word break is left. -/
theorem not_isWordBreak_of_mem_normalize : ∀ c ∈ normalize t, isWordBreak c = false :=
  forall_mem_normalize caseClosed_not_isWordBreak fun _ _ h => h

/-- What has no upper case and breaks no word is kept. -/
theorem mem_normalize (hc : c ∈ t) (hbreak : isWordBreak c = false) (hupper : upperOf c = [c]) :
    c ∈ normalize t := by
  rw [normalize, mapSegments, List.mem_append, List.mem_flatMap]
  rcases mem_segments hc with hfirst | ⟨entry, hentry, hin⟩
  · exact Or.inl (mem_pascalSegment hfirst hbreak hupper)
  · refine Or.inr ⟨entry, hentry, ?_⟩
    rw [List.mem_cons]
    exact hin.imp_right fun hsegment => mem_pascalSegment hsegment hbreak hupper

/-- Without a slash the segments stand between dots. -/
theorem splitOn_eq_segments (h : 0x2F ∉ t) :
    splitOn (· == 0x2E) t = (segments t).1 :: (segments t).2.map Prod.snd ∧
      ∀ entry ∈ (segments t).2, entry.1 = 0x2E := by
  induction t with
  | nil => exact ⟨rfl, List.forall_mem_nil _⟩
  | cons d rest ih =>
      rw [List.mem_cons, not_or] at h
      obtain ⟨hparts, hdots⟩ := ih h.2
      rw [splitOn, hparts]
      simp only [segments]
      by_cases hdot : d = 0x2E
      · subst hdot
        exact ⟨rfl, List.forall_mem_cons.mpr ⟨rfl, hdots⟩⟩
      · have hcut : isDelimiter d = false := by
          rw [isDelimiter, beq_false_of_ne hdot, beq_false_of_ne (Ne.symm h.1)]
          rfl
        rw [beq_false_of_ne hdot, hcut, if_neg Bool.false_ne_true]
        exact ⟨rfl, hdots⟩

/-- Texts without dots, with dots between them, are the parts of the whole. -/
theorem splitOn_row {f : Text → Text} {first : Text} {others : List (CodePoint × Text)}
    (hdots : ∀ entry ∈ others, entry.1 = 0x2E) (hfirst : 0x2E ∉ f first)
    (hothers : ∀ entry ∈ others, 0x2E ∉ f entry.2) :
    splitOn (· == 0x2E) (f first ++ others.flatMap fun entry => entry.1 :: f entry.2) =
      f first :: others.map fun entry => f entry.2 := by
  have hfree : ∀ {part : Text}, 0x2E ∉ part → splitOn (· == 0x2E) part = [part] := by
    intro part hpart
    exact splitOn_of_free fun c hc => beq_false_of_ne fun heq => hpart (heq ▸ hc)
  induction others generalizing first with
  | nil => simpa using hfree hfirst
  | cons entry rest ih =>
      obtain ⟨hdot, hrest⟩ := List.forall_mem_cons.mp hdots
      obtain ⟨hentry, hothersRest⟩ := List.forall_mem_cons.mp hothers
      rw [List.flatMap_cons, hdot, List.cons_append, splitOn_append_cons (by decide), hfree hfirst,
        ih hrest hentry hothersRest]
      rfl

theorem splitOn_normalize (h : 0x2F ∉ t) :
    splitOn (· == 0x2E) (normalize t) = (splitOn (· == 0x2E) t).map pascalSegment := by
  obtain ⟨hparts, hdots⟩ := splitOn_eq_segments h
  have hclosed : CaseClosed (· ≠ 0x2E) := caseClosed_ne (by decide +kernel)
  have hfree : ∀ segment ∈ splitOn (· == 0x2E) t, 0x2E ∉ pascalSegment segment := by
    intro segment hsegment hmem
    refine forall_mem_pascalSegment hclosed (fun c hc => ?_) 0x2E hmem rfl
    exact ne_of_beq_false (splitOn_part hsegment c hc)
  rw [hparts, List.forall_mem_cons, List.forall_mem_map] at hfree
  rw [hparts, normalize, mapSegments, List.map_cons, List.map_map]
  exact splitOn_row hdots hfree.1 hfree.2

/-- What a dotted name may hold. -/
def IsDottedPart (c : CodePoint) : Prop := isAscii c = true → c = 0x2E ∨ isAsciiWord c = true

/-- What stands in the seven-bit range beside what a dotted name may hold. -/
def undottedRanges : List (CodePoint × CodePoint) :=
  [(0x00, 0x2D), (0x2F, 0x2F), (0x3A, 0x40), (0x5B, 0x5E), (0x60, 0x60), (0x7B, 0x7F)]

theorem caseClosed_isDottedPart : CaseClosed IsDottedPart := by
  have hranges : casingAvoids undottedRanges = true := by decide +kernel
  refine caseClosed_of_avoids hranges fun c hc hascii => ?_
  have htable : ∀ c < 0x80, inRanges undottedRanges c = false →
      c = 0x2E ∨ isAsciiWord c = true := by
    decide +kernel
  exact htable c (of_decide_eq_true hascii) hc

/-- The parts of a converted namespace are those of a dotted name exactly if they were before. -/
theorem forall_mem_normalize_isDottedPart_iff :
    (∀ c ∈ normalize t, IsDottedPart c) ↔ ∀ c ∈ t, isWordBreak c = false → IsDottedPart c := by
  constructor
  · intro h c hc hbreak hascii
    by_cases hmark : isAsciiWord c = true
    · exact Or.inr hmark
    · have hupper := upperOf_of_mark hascii (by simpa using hmark)
      exact h c (mem_normalize hc hbreak hupper) hascii
  · exact forall_mem_normalize caseClosed_isDottedPart

theorem isDotted_iff {t : Text} :
    IsDotted t ↔
      (∀ segment ∈ splitOn (· == 0x2E) t, StartsUndigited segment) ∧ ∀ c ∈ t, IsDottedPart c := by
  constructor
  · intro h
    refine ⟨fun segment hsegment => (h segment hsegment).start, fun c hc hascii => ?_⟩
    by_cases hdot : c = 0x2E
    · exact Or.inl hdot
    · obtain ⟨segment, hsegment, hin⟩ :=
        exists_mem_splitOn (p := (· == 0x2E)) hc (beq_false_of_ne hdot)
      exact Or.inr ((h segment hsegment).word_of_ascii c hin hascii)
  · rintro ⟨hstart, hparts⟩ segment hsegment
    refine ⟨hstart segment hsegment, fun c hc hascii => ?_⟩
    have hdot : c ≠ 0x2E := ne_of_beq_false (splitOn_part hsegment c hc)
    exact (hparts c (mem_of_mem_splitOn hsegment hc) hascii).resolve_left hdot

/-- A namespace in Pascal case is a dotted name exactly if it was fit for one. -/
theorem isDotted_normalize_iff : IsDotted (normalize t) ↔ IsDottable t := by
  have hslash : ∀ {t : Text}, (∀ c ∈ t, isWordBreak c = false → IsDottedPart c) → 0x2F ∉ t := by
    intro t h hmem
    exact absurd (h 0x2F hmem (by decide) (by decide)) (by decide)
  have hstart : 0x2F ∉ t →
      ((∀ segment ∈ splitOn (· == 0x2E) (normalize t), StartsUndigited segment) ↔
        ∀ segment ∈ splitOn (· == 0x2E) t, StartsUndigited (segment.dropWhile isWordBreak)) := by
    intro hfree
    rw [splitOn_normalize hfree, List.forall_mem_map]
    simp only [startsUndigited_pascalSegment_iff]
  rw [isDotted_iff, forall_mem_normalize_isDottedPart_iff]
  constructor
  · rintro ⟨hsegments, hparts⟩
    exact ⟨(hstart (hslash hparts)).mp hsegments, hparts⟩
  · rintro ⟨hsegments, hparts⟩
    exact ⟨(hstart (hslash hparts)).mpr hsegments, hparts⟩

end Namespaces

end RecordSmith.Namespace
