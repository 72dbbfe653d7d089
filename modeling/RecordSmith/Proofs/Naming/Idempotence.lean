import RecordSmith.Proofs.Naming.Delimiters
import RecordSmith.Proofs.Text.LowerCase
import RecordSmith.Proofs.Text.UpperCase

/-!
# Names that are converted twice

A namespace in Pascal case stays as it is when it is converted again.  So does nearly every
identifier: a second conversion finds one word, with a capital in front.  The exceptions come
from letters whose capital or small letter needs a combining mark.  Marks belong to no word, so
that the second conversion drops them.
-/

namespace RecordSmith.Identifier

open RecordSmith.Text

/-! ## Words of texts in a row -/

section Words

variable {c : CodePoint} {t : Text}

theorem words_cons_break (hc : isAlphanumeric c = false) (t : Text) : words (c :: t) = words t := by
  rw [words, splitOn, hc]
  rfl

theorem words_append_break (hc : isAlphanumeric c = false) (s t : Text) :
    words (s ++ c :: t) = words s ++ words t := by
  have hcut : (fun d => !isAlphanumeric d) c = true := by simp [hc]
  rw [words, splitOn_append_cons hcut, List.filter_append]
  rfl

/-- A text without breaks is one word. -/
theorem words_of_alphanumeric (hne : t ≠ []) (ht : ∀ c ∈ t, isAlphanumeric c = true) :
    words t = [t] := by
  have hfree : ∀ c ∈ t, (fun d => !isAlphanumeric d) c = false := by simpa using ht
  rw [words, splitOn_of_free hfree, List.filter_cons_of_pos (by simpa using hne), List.filter_nil]

/-- A text is free of breaks, or it has a first one. -/
theorem alphanumeric_or_break (t : Text) :
    (∀ c ∈ t, isAlphanumeric c = true) ∨
      ∃ run b tail, t = run ++ b :: tail ∧ (∀ c ∈ run, isAlphanumeric c = true) ∧
        isAlphanumeric b = false := by
  induction t with
  | nil => exact Or.inl (List.forall_mem_nil _)
  | cons c rest ih =>
      cases hc : isAlphanumeric c with
      | false => exact Or.inr ⟨[], c, rest, rfl, List.forall_mem_nil _, hc⟩
      | true =>
          rcases ih with hrest | ⟨run, b, tail, rfl, hrun, hb⟩
          · exact Or.inl (List.forall_mem_cons.mpr ⟨hc, hrest⟩)
          · exact Or.inr ⟨c :: run, b, tail, rfl, List.forall_mem_cons.mpr ⟨hc, hrun⟩, hb⟩

/-- The low line before a digit belongs to no word. -/
theorem words_guardDigit (t : Text) : words (guardDigit t) = words t := by
  cases t with
  | nil => rfl
  | cons c rest =>
      rw [guardDigit]
      split
      · exact words_cons_break (eq_false_of_ne_true fun h => ne_lowLine_of_isAlphanumeric h rfl) _
      · rfl

/-- Only the first character decides on the low line. -/
theorem guardDigit_cons_inj {t u : Text} :
    guardDigit (c :: t) = guardDigit (c :: u) ↔ t = u := by
  rw [guardDigit, guardDigit]
  split
  · simp
  · simp

end Words

/-! ## Pascal case -/

section Pascal

variable {name t : Text}

theorem pascal_of_words (h : words name ≠ []) :
    pascal name = guardDigit ((words name).flatMap capitalizeFirst) := by
  rw [pascal]
  split
  case h_1 hnone => exact absurd hnone h
  case h_2 => rfl

/-- Capitalized words start with a letter, digit or numeral. -/
theorem exists_alphanumeric_cons (h : words name ≠ []) :
    ∃ c rest, (words name).flatMap capitalizeFirst = c :: rest ∧ isAlphanumeric c = true := by
  obtain ⟨word, others, hwords⟩ := List.exists_cons_of_ne_nil h
  have hmem : word ∈ words name := hwords ▸ List.mem_cons_self
  obtain ⟨first, rest, rfl⟩ := List.exists_cons_of_ne_nil (word_ne_nil hmem)
  obtain ⟨c, marks, hupper, hc⟩ :=
    exists_upperOf_cons (isAlphanumeric_of_mem_word hmem first List.mem_cons_self)
  rw [hwords, List.flatMap_cons, capitalizeFirst, hupper, List.cons_append, List.cons_append]
  exact ⟨c, _, rfl, hc⟩

/-- A text with a capital in front is kept exactly if it is one word.  Otherwise the first word
ends at something that conversion drops. -/
theorem pascal_guardDigit_iff {c : CodePoint} {rest : Text} (hc : isAlphanumeric c = true)
    (hcapital : upperOf c = [c]) :
    pascal (guardDigit (c :: rest)) = guardDigit (c :: rest) ↔
      ∀ d ∈ rest, isAlphanumeric d = true := by
  have hkept : ∀ run : Text, capitalizeFirst (c :: run) = c :: run := fun _ =>
    capitalizeFirst_cons_eq_iff.mpr hcapital
  rcases alphanumeric_or_break rest with hrest | ⟨run, b, tail, rfl, hrun, hb⟩
  · have hwords : words (guardDigit (c :: rest)) = [c :: rest] := by
      rw [words_guardDigit, words_of_alphanumeric (List.cons_ne_nil _ _)
        (List.forall_mem_cons.mpr ⟨hc, hrest⟩)]
    rw [pascal_of_words (hwords ▸ List.cons_ne_nil _ _), hwords, List.flatMap_singleton, hkept]
    exact iff_of_true rfl hrest
  · have hwords : words (guardDigit (c :: (run ++ b :: tail))) = (c :: run) :: words tail := by
      rw [words_guardDigit, ← List.cons_append, words_append_break hb,
        words_of_alphanumeric (List.cons_ne_nil _ _) (List.forall_mem_cons.mpr ⟨hc, hrun⟩)]
      rfl
    rw [pascal_of_words (hwords ▸ List.cons_ne_nil _ _), hwords, List.flatMap_cons, hkept,
      List.cons_append, guardDigit_cons_inj, List.append_cancel_left_eq]
    -- In the place of the break stands nothing, or the start of the next word.
    refine iff_of_false (fun heq => ?_) (fun hall => ?_)
    · have hmore : words tail ≠ [] := by
        intro hnone
        rw [hnone] at heq
        cases heq
      obtain ⟨d, others, hothers, hd⟩ := exists_alphanumeric_cons hmore
      rw [hothers, List.cons.injEq] at heq
      rw [heq.1, hb] at hd
      cases hd
    · rw [hall b (List.mem_append_right run List.mem_cons_self)] at hb
      cases hb

/-- Capitalized words are one word exactly if their capitals bear no marks. -/
theorem forall_mem_capitalized_iff :
    (∀ d ∈ (words name).flatMap capitalizeFirst, isAlphanumeric d = true) ↔
      ∀ first rest, first :: rest ∈ words name → first ∉ markedCapitals := by
  rw [List.forall_mem_flatMap]
  constructor
  · intro h first rest hword hmarked
    obtain ⟨mark, hmark, hbreak⟩ := exists_mark_of_mem_markedCapitals hmarked
    rw [h _ hword mark (List.mem_append_left rest hmark)] at hbreak
    cases hbreak
  · intro h word hword
    have halphanumeric := isAlphanumeric_of_mem_word hword
    cases word with
    | nil => exact List.forall_mem_nil _
    | cons first rest =>
        obtain ⟨hfirst, hrest⟩ := List.forall_mem_cons.mp halphanumeric
        refine List.forall_mem_append.mpr ⟨fun d hd => ?_, hrest⟩
        exact isAlphanumeric_of_mem_upperOf hfirst (h first rest hword) hd

/-- An identifier in Pascal case stays as it is exactly if no word of the name starts with a letter
whose capital bears a mark. -/
theorem pascal_pascal_iff (name : Text) :
    pascal (pascal name) = pascal name ↔
      ∀ first rest, first :: rest ∈ words name → first ∉ markedCapitals := by
  by_cases hwords : words name = []
  · have hfallback : pascal name = fallback := by rw [pascal, hwords]
    rw [hfallback, hwords]
    exact iff_of_true (by decide) fun _ _ hword => absurd hword List.not_mem_nil
  · obtain ⟨c, rest, hcapitalized, hc⟩ := exists_alphanumeric_cons hwords
    have hcapital : capitalizeFirst (c :: rest) = c :: rest := by
      rw [← hcapitalized]
      exact capitalizeFirst_flatMap_capitalizeFirst _
    rw [← forall_mem_capitalized_iff, pascal_of_words hwords, hcapitalized, List.forall_mem_cons,
      pascal_guardDigit_iff hc (capitalizeFirst_cons_eq_iff.mp hcapital)]
    exact (and_iff_right hc).symm

/-- LATIN SMALL LETTER J WITH CARON has no capital: it becomes a J with a combining caron, and then
a J. -/
theorem not_forall_pascal_pascal :
    pascal [0x1F0] = [0x4A, 0x30C] ∧ pascal [0x4A, 0x30C] = [0x4A] ∧
      ¬∀ name, pascal (pascal name) = pascal name := by
  have honce : pascal [0x1F0] = [0x4A, 0x30C] := by decide
  have htwice : pascal [0x4A, 0x30C] = [0x4A] := by decide +kernel
  refine ⟨honce, htwice, fun h => ?_⟩
  have hfixed := h [0x1F0]
  rw [honce, htwice] at hfixed
  cases hfixed

end Pascal

/-! ## Snake case -/

section Snake

variable {name t : Text} {c : CodePoint}

/-- A letter, digit or numeral, or the low line. -/
def IsWordCharacter (c : CodePoint) : Prop := isAlphanumeric c = true ∨ c = lowLine

instance : DecidablePred IsWordCharacter := fun _ => inferInstanceAs (Decidable (_ ∨ _))

/-- What conversion to snake case keeps. -/
structure IsSettled (c : CodePoint) : Prop where
  word : IsWordCharacter c
  lower : lowerOf c = [c]

theorem isWordCharacter_lowLine : IsWordCharacter lowLine := Or.inr rfl

theorem lowerOf_lowLine : lowerOf lowLine = [lowLine] := by decide

theorem keepWordCharacter_of_word (hc : IsWordCharacter c) : keepWordCharacter c = c := by
  rw [keepWordCharacter]
  split
  case isTrue => rfl
  case isFalse hother => exact (hc.resolve_left hother).symm

/-- Low lines stand before capital letters only. -/
theorem separateCapitals_of_free (ht : ∀ c ∈ t, isAsciiUpper c = false) :
    separateCapitals t = t := by
  induction t with
  | nil => rfl
  | cons c rest ih =>
      cases rest with
      | nil => rfl
      | cons d rest =>
          obtain ⟨_, hrest⟩ := List.forall_mem_cons.mp ht
          rw [separateCapitals, hrest d List.mem_cons_self, Bool.and_false,
            if_neg Bool.false_ne_true, ih hrest]

theorem mem_separateCapitals (hc : c ∈ t) : c ∈ separateCapitals t := by
  induction t with
  | nil => exact hc
  | cons d rest ih =>
      cases rest with
      | nil => exact hc
      | cons e rest =>
          rw [separateCapitals]
          rcases List.mem_cons.mp hc with rfl | hrest
          · split
            · exact List.mem_cons_self
            · exact List.mem_cons_self
          · split
            · exact List.mem_cons_of_mem d (List.mem_cons_of_mem lowLine (ih hrest))
            · exact List.mem_cons_of_mem d (ih hrest)

theorem IsSettled.not_isAsciiUpper (hc : IsSettled c) : isAsciiUpper c = false := by
  have htable : ∀ c < 0x80, isAsciiUpper c = true → lowerOf c ≠ [c] := by decide
  rw [← Bool.not_eq_true]
  intro hupper
  have hlimit : c ≤ 0x5A := of_decide_eq_true (Bool.and_eq_true _ _ ▸ hupper).2
  exact htable c (Nat.lt_of_le_of_lt hlimit (by decide)) hupper hc.lower

/-- Each step before the low lines are squeezed keeps a settled text. -/
theorem toLower_of_settled (ht : ∀ c ∈ t, IsSettled c) :
    toLower (separateCapitals (t.map keepWordCharacter)) = t := by
  have hmap : t.map keepWordCharacter = t :=
    List.map_congr_left (fun c hc => keepWordCharacter_of_word (ht c hc).word) |>.trans
      (List.map_id t)
  rw [hmap, separateCapitals_of_free fun c hc => (ht c hc).not_isAsciiUpper]
  exact lowerAfter_of_kept (fun c hc => (ht c hc).lower) []

theorem squeezeLowLines_cons_lowLine (t : Text) :
    squeezeLowLines (lowLine :: t) = squeezeLowLines t := by
  rw [squeezeLowLines, splitOn, beq_self_eq_true]
  rfl

theorem squeezeLowLines_guardDigit (t : Text) :
    squeezeLowLines (guardDigit t) = squeezeLowLines t := by
  cases t with
  | nil => rfl
  | cons c rest =>
      rw [guardDigit]
      split
      · exact squeezeLowLines_cons_lowLine _
      · rfl

/-- Parts that low lines join are found again. -/
theorem squeezeLowLines_join {parts : List Text}
    (h : ∀ part ∈ parts, part ≠ [] ∧ ∀ c ∈ part, (c == lowLine) = false) :
    squeezeLowLines (join [lowLine] parts) = join [lowLine] parts := by
  by_cases hparts : parts = []
  · subst hparts
    rfl
  · rw [squeezeLowLines, splitOn_join (by exact beq_self_eq_true lowLine) hparts,
      flatMap_splitOn_of_free fun part hpart => (h part hpart).2,
      List.filter_eq_self.mpr fun part hpart => by simpa using (h part hpart).1]

theorem squeezeLowLines_squeezeLowLines (t : Text) :
    squeezeLowLines (squeezeLowLines t) = squeezeLowLines t := by
  refine squeezeLowLines_join fun part hpart => ?_
  obtain ⟨hcut, hne⟩ := List.mem_filter.mp hpart
  exact ⟨by simpa using hne, splitOn_part hcut⟩

/-- What is no low line is kept. -/
theorem mem_squeezeLowLines (hc : c ∈ t) (hne : c ≠ lowLine) : c ∈ squeezeLowLines t := by
  obtain ⟨part, hpart, hin⟩ := exists_mem_splitOn (p := (· == lowLine)) hc (beq_false_of_ne hne)
  have hne : (!part.isEmpty) = true := by simpa using List.ne_nil_of_mem hin
  exact mem_join_of_mem (List.mem_filter.mpr ⟨hpart, hne⟩) hin

theorem mem_guardDigit (hc : c ∈ t) : c ∈ guardDigit t := by
  cases t with
  | nil => exact hc
  | cons d rest =>
      rw [guardDigit]
      split
      · exact List.mem_cons_of_mem lowLine hc
      · exact hc

theorem lowerOf_of_mem_snake (name : Text) : ∀ c ∈ snake name, lowerOf c = [c] :=
  forall_mem_snake_of_lower lowerOf_lowLine (by decide) fun _ hc =>
    lowerOf_of_mem_lowerAfter hc

/-- No mark comes from a name without a dotted capital. -/
theorem isWordCharacter_of_mem_snake (h : dottedCapitalI ∉ name) :
    ∀ c ∈ snake name, IsWordCharacter c := by
  have hkept : ∀ c ∈ separateCapitals (name.map keepWordCharacter),
      IsWordCharacter c ∧ c ≠ dottedCapitalI := by
    have hlow : IsWordCharacter lowLine ∧ lowLine ≠ dottedCapitalI :=
      ⟨isWordCharacter_lowLine, by decide⟩
    refine forall_mem_separateCapitals hlow (forall_mem_map_keepWordCharacter hlow ?_)
    exact fun c hc halphanumeric => ⟨Or.inl halphanumeric, ne_of_mem_of_not_mem hc h⟩
  refine forall_mem_snake_of_lower isWordCharacter_lowLine (by decide) fun d hd => ?_
  rcases mem_lowerAfter hd with ⟨c, hc, hlower⟩ | ⟨_, start, stop, rfl⟩
  · obtain ⟨hword, hplain⟩ := hkept c hc
    rcases hword with halphanumeric | rfl
    · exact Or.inl (isAlphanumeric_of_mem_lowerOf halphanumeric hplain hlower)
    · rw [lowerOf_lowLine, List.mem_singleton] at hlower
      exact Or.inr hlower
  · exact Or.inl (isAlphanumeric_lowerSigma start stop)

/-- The lower case of a dotted capital bears a mark. -/
theorem dotAbove_mem_snake (h : dottedCapitalI ∈ name) : dotAbove ∈ snake name := by
  have hword : keepWordCharacter dottedCapitalI = dottedCapitalI := by decide
  have hkept : dottedCapitalI ∈ name.map keepWordCharacter :=
    List.mem_map.mpr ⟨dottedCapitalI, h, hword⟩
  have hlower : dotAbove ∈ toLower (separateCapitals (name.map keepWordCharacter)) :=
    mem_lowerAfter_of_mem (mem_separateCapitals hkept) (by decide) dotAbove_mem_lowerOf
  have hsqueezed := mem_squeezeLowLines hlower (by decide)
  rw [snake]
  split
  case h_1 hnil =>
    rw [hnil] at hsqueezed
    cases hsqueezed
  case h_2 => exact mem_guardDigit hsqueezed

/-- A snake case identifier of word characters stays as it is. -/
theorem snake_snake_of_word (h : ∀ c ∈ snake name, IsWordCharacter c) :
    snake (snake name) = snake name := by
  have hlower := toLower_of_settled fun c hc => ⟨h c hc, lowerOf_of_mem_snake name c hc⟩
  rw [snake, hlower]
  cases hsqueezed :
      squeezeLowLines (toLower (separateCapitals (name.map keepWordCharacter))) with
  | nil =>
      have hfallback : snake name = Text.ofString "field" := by rw [snake, hsqueezed]
      rw [hfallback]
      decide
  | cons c rest =>
      have hguarded : snake name = guardDigit (c :: rest) := by rw [snake, hsqueezed]
      rw [hguarded, squeezeLowLines_guardDigit, ← hsqueezed, squeezeLowLines_squeezeLowLines,
        hsqueezed]

/-- An identifier in snake case stays as it is exactly if the name is free of dotted capitals. -/
theorem snake_snake_iff (name : Text) :
    snake (snake name) = snake name ↔ dottedCapitalI ∉ name := by
  constructor
  · intro hfixed hmem
    have hplain : dottedCapitalI ∉ snake name := fun hc =>
      absurd (lowerOf_of_mem_snake name _ hc) (by decide)
    -- The mark of the first conversion does not survive the second one.
    have hmark := dotAbove_mem_snake hmem
    rw [← hfixed] at hmark
    exact absurd (isWordCharacter_of_mem_snake hplain _ hmark) (by decide +kernel)
  · exact fun h => snake_snake_of_word (isWordCharacter_of_mem_snake h)

end Snake

end RecordSmith.Identifier

namespace RecordSmith.Namespace

open RecordSmith.Text

/-! ## Namespaces in Pascal case -/

/-- A namespace in Pascal case: it has no word breaks, and every segment has a capital in front. -/
structure IsPascal (t : Text) : Prop where
  unbroken : ∀ c ∈ t, isWordBreak c = false
  first : capitalizeFirst (segments t).1 = (segments t).1
  others : ∀ entry ∈ (segments t).2, capitalizeFirst entry.2 = entry.2

theorem capitalizeFirst_pascalSegment (segment : Text) :
    capitalizeFirst (pascalSegment segment) = pascalSegment segment :=
  capitalizeFirst_flatMap_capitalizeFirst _

theorem pascalSegment_of_unbroken {segment : Text} (h : ∀ c ∈ segment, isWordBreak c = false) :
    pascalSegment segment = capitalizeFirst segment := by
  rw [pascalSegment, splitOn_of_free h]
  cases segment with
  | nil => rfl
  | cons c rest =>
      rw [List.filter_cons_of_pos rfl, List.filter_nil, List.flatMap_singleton]

/-- Conversion keeps the delimiters apart from what it makes of the segments. -/
theorem segments_normalize (t : Text) :
    segments (normalize t) = (pascalSegment (segments t).1,
      (segments t).2.map fun entry => (entry.1, pascalSegment entry.2)) :=
  segments_mapSegments (fun _ => forall_mem_pascalSegment caseClosed_not_isDelimiter) t

theorem isPascal_normalize (t : Text) : IsPascal (normalize t) where
  unbroken := not_isWordBreak_of_mem_normalize
  first := by
    rw [segments_normalize]
    exact capitalizeFirst_pascalSegment _
  others := by
    rw [segments_normalize, List.forall_mem_map]
    exact fun entry _ => capitalizeFirst_pascalSegment entry.2

theorem IsPascal.normalize_eq {t : Text} (h : IsPascal t) : normalize t = t := by
  obtain ⟨hfirst, hothers⟩ := forall_mem_segments h.unbroken
  have hkept : ∀ entry ∈ (segments t).2,
      entry.1 :: pascalSegment entry.2 = entry.1 :: entry.2 := by
    intro entry hentry
    rw [pascalSegment_of_unbroken (hothers entry hentry).2, h.others entry hentry]
  calc normalize t
      = pascalSegment (segments t).1 ++
          ((segments t).2.map fun entry => entry.1 :: pascalSegment entry.2).flatten := by
        rw [normalize, mapSegments_eq, List.flatMap_def]
    _ = (segments t).1 ++ (segments t).2.flatMap fun entry => entry.1 :: entry.2 := by
        rw [pascalSegment_of_unbroken hfirst, h.first, List.map_congr_left hkept,
          ← List.flatMap_def]
    _ = t := append_segments t

/-- A converted namespace stays as it is, and so does exactly what is in Pascal case. -/
theorem normalize_idempotent (t : Text) :
    normalize (normalize t) = normalize t ∧ (normalize t = t ↔ IsPascal t) := by
  refine ⟨(isPascal_normalize t).normalize_eq, fun hkept => ?_, IsPascal.normalize_eq⟩
  rw [← hkept]
  exact isPascal_normalize t

end RecordSmith.Namespace
