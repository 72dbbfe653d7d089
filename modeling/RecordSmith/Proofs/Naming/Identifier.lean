import RecordSmith.Naming.Identifier
import RecordSmith.Proofs.Text.Basic
import RecordSmith.Proofs.Text.Casing

/-!
# What identifiers look like

Names that begin with two low lines, and the low line itself, have a meaning of
their own in some languages.  No identifier looks like that: whatever the name
and the case, an identifier starts with a word, with one low line before it at
most.  And a code point that is no part of a word, like a slash, is not in an
identifier unless it joins the words of one.
-/

namespace RecordSmith

theorem Text.isAlphanumeric_of_isAsciiDigit {c : CodePoint} (hc : isAsciiDigit c = true) :
    isAlphanumeric c = true := by
  rw [isAsciiDigit, Bool.and_eq_true, decide_eq_true_eq, decide_eq_true_eq] at hc
  exact inRanges_iff.mpr ⟨(48, 57), by decide +kernel, hc⟩

namespace Identifier

open RecordSmith.Text

/-- The text starts with something else than low lines, after one at most. -/
def startsWithWord : Text → Bool
  | [] => false
  | [c] => c != lowLine
  | c :: d :: _ => c != lowLine || d != lowLine

theorem startsWithWord_of_head {c : CodePoint} (hc : c ≠ lowLine) (rest : Text) :
    startsWithWord (c :: rest) = true := by
  cases rest with
  | nil => simp [startsWithWord, hc]
  | cons d rest => simp [startsWithWord, hc]

theorem startsWithWord_of_second {d : CodePoint} (hd : d ≠ lowLine) (c : CodePoint)
    (rest : Text) : startsWithWord (c :: d :: rest) = true := by
  simp [startsWithWord, hd]

theorem startsWithWord_append {t : Text} (ht : startsWithWord t = true) (u : Text) :
    startsWithWord (t ++ u) = true := by
  match t with
  | [c] => exact startsWithWord_of_head (by simpa [startsWithWord] using ht) u
  | c :: d :: rest => simpa [startsWithWord] using ht

theorem ne_nil_of_startsWithWord {t : Text} (ht : startsWithWord t = true) :
    t ≠ [] := by
  rintro rfl
  cases ht

/-- Case mapping makes no low lines. -/
theorem casingAvoids_lowLine : casingAvoids (only lowLine) = true := by
  decide +kernel

theorem head_ne_lowLine {t rest : Text} {c : CodePoint} (ht : lowLine ∉ t)
    (h : t = c :: rest) : c ≠ lowLine := by
  rintro rfl
  exact ht (h ▸ List.mem_cons_self)

theorem ne_lowLine_of_isAlphanumeric {c : CodePoint}
    (hc : isAlphanumeric c = true) : c ≠ lowLine := by
  rintro rfl
  exact absurd hc (by decide +kernel)

/-! ## Words in Pascal and camel case -/

theorem isAlphanumeric_of_mem_word {name word : Text} (hword : word ∈ words name) :
    ∀ c ∈ word, isAlphanumeric c = true := by
  intro c hc
  have hpart := splitOn_part (List.mem_filter.mp hword).1 c hc
  simpa using hpart

theorem word_ne_nil {name word : Text} (hword : word ∈ words name) : word ≠ [] := by
  simpa using (List.mem_filter.mp hword).2

/-- A capitalized word starts with no low line. -/
theorem capitalizeFirst_head {word : Text} (hne : word ≠ [])
    (hword : ∀ c ∈ word, isAlphanumeric c = true) :
    ∃ d rest, capitalizeFirst word = d :: rest ∧ d ≠ lowLine := by
  obtain ⟨c, tail, rfl⟩ := List.exists_cons_of_ne_nil hne
  obtain ⟨d, images, himages⟩ := List.exists_cons_of_ne_nil (upperOf_ne_nil c)
  refine ⟨d, images ++ tail, by rw [capitalizeFirst, himages, List.cons_append], ?_⟩
  have hc : c ≠ lowLine := ne_lowLine_of_isAlphanumeric (hword c List.mem_cons_self)
  exact head_ne_lowLine (not_mem_upperOf casingAvoids_lowLine hc) himages

theorem startsWithWord_guardDigit {c : CodePoint} (hc : c ≠ lowLine) (rest : Text) :
    startsWithWord (guardDigit (c :: rest)) = true := by
  rw [guardDigit]
  split
  · exact startsWithWord_of_second hc lowLine rest
  · exact startsWithWord_of_head hc rest

theorem startsWithWord_pascal (name : Text) : startsWithWord (pascal name) = true := by
  rw [pascal]
  split
  case h_1 => decide
  case h_2 hwords =>
    obtain ⟨word, others, hsplit⟩ := List.exists_cons_of_ne_nil hwords
    have hmem : word ∈ words name := hsplit ▸ List.mem_cons_self
    obtain ⟨d, rest, hhead, hd⟩ :=
      capitalizeFirst_head (word_ne_nil hmem) (isAlphanumeric_of_mem_word hmem)
    rw [hsplit, List.flatMap_cons, hhead, List.cons_append]
    exact startsWithWord_guardDigit hd _

theorem startsWithWord_camel (name : Text) : startsWithWord (camel name) = true := by
  have hpascal := startsWithWord_pascal name
  rw [camel]
  split
  case h_1 hnil => rw [hnil] at hpascal; cases hpascal
  case h_2 c rest hcons =>
    rw [hcons] at hpascal
    split
    case isTrue => exact hpascal
    case isFalse hne =>
      have hc : lowLine ∉ [c] := by
        rw [List.mem_singleton]
        exact fun heq => hne (by simp [heq])
      obtain ⟨d, images, himages⟩ :=
        List.exists_cons_of_ne_nil (toLower_singleton_ne_nil c)
      rw [himages, List.cons_append]
      exact startsWithWord_of_head
        (head_ne_lowLine (not_mem_toLower casingAvoids_lowLine hc) himages) _

/-! ## Words in snake case -/

/-- Low lines stand only between the parts of a squeezed text. -/
theorem squeezeLowLines_head {t : Text} {c : CodePoint} {rest : Text}
    (h : squeezeLowLines t = c :: rest) : c ≠ lowLine := by
  rw [squeezeLowLines, Text.join] at h
  cases hparts : (Text.splitOn (· == lowLine) t).filter fun part => !part.isEmpty with
  | nil => rw [hparts] at h; cases h
  | cons part others =>
      have hmem : part ∈ (Text.splitOn (· == lowLine) t).filter
          fun part => !part.isEmpty := hparts ▸ List.mem_cons_self
      obtain ⟨hpart, hne⟩ := List.mem_filter.mp hmem
      obtain ⟨d, tail, rfl⟩ : ∃ d tail, part = d :: tail :=
        List.exists_cons_of_ne_nil (by simpa using hne)
      have hd : d ≠ lowLine := by
        simpa using splitOn_part hpart d List.mem_cons_self
      rw [hparts] at h
      cases others with
      | nil =>
          simp only [List.intercalate_singleton, List.cons.injEq] at h
          exact h.1 ▸ hd
      | cons next others =>
          simp only [List.intercalate_cons_cons, List.cons_append, List.cons.injEq] at h
          exact h.1 ▸ hd

theorem startsWithWord_snake (name : Text) : startsWithWord (snake name) = true := by
  rw [snake]
  split
  case h_1 => decide
  case h_2 hne =>
    obtain ⟨c, rest, hcons⟩ := List.exists_cons_of_ne_nil hne
    rw [hcons]
    exact startsWithWord_guardDigit (squeezeLowLines_head hcons) rest

theorem startsWithWord_toUpper {t : Text} (ht : startsWithWord t = true) :
    startsWithWord (toUpper t) = true := by
  obtain ⟨c, rest, rfl⟩ := List.exists_cons_of_ne_nil (ne_nil_of_startsWithWord ht)
  rw [toUpper, List.flatMap_cons]
  obtain ⟨d, images, himages⟩ := List.exists_cons_of_ne_nil (upperOf_ne_nil c)
  by_cases hc : c = lowLine
  · subst hc
    obtain ⟨e, rest, rfl⟩ : ∃ e tail, rest = e :: tail := by
      cases rest with
      | nil => cases ht
      | cons e tail => exact ⟨e, tail, rfl⟩
    have he : e ≠ lowLine := by simpa [startsWithWord] using ht
    obtain ⟨f, others, hothers⟩ := List.exists_cons_of_ne_nil (upperOf_ne_nil e)
    have hlow : upperOf lowLine = [lowLine] := by decide +kernel
    rw [hlow, List.flatMap_cons, hothers, List.singleton_append, List.cons_append]
    exact startsWithWord_of_second
      (head_ne_lowLine (not_mem_upperOf casingAvoids_lowLine he) hothers) lowLine _
  · rw [himages, List.cons_append]
    exact startsWithWord_of_head
      (head_ne_lowLine (not_mem_upperOf casingAvoids_lowLine hc) himages) _

/-- Hyphens for low lines leave no low line at the start. -/
theorem startsWithWord_hyphenated {t : Text} (ht : startsWithWord t = true) :
    startsWithWord (t.map fun c => if c == lowLine then 0x2D else c) = true := by
  obtain ⟨c, rest, rfl⟩ := List.exists_cons_of_ne_nil (ne_nil_of_startsWithWord ht)
  rw [List.map_cons]
  apply startsWithWord_of_head
  split
  · decide
  · simpa using ‹¬(c == lowLine) = true›

/-- Every identifier starts with a word, in every case and for every name. -/
theorem startsWithWord_convert (name : Text) (target : NamingCase) :
    startsWithWord (convert name target) = true := by
  cases target with
  | snake => exact startsWithWord_snake name
  | camel => exact startsWithWord_camel name
  | pascal => exact startsWithWord_pascal name
  | kebab => exact startsWithWord_hyphenated (startsWithWord_snake name)
  | screamingSnake => exact startsWithWord_toUpper (startsWithWord_snake name)

/-! ## Code points that identifiers hold -/

/-- A property of code points that conversion keeps: case mapping does, and what conversion
adds to a name has it. -/
structure IsKept (P : CodePoint → Prop) : Prop where
  casing : CaseClosed P
  lowLine : P lowLine
  fallback : ∀ c ∈ fallback, P c

section Kept

variable {P : CodePoint → Prop} {name t : Text}

theorem forall_mem_guardDigit (hlow : P lowLine) (ht : ∀ c ∈ t, P c) :
    ∀ c ∈ guardDigit t, P c := by
  cases t with
  | nil => exact ht
  | cons d rest =>
      rw [guardDigit]
      split
      · exact List.forall_mem_cons.mpr ⟨hlow, ht⟩
      · exact ht

theorem forall_mem_pascal (hP : IsKept P)
    (hname : ∀ c ∈ name, isAlphanumeric c = true → P c) : ∀ c ∈ pascal name, P c := by
  rw [pascal]
  split
  case h_1 => exact hP.fallback
  case h_2 =>
    apply forall_mem_guardDigit hP.lowLine
    rw [List.forall_mem_flatMap]
    intro word hword
    apply hP.casing.capitalizeFirst
    intro c hc
    have hin : c ∈ name := mem_of_mem_splitOn (List.mem_filter.mp hword).1 hc
    exact hname c hin (isAlphanumeric_of_mem_word hword c hc)

theorem forall_mem_camel (hP : IsKept P)
    (hname : ∀ c ∈ name, isAlphanumeric c = true → P c) : ∀ c ∈ camel name, P c := by
  have hpascal := forall_mem_pascal hP hname
  rw [camel]
  split
  case h_1 => exact List.forall_mem_nil _
  case h_2 d rest hcons =>
    rw [hcons] at hpascal
    split
    case isTrue => exact hpascal
    case isFalse =>
      obtain ⟨hd, hrest⟩ := List.forall_mem_cons.mp hpascal
      exact List.forall_mem_append.mpr
        ⟨hP.casing.toLower (List.forall_mem_singleton.mpr hd), hrest⟩

theorem forall_mem_separateCapitals (hlow : P lowLine) (ht : ∀ c ∈ t, P c) :
    ∀ c ∈ separateCapitals t, P c := by
  induction t with
  | nil => exact ht
  | cons d rest ih =>
      obtain ⟨hd, hrest⟩ := List.forall_mem_cons.mp ht
      cases rest with
      | nil => exact ht
      | cons e rest =>
          rw [separateCapitals]
          split
          · exact List.forall_mem_cons.mpr
              ⟨hd, List.forall_mem_cons.mpr ⟨hlow, ih hrest⟩⟩
          · exact List.forall_mem_cons.mpr ⟨hd, ih hrest⟩

theorem forall_mem_squeezeLowLines (hlow : P lowLine) (ht : ∀ c ∈ t, P c) :
    ∀ c ∈ squeezeLowLines t, P c := by
  intro c hc
  rcases mem_of_mem_join hc with hjoint | ⟨part, hpart, hin⟩
  · exact List.mem_singleton.mp hjoint ▸ hlow
  · exact ht c (mem_of_mem_splitOn (List.mem_filter.mp hpart).1 hin)

theorem forall_mem_map_keepWordCharacter (hlow : P lowLine)
    (hname : ∀ c ∈ name, isAlphanumeric c = true → P c) :
    ∀ c ∈ name.map keepWordCharacter, P c := by
  rw [List.forall_mem_map]
  intro c hc
  rw [keepWordCharacter]
  split
  case isTrue halphanumeric => exact hname c hc halphanumeric
  case isFalse => exact hlow

/-- A snake case identifier consists of the lower case of the name, with low lines, unless it is
the fallback. -/
theorem forall_mem_snake_of_lower (hlow : P lowLine)
    (hfallback : ∀ c ∈ Text.ofString "field", P c)
    (hlower : ∀ c ∈ Text.toLower (separateCapitals (name.map keepWordCharacter)), P c) :
    ∀ c ∈ snake name, P c := by
  rw [snake]
  split
  case h_1 => exact hfallback
  case h_2 => exact forall_mem_guardDigit hlow (forall_mem_squeezeLowLines hlow hlower)

theorem forall_mem_snake (hP : IsKept P)
    (hname : ∀ c ∈ name, isAlphanumeric c = true → P c) : ∀ c ∈ snake name, P c := by
  have hfallback : Text.ofString "field" = fallback.toLower := by decide +kernel
  refine forall_mem_snake_of_lower hP.lowLine ?_ ?_
  · rw [hfallback]
    exact hP.casing.toLower hP.fallback
  · apply hP.casing.toLower
    apply forall_mem_separateCapitals hP.lowLine
    exact forall_mem_map_keepWordCharacter hP.lowLine hname

/-- Identifiers hold nothing but what was made of the letters, digits and numerals of the
name, and what conversion adds; hyphens are added in kebab case only. -/
theorem forall_mem_convert (hP : IsKept P) {target : NamingCase}
    (hhyphen : target = .kebab → P 0x2D)
    (hname : ∀ c ∈ name, isAlphanumeric c = true → P c) : ∀ c ∈ convert name target, P c := by
  cases target with
  | snake => exact forall_mem_snake hP hname
  | camel => exact forall_mem_camel hP hname
  | pascal => exact forall_mem_pascal hP hname
  | kebab =>
      refine List.forall_mem_map.mpr fun c hc => ?_
      split
      · exact hhyphen rfl
      · exact forall_mem_snake hP hname c hc
  | screamingSnake => exact hP.casing.toUpper (forall_mem_snake hP hname)

end Kept

/-- A code point that conversion removes from every name: it belongs to no word,
joins no words, and case mapping does not lead to it. -/
structure IsRemoved (c : CodePoint) : Prop where
  casing : casingAvoids (only c) = true
  not_alphanumeric : isAlphanumeric c = false
  ne_lowLine : c ≠ lowLine
  ne_hyphen : c ≠ 0x2D
  not_mem_fallback : c ∉ fallback
  not_mem_snake_fallback : c ∉ snake []

section Removed

variable {c : CodePoint}

theorem IsRemoved.isKept (hc : IsRemoved c) : IsKept (· ≠ c) where
  casing := caseClosed_ne hc.casing
  lowLine := hc.ne_lowLine.symm
  fallback := fun _ hd heq => hc.not_mem_fallback (heq ▸ hd)

theorem IsRemoved.ne_of_isAlphanumeric (hc : IsRemoved c) {d : CodePoint}
    (hd : isAlphanumeric d = true) : d ≠ c := by
  rintro rfl
  rw [hc.not_alphanumeric] at hd
  cases hd

/-- No identifier holds a removed code point, in every case and for every name. -/
theorem not_mem_convert (hc : IsRemoved c) (name : Text) (target : NamingCase) :
    c ∉ convert name target := fun hmem =>
  forall_mem_convert hc.isKept (fun _ => hc.ne_hyphen.symm)
    (fun _ _ halphanumeric => hc.ne_of_isAlphanumeric halphanumeric) c hmem rfl

end Removed

end Identifier

end RecordSmith
