import RecordSmith.Proofs.Naming.Identifier
import RecordSmith.Proofs.Text.Utf8
import RecordSmith.Settings.Error
import RecordSmith.Text.Blank

/-!
# The shape of identifiers

A name can be any text, but what it becomes is an identifier: it is never empty, does not start
with a digit, and holds no punctuation, no white space and no surrogate.  What is allowed beyond
the seven-bit range is what case mapping makes of letters, digits and numerals.  Kebab case is
left out, because it joins words with hyphens.
-/

namespace RecordSmith.Identifier

open RecordSmith.Text

/-- A letter or digit of the seven-bit range, or the low line. -/
def isAsciiWord (c : CodePoint) : Bool :=
  isAsciiUpper c || isAsciiLower c || isAsciiDigit c || c == lowLine

/-- What can stand in an identifier. -/
structure IsPart (c : CodePoint) : Prop where
  word_of_ascii : isAscii c = true → isAsciiWord c = true
  not_blank : isBlank c = false
  not_surrogate : isSurrogate c = false

/-- The text is not empty and starts with something other than a digit. -/
def StartsUndigited (t : Text) : Prop := ∃ first rest, t = first :: rest ∧ isDigit first = false

/-- An identifier. -/
structure IsIdentifier (t : Text) : Prop where
  start : StartsUndigited t
  parts : ∀ c ∈ t, IsPart c

/-- An identifier of the seven-bit range: a letter or low line, and letters, digits and low lines
behind it. -/
structure IsAsciiIdentifier (t : Text) : Prop where
  start : ∃ first rest, t = first :: rest ∧
    (isAsciiUpper first || isAsciiLower first || first == lowLine) = true
  parts : ∀ c ∈ t, isAsciiWord c = true

/-! ## Parts of identifiers -/

/-- The ranges of what cannot stand in an identifier. -/
def excludedRanges : List (CodePoint × CodePoint) :=
  [(0x00, 0x2F), (0x3A, 0x40), (0x5B, 0x5E), (0x60, 0x60), (0x7B, 0x7F)] ++ blankRanges ++
    [(0xD800, 0xDFFF)]

theorem isPart_of_not_excluded {c : CodePoint} (hc : inRanges excludedRanges c = false) :
    IsPart c := by
  rw [inRanges_eq_false_iff] at hc
  have hblank : ∀ range ∈ blankRanges, c < range.1 ∨ range.2 < c := fun range hrange =>
    hc range (List.mem_append_left _ (List.mem_append_right _ hrange))
  constructor
  case word_of_ascii =>
    intro hascii
    have hlimit : c < 0x80 := of_decide_eq_true hascii
    have htable : ∀ c < 0x80, (∀ range ∈ excludedRanges, c < range.1 ∨ range.2 < c) →
        isAsciiWord c = true := by decide +kernel
    exact htable c hlimit hc
  case not_blank => exact inRanges_eq_false_iff.mpr hblank
  case not_surrogate => exact isSurrogate_eq_false_iff.mpr (hc (0xD800, 0xDFFF) (by decide))

/-- No letter, digit or numeral is excluded. -/
theorem not_excluded_of_isAlphanumeric {c : CodePoint} (hc : isAlphanumeric c = true) :
    inRanges excludedRanges c = false :=
  inRanges_of_disjoint (by decide +kernel) hc

theorem isKept_isPart : IsKept IsPart where
  casing := caseClosed_of_avoids (by decide +kernel) fun _ => isPart_of_not_excluded
  lowLine := isPart_of_not_excluded (by decide)
  fallback := by
    have hletters : ∀ c ∈ fallback, inRanges excludedRanges c = false := by decide
    exact fun c hc => isPart_of_not_excluded (hletters c hc)

theorem isKept_ascii : IsKept fun c => isAscii c = true where
  casing := caseClosed_ascii
  lowLine := by decide
  fallback := by decide

/-! ## The first character -/

theorem startsUndigited_guardDigit {t : Text} (ht : t ≠ []) : StartsUndigited (guardDigit t) := by
  obtain ⟨c, rest, rfl⟩ := List.exists_cons_of_ne_nil ht
  rw [guardDigit]
  split
  case isTrue => exact ⟨lowLine, c :: rest, rfl, by decide⟩
  case isFalse hc => exact ⟨c, rest, rfl, by simpa using hc⟩

/-- Stretches of the code space that hold all digits and no image of a case mapping. -/
def digitBlocks : List (CodePoint × CodePoint) :=
  [(48, 57), (178, 185), (1632, 4249), (4969, 4977), (6112, 7257), (8304, 8329), (9312, 9360),
   (9450, 10130), (42528, 42537), (43216, 43609), (44016, 65305), (66720, 66729), (68160, 68163),
   (68912, 71481), (71904, 93017), (120782, 123641), (125264, 130041)]

/-- Case mapping makes no digits. -/
theorem caseClosed_not_digit : CaseClosed fun c => isDigit c = false := by
  have hblocks : digitRanges.all (fun range => digitBlocks.any fun block =>
      block.1 ≤ range.1 && range.2 ≤ block.2) = true := by decide +kernel
  refine caseClosed_of_avoids (by decide +kernel : casingAvoids digitBlocks = true) ?_
  intro c hc
  rw [inRanges_eq_false_iff] at hc
  refine inRanges_eq_false_iff.mpr fun range hrange => ?_
  obtain ⟨block, hblock, hin⟩ := List.any_eq_true.mp (List.all_eq_true.mp hblocks range hrange)
  rw [Bool.and_eq_true, decide_eq_true_eq, decide_eq_true_eq] at hin
  exact (hc block hblock).imp (Nat.lt_of_lt_of_le · hin.1) (Nat.lt_of_le_of_lt hin.2)

theorem startsUndigited_append {mapped t : Text} (hne : mapped ≠ [])
    (hmapped : ∀ d ∈ mapped, isDigit d = false) : StartsUndigited (mapped ++ t) := by
  obtain ⟨d, rest, rfl⟩ := List.exists_cons_of_ne_nil hne
  exact ⟨d, rest ++ t, rfl, hmapped d List.mem_cons_self⟩

theorem startsUndigited_pascal (name : Text) : StartsUndigited (pascal name) := by
  rw [pascal]
  split
  case h_1 => exact ⟨0x46, "ield", rfl, by decide⟩
  case h_2 hwords =>
    obtain ⟨word, others, hsplit⟩ := List.exists_cons_of_ne_nil hwords
    have hmem : word ∈ words name := hsplit ▸ List.mem_cons_self
    obtain ⟨d, rest, hhead, _⟩ :=
      capitalizeFirst_head (word_ne_nil hmem) (isAlphanumeric_of_mem_word hmem)
    apply startsUndigited_guardDigit
    rw [hsplit, List.flatMap_cons, hhead]
    exact List.cons_ne_nil _ _

theorem startsUndigited_camel (name : Text) : StartsUndigited (camel name) := by
  obtain ⟨c, rest, hpascal, hc⟩ := startsUndigited_pascal name
  rw [camel, hpascal]
  dsimp only
  split
  case isTrue => exact ⟨c, rest, rfl, hc⟩
  case isFalse =>
    exact startsUndigited_append (toLower_singleton_ne_nil c)
      (caseClosed_not_digit.toLower (List.forall_mem_singleton.mpr hc))

theorem startsUndigited_snake (name : Text) : StartsUndigited (snake name) := by
  rw [snake]
  split
  case h_1 => exact ⟨0x66, "ield", rfl, by decide⟩
  case h_2 hne => exact startsUndigited_guardDigit hne

theorem startsUndigited_toUpper {t : Text} (ht : StartsUndigited t) :
    StartsUndigited t.toUpper := by
  obtain ⟨c, rest, rfl, hc⟩ := ht
  exact startsUndigited_append (upperOf_ne_nil c) (caseClosed_not_digit.upper hc)

/-! ## Identifiers in the cases of settings -/

/-- Whatever the name, each case that settings can hold makes an identifier of it, and one of the
seven-bit range of a name of that range. -/
theorem convert_isIdentifier (name : Text) {target : NamingCase}
    (htarget : target ∈ SettingsError.identifierCases) :
    IsIdentifier (convert name target) ∧
      ((∀ c ∈ name, isAscii c = true) → IsAsciiIdentifier (convert name target)) := by
  have hhyphen : ∀ {P : Prop}, target = .kebab → P := by
    rintro P rfl
    exact absurd htarget (by decide)
  have hstart : StartsUndigited (convert name target) := by
    cases target with
    | snake => exact startsUndigited_snake name
    | camel => exact startsUndigited_camel name
    | pascal => exact startsUndigited_pascal name
    | kebab => exact hhyphen rfl
    | screamingSnake => exact startsUndigited_toUpper (startsUndigited_snake name)
  have hparts : ∀ c ∈ convert name target, IsPart c := fun c hc =>
    forall_mem_convert isKept_isPart hhyphen
      (fun _ _ hd => isPart_of_not_excluded (not_excluded_of_isAlphanumeric hd)) c hc
  refine ⟨⟨hstart, hparts⟩, fun hname => ?_⟩
  have hword : ∀ c ∈ convert name target, isAsciiWord c = true := fun c hc =>
    (hparts c hc).word_of_ascii
      (forall_mem_convert isKept_ascii hhyphen (fun d hd _ => hname d hd) c hc)
  refine ⟨?_, hword⟩
  obtain ⟨first, rest, hsplit, hfirst⟩ := hstart
  refine ⟨first, rest, hsplit, ?_⟩
  have hdigit : isAsciiDigit first = false := by
    rw [Bool.eq_false_iff]
    intro hascii
    rw [isAsciiDigit, Bool.and_eq_true, decide_eq_true_eq, decide_eq_true_eq] at hascii
    have hin : isDigit first = true := inRanges_iff.mpr ⟨(48, 57), by decide +kernel, hascii⟩
    rw [hfirst] at hin
    cases hin
  simpa [isAsciiWord, hdigit] using hword first (hsplit ▸ List.mem_cons_self)

theorem convert_leadingDigit_isIdentifier :
    NamingCase.snake ∈ SettingsError.identifierCases ∧
      (∀ c ∈ Text.ofString "1st class-name", isAscii c = true) ∧
      convert "1st class-name" .snake = Text.ofString "_1st_class_name" ∧
      IsIdentifier (convert "1st class-name" .snake) ∧
      IsAsciiIdentifier (convert "1st class-name" .snake) := by
  have hcase : NamingCase.snake ∈ SettingsError.identifierCases := by decide
  have hname : ∀ c ∈ Text.ofString "1st class-name", isAscii c = true := by decide +kernel
  obtain ⟨hidentifier, hascii⟩ := convert_isIdentifier "1st class-name" hcase
  exact ⟨hcase, hname, by decide +kernel, hidentifier, hascii hname⟩

end RecordSmith.Identifier
