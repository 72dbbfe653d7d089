import Mathlib.Algebra.Group.Nat.Defs
import RecordSmith.Proofs.Target.Lines

/-!
# Reading literals

A literal stands between delimiters.  A backslash in it starts an escape, every other character
denotes itself, and the first delimiter that belongs to no escape closes the literal.  The string
literals of both languages are read back as the texts they were written for, whatever follows
them.
-/

namespace RecordSmith

namespace Text

/-- The number that hexadecimal digits denote. -/
def hexNumber? (digits : Text) : Option Nat :=
  digits.foldlM (fun n c => (hexValue? c).map (n * 16 + ·)) 0

theorem hexValue?_hexDigit : ∀ n < 16, hexValue? (hexDigit n) = some n := by decide

theorem length_hexDigits (width n : Nat) : (hexDigits width n).length = width := by
  induction width generalizing n with
  | zero => rfl
  | succ width ih => simp [hexDigits, ih]

theorem hexNumber?_append (digits : Text) (c : CodePoint) :
    hexNumber? (digits ++ [c]) =
      (hexNumber? digits).bind fun n => (hexValue? c).map (n * 16 + ·) := by
  simp [hexNumber?, List.foldlM_append]

theorem hexNumber?_hexDigits (width n : Nat) :
    hexNumber? (hexDigits width n) = some (n % 16 ^ width) := by
  induction width generalizing n with
  | zero => simp [hexDigits, hexNumber?, Nat.mod_one]
  | succ width ih =>
      have hlast := hexValue?_hexDigit (n % 16) (Nat.mod_lt n (by decide))
      have hnumber : n / 16 % 16 ^ width * 16 + n % 16 = n % 16 ^ (width + 1) := by
        rw [Nat.pow_succ', Nat.mod_mul, Nat.mul_comm, Nat.add_comm]
      simp [hexDigits, hexNumber?_append, ih, hlast, hnumber]

end Text

/-- How the literals of a kind are delimited, and the escapes that stand in them. -/
structure LiteralForm where
  /-- What opens a literal and what closes it. -/
  delimiter : Text
  /-- The letters behind a backslash, each with what the escape denotes. -/
  letters : List (CodePoint × CodePoint)
  /-- Whether `u` and four hexadecimal digits behind a backslash denote a character. -/
  numbered : Bool
  quoted : delimiter.head? = some 0x22 := by rfl

namespace LiteralForm

/-- What the text behind a backslash denotes, and how many of its characters do so. -/
def escape? (form : LiteralForm) : Text → Option (CodePoint × Nat)
  | [] => none
  | letter :: rest =>
    match form.letters.lookup letter with
    | some c => some (c, 1)
    | none =>
      if form.numbered && letter == 0x75 && 4 ≤ rest.length then
        (Text.hexNumber? (rest.take 4)).map (·, 5)
      else none

/-- What a character denotes before a text, and how many characters of the text belong to it. -/
def unit? (form : LiteralForm) (c : CodePoint) (rest : Text) : Option (CodePoint × Nat) :=
  if c == 0x5C then form.escape? rest else some (c, 0)

/-- Reads a literal to its end: what it denotes, and the text behind the delimiter that closes it.
`skip` counts the characters of an escape that are still to be passed over. -/
def readFrom (form : LiteralForm) : Nat → Text → Option (Text × Text)
  | _, [] => none
  | skip + 1, _ :: rest => form.readFrom skip rest
  | 0, c :: rest =>
    match Text.dropStart? form.delimiter (c :: rest) with
    | some after => some ([], after)
    | none =>
      match form.unit? c rest with
      | none => none
      | some (value, skip) => (form.readFrom skip rest).map (Prod.map (value :: ·) id)

/-- Reads the literal at the start of a text: what it denotes, and the text behind it. -/
def read? (form : LiteralForm) (t : Text) : Option (Text × Text) :=
  (Text.dropStart? form.delimiter t).bind (form.readFrom 0)

/-- The text is one literal and denotes `t`: nothing in it closes it but the delimiter at its end,
whatever follows. -/
structure Denotes (form : LiteralForm) (literal t : Text) : Prop where
  delimited : ∃ interior, literal = form.delimiter ++ interior ++ form.delimiter
  read : ∀ rest, form.read? (literal ++ rest) = some (t, rest)

/-- What a literal shows for `c`: read before any other text, it denotes `c`. -/
def Shows (form : LiteralForm) (c : CodePoint) (shown : Text) : Prop :=
  ∀ rest, form.readFrom 0 (shown ++ rest) =
    (form.readFrom 0 rest).map (Prod.map (c :: ·) id)

section Reading

variable {form : LiteralForm} {c : CodePoint} {rest : Text}

/-- A delimiter starts with a quotation mark. -/
theorem not_delimiter_prefix_cons (hc : c ≠ 0x22) : ¬form.delimiter <+: c :: rest := by
  rintro ⟨after, heq⟩
  have hquoted := form.quoted
  cases hdelimiter : form.delimiter with
  | nil =>
      rw [hdelimiter] at hquoted
      cases hquoted
  | cons d others =>
      rw [hdelimiter] at heq hquoted
      cases heq
      exact hc (Option.some.inj hquoted)

theorem readFrom_delimiter (rest : Text) :
    form.readFrom 0 (form.delimiter ++ rest) = some ([], rest) := by
  obtain ⟨others, hdelimiter⟩ := List.head?_eq_some_iff.mp form.quoted
  have hdrop : Text.dropStart? form.delimiter (0x22 :: (others ++ rest)) = some rest :=
    Text.dropStart?_eq_some_iff.mpr (by rw [hdelimiter, List.cons_append])
  rw [hdelimiter, List.cons_append, readFrom, hdrop]

theorem readFrom_unit {value skip : Nat} (hopen : ¬form.delimiter <+: c :: rest)
    (hunit : form.unit? c rest = some (value, skip)) :
    form.readFrom 0 (c :: rest) =
      (form.readFrom skip rest).map (Prod.map (value :: ·) id) := by
  rw [readFrom, Text.dropStart?_eq_none_iff.mpr hopen, hunit]

theorem readFrom_append (shown rest : Text) :
    form.readFrom shown.length (shown ++ rest) = form.readFrom 0 rest := by
  induction shown with
  | nil => rfl
  | cons d shown ih => exact ih

/-- A character that starts neither an escape nor a delimiter denotes itself. -/
theorem readFrom_bare (hc : c ≠ 0x5C) (hopen : ¬form.delimiter <+: c :: rest) :
    form.readFrom 0 (c :: rest) = (form.readFrom 0 rest).map (Prod.map (c :: ·) id) :=
  readFrom_unit hopen (by simp [unit?, hc])

/-- An escape denotes what the form says, if all of it is there. -/
theorem shows_escape {shown : Text}
    (h : ∀ rest, form.escape? (shown ++ rest) = some (c, shown.length)) :
    form.Shows c (0x5C :: shown) := by
  intro rest
  have hunit : form.unit? 0x5C (shown ++ rest) = some (c, shown.length) := h rest
  rw [List.cons_append, readFrom_unit (not_delimiter_prefix_cons (by decide)) hunit,
    readFrom_append]

theorem shows_bare (hc : c ≠ 0x5C) (hquote : c ≠ 0x22) : form.Shows c [c] :=
  fun _ => readFrom_bare hc (not_delimiter_prefix_cons hquote)

theorem shows_letter {letter : CodePoint} (h : form.letters.lookup letter = some c) :
    form.Shows c [0x5C, letter] := by
  apply shows_escape
  intro rest
  simp [escape?, h]

theorem shows_number (hnumbered : form.numbered = true)
    (hletter : form.letters.lookup 0x75 = none) (hc : c < 0x10000) :
    form.Shows c ("\\u" ++ Text.hexDigits 4 c) := by
  have hdigits := Text.hexNumber?_hexDigits 4 c
  have hlength := Text.length_hexDigits 4 c
  rw [Nat.mod_eq_of_lt (by simpa using hc)] at hdigits
  have hescape : ∀ rest, form.escape? (0x75 :: Text.hexDigits 4 c ++ rest) =
      some (c, (0x75 :: Text.hexDigits 4 c).length) := by
    intro rest
    have htake : (Text.hexDigits 4 c ++ rest).take 4 = Text.hexDigits 4 c :=
      List.take_left' hlength
    simp [escape?, hletter, hnumbered, htake, hdigits, hlength]
  exact shows_escape hescape

/-- What is shown character by character is read character by character. -/
theorem readFrom_flatMap {f : CodePoint → Text} (hf : ∀ c, form.Shows c (f c)) (t rest : Text) :
    form.readFrom 0 (t.flatMap f ++ rest) =
      (form.readFrom 0 rest).map (Prod.map (t ++ ·) id) := by
  induction t with
  | nil => exact (congrFun Option.map_id (form.readFrom 0 rest)).symm
  | cons c t ih =>
      rw [List.flatMap_cons, List.append_assoc, hf c, ih, Option.map_map]
      rfl

/-- A text that is shown character by character between delimiters makes a literal. -/
theorem denotes_flatMap {f : CodePoint → Text} (hf : ∀ c, form.Shows c (f c)) (t : Text) :
    form.Denotes (form.delimiter ++ t.flatMap f ++ form.delimiter) t := by
  constructor
  case delimited => exact ⟨_, rfl⟩
  case read =>
    intro rest
    have hstart : Text.dropStart? form.delimiter
        (form.delimiter ++ t.flatMap f ++ form.delimiter ++ rest) =
          some (t.flatMap f ++ (form.delimiter ++ rest)) :=
      Text.dropStart?_eq_some_iff.mpr (by simp only [List.append_assoc])
    rw [read?, hstart, Option.bind_some, readFrom_flatMap hf, readFrom_delimiter]
    simp [Prod.map]

end Reading

end LiteralForm

/-! ## String literals -/

namespace Contract

/-- The regular string literals of C#. -/
def literalForm : LiteralForm where
  delimiter := [0x22]
  letters :=
    [(0x5C, 0x5C), (0x22, 0x22), (0x30, 0x00), (0x61, 0x07), (0x62, 0x08), (0x66, 0x0C),
      (0x6E, 0x0A), (0x72, 0x0D), (0x74, 0x09), (0x76, 0x0B)]
  numbered := true

/-- Four digits are enough for every number that is written. -/
theorem lt_of_needsNumber {c : CodePoint} (h : needsNumber c = true) : c < 0x10000 := by
  simp only [needsNumber, isWideLineBreak, Text.isSurrogate, Bool.or_eq_true, Bool.and_eq_true,
    decide_eq_true_eq, beq_iff_eq] at h
  rcases h with (hcontrol | (rfl | rfl) | rfl) | hsurrogate
  · exact Nat.lt_trans hcontrol (by decide)
  · decide
  · decide
  · decide
  · exact Nat.lt_of_le_of_lt hsurrogate.2 (by decide)

/-- Whatever follows an escape, it is read as the character it was written for. -/
theorem shows_escape (c : CodePoint) : literalForm.Shows c (escape c) := by
  have hletters : ∀ entry ∈ letterEscapes, literalForm.letters.lookup entry.2 = some entry.1 := by
    decide
  rw [escape]
  split
  case h_1 letter hletter =>
    obtain ⟨before, after, hsplit, _⟩ := List.lookup_eq_some_iff.mp hletter
    exact LiteralForm.shows_letter (hletters (c, letter) (by simp [hsplit]))
  case h_2 hnone =>
    split
    case isTrue hnumber =>
      exact LiteralForm.shows_number rfl (by decide) (lt_of_needsNumber hnumber)
    case isFalse =>
      apply LiteralForm.shows_bare
      · rintro rfl
        cases hnone
      · rintro rfl
        cases hnone

/-- A text of any code points has a literal on one line, without surrogates, which denotes it. -/
theorem regularLiteral_denotes (t : Text) :
    literalForm.Denotes (stringLiteral t) t ∧ Target.csharp.OnOneLine (stringLiteral t) ∧
      (stringLiteral t).SurrogateFree :=
  ⟨LiteralForm.denotes_flatMap shows_escape t, Target.onOneLine_textLiteral .csharp t,
    Target.surrogateFree_textLiteral .csharp t⟩

end Contract

namespace Dataclass

/-- The string literals of Python between single quotation marks, with the escapes that the
sources use; the reader knows no others. -/
def literalForm : LiteralForm where
  delimiter := [0x22]
  letters :=
    [(0x5C, 0x5C), (0x22, 0x22), (0x6E, 0x0A), (0x72, 0x0D), (0x74, 0x09), (0x62, 0x08),
      (0x66, 0x0C)]
  numbered := true

theorem shows_numberEscape {c : CodePoint} (hc : c < 0x10000) :
    literalForm.Shows c ("\\u" ++ Text.hexDigits 4 c) :=
  LiteralForm.shows_number rfl (by decide) hc

theorem shows_jsonEscape (c : CodePoint) : literalForm.Shows c (Json.escape c) := by
  rw [Json.escape]
  split
  case isTrue hmark =>
    have hmarks : c = 0x22 ∨ c = 0x5C := by simpa using hmark
    rcases hmarks with rfl | rfl
    · exact LiteralForm.shows_letter rfl
    · exact LiteralForm.shows_letter rfl
  case isFalse hmark =>
    -- Five control characters have letters, the others are written by number.
    iterate 5
      split
      case isTrue hc =>
        rw [eq_of_beq hc]
        exact LiteralForm.shows_letter rfl
    split
    case isTrue hcontrol => exact shows_numberEscape (Nat.lt_trans hcontrol (by decide))
    case isFalse =>
      apply LiteralForm.shows_bare
      · rintro rfl
        exact hmark rfl
      · rintro rfl
        exact hmark rfl

theorem shows_escape (c : CodePoint) : literalForm.Shows c (escape c) := by
  rw [escape]
  split
  case isTrue hsurrogate =>
    have hrange := of_decide_eq_true (Bool.and_eq_true_iff.mp hsurrogate).2
    exact shows_numberEscape (Nat.lt_of_le_of_lt hrange (by decide))
  case isFalse => exact shows_jsonEscape c

/-! ## JSON strings -/

/-- What stands in a string literal for a character of a JSON string. -/
def escapeSurrogate (c : CodePoint) : Text :=
  if Text.isSurrogate c then "\\u" ++ Text.hexDigits 4 c else [c]

theorem flatMap_escapeSurrogate_of_free {t : Text} (h : t.SurrogateFree) :
    t.flatMap escapeSurrogate = t := by
  induction t with
  | nil => rfl
  | cons c t ih =>
      obtain ⟨hc, ht⟩ := Text.surrogateFree_cons.mp h
      rw [List.flatMap_cons, ih ht, escapeSurrogate, hc]
      rfl

theorem jsonEscape_of_isSurrogate {c : CodePoint} (h : Text.isSurrogate c = true) :
    Json.escape c = [c] := by
  have hstart : 0xD800 ≤ c := of_decide_eq_true (Bool.and_eq_true_iff.mp h).1
  have hne : ∀ d < 0xD800, c ≠ d := fun d hd heq => Nat.not_le_of_lt hd (heq ▸ hstart)
  have hcontrol : ¬c < 0x20 := fun hc => Nat.not_le_of_lt (Nat.lt_trans hc (by decide)) hstart
  simp [Json.escape, hne, hcontrol]

/-- The escapes of surrogates meet no other escape: a string literal is what becomes of the JSON
string when its surrogates are escaped afterwards. -/
theorem stringLiteral_eq_flatMap_quote (t : Text) :
    stringLiteral t = (Json.quote t).flatMap escapeSurrogate := by
  have hescape : ∀ c, (Json.escape c).flatMap escapeSurrogate = escape c := by
    intro c
    rw [escape]
    split
    case isTrue hsurrogate =>
      simp [jsonEscape_of_isSurrogate hsurrogate, escapeSurrogate, hsurrogate]
    case isFalse hsurrogate =>
      have hfree := surrogateFree_escape c
      rw [escape, if_neg hsurrogate] at hfree
      exact flatMap_escapeSurrogate_of_free hfree
  have hquote : [0x22].flatMap escapeSurrogate = [0x22] := by decide
  simp only [stringLiteral, Json.quote, List.flatMap_append, List.flatMap_assoc, hescape, hquote]

/-- No control character stands in a string literal. -/
theorem le_of_mem_stringLiteral {t : Text} : ∀ c ∈ stringLiteral t, 0x20 ≤ c := by
  have hescape : ∀ d, ∀ c ∈ escape d, 0x20 ≤ c := by
    intro d c hc
    rcases escape_cases d with hplain | ⟨heq, hstart, _⟩
    · exact (hplain c hc).1
    · rw [heq, List.mem_singleton] at hc
      exact hc ▸ hstart
  simp only [stringLiteral, List.forall_mem_append, List.forall_mem_singleton,
    List.forall_mem_flatMap]
  exact ⟨⟨by decide, fun d _ => hescape d⟩, by decide⟩

/-- A text of any code points has a literal without control characters and surrogates, which
denotes it: its JSON string, in which the surrogates are escaped. -/
theorem stringLiteral_denotes (t : Text) :
    literalForm.Denotes (stringLiteral t) t ∧ (∀ c ∈ stringLiteral t, 0x20 ≤ c) ∧
      (stringLiteral t).SurrogateFree ∧
      stringLiteral t = (Json.quote t).flatMap escapeSurrogate :=
  ⟨LiteralForm.denotes_flatMap shows_escape t, le_of_mem_stringLiteral,
    Target.surrogateFree_textLiteral .python t, stringLiteral_eq_flatMap_quote t⟩

end Dataclass

end RecordSmith
