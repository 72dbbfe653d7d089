import Mathlib.Data.List.Find
import RecordSmith.Json.Reader
import RecordSmith.Proofs.Fallible
import RecordSmith.Proofs.Text.Lines
import RecordSmith.Proofs.Text.Plain

/-!
# Line endings in JSON documents

Between the values of a document every line ending is white space, and inside a string none is
accepted.  So it does not matter whether line endings are normalized before a document is read: the
value is the same, and what is refused is refused for the same defect, although not at the same
offset.
-/

namespace RecordSmith

namespace Json

open Text (normalizeNewlines)

/-- The failure without the place where it was noticed. -/
def Failure.withoutPlace : Failure → Failure
  | .defect missed _ => .defect missed 0
  | failure => failure

/-- The cursors stand at the same place of a text and of the text with normalized line endings. -/
def Alike (cursor twin : Cursor) : Prop := twin.rest = normalizeNewlines cursor.rest

/-- The cursor does not stand at a line ending that would be replaced. -/
def Cursor.Settled (cursor : Cursor) : Prop := cursor.rest.head? ≠ some 0x0D

/-- Two readings give the same value and leave cursors that are alike and have less than given
lengths before them, or fail for the same reason. -/
inductive Agree {α : Type} (bound limit : Nat) :
    Except Failure (α × Cursor) → Except Failure (α × Cursor) → Prop where
  | ok (a : α) {rest twin : Cursor} (halike : Alike rest twin)
      (hrest : rest.rest.length < bound) (htwin : twin.rest.length < limit) :
      Agree bound limit (.ok (a, rest)) (.ok (a, twin))
  | error {e f : Failure} (h : e.withoutPlace = f.withoutPlace) :
      Agree bound limit (.error e) (.error f)

/-- The readers agree at settled cursors with less than given lengths before them. -/
def AgreeBelow {α : Type} (bound limit : Nat) (reader other : Reader α) : Prop :=
  ∀ cursor twin : Cursor, Alike cursor twin → cursor.Settled → cursor.rest.length < bound →
    twin.rest.length < limit →
    Agree cursor.rest.length twin.rest.length (reader cursor) (other twin)

theorem AgreeBelow.mono {α : Type} {bound limit smaller less : Nat} {reader other : Reader α}
    (h : AgreeBelow bound limit reader other) (hbound : smaller ≤ bound) (hlimit : less ≤ limit) :
    AgreeBelow smaller less reader other :=
  fun cursor twin halike hcursor hrest htwin =>
    h cursor twin halike hcursor (Nat.lt_of_lt_of_le hrest hbound)
      (Nat.lt_of_lt_of_le htwin hlimit)

namespace Agree

variable {α β : Type} {bound limit larger more : Nat}
  {first other : Except Failure (α × Cursor)}

theorem mono (h : Agree bound limit first other) (hbound : bound ≤ larger)
    (hlimit : limit ≤ more) : Agree larger more first other := by
  cases h with
  | ok a halike hrest htwin =>
      exact .ok a halike (Nat.lt_of_lt_of_le hrest hbound) (Nat.lt_of_lt_of_le htwin hlimit)
  | error h => exact .error h

theorem bind {next following : α × Cursor → Except Failure (β × Cursor)}
    (h : Agree bound limit first other)
    (hnext : ∀ a rest twin, Alike rest twin → rest.rest.length < bound →
      twin.rest.length < limit → Agree larger more (next (a, rest)) (following (a, twin))) :
    Agree larger more (first >>= next) (other >>= following) := by
  cases h with
  | ok a halike hrest htwin => exact hnext a _ _ halike hrest htwin
  | error h => exact .error h

theorem map (f : α → β) (h : Agree bound limit first other) :
    Agree bound limit (first.map fun result => (f result.1, result.2))
      (other.map fun result => (f result.1, result.2)) := by
  cases h with
  | ok a halike hrest htwin => exact .ok (f a) halike hrest htwin
  | error h => exact .error h

theorem fail {cursor twin : Cursor} (defect : Defect) :
    Agree bound limit (cursor.fail defect : Except Failure (α × Cursor)) (twin.fail defect) :=
  .error rfl

end Agree

/-! ## Cursors -/

section Cursors

variable {cursor twin : Cursor}

theorem alike_mk (t : Text) (offset other : Nat) :
    Alike ⟨t, offset⟩ ⟨normalizeNewlines t, other⟩ := rfl

theorem Alike.nil (h : Alike cursor twin) (hnil : cursor.rest = []) : twin.rest = [] := by
  rw [Alike, hnil] at h
  exact h

theorem Alike.cons (h : Alike cursor twin) {c : CodePoint} {t : Text}
    (hcons : cursor.rest = c :: t) (hc : c ≠ 0x0D) : twin.rest = c :: normalizeNewlines t := by
  rw [Alike, hcons, Text.normalizeNewlines_cons hc] at h
  exact h

theorem Cursor.Settled.ne (h : cursor.Settled) {c : CodePoint} {t : Text}
    (hcons : cursor.rest = c :: t) : c ≠ 0x0D := by
  rintro rfl
  exact h (by rw [hcons, List.head?_cons])

/-- One step forward keeps cursors alike, unless it goes over a line ending. -/
theorem Alike.advance (h : Alike cursor twin) {c : CodePoint} {t : Text}
    (hcons : cursor.rest = c :: t) (hc : c ≠ 0x0D) :
    Alike (cursor.advance 1) (twin.advance 1) := by
  rw [Alike, Cursor.advance, Cursor.advance, h.cons hcons hc, hcons]
  rfl

theorem length_advance {c : CodePoint} {t : Text} (hcons : cursor.rest = c :: t) :
    (cursor.advance 1).rest.length < cursor.rest.length := by
  rw [Cursor.advance, hcons]
  exact Nat.lt_succ_self t.length

theorem Alike.head?_beq (h : Alike cursor twin) {c : CodePoint} (hreturn : c ≠ 0x0D)
    (hfeed : c ≠ 0x0A) : (twin.rest.head? == some c) = (cursor.rest.head? == some c) := by
  rw [h]
  exact Text.head?_normalizeNewlines_beq hreturn hfeed cursor.rest

theorem rest_afterBlanks_newlinesAfter (t : Text) (flag : Bool) (offset other : Nat) :
    (afterBlanks (Text.newlinesAfter flag t) other).rest =
      normalizeNewlines (afterBlanks t offset).rest := by
  induction t generalizing flag offset other with
  | nil => rfl
  | cons c rest ih =>
      rw [Text.newlinesAfter, afterBlanks]
      by_cases hreturn : c = 0x0D
      · subst hreturn
        exact ih true _ _
      · rw [if_neg (by simpa using hreturn)]
        by_cases hblank : isJsonBlank c = true
        · rw [if_pos hblank]
          split
          case isTrue => exact ih false _ _
          case isFalse =>
            rw [afterBlanks, if_pos hblank]
            exact ih false _ _
        · -- A line feed is blank, so that the character is not the second part of a line ending.
          have hfeed : (flag && c == 0x0A) = false := by
            rw [Bool.and_eq_false_imp]
            intro _
            apply beq_false_of_ne
            rintro rfl
            exact hblank rfl
          rw [if_neg hblank, hfeed, if_neg Bool.false_ne_true, afterBlanks, if_neg hblank,
            Text.normalizeNewlines_cons hreturn]
          rfl

theorem alike_skipBlanks (h : Alike cursor twin) : Alike cursor.skipBlanks twin.skipBlanks := by
  rw [Alike, Cursor.skipBlanks, Cursor.skipBlanks, h]
  exact rest_afterBlanks_newlinesAfter cursor.rest false _ _

theorem settled_afterBlanks (t : Text) (offset : Nat) : (afterBlanks t offset).Settled := by
  induction t generalizing offset with
  | nil => exact nofun
  | cons c rest ih =>
      rw [afterBlanks]
      split
      case isTrue => exact ih (offset + 1)
      case isFalse hblank =>
        intro h
        rw [List.head?_cons, Option.some_inj] at h
        exact hblank (h ▸ rfl)

theorem settled_skipBlanks (cursor : Cursor) : cursor.skipBlanks.Settled :=
  settled_afterBlanks cursor.rest cursor.offset

theorem length_afterBlanks (t : Text) (offset : Nat) :
    (afterBlanks t offset).rest.length ≤ t.length := by
  induction t generalizing offset with
  | nil => exact Nat.le_refl _
  | cons c rest ih =>
      rw [afterBlanks]
      split
      · exact Nat.le_succ_of_le (ih (offset + 1))
      · exact Nat.le_refl _

theorem length_skipBlanks (cursor : Cursor) :
    cursor.skipBlanks.rest.length ≤ cursor.rest.length :=
  length_afterBlanks cursor.rest cursor.offset

end Cursors

/-! ## Strings -/

theorem isSome_hexValue? {c : CodePoint} (h : (Text.hexValue? c).isSome = true) :
    c ≠ 0x0D ∧ c ≠ 0x0A := by
  constructor <;> (rintro rfl; cases h)

theorem isSome_of_fourHexDigits? {a b c d : CodePoint} {n : Nat}
    (h : fourHexDigits? a b c d = some n) :
    (Text.hexValue? a).isSome = true ∧ (Text.hexValue? b).isSome = true ∧
      (Text.hexValue? c).isSome = true ∧ (Text.hexValue? d).isSome = true := by
  simp only [fourHexDigits?, Option.bind_eq_bind, Option.bind_eq_some_iff] at h
  obtain ⟨_, ha, _, hb, _, hc, _, hd, _⟩ := h
  rw [ha, hb, hc, hd]
  exact ⟨rfl, rfl, rfl, rfl⟩

/-- Four hexadecimal digits and more, which an escape by number has to be followed by. -/
def StartsWithNumber (t : Text) : Prop :=
  ∃ a b c d next rest n, t = a :: b :: c :: d :: next :: rest ∧ fourHexDigits? a b c d = some n

theorem startsWithNumber_of_normalizeNewlines {t : Text}
    (h : StartsWithNumber (normalizeNewlines t)) : StartsWithNumber t := by
  obtain ⟨a, b, c, d, next, rest, n, hfirst, hn⟩ := h
  obtain ⟨ha, hb, hc, hd⟩ := isSome_of_fourHexDigits? hn
  obtain ⟨_, rfl, hsecond⟩ :=
    Text.exists_of_normalizeNewlines_eq_cons (isSome_hexValue? ha).2 hfirst
  obtain ⟨_, rfl, hthird⟩ :=
    Text.exists_of_normalizeNewlines_eq_cons (isSome_hexValue? hb).2 hsecond
  obtain ⟨_, rfl, hfourth⟩ :=
    Text.exists_of_normalizeNewlines_eq_cons (isSome_hexValue? hc).2 hthird
  obtain ⟨t, rfl, hmore⟩ :=
    Text.exists_of_normalizeNewlines_eq_cons (isSome_hexValue? hd).2 hfourth
  have hne : t ≠ [] := by
    rintro rfl
    cases hmore
  obtain ⟨e, others, rfl⟩ := List.exists_cons_of_ne_nil hne
  exact ⟨a, b, c, d, e, others, n, rfl, hn⟩

theorem readUnits_malformed {start offset : Nat} {units : List StringUnit} {t : Text}
    (h : ¬StartsWithNumber t) :
    readUnits start (0x5C :: 'u'.toNat :: t) offset units =
      .error (.defect .malformedUnicodeEscape (offset + 1)) := by
  rw [readUnits.eq_def]
  dsimp only
  rw [if_neg (by decide), if_pos (by decide), if_pos (by decide)]
  split
  case h_1 a b c d next rest =>
    split
    case h_1 n hn => exact absurd ⟨a, b, c, d, next, rest, n, rfl, hn⟩ h
    case h_2 => rfl
  case h_2 => rfl

theorem letterEscape?_eq_none {c : CodePoint} (h : c = 0x0D ∨ c = 0x0A) :
    letterEscape? c = none := by
  rcases h with rfl | rfl <;> decide

/-- A string is read alike: a line ending in it is refused, replaced or not. -/
theorem agree_readUnits (start first : Nat) (t : Text) (offset other : Nat)
    (units : List StringUnit) :
    Agree t.length (normalizeNewlines t).length (readUnits start t offset units)
      (readUnits first (normalizeNewlines t) other units) := by
  fun_induction readUnits start t offset units generalizing other
  -- In turn: the end of the text, a quotation mark, a backslash at the end, an escape by number,
  -- malformed and cut off ones, an escape by letter, an unknown one, a control character, others.
  case case1 => exact .error rfl
  case case2 c rest offset units hquote =>
    obtain rfl : c = 0x22 := eq_of_beq hquote
    rw [Text.normalizeNewlines_cons (by decide), readUnits.eq_def first]
    exact .ok units.reverse (alike_mk rest _ _) (Nat.lt_succ_self _) (Nat.lt_succ_self _)
  case case3 c offset units _ hescape =>
    obtain rfl : c = 0x5C := eq_of_beq hescape
    exact .error rfl
  case case4 c offset units _ hescape e hnumber h₁ h₂ h₃ h₄ next rest n hn ih =>
    obtain rfl : c = 0x5C := eq_of_beq hescape
    obtain rfl : e = 'u'.toNat := eq_of_beq hnumber
    obtain ⟨ha, hb, hc, hd⟩ := isSome_of_fourHexDigits? hn
    have hmore : normalizeNewlines (next :: rest) ≠ [] :=
      mt Text.normalizeNewlines_eq_nil_iff.mp (List.cons_ne_nil next rest)
    rw [Text.normalizeNewlines_cons (by decide), Text.normalizeNewlines_cons (by decide),
      Text.normalizeNewlines_cons (isSome_hexValue? ha).1,
      Text.normalizeNewlines_cons (isSome_hexValue? hb).1,
      Text.normalizeNewlines_cons (isSome_hexValue? hc).1,
      Text.normalizeNewlines_cons (isSome_hexValue? hd).1]
    specialize ih (other + 6)
    obtain ⟨following, others, hfollowing⟩ := List.exists_cons_of_ne_nil hmore
    rw [hfollowing] at ih ⊢
    rw [readUnits.eq_def first]
    dsimp only
    rw [if_neg (by decide), if_pos (by decide), if_pos (by decide), hn]
    exact ih.mono (by simp only [List.length_cons]; omega) (by simp only [List.length_cons]; omega)
  case case5 c offset units _ hescape e hnumber h₁ h₂ h₃ h₄ next rest hn =>
    obtain rfl : c = 0x5C := eq_of_beq hescape
    obtain rfl : e = 'u'.toNat := eq_of_beq hnumber
    have hnone : ¬StartsWithNumber (h₁ :: h₂ :: h₃ :: h₄ :: next :: rest) := by
      rintro ⟨_, _, _, _, _, _, n, heq, hsome⟩
      cases heq
      rw [hn] at hsome
      cases hsome
    rw [Text.normalizeNewlines_cons (by decide), Text.normalizeNewlines_cons (by decide),
      readUnits_malformed (mt startsWithNumber_of_normalizeNewlines hnone)]
    exact .error rfl
  case case6 c offset units _ hescape e rest hnumber hshort =>
    obtain rfl : c = 0x5C := eq_of_beq hescape
    obtain rfl : e = 'u'.toNat := eq_of_beq hnumber
    have hnone : ¬StartsWithNumber rest := by
      rintro ⟨a, b, c, d, next, others, _, heq, _⟩
      exact hshort a b c d next others heq
    rw [Text.normalizeNewlines_cons (by decide), Text.normalizeNewlines_cons (by decide),
      readUnits_malformed (mt startsWithNumber_of_normalizeNewlines hnone)]
    exact .error rfl
  case case7 c offset units _ hescape e rest hletter d hd ih =>
    obtain rfl : c = 0x5C := eq_of_beq hescape
    have hreturn : e ≠ 0x0D := by
      rintro rfl
      rw [letterEscape?_eq_none (Or.inl rfl)] at hd
      cases hd
    rw [Text.normalizeNewlines_cons (by decide), Text.normalizeNewlines_cons hreturn,
      readUnits.eq_def first]
    dsimp only
    rw [if_neg (by decide), if_pos (by decide), if_neg hletter, hd]
    exact (ih (other + 2)).mono (by simp only [List.length_cons]; omega)
      (by simp only [List.length_cons]; omega)
  case case8 c offset units _ hescape e rest hletter hnone =>
    obtain rfl : c = 0x5C := eq_of_beq hescape
    rw [Text.normalizeNewlines_cons (by decide)]
    by_cases hreturn : e = 0x0D
    · subst hreturn
      rw [Text.normalizeNewlines_return, readUnits.eq_def first]
      exact .error rfl
    · rw [Text.normalizeNewlines_cons hreturn, readUnits.eq_def first]
      dsimp only
      rw [if_neg (by decide), if_pos (by decide), if_neg hletter, hnone]
      exact .error rfl
  case case9 c rest offset units hquote hescape hcontrol =>
    by_cases hreturn : c = 0x0D
    · subst hreturn
      rw [Text.normalizeNewlines_return, readUnits.eq_def first]
      exact .error rfl
    · rw [Text.normalizeNewlines_cons hreturn, readUnits.eq_def first]
      dsimp only
      rw [if_neg hquote, if_neg hescape, if_pos hcontrol]
      exact .error rfl
  case case10 c rest offset units hquote hescape hcontrol ih =>
    have hreturn : c ≠ 0x0D := by
      rintro rfl
      exact hcontrol (by decide)
    rw [Text.normalizeNewlines_cons hreturn, readUnits.eq_def first]
    dsimp only
    rw [if_neg hquote, if_neg hescape, if_neg hcontrol]
    exact (ih (other + 1)).mono (Nat.le_succ _) (Nat.le_succ _)

theorem agree_readString {cursor twin : Cursor} (h : Alike cursor twin) :
    Agree cursor.rest.length twin.rest.length (readString cursor) (readString twin) := by
  rw [readString, readString, h]
  refine (agree_readUnits _ _ cursor.rest _ _ []).bind fun units rest twin halike hrest htwin => ?_
  exact .ok (textOfUnits units) halike hrest htwin

/-! ## Numbers and constants -/

theorem takeDigits_normalizeNewlines (t : Text) :
    takeDigits (normalizeNewlines t) = ((takeDigits t).1, normalizeNewlines (takeDigits t).2) := by
  rw [takeDigits, takeDigits]
  induction t with
  | nil => rfl
  | cons c rest ih =>
      by_cases hdigit : Text.isAsciiDigit c = true
      · have hreturn : c ≠ 0x0D := by
          rintro rfl
          cases hdigit
        rw [Prod.mk.injEq] at ih
        rw [Text.normalizeNewlines_cons hreturn, List.takeWhile_cons_of_pos hdigit,
          List.takeWhile_cons_of_pos hdigit, List.dropWhile_cons_of_pos hdigit,
          List.dropWhile_cons_of_pos hdigit, ih.1, ih.2]
      · rw [List.takeWhile_cons_of_neg hdigit, List.dropWhile_cons_of_neg hdigit]
        by_cases hreturn : c = 0x0D
        · subst hreturn
          rfl
        · rw [Text.normalizeNewlines_cons hreturn, List.takeWhile_cons_of_neg hdigit,
            List.dropWhile_cons_of_neg hdigit]

theorem integerPart?_normalizeNewlines (t : Text) :
    integerPart? (normalizeNewlines t) =
      (integerPart? t).map fun part => (part.1, normalizeNewlines part.2) := by
  cases t with
  | nil => rfl
  | cons c rest =>
      by_cases hreturn : c = 0x0D
      · subst hreturn
        rfl
      · rw [Text.normalizeNewlines_cons hreturn, integerPart?, integerPart?]
        split
        case isTrue => rfl
        case isFalse =>
          split
          case isTrue =>
            rw [← Text.normalizeNewlines_cons hreturn, takeDigits_normalizeNewlines]
            rfl
          case isFalse => rfl

theorem fractionPart?_normalizeNewlines (t : Text) :
    fractionPart? (normalizeNewlines t) =
      (fractionPart? t).map fun part => (part.1, normalizeNewlines part.2) := by
  cases t with
  | nil => rfl
  | cons c rest =>
      by_cases hreturn : c = 0x0D
      · subst hreturn
        rfl
      · rw [Text.normalizeNewlines_cons hreturn, fractionPart?, fractionPart?]
        dsimp only
        rw [takeDigits_normalizeNewlines, apply_ite (Option.map _)]
        rfl

theorem exponentPart?_normalizeNewlines (t : Text) :
    exponentPart? (normalizeNewlines t) =
      (exponentPart? t).map fun part => (part.1, normalizeNewlines part.2) := by
  cases t with
  | nil => rfl
  | cons c rest =>
      by_cases hreturn : c = 0x0D
      · subst hreturn
        rfl
      · have htail : (normalizeNewlines rest).tail = normalizeNewlines rest.tail ∨
            (rest.head? == some '-'.toNat || rest.head? == some '+'.toNat) = false := by
          by_cases hhead : rest.head? = some 0x0D
          · rw [hhead]
            exact Or.inr rfl
          · exact Or.inl (Text.tail_normalizeNewlines hhead)
        have hsigned : (if (rest.head? == some '-'.toNat || rest.head? == some '+'.toNat) = true
            then (normalizeNewlines rest).tail else normalizeNewlines rest) =
            normalizeNewlines (if (rest.head? == some '-'.toNat ||
              rest.head? == some '+'.toNat) = true then rest.tail else rest) := by
          rw [apply_ite normalizeNewlines]
          rcases htail with heq | hunsigned
          · rw [heq]
          · rw [hunsigned, if_neg Bool.false_ne_true, if_neg Bool.false_ne_true]
        rw [Text.normalizeNewlines_cons hreturn, exponentPart?, exponentPart?]
        dsimp only
        rw [Text.head?_normalizeNewlines_beq (by decide) (by decide),
          Text.head?_normalizeNewlines_beq (by decide) (by decide), hsigned,
          takeDigits_normalizeNewlines, apply_ite (Option.map _)]
        rfl

theorem length_takeDigits (t : Text) : (takeDigits t).2.length ≤ t.length :=
  (List.dropWhile_suffix _).length_le

theorem length_integerPart? {t digits rest : Text} (h : integerPart? t = some (digits, rest)) :
    rest.length < t.length := by
  cases t with
  | nil => cases h
  | cons c others =>
      rw [integerPart?] at h
      split at h
      case isTrue =>
        cases h
        exact Nat.lt_succ_self _
      case isFalse =>
        split at h
        case isTrue hdigit =>
          rw [takeDigits, List.dropWhile_cons_of_pos hdigit] at h
          cases h
          exact Nat.lt_succ_of_le (List.dropWhile_suffix _).length_le
        case isFalse => cases h

/-- The digits behind a point, if there are any, and what follows them. -/
def fractionOf (t : Text) : Option Text × Text :=
  match fractionPart? t with
  | some (digits, rest) => (some digits, rest)
  | none => (none, t)

/-- The exponent, if there is one, and what follows it. -/
def exponentOf (t : Text) : Option Int × Text :=
  match exponentPart? t with
  | some (exponent, rest) => (some exponent, rest)
  | none => (none, t)

theorem fractionOf_normalizeNewlines (t : Text) :
    fractionOf (normalizeNewlines t) = ((fractionOf t).1, normalizeNewlines (fractionOf t).2) := by
  rw [fractionOf, fractionOf, fractionPart?_normalizeNewlines]
  cases fractionPart? t <;> rfl

theorem exponentOf_normalizeNewlines (t : Text) :
    exponentOf (normalizeNewlines t) = ((exponentOf t).1, normalizeNewlines (exponentOf t).2) := by
  rw [exponentOf, exponentOf, exponentPart?_normalizeNewlines]
  cases exponentPart? t <;> rfl

theorem length_fractionOf (t : Text) : (fractionOf t).2.length ≤ t.length := by
  rw [fractionOf]
  split
  case h_1 digits rest h =>
    cases t with
    | nil => cases h
    | cons c others =>
        rw [fractionPart?] at h
        dsimp only at h
        obtain ⟨_, heq⟩ := Option.ite_none_right_eq_some.mp h
        cases heq
        exact Nat.le_succ_of_le (length_takeDigits others)
  case h_2 => exact Nat.le_refl _

theorem length_exponentOf (t : Text) : (exponentOf t).2.length ≤ t.length := by
  rw [exponentOf]
  split
  case h_1 exponent rest h =>
    cases t with
    | nil => cases h
    | cons c others =>
        rw [exponentPart?] at h
        dsimp only at h
        obtain ⟨_, heq⟩ := Option.ite_none_right_eq_some.mp h
        cases heq
        refine Nat.le_trans (length_takeDigits _) (Nat.le_succ_of_le ?_)
        split
        case isTrue => exact (List.tail_suffix others).length_le
        case isFalse => exact Nat.le_refl _
  case h_2 => exact Nat.le_refl _

/-- The text behind the sign of a number. -/
def unsigned (t : Text) : Text := if t.head? == some '-'.toNat then t.tail else t

theorem length_unsigned (t : Text) : (unsigned t).length ≤ t.length := by
  rw [unsigned]
  split
  case isTrue => exact (List.tail_suffix t).length_le
  case isFalse => exact Nat.le_refl _

theorem unsigned_normalizeNewlines {t : Text} (h : t.head? ≠ some 0x0D) :
    unsigned (normalizeNewlines t) = normalizeNewlines (unsigned t) := by
  rw [unsigned, unsigned, Text.head?_normalizeNewlines_beq (by decide) (by decide),
    Text.tail_normalizeNewlines h, apply_ite normalizeNewlines]

theorem readNumber_eq (cursor : Cursor) :
    readNumber cursor = match integerPart? (unsigned cursor.rest) with
      | none => cursor.fail .expectedValue
      | some (whole, rest) =>
        (numberValue (cursor.rest.head? == some '-'.toNat) whole (fractionOf rest).1
          (exponentOf (fractionOf rest).2).1).map fun value =>
            (value, ⟨(exponentOf (fractionOf rest).2).2,
              cursor.offset + (cursor.rest.length - (exponentOf (fractionOf rest).2).2.length)⟩) :=
  rfl

/-- The text behind a number is shorter than the text that starts with it. -/
theorem length_behindNumber {t digits rest : Text}
    (h : integerPart? (unsigned t) = some (digits, rest)) :
    (exponentOf (fractionOf rest).2).2.length < t.length :=
  calc (exponentOf (fractionOf rest).2).2.length
    _ ≤ (fractionOf rest).2.length := length_exponentOf _
    _ ≤ rest.length := length_fractionOf rest
    _ < (unsigned t).length := length_integerPart? h
    _ ≤ t.length := length_unsigned t

theorem agree_readNumber {cursor twin : Cursor} (h : Alike cursor twin)
    (hcursor : cursor.Settled) :
    Agree cursor.rest.length twin.rest.length (readNumber cursor) (readNumber twin) := by
  have hpart : integerPart? (unsigned twin.rest) =
      (integerPart? (unsigned cursor.rest)).map fun part =>
        (part.1, normalizeNewlines part.2) := by
    rw [h, unsigned_normalizeNewlines hcursor, integerPart?_normalizeNewlines]
  rw [readNumber_eq, readNumber_eq, h.head?_beq (by decide) (by decide)]
  cases hnumber : integerPart? (unsigned cursor.rest) with
  | none =>
      rw [hpart, hnumber]
      exact .fail .expectedValue
  | some part =>
      obtain ⟨whole, rest⟩ := part
      rw [hnumber] at hpart
      have hshort := length_behindNumber hnumber
      have hshortTwin := length_behindNumber hpart
      rw [hpart]
      dsimp only [Option.map]
      dsimp only at hshortTwin
      rw [fractionOf_normalizeNewlines, exponentOf_normalizeNewlines] at hshortTwin ⊢
      cases numberValue (cursor.rest.head? == some '-'.toNat) whole (fractionOf rest).1
          (exponentOf (fractionOf rest).2).1 with
      | error e => exact .error rfl
      | ok value => exact .ok value (alike_mk _ _ _) hshort hshortTwin

/-- The constants hold no line endings. -/
theorem constants_free : ∀ constant ∈ constants, 0x0D ∉ constant.1 ∧ 0x0A ∉ constant.1 ∧
    constant.1 ≠ [] := by
  simp only [constants, List.forall_mem_cons]
  exact ⟨by decide, by decide, by decide, by decide, by decide, by decide, List.forall_mem_nil _⟩

theorem agree_readScalar {cursor twin : Cursor} (h : Alike cursor twin)
    (hcursor : cursor.Settled) :
    Agree cursor.rest.length twin.rest.length (readScalar cursor) (readScalar twin) := by
  have hsame : (constants.find? fun constant => constant.1.isPrefixOf twin.rest) =
      constants.find? fun constant => constant.1.isPrefixOf cursor.rest := by
    apply List.find?_congr
    intro constant hconstant
    obtain ⟨hreturn, hfeed, _⟩ := constants_free constant hconstant
    rw [h, Text.isPrefixOf_normalizeNewlines hreturn hfeed]
  rw [readScalar, readScalar, hsame]
  split
  case h_2 => exact agree_readNumber h hcursor
  case h_1 name value hfound =>
    obtain ⟨hreturn, _, hne⟩ := constants_free _ (List.mem_of_find?_eq_some hfound)
    have hprefix : name.isPrefixOf cursor.rest = true := by simpa using List.find?_some hfound
    obtain ⟨rest, hrest⟩ := List.isPrefixOf_iff_prefix.mp hprefix
    have htwin : twin.rest = name ++ normalizeNewlines rest := by
      rw [h, ← hrest,
        Text.normalizeNewlines_append fun hlast => hreturn (List.mem_of_getLast? hlast),
        Text.normalizeNewlines_of_free hreturn]
    have hlength : 0 < name.length := List.length_pos_iff.mpr hne
    have halike : Alike (cursor.advance name.length) (twin.advance name.length) := by
      rw [Alike, Cursor.advance, Cursor.advance, htwin, ← hrest, List.drop_left, List.drop_left]
    refine .ok value halike ?_ ?_
    · rw [Cursor.advance, ← hrest, List.drop_left, List.length_append]
      exact Nat.lt_add_of_pos_left hlength
    · rw [Cursor.advance, htwin, List.drop_left, List.length_append]
      exact Nat.lt_add_of_pos_left hlength

/-! ## Values -/

section Values

variable {bound limit fuel more : Nat} {item other : Reader Value}

/-- Goes on behind a part of a container: the container is closed, or a comma comes before the next
part. -/
def closeOrContinue {α : Type} (close : CodePoint) (all : α) (next : Reader α) : Reader α :=
  fun cursor =>
  match cursor.skipBlanks.rest with
  | [] => cursor.skipBlanks.fail .expectedComma
  | c :: _ =>
    if c == close then .ok (all, cursor.skipBlanks.advance 1)
    else if c == ','.toNat then next (cursor.skipBlanks.advance 1).skipBlanks
    else cursor.skipBlanks.fail .expectedComma

theorem agree_closeOrContinue {α : Type} (close : CodePoint) (all : α) {next following : Reader α}
    {cursor twin : Cursor} (h : Alike cursor twin)
    (hnext : AgreeBelow cursor.rest.length twin.rest.length next following) :
    Agree cursor.rest.length twin.rest.length (closeOrContinue close all next cursor)
      (closeOrContinue close all following twin) := by
  have hblanks := alike_skipBlanks h
  have hlength := length_skipBlanks cursor
  have hlengthTwin := length_skipBlanks twin
  rw [closeOrContinue, closeOrContinue]
  cases hfirst : cursor.skipBlanks.rest with
  | nil =>
      rw [hblanks.nil hfirst]
      exact .fail .expectedComma
  | cons c t =>
      have hc := (settled_skipBlanks cursor).ne hfirst
      have hadvance := hblanks.advance hfirst hc
      have hstep := length_advance hfirst
      have hstepTwin := length_advance (hblanks.cons hfirst hc)
      rw [hblanks.cons hfirst hc]
      dsimp only
      split
      case isTrue => exact .ok all hadvance (by omega) (by omega)
      case isFalse =>
        split
        case isFalse => exact .fail .expectedComma
        case isTrue =>
          have hlast := length_skipBlanks (cursor.skipBlanks.advance 1)
          have hlastTwin := length_skipBlanks (twin.skipBlanks.advance 1)
          exact (hnext _ _ (alike_skipBlanks hadvance) (settled_skipBlanks _) (by omega)
            (by omega)).mono (by omega) (by omega)

theorem readItems_succ (items : List Value) (cursor : Cursor) :
    readItems item (fuel + 1) items cursor = (do
      let (value, rest) ← item cursor
      closeOrContinue ']'.toNat (value :: items).reverse (readItems item fuel (value :: items))
        rest) :=
  rfl

/-- Items are read alike as long as no reader runs out of fuel. -/
theorem agree_readItems (hitem : AgreeBelow bound limit item other) (hfuel : fuel ≤ bound)
    (hmore : more ≤ limit) (items : List Value) :
    AgreeBelow fuel more (readItems item fuel items) (readItems other more items) := by
  induction fuel generalizing more items with
  | zero => exact fun _ _ _ _ hrest => absurd hrest (Nat.not_lt_zero _)
  | succ fuel ih =>
      intro cursor twin h hcursor hrest htwin
      obtain ⟨more, rfl⟩ := Nat.exists_eq_succ_of_ne_zero (Nat.ne_zero_of_lt htwin)
      rw [readItems_succ, readItems_succ]
      refine (hitem cursor twin h hcursor (by omega) (by omega)).bind ?_
      intro value rest behind halike hshort hshortTwin
      refine (agree_closeOrContinue _ _ halike ?_).mono hshort.le hshortTwin.le
      exact (ih (by omega) (by omega) (value :: items)).mono (by omega) (by omega)

theorem agree_readList (hitem : AgreeBelow bound limit item other) {cursor twin : Cursor}
    (h : Alike cursor twin) (hrest : cursor.rest.length < bound)
    (htwin : twin.rest.length < limit) :
    Agree (cursor.rest.length + 1) (twin.rest.length + 1) (readList item bound cursor)
      (readList other limit twin) := by
  have hblanks := alike_skipBlanks h
  have hlength := length_skipBlanks cursor
  have hlengthTwin := length_skipBlanks twin
  rw [readList, readList]
  dsimp only
  rw [hblanks.head?_beq (by decide) (by decide)]
  split
  case isTrue hclose =>
    obtain ⟨t, hnext⟩ := List.head?_eq_some_iff.mp (eq_of_beq hclose)
    have hstep := length_advance hnext
    have hstepTwin := length_advance (hblanks.cons hnext (by decide))
    exact .ok (Value.list []) (hblanks.advance hnext (by decide)) (by omega) (by omega)
  case isFalse =>
    have hitems := agree_readItems hitem (Nat.le_refl _) (Nat.le_refl _) [] _ _ hblanks
      (settled_skipBlanks cursor) (by omega) (by omega)
    exact (hitems.map Value.list).mono (by omega) (by omega)

theorem readEntries_succ (entries : Entries) (cursor : Cursor) :
    readEntries item (fuel + 1) entries cursor =
      if cursor.rest.head? == some 0x22 then do
        let (key, rest) ← readString (cursor.advance 1)
        if rest.skipBlanks.rest.head? == some ':'.toNat then do
          let (value, rest) ← item (rest.skipBlanks.advance 1).skipBlanks
          closeOrContinue 0x7D ((key, value) :: entries).reverse
            (readEntries item fuel ((key, value) :: entries)) rest
        else rest.skipBlanks.fail .expectedColon
      else cursor.fail .expectedName := by
  rw [readEntries, bne]
  cases cursor.rest.head? == some 0x22 with
  | false => rfl
  | true =>
      rw [if_neg (by decide), if_pos rfl]
      congr 1
      funext ⟨key, rest⟩
      dsimp only
      rw [bne]
      cases rest.skipBlanks.rest.head? == some ':'.toNat <;> rfl

/-- Entries are read alike as long as no reader runs out of fuel. -/
theorem agree_readEntries (hitem : AgreeBelow bound limit item other) (hfuel : fuel ≤ bound)
    (hmore : more ≤ limit) (entries : Entries) :
    AgreeBelow fuel more (readEntries item fuel entries) (readEntries other more entries) := by
  induction fuel generalizing more entries with
  | zero => exact fun _ _ _ _ hrest => absurd hrest (Nat.not_lt_zero _)
  | succ fuel ih =>
      intro cursor twin h hcursor hrest htwin
      obtain ⟨more, rfl⟩ := Nat.exists_eq_succ_of_ne_zero (Nat.ne_zero_of_lt htwin)
      rw [readEntries_succ, readEntries_succ, h.head?_beq (by decide) (by decide)]
      split
      case isFalse => exact .fail .expectedName
      case isTrue hopen =>
        obtain ⟨t, hquote⟩ := List.head?_eq_some_iff.mp (eq_of_beq hopen)
        have hstep := length_advance hquote
        have hstepTwin := length_advance (h.cons hquote (by decide))
        refine (agree_readString (h.advance hquote (by decide))).bind ?_
        intro key rest behind halike hshort hshortTwin
        have hblanks := alike_skipBlanks halike
        have hlength := length_skipBlanks rest
        have hlengthTwin := length_skipBlanks behind
        dsimp only
        rw [hblanks.head?_beq (by decide) (by decide)]
        split
        case isFalse => exact .fail .expectedColon
        case isTrue hcolon =>
          obtain ⟨t, hmark⟩ := List.head?_eq_some_iff.mp (eq_of_beq hcolon)
          have hmarkStep := length_advance hmark
          have hmarkTwin := length_advance (hblanks.cons hmark (by decide))
          have hvalue := length_skipBlanks (rest.skipBlanks.advance 1)
          have hvalueTwin := length_skipBlanks (behind.skipBlanks.advance 1)
          refine (hitem _ _ (alike_skipBlanks (hblanks.advance hmark (by decide)))
            (settled_skipBlanks _) (by omega) (by omega)).bind ?_
          intro value rest behind halike hshort hshortTwin
          refine (agree_closeOrContinue _ _ halike ?_).mono (by omega) (by omega)
          exact (ih (by omega) (by omega) ((key, value) :: entries)).mono (by omega) (by omega)

theorem agree_readObject (hitem : AgreeBelow bound limit item other) {cursor twin : Cursor}
    (h : Alike cursor twin) (hrest : cursor.rest.length < bound)
    (htwin : twin.rest.length < limit) :
    Agree (cursor.rest.length + 1) (twin.rest.length + 1) (readObject item bound cursor)
      (readObject other limit twin) := by
  have hblanks := alike_skipBlanks h
  have hlength := length_skipBlanks cursor
  have hlengthTwin := length_skipBlanks twin
  rw [readObject, readObject]
  dsimp only
  rw [hblanks.head?_beq (by decide) (by decide)]
  split
  case isTrue hclose =>
    obtain ⟨t, hnext⟩ := List.head?_eq_some_iff.mp (eq_of_beq hclose)
    have hstep := length_advance hnext
    have hstepTwin := length_advance (hblanks.cons hnext (by decide))
    exact .ok (Value.object []) (hblanks.advance hnext (by decide)) (by omega) (by omega)
  case isFalse =>
    have hentries := agree_readEntries hitem (Nat.le_refl _) (Nat.le_refl _) [] _ _ hblanks
      (settled_skipBlanks cursor) (by omega) (by omega)
    exact (hentries.map fun entries => Value.object (Entries.ofList entries)).mono (by omega)
      (by omega)

/-- The readers agree behind an opening bracket or brace. -/
def AgreeBehind (bound limit : Nat) (reader twinReader : Reader Value) : Prop :=
  ∀ cursor twin : Cursor, Alike cursor twin → cursor.rest.length < bound →
    twin.rest.length < limit →
    Agree (cursor.rest.length + 1) (twin.rest.length + 1) (reader cursor) (twinReader twin)

theorem agree_readTerm {list object twinList twinObject : Reader Value}
    (hlist : AgreeBehind bound limit list twinList)
    (hobject : AgreeBehind bound limit object twinObject) :
    AgreeBelow bound limit (readTerm list object) (readTerm twinList twinObject) := by
  intro cursor twin h hcursor hrest htwin
  rw [readTerm, readTerm]
  by_cases hnil : cursor.rest = []
  case pos =>
    rw [hnil, h.nil hnil]
    exact .fail .expectedValue
  case neg =>
    obtain ⟨c, t, hfirst⟩ := List.exists_cons_of_ne_nil hnil
    have hc := hcursor.ne hfirst
    have hfirstTwin := h.cons hfirst hc
    have hadvance := h.advance hfirst hc
    have hstep := length_advance hfirst
    have hstepTwin := length_advance hfirstTwin
    have hhead : cursor.rest.head? = some c := by rw [hfirst, List.head?_cons]
    have hheadTwin : twin.rest.head? = some c := by rw [hfirstTwin, List.head?_cons]
    rw [hhead, hheadTwin]
    dsimp only
    split
    case isTrue =>
      exact ((agree_readString hadvance).map Value.text).mono (by omega) (by omega)
    case isFalse =>
      split
      case isTrue =>
        exact (hobject _ _ hadvance (by omega) (by omega)).mono (by omega) (by omega)
      case isFalse =>
        split
        case isTrue =>
          exact (hlist _ _ hadvance (by omega) (by omega)).mono (by omega) (by omega)
        case isFalse => exact agree_readScalar h hcursor

theorem agree_readValue (bound limit depth : Nat) :
    AgreeBelow bound limit (readValue bound depth) (readValue limit depth) := by
  induction depth with
  | zero =>
      have htooDeep : AgreeBehind bound limit (fun _ => .error .nestedTooDeep)
          fun _ => .error .nestedTooDeep := fun _ _ _ _ _ => .error rfl
      exact agree_readTerm htooDeep htooDeep
  | succ depth ih =>
      exact agree_readTerm (fun _ _ => agree_readList ih) fun _ _ => agree_readObject ih

end Values

/-- A document reads the same with normalized line endings, apart from the places of defects. -/
theorem read_normalizeNewlines (t : Text) :
    (read (normalizeNewlines t)).mapError Failure.withoutPlace =
      (read t).mapError Failure.withoutPlace := by
  have hstart : Alike (afterBlanks t 0) (afterBlanks (normalizeNewlines t) 0) :=
    rest_afterBlanks_newlinesAfter t false 0 0
  have hvalue := agree_readValue (t.length + 1) ((normalizeNewlines t).length + 1) maxDepth _ _
    hstart (settled_afterBlanks t 0) (Nat.lt_succ_of_le (length_afterBlanks t 0))
    (Nat.lt_succ_of_le (length_afterBlanks _ 0))
  rw [read, read, Text.head?_normalizeNewlines_beq (by decide) (by decide)]
  split
  case isTrue => rfl
  case isFalse =>
    generalize readValue (t.length + 1) maxDepth (afterBlanks t 0) = first at hvalue ⊢
    generalize readValue ((normalizeNewlines t).length + 1) maxDepth
      (afterBlanks (normalizeNewlines t) 0) = second at hvalue ⊢
    cases hvalue with
    | error h =>
        change Except.error _ = Except.error _
        rw [h]
    | @ok value rest twin halike =>
        have hend : twin.skipBlanks.rest.isEmpty = rest.skipBlanks.rest.isEmpty := by
          rw [alike_skipBlanks halike, Bool.eq_iff_iff, List.isEmpty_iff, List.isEmpty_iff,
            Text.normalizeNewlines_eq_nil_iff]
        dsimp only [bind, Except.bind]
        rw [hend]
        split <;> rfl

theorem read_normalizeNewlines_eq_ok_iff {t : Text} {value : Value} :
    read (normalizeNewlines t) = .ok value ↔ read t = .ok value := by
  rw [← Fallible.mapError_eq_ok_iff, read_normalizeNewlines, Fallible.mapError_eq_ok_iff]

/-- A failure that is not for a defect at some place is the same for both texts. -/
theorem read_normalizeNewlines_eq_error_iff {t : Text} {failure : Failure}
    (hplain : ∀ other : Failure, other.withoutPlace = failure ↔ other = failure) :
    read (normalizeNewlines t) = .error failure ↔ read t = .error failure := by
  have herror : ∀ result : Except Failure Value,
      result.mapError Failure.withoutPlace = .error failure ↔ result = .error failure := by
    rintro (other | value)
    · change Except.error other.withoutPlace = .error failure ↔ _
      rw [Except.error.injEq, Except.error.injEq, hplain other]
    · exact iff_of_false (fun h => nomatch h) fun h => nomatch h
  rw [← herror, read_normalizeNewlines, herror]

end Json

end RecordSmith
