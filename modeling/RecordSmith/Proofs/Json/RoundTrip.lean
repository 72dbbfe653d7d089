import RecordSmith.Proofs.Json.Writer

/-!
# Reading what was written

A value that is written to a document is read back from it.  Behind each value of a
document a line break, a comma or the end follows, which no number goes on with.
-/

namespace RecordSmith.Json

/-- The reader takes an answer off the start of a text and leaves the rest, wherever in a document
the text starts. -/
def Reads {α : Type} (reader : Reader α) (t rest : Text) (answer : α) : Prop :=
  ∀ offset, ∃ next, reader ⟨t, offset⟩ = .ok (answer, ⟨rest, next⟩)

/-! ## Strings -/

/-- The unit adds the code point, whatever units follow. -/
def StringUnit.Spells (unit : StringUnit) (c : CodePoint) : Prop :=
  ∀ after, (unit.prepend after).2 = c :: after.2

theorem StringUnit.spells_plain (c : CodePoint) : (plain c).Spells c := fun _ => rfl

/-- A control character that is given by number is no half of a surrogate pair. -/
theorem StringUnit.spells_numbered {c : CodePoint} (hcontrol : c < 0x20) :
    (numbered c).Spells c := by
  have hhigh : isHighSurrogate c = false := by
    rw [isHighSurrogate, decide_eq_false (Nat.not_le_of_lt (Nat.lt_trans hcontrol (by decide))),
      Bool.false_and]
  rintro ⟨numbered, t⟩
  cases numbered with
  | false => rfl
  | true =>
      cases t with
      | nil => rfl
      | cons low t => simp [prepend, hhigh]

theorem textOfUnits_cons {unit : StringUnit} {c : CodePoint} (h : unit.Spells c)
    (units : List StringUnit) : textOfUnits (unit :: units) = c :: textOfUnits units := h _

theorem fourHexDigits?_hexDigits : ∀ c < 0x20, ∃ a b d e, Text.hexDigits 4 c = [a, b, d, e] ∧
    fourHexDigits? a b d e = some c := by
  intro c hc
  refine ⟨_, _, _, _, rfl, ?_⟩
  revert c
  decide

section Strings

variable {rest : Text}

/-- An escape is read as one unit, unless the document ends with it. -/
theorem readUnits_escape (start : Nat) (c : CodePoint) (hrest : rest ≠ []) (offset : Nat)
    (units : List StringUnit) :
    ∃ unit next, unit.Spells c ∧ readUnits start (escape c ++ rest) offset units =
      readUnits start rest next (unit :: units) := by
  generalize hform : escape c = written
  cases hform ▸ escape_form c with
  | @letter e _ hnumber hvalue =>
      refine ⟨_, offset + 2, StringUnit.spells_plain c, ?_⟩
      rw [List.cons_append, List.singleton_append, readUnits.eq_def]
      simp [hnumber, hvalue]
  | number hcontrol =>
      obtain ⟨a, b, d, e, hdigits, hvalue⟩ := fourHexDigits?_hexDigits c hcontrol
      obtain ⟨first, more, rfl⟩ := List.exists_cons_of_ne_nil hrest
      refine ⟨_, offset + 6, StringUnit.spells_numbered hcontrol, ?_⟩
      rw [hdigits]
      change readUnits start (0x5C :: 0x75 :: a :: b :: d :: e :: first :: more) offset units = _
      rw [readUnits.eq_def]
      simp [hvalue]
  | plain hstart hquote hescape =>
      refine ⟨_, offset + 1, StringUnit.spells_plain c, ?_⟩
      rw [List.singleton_append, readUnits.eq_def]
      simp [hquote, hescape, Nat.not_lt_of_le hstart]

/-- The units of a written string are read up to the closing quotation mark. -/
theorem readUnits_flatMap_escape (start : Nat) (t rest : Text) (offset : Nat)
    (units : List StringUnit) :
    ∃ read next, textOfUnits read = t ∧
      readUnits start (t.flatMap escape ++ 0x22 :: rest) offset units =
        .ok (units.reverse ++ read, ⟨rest, next⟩) := by
  induction t generalizing offset units with
  | nil =>
      refine ⟨[], offset + 1, rfl, ?_⟩
      rw [List.append_nil, List.flatMap_nil, List.nil_append, readUnits.eq_def]
      rfl
  | cons c t ih =>
      have hrest : t.flatMap escape ++ 0x22 :: rest ≠ [] :=
        List.append_ne_nil_of_right_ne_nil _ (List.cons_ne_nil _ _)
      obtain ⟨unit, middle, hunit, hfirst⟩ := readUnits_escape start c hrest offset units
      obtain ⟨read, next, hread, hmore⟩ := ih middle (unit :: units)
      refine ⟨unit :: read, next, ?_, ?_⟩
      · rw [textOfUnits_cons hunit, hread]
      · rw [List.flatMap_cons, List.append_assoc, hfirst, hmore, List.reverse_cons,
          List.append_assoc, List.singleton_append]

theorem reads_string (t rest : Text) :
    Reads readString (t.flatMap escape ++ 0x22 :: rest) rest t := by
  intro offset
  obtain ⟨units, next, hunits, hread⟩ := readUnits_flatMap_escape (offset - 1) t rest offset []
  refine ⟨next, ?_⟩
  rw [readString, hread, ← hunits]
  rfl

end Strings

/-! ## Scalars -/

/-- What can follow a value: a line break, a comma or the end of the document. -/
def EndsValue (rest : Text) : Prop := ∀ c ∈ rest.head?, c = 0x0A ∨ c = 0x2C

section Scalars

variable {rest : Text}

theorem EndsValue.cases (h : EndsValue rest) :
    rest = [] ∨ ∃ c others, rest = c :: others ∧ (c = 0x0A ∨ c = 0x2C) := by
  cases rest with
  | nil => exact Or.inl rfl
  | cons c others => exact Or.inr ⟨c, others, rfl, h c rfl⟩

theorem takeDigits_append {digits : Text} (hdigits : ∀ c ∈ digits, Text.isAsciiDigit c = true)
    (hrest : EndsValue rest) : takeDigits (digits ++ rest) = (digits, rest) := by
  have hstop : rest.takeWhile Text.isAsciiDigit = [] ∧
      rest.dropWhile Text.isAsciiDigit = rest := by
    rcases hrest.cases with rfl | ⟨_, _, rfl, rfl | rfl⟩
    · exact ⟨rfl, rfl⟩
    · exact ⟨rfl, rfl⟩
    · exact ⟨rfl, rfl⟩
  rw [takeDigits, List.takeWhile_append_of_pos hdigits, List.dropWhile_append_of_pos hdigits,
    hstop.1, hstop.2, List.append_nil]

theorem integerPart?_ofNat (n : Nat) (hrest : EndsValue rest) :
    integerPart? (Text.ofNat n ++ rest) = some (Text.ofNat n, rest) := by
  by_cases hzero : n = 0
  · subst hzero
    rfl
  · obtain ⟨c, others, hdigits, hdigit⟩ := Text.exists_digit_of_ofNat n
    have hnonzero : c ≠ 0x30 := by
      intro heq
      apply Text.head?_ofNat_ne_zero hzero
      rw [hdigits, heq, List.head?_cons]
    rw [← takeDigits_append (fun c => Text.isAsciiDigit_of_mem_ofNat) hrest, hdigits,
      List.cons_append, integerPart?, if_neg (by simpa using hnonzero), if_pos hdigit]

theorem fractionPart?_eq_none (hrest : EndsValue rest) : fractionPart? rest = none := by
  rcases hrest.cases with rfl | ⟨_, _, rfl, rfl | rfl⟩
  · rfl
  · rfl
  · rfl

theorem exponentPart?_eq_none (hrest : EndsValue rest) : exponentPart? rest = none := by
  rcases hrest.cases with rfl | ⟨_, _, rfl, rfl | rfl⟩
  · rfl
  · simp [exponentPart?]
  · simp [exponentPart?]

theorem numberValue_ofNat {n : Nat} (hdigits : (Text.ofNat n).length ≤ maxIntegerDigits)
    (negative : Bool) : numberValue negative (Text.ofNat n) none none =
      .ok (.integer (if negative then -(n : Int) else n)) := by
  rw [numberValue, if_neg (Nat.not_lt_of_le hdigits), Text.digitsValue_ofNat]

theorem reads_number {n : Int}
    (hdigits : (Text.ofNat n.natAbs).length ≤ maxIntegerDigits) (hrest : EndsValue rest) :
    Reads readNumber (Text.ofInt n ++ rest) rest (.integer n) := by
  intro offset
  refine ⟨offset + ((Text.ofInt n ++ rest).length - rest.length), ?_⟩
  cases n with
  | ofNat n =>
      have hsign : ((Text.ofNat n ++ rest).head? == some '-'.toNat) = false := by
        obtain ⟨c, others, hofNat, hdigit⟩ := Text.exists_digit_of_ofNat n
        rw [hofNat, List.cons_append, List.head?_cons]
        apply beq_false_of_ne
        rintro ⟨⟩
        cases hdigit
      have hvalue : numberValue false (Text.ofNat n) none none = .ok (.integer n) :=
        numberValue_ofNat hdigits false
      simp only [readNumber, Text.ofInt, hsign, Bool.false_eq_true, if_false,
        integerPart?_ofNat n hrest, fractionPart?_eq_none hrest, exponentPart?_eq_none hrest,
        hvalue]
      rfl
  | negSucc n =>
      have hsign : ((Text.ofInt (.negSucc n) ++ rest).head? == some '-'.toNat) = true := rfl
      have htail : (Text.ofInt (.negSucc n) ++ rest).tail = Text.ofNat (n + 1) ++ rest := rfl
      have hvalue : numberValue true (Text.ofNat (n + 1)) none none =
          .ok (.integer (.negSucc n)) := numberValue_ofNat hdigits true
      simp only [readNumber, hsign, htail, if_true, integerPart?_ofNat (n + 1) hrest,
        fractionPart?_eq_none hrest, exponentPart?_eq_none hrest, hvalue]
      rfl

/-- No constant starts with a digit, or with a minus sign before one. -/
theorem find?_constants_digit {c : CodePoint} (hdigit : Text.isAsciiDigit c = true)
    {sign : Text} (hsign : sign = [] ∨ sign = [0x2D]) (rest : Text) :
    (constants.find? fun constant => constant.1.isPrefixOf (sign ++ c :: rest)) = none := by
  have hheads : ∀ d ∈ [0x6E, 0x74, 0x66, 0x4E, 0x49, 0x2D], d ≠ c := by
    rintro d hd rfl
    have hother : ∀ d ∈ [0x6E, 0x74, 0x66, 0x4E, 0x49, 0x2D], Text.isAsciiDigit d = false := by
      decide
    rw [hother d hd] at hdigit
    cases hdigit
  simp only [List.forall_mem_cons] at hheads
  rcases hsign with rfl | rfl
  · simp [constants, Text.ofString, hheads]
  · simp [constants, Text.ofString, hheads]

theorem reads_integer {n : Int}
    (hdigits : (Text.ofNat n.natAbs).length ≤ maxIntegerDigits) (hrest : EndsValue rest) :
    Reads readScalar (Text.ofInt n ++ rest) rest (.integer n) := by
  have hconstant : (constants.find? fun constant =>
      constant.1.isPrefixOf (Text.ofInt n ++ rest)) = none := by
    cases n with
    | ofNat n =>
        obtain ⟨c, others, hofNat, hdigit⟩ := Text.exists_digit_of_ofNat n
        rw [Text.ofInt, hofNat]
        exact find?_constants_digit hdigit (Or.inl rfl) (others ++ rest)
    | negSucc n =>
        obtain ⟨c, others, hofNat, hdigit⟩ := Text.exists_digit_of_ofNat (n + 1)
        rw [Text.ofInt, hofNat]
        exact find?_constants_digit hdigit (Or.inr rfl) (others ++ rest)
  intro offset
  rw [readScalar, hconstant]
  exact reads_number hdigits hrest offset

theorem reads_null (rest : Text) : Reads readScalar ("null" ++ rest) rest .null :=
  fun offset => ⟨offset + 4, rfl⟩

theorem reads_boolean (b : Bool) (indent : Nat) (rest : Text) :
    Reads readScalar (writeAt indent (.boolean b) ++ rest) rest (.boolean b) := by
  intro offset
  cases b with
  | true => exact ⟨offset + 4, rfl⟩
  | false => exact ⟨offset + 5, rfl⟩

end Scalars

/-! ## Parts of containers -/

/-- The text is read as the answer, in front of anything that can follow a value. -/
structure ReadsBack {α : Type} (reader : Reader α) (t : Text) (answer : α) : Prop where
  starts : StartsValue t
  reads : ∀ rest, EndsValue rest → Reads reader (t ++ rest) rest answer

/-- Reads the parts of a container that has at least one, up to its closing bracket. -/
def readParts {α : Type} (close : CodePoint) (exhausted : Defect) (reader : Reader α) :
    Nat → List α → Reader (List α)
  | 0, _, cursor => cursor.fail exhausted
  | fuel + 1, parts, cursor => do
    let (part, cursor) ← reader cursor
    let cursor := cursor.skipBlanks
    match cursor.rest with
    | [] => cursor.fail .expectedComma
    | c :: _ =>
      if c == close then return ((part :: parts).reverse, cursor.advance 1)
      else if c == ','.toNat then
        readParts close exhausted reader fuel (part :: parts) (cursor.advance 1).skipBlanks
      else cursor.fail .expectedComma

/-- Reads an entry of an object. -/
def readEntry (reader : Reader Value) : Reader (Text × Value) := fun cursor => do
  if cursor.rest.head? != some 0x22 then cursor.fail .expectedName
  else
    let (key, cursor) ← readString (cursor.advance 1)
    let cursor := cursor.skipBlanks
    if cursor.rest.head? != some ':'.toNat then cursor.fail .expectedColon
    else
      let (value, cursor) ← reader (cursor.advance 1).skipBlanks
      return ((key, value), cursor)

/-- The items of a list are parts. -/
theorem readItems_eq (reader : Reader Value) (fuel : Nat) (items : List Value) (cursor : Cursor) :
    readItems reader fuel items cursor =
      readParts 0x5D .expectedValue reader fuel items cursor := by
  induction fuel generalizing items cursor with
  | zero => rfl
  | succ fuel ih =>
      simp only [readItems, readParts, ih]
      rfl

/-- The entries of an object are parts. -/
theorem readEntries_eq (reader : Reader Value) (fuel : Nat) (entries : Entries)
    (cursor : Cursor) :
    readEntries reader fuel entries cursor =
      readParts 0x7D .expectedName (readEntry reader) fuel entries cursor := by
  induction fuel generalizing entries cursor with
  | zero => rfl
  | succ fuel ih =>
      simp only [readEntries, readParts, readEntry, ih]
      split
      case isTrue => rfl
      case isFalse =>
        cases readString (cursor.advance 1) with
        | error failure => rfl
        | ok key =>
            dsimp only [bind, Except.bind]
            split
            case isTrue => rfl
            case isFalse =>
              cases reader (key.2.skipBlanks.advance 1).skipBlanks with
              | error failure => rfl
              | ok value => rfl

section Parts

variable {α : Type} {reader : Reader α} {close : CodePoint} {exhausted : Defect}
  {depth fuel : Nat} {rest : Text}

theorem skipBlanks_cons {c : CodePoint} (hc : isJsonBlank c = false) (t : Text)
    (offset : Nat) : Cursor.skipBlanks ⟨c :: t, offset⟩ = ⟨c :: t, offset⟩ := by
  rw [Cursor.skipBlanks, afterBlanks, hc, if_neg Bool.false_ne_true]

/-- Behind a line break a character is found that is no blank. -/
theorem skipBlanks_lineBreak {c : CodePoint} (hc : isJsonBlank c = false) (depth : Nat)
    (t : Text) (offset : Nat) :
    ∃ next, Cursor.skipBlanks ⟨lineBreak depth ++ c :: t, offset⟩ = ⟨c :: t, next⟩ := by
  have hblanks : ∀ count offset, ∃ next,
      afterBlanks (List.replicate count 0x20 ++ c :: t) offset = ⟨c :: t, next⟩ := by
    intro count
    induction count with
    | zero => exact fun offset => ⟨offset, skipBlanks_cons hc t offset⟩
    | succ count ih => exact fun offset => ih (offset + 1)
  exact hblanks (2 * depth) (offset + 1)

theorem skipBlanks_part {part : Text} (h : StartsValue part) (depth : Nat) (t : Text)
    (offset : Nat) :
    ∃ next, Cursor.skipBlanks ⟨lineBreak depth ++ part ++ t, offset⟩ = ⟨part ++ t, next⟩ := by
  obtain ⟨c, others, rfl, hblank, _⟩ := h
  rw [List.append_assoc]
  exact skipBlanks_lineBreak hblank depth (others ++ t) offset

theorem endsValue_afterPart (depth : Nat) (parts : List Text) (t : Text) :
    EndsValue (afterPart depth parts ++ t) := by
  cases parts with
  | nil => rintro c ⟨⟩; exact Or.inl rfl
  | cons part parts => rintro c ⟨⟩; exact Or.inr rfl

/-- In front of a further part there is a comma. -/
theorem skipBlanks_afterPart_cons (depth : Nat) (part : Text) (parts : List Text) (t : Text)
    (offset : Nat) :
    Cursor.skipBlanks ⟨afterPart depth (part :: parts) ++ t, offset⟩ =
      ⟨0x2C :: (lineBreak (depth + 1) ++ part ++ (afterPart depth parts ++ t)), offset⟩ := by
  rw [afterPart]
  simp only [List.append_assoc]
  exact skipBlanks_cons rfl _ offset

theorem readParts_close {cursor after : Cursor} {part : α} {offset : Nat}
    (hpart : reader cursor = .ok (part, after))
    (hclose : after.skipBlanks = ⟨close :: rest, offset⟩) (fuel : Nat) (done : List α) :
    readParts close exhausted reader (fuel + 1) done cursor =
      .ok ((part :: done).reverse, ⟨rest, offset + 1⟩) := by
  rw [readParts, hpart]
  dsimp only [bind, Except.bind]
  rw [hclose]
  exact if_pos (beq_self_eq_true close)

theorem readParts_comma (hcomma : close ≠ 0x2C) {cursor after : Cursor} {part : α}
    {offset : Nat} (hpart : reader cursor = .ok (part, after))
    (hafter : after.skipBlanks = ⟨0x2C :: rest, offset⟩) (fuel : Nat) (done : List α) :
    readParts close exhausted reader (fuel + 1) done cursor =
      readParts close exhausted reader fuel (part :: done)
        (Cursor.skipBlanks ⟨rest, offset + 1⟩) := by
  rw [readParts, hpart]
  dsimp only [bind, Except.bind]
  rw [hafter]
  exact if_neg (by simpa using Ne.symm hcomma)

/-- Parts on lines of their own are read one by one, each in front of what follows it. -/
theorem reads_parts (exhausted : Defect) (hclose : close ∈ closings) {text : α → Text} {first : α}
    {more : List α} (hparts : ∀ part ∈ first :: more, ReadsBack reader (text part) part)
    (hfuel : more.length ≤ fuel) (done : List α) :
    Reads (readParts close exhausted reader (fuel + 1) done)
      (text first ++ (afterPart depth (more.map text) ++ close :: rest)) rest
      (done.reverse ++ first :: more) := by
  have hclosings : ∀ c ∈ closings, isJsonBlank c = false ∧ c ≠ 0x2C := by decide
  obtain ⟨hblank, hcomma⟩ := hclosings close hclose
  induction more generalizing first fuel done with
  | nil =>
      intro offset
      have hbreak := endsValue_afterPart depth [] (close :: rest)
      obtain ⟨middle, hfirst⟩ := (hparts first List.mem_cons_self).reads _ hbreak offset
      obtain ⟨next, hend⟩ := skipBlanks_lineBreak hblank depth rest middle
      refine ⟨next + 1, (readParts_close hfirst hend fuel done).trans ?_⟩
      rw [List.reverse_cons]
  | cons second others ih =>
      intro offset
      obtain ⟨fuel, rfl⟩ := Nat.exists_eq_add_one.mpr (Nat.lt_of_lt_of_le (Nat.succ_pos _) hfuel)
      obtain ⟨hfirst, hmore⟩ := List.forall_mem_cons.mp hparts
      have hbreak := endsValue_afterPart depth ((second :: others).map text) (close :: rest)
      obtain ⟨middle, hpart⟩ := hfirst.reads _ hbreak offset
      obtain ⟨after, hsecond⟩ := skipBlanks_part (hmore second List.mem_cons_self).starts
        (depth + 1) (afterPart depth (others.map text) ++ close :: rest) (middle + 1)
      obtain ⟨next, hothers⟩ := ih hmore (Nat.le_of_succ_le_succ hfuel) (first :: done) after
      refine ⟨next, ?_⟩
      rw [readParts_comma hcomma hpart (skipBlanks_afterPart_cons _ _ _ _ _), hsecond, hothers,
        List.reverse_cons, List.append_assoc, List.singleton_append]

/-- Behind the opening bracket of a container with parts no closing one follows, and the parts are
read. -/
theorem readParts_writeParts (exhausted : Defect) (hclose : close ∈ closings) {text : α → Text}
    {first : α} {more : List α}
    (hparts : ∀ part ∈ first :: more, ReadsBack reader (text part) part)
    (hfuel : more.length < fuel) (offset : Nat) :
    ∃ cursor next,
      Cursor.skipBlanks ⟨writeParts depth ((first :: more).map text) ++ close :: rest, offset⟩ =
        cursor ∧
      (cursor.rest.head? == some close) = false ∧
      readParts close exhausted reader fuel [] cursor = .ok (first :: more, ⟨rest, next⟩) := by
  obtain ⟨fuel, rfl⟩ := Nat.exists_eq_add_one.mpr (Nat.lt_of_le_of_lt (Nat.zero_le _) hfuel)
  have hstarts := (hparts first List.mem_cons_self).starts
  obtain ⟨start, hskip⟩ := skipBlanks_part hstarts (depth + 1)
    (afterPart depth (more.map text) ++ close :: rest) offset
  obtain ⟨next, hread⟩ := reads_parts exhausted hclose hparts (Nat.le_of_lt_succ hfuel) [] start
  refine ⟨_, next, ?_, ?_, hread⟩
  · rw [List.map_cons, writeParts, List.append_assoc _ _ (close :: rest), hskip]
  · obtain ⟨c, others, hhead, _, hopen, _⟩ := hstarts
    rw [hhead, List.cons_append, List.head?_cons]
    apply beq_false_of_ne
    rintro ⟨⟩
    exact hopen hclose

end Parts

/-! ## Containers -/

section Containers

variable {reader : Reader Value} {depth fuel : Nat}

theorem reads_list {items : List Value}
    (hitems : ∀ item ∈ items, ReadsBack reader (writeAt (depth + 1) item) item)
    (hfuel : (writeItems depth items).length ≤ fuel) (rest : Text) :
    Reads (readList reader fuel) (writeItems depth items ++ 0x5D :: rest) rest (.list items) := by
  have hcount := Nat.le_trans (length_le_writeItems depth items) hfuel
  intro offset
  rw [writeItems_eq]
  cases items with
  | nil => exact ⟨offset + 1, rfl⟩
  | cons first more =>
      obtain ⟨cursor, next, hskip, hopen, hread⟩ :=
        readParts_writeParts .expectedValue (by decide : 0x5D ∈ closings) hitems hcount offset
      have hfirst : (cursor.rest.head? == some ']'.toNat) = false := hopen
      refine ⟨next, ?_⟩
      rw [readList, hskip]
      dsimp only
      rw [hfirst, if_neg Bool.false_ne_true, readItems_eq, hread]
      rfl

/-- An entry is read if its value is. -/
theorem readsBack_entry {key : Text} {value : Value}
    (hvalue : ReadsBack reader (writeAt depth value) value) :
    ReadsBack (readEntry reader) (entryPart depth (key, value)) (key, value) where
  starts := ⟨_, _, rfl, by decide, by decide, by decide⟩
  reads rest hrest offset := by
    obtain ⟨behind, hkey⟩ :=
      reads_string key (0x3A :: 0x20 :: (writeAt depth value ++ rest)) (offset + 1)
    obtain ⟨c, others, hhead, hblank, _⟩ := hvalue.starts
    have hskip : Cursor.skipBlanks ⟨0x20 :: (writeAt depth value ++ rest), behind + 1⟩ =
        ⟨writeAt depth value ++ rest, behind + 2⟩ := by
      rw [hhead]
      exact skipBlanks_cons hblank (others ++ rest) (behind + 2)
    obtain ⟨next, hread⟩ := hvalue.reads rest hrest (behind + 2)
    have hpart : entryPart depth (key, value) ++ rest =
        0x22 :: (key.flatMap escape ++ 0x22 :: 0x3A :: 0x20 :: (writeAt depth value ++ rest)) := by
      simp [entryPart, quote, Text.ofString]
    refine ⟨next, ?_⟩
    rw [hpart, readEntry, if_neg (by simp)]
    change (readString ⟨key.flatMap escape ++ 0x22 :: 0x3A :: 0x20 ::
      (writeAt depth value ++ rest), offset + 1⟩ >>= _) = _
    rw [hkey]
    dsimp only [bind, Except.bind]
    rw [skipBlanks_cons rfl, if_neg (by simp)]
    have hadvance : Cursor.advance ⟨0x3A :: 0x20 :: (writeAt depth value ++ rest), behind⟩ 1 =
        ⟨0x20 :: (writeAt depth value ++ rest), behind + 1⟩ := rfl
    rw [hadvance, hskip, hread]
    rfl

theorem reads_object {entries : Entries}
    (hentries : ∀ entry ∈ entries, ReadsBack reader (writeAt (depth + 1) entry.2) entry.2)
    (hkeys : entries.keys.Nodup) (hfuel : (writeEntries depth entries).length ≤ fuel)
    (rest : Text) :
    Reads (readObject reader fuel) (writeEntries depth entries ++ 0x7D :: rest) rest
      (.object entries) := by
  have hcount := Nat.le_trans (length_le_writeEntries depth entries) hfuel
  intro offset
  rw [writeEntries_eq]
  cases entries with
  | nil => exact ⟨offset + 1, rfl⟩
  | cons first more =>
      have hparts : ∀ entry ∈ first :: more,
          ReadsBack (readEntry reader) (entryPart (depth + 1) entry) entry :=
        fun entry hentry => readsBack_entry (hentries entry hentry)
      obtain ⟨cursor, next, hskip, hopen, hread⟩ :=
        readParts_writeParts .expectedName (by decide : 0x7D ∈ closings) hparts hcount offset
      refine ⟨next, ?_⟩
      rw [readObject, hskip]
      dsimp only
      rw [hopen, if_neg Bool.false_ne_true, readEntries_eq, hread]
      change Except.ok (Value.object (Entries.ofList (first :: more)), _) = _
      rw [Entries.ofList_of_nodup hkeys]

end Containers

/-! ## Values -/

section Values

variable {fuel : Nat} {rest : Text}

theorem exists_readTerm (fuel depth : Nat) :
    ∃ list object, readValue fuel depth = readTerm list object := by
  cases depth with
  | zero => exact ⟨_, _, rfl⟩
  | succ depth => exact ⟨_, _, rfl⟩

/-- A value that starts with no quotation mark and no bracket is read as a scalar. -/
theorem Reads.of_readScalar {c : CodePoint} {t : Text} {value : Value}
    (hc : c ∉ [0x22, 0x5B, 0x7B]) (h : Reads readScalar (c :: t) rest value) (fuel depth : Nat) :
    Reads (readValue fuel depth) (c :: t) rest value := by
  intro offset
  obtain ⟨list, object, hterm⟩ := exists_readTerm fuel depth
  obtain ⟨next, hread⟩ := h offset
  simp only [List.mem_cons, List.not_mem_nil, or_false, not_or] at hc
  refine ⟨next, ?_⟩
  rw [hterm, ← hread]
  simp [readTerm, hc]

theorem reads_text (t rest : Text) (fuel depth : Nat) :
    Reads (readValue fuel depth) (quote t ++ rest) rest (.text t) := by
  intro offset
  obtain ⟨list, object, hterm⟩ := exists_readTerm fuel depth
  obtain ⟨next, hread⟩ := reads_string t rest (offset + 1)
  refine ⟨next, ?_⟩
  rw [hterm, quote]
  simp [readTerm, Cursor.advance, hread, Except.map]

/-- A portable value is read back from what is written for it. -/
theorem readsBack_writeAt {depth : Nat} {value : Value} (h : value.Portable depth) (indent : Nat)
    (hfuel : (writeAt indent value).length ≤ fuel) :
    ReadsBack (readValue fuel depth) (writeAt indent value) value := by
  refine ⟨startsValue_writeAt h indent, ?_⟩
  intro rest hrest
  induction h generalizing indent rest with
  | @null depth => exact (reads_null rest).of_readScalar (by decide) fuel depth
  | @boolean depth b =>
      have hread := reads_boolean b indent rest
      cases b with
      | true => exact hread.of_readScalar (by decide) fuel depth
      | false => exact hread.of_readScalar (by decide) fuel depth
  | @integer depth n hdigits =>
      have hread := reads_integer hdigits hrest
      have hscalar : ∀ c ∈ integerStarts, c ∉ [0x22, 0x5B, 0x7B] := by decide
      obtain ⟨c, others, hofInt, hc⟩ := exists_start_of_ofInt n
      rw [hofInt] at hread
      rw [writeAt, hofInt]
      exact hread.of_readScalar (hscalar c hc) fuel depth
  | @text depth t _ => exact reads_text t rest fuel depth
  | @list depth items hitems ih =>
      have hinside : (writeItems indent items).length ≤ fuel := by
        rw [writeAt, List.length_append, List.length_append] at hfuel
        omega
      have hread : ∀ item ∈ items,
          ReadsBack (readValue fuel depth) (writeAt (indent + 1) item) item := fun item hitem =>
        ⟨startsValue_writeAt (hitems item hitem) _,
          ih item hitem _ (Nat.le_trans (length_item_le_writeItems hitem) hinside)⟩
      intro offset
      obtain ⟨next, hlist⟩ := reads_list hread hinside rest (offset + 1)
      refine ⟨next, ?_⟩
      rw [writeAt, List.append_assoc, List.append_assoc]
      exact hlist
  | @object depth entries hkeys hnames hvalues ih =>
      have hinside : (writeEntries indent entries).length ≤ fuel := by
        rw [writeAt, List.length_append, List.length_append] at hfuel
        omega
      have hread : ∀ entry ∈ entries,
          ReadsBack (readValue fuel depth) (writeAt (indent + 1) entry.2) entry.2 :=
        fun entry hentry =>
          ⟨startsValue_writeAt (hvalues entry hentry) _,
            ih entry hentry _ (Nat.le_trans (length_value_le_writeEntries hentry) hinside)⟩
      intro offset
      obtain ⟨next, hobject⟩ := reads_object hread hkeys hinside rest (offset + 1)
      refine ⟨next, ?_⟩
      rw [writeAt, List.append_assoc, List.append_assoc]
      exact hobject

end Values

/-- A document that was written for a portable value reads as that value. -/
theorem read_write {value : Value} (h : value.Portable maxDepth) :
    read (write value) = .ok value := by
  obtain ⟨c, others, hhead, hblank, _, hascii⟩ := startsValue_writeAt h 0
  have hread := readsBack_writeAt h 0 (Nat.le_succ (writeAt 0 value).length)
  obtain ⟨next, hvalue⟩ := hread.reads [] (fun _ hc => nomatch hc) 0
  have hmark : ((writeAt 0 value).head? == some 0xFEFF) = false := by
    rw [hhead, List.head?_cons]
    apply beq_false_of_ne
    rintro ⟨⟩
    exact absurd hascii (by decide)
  have hstart : afterBlanks (writeAt 0 value) 0 = ⟨writeAt 0 value, 0⟩ := by
    rw [hhead]
    exact skipBlanks_cons hblank others 0
  rw [List.append_nil] at hvalue
  rw [read, write, hmark, if_neg Bool.false_ne_true, hstart, hvalue]
  rfl

end RecordSmith.Json
