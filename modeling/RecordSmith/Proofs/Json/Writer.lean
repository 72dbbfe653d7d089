import RecordSmith.Json.Reader
import RecordSmith.Json.Writer
import RecordSmith.Proofs.Text.Basic
import RecordSmith.Proofs.Text.Plain
import RecordSmith.Proofs.Value.Extent
import RecordSmith.Proofs.Value.Object

/-!
# What the JSON writer writes

A list and an object are both written as parts on lines of their own.  What is
written starts with a character that only a value starts with, and unless a text in
the value is in the way, it can be stored in a file.
-/

namespace RecordSmith

/-- The value can be written to a document and read back: nothing in it is a floating point
number, its texts can be encoded, its integers have no more digits than are read, the keys of its
objects are distinct, and at most `depth` containers are open at one place. -/
inductive Value.Portable : Nat → Value → Prop where
  | null {depth : Nat} : Portable depth .null
  | boolean {depth : Nat} (b : Bool) : Portable depth (.boolean b)
  | integer {depth : Nat} {n : Int}
      (hdigits : (Text.ofNat n.natAbs).length ≤ Json.maxIntegerDigits) :
      Portable depth (.integer n)
  | text {depth : Nat} {t : Text} (ht : t.IsScalar) : Portable depth (.text t)
  | list {depth : Nat} {items : List Value} (hitems : ∀ item ∈ items, Portable depth item) :
      Portable (depth + 1) (.list items)
  | object {depth : Nat} {entries : Entries} (hkeys : entries.keys.Nodup)
      (hnames : ∀ entry ∈ entries, entry.1.IsScalar)
      (hvalues : ∀ entry ∈ entries, Portable depth entry.2) :
      Portable (depth + 1) (.object entries)

namespace Value.Portable

variable {depth : Nat} {entries : Entries}

theorem nodup_keys (h : Portable depth (.object entries)) : entries.keys.Nodup := by
  cases h with
  | object hkeys => exact hkeys

theorem of_mem (h : Portable depth (.object entries)) {entry : Text × Value}
    (hentry : entry ∈ entries) : ∃ inner, Portable inner entry.2 := by
  cases h with
  | @object inner _ _ _ hvalues => exact ⟨inner, hvalues entry hentry⟩

/-- A value that can be read back has no long integer in it. -/
theorem holdsLong_eq_false {value : Value} (h : Portable depth value) :
    value.holdsLong = false := by
  induction h with
  | null | boolean | text => rfl
  | integer hdigits => exact decide_eq_false (Nat.not_lt.mpr hdigits)
  | list _ ih => exact itemsHoldLong_eq_false_iff.mpr ih
  | object _ _ _ ih => exact entriesHoldLong_eq_false_iff.mpr ih

end Value.Portable

namespace Json

/-! ## Strings -/

/-- How a character of a string is written: by a letter, by its number or as it is. -/
inductive EscapeForm (c : CodePoint) : Text → Prop where
  | letter {e : CodePoint} (hplain : Text.IsPlain [0x5C, e]) (hnumber : e ≠ 0x75)
      (hvalue : letterEscape? e = some c) : EscapeForm c [0x5C, e]
  | number (hcontrol : c < 0x20) : EscapeForm c ("\\u" ++ Text.hexDigits 4 c)
  | plain (hstart : 0x20 ≤ c) (hquote : c ≠ 0x22) (hescape : c ≠ 0x5C) : EscapeForm c [c]

theorem escape_form (c : CodePoint) : EscapeForm c (escape c) := by
  by_cases hletter : c ∈ [0x22, 0x5C, 0x08, 0x09, 0x0A, 0x0C, 0x0D]
  · have hletters : ∀ d ∈ [0x22, 0x5C, 0x08, 0x09, 0x0A, 0x0C, 0x0D],
        EscapeForm d (escape d) := by
      simp only [List.forall_mem_cons]
      refine ⟨?_, ?_, ?_, ?_, ?_, ?_, ?_, List.forall_mem_nil _⟩
      all_goals exact .letter (by decide) (by decide) rfl
    exact hletters c hletter
  · simp only [List.mem_cons, List.not_mem_nil, or_false, not_or] at hletter
    by_cases hcontrol : c < 0x20
    · have hnumber : escape c = "\\u" ++ Text.hexDigits 4 c := by
        simp [escape, hletter, hcontrol]
      exact hnumber ▸ .number hcontrol
    · have hplain : escape c = [c] := by simp [escape, hletter, hcontrol]
      exact hplain ▸ .plain (Nat.le_of_not_lt hcontrol) hletter.1 hletter.2.1

/-- An escape is plain, unless it is the character itself, which is no control character then. -/
theorem escape_cases (c : CodePoint) : (escape c).IsPlain ∨ escape c = [c] ∧ 0x20 ≤ c := by
  generalize hform : escape c = written
  cases hform ▸ escape_form c with
  | letter hplain => exact Or.inl hplain
  | number => exact Or.inl (Text.isPlain_numberEscape c)
  | plain hstart => exact Or.inr ⟨rfl, hstart⟩

theorem isStorable_quote {t : Text} (ht : t.IsScalar) : (quote t).IsStorable := by
  have hescaped : Text.IsStorable (t.flatMap escape) := by
    apply Text.isStorable_flatMap
    intro c hc
    rcases escape_cases c with hplain | ⟨heq, hstart⟩
    · exact hplain.isStorable
    · rw [heq]
      refine ⟨List.forall_mem_singleton.mpr (ht c hc), ?_⟩
      rw [List.mem_singleton]
      rintro rfl
      exact absurd hstart (by decide)
  have hmark : Text.IsStorable [0x22] := Text.IsPlain.isStorable (by decide)
  exact Text.isStorable_append.mpr ⟨Text.isStorable_append.mpr ⟨hmark, hescaped⟩, hmark⟩

/-! ## Parts of containers -/

/-- What follows a part in front of others, up to the end of the container. -/
def afterPart (depth : Nat) : List Text → Text
  | [] => lineBreak depth
  | part :: rest => "," ++ lineBreak (depth + 1) ++ part ++ afterPart depth rest

/-- Parts of a container on lines of their own, up to its end. -/
def writeParts (depth : Nat) : List Text → Text
  | [] => []
  | part :: rest => lineBreak (depth + 1) ++ part ++ afterPart depth rest

/-- An entry as a part of an object. -/
def entryPart (depth : Nat) (entry : Text × Value) : Text :=
  quote entry.1 ++ ": " ++ writeAt depth entry.2

section Parts

variable {depth : Nat}

theorem writeItems_eq (depth : Nat) (items : List Value) :
    writeItems depth items = writeParts depth (items.map (writeAt (depth + 1))) := by
  induction items with
  | nil => rfl
  | cons item rest ih =>
      cases rest with
      | nil => rfl
      | cons next others => simp [writeItems, ih, writeParts, afterPart]

theorem writeEntries_eq (depth : Nat) (entries : Entries) :
    writeEntries depth entries = writeParts depth (entries.map (entryPart (depth + 1))) := by
  induction entries with
  | nil => rfl
  | cons entry rest ih =>
      cases rest with
      | nil => simp [writeEntries, writeParts, afterPart, entryPart]
      | cons next others => simp [writeEntries, ih, writeParts, afterPart, entryPart]

theorem isStorable_lineBreak (depth : Nat) : (lineBreak depth).IsStorable := by
  rw [lineBreak, ← List.singleton_append, Text.isStorable_append]
  exact ⟨by decide, (Text.isPlain_replicate_blank _).isStorable⟩

theorem isStorable_afterPart {parts : List Text} (hparts : ∀ part ∈ parts, part.IsStorable) :
    (afterPart depth parts).IsStorable := by
  induction parts with
  | nil => exact isStorable_lineBreak depth
  | cons part rest ih =>
      obtain ⟨hpart, hrest⟩ := List.forall_mem_cons.mp hparts
      simp only [afterPart, Text.isStorable_append]
      exact ⟨⟨⟨by decide, isStorable_lineBreak _⟩, hpart⟩, ih hrest⟩

theorem isStorable_writeParts {parts : List Text} (hparts : ∀ part ∈ parts, part.IsStorable) :
    (writeParts depth parts).IsStorable := by
  cases parts with
  | nil => exact Text.isStorable_nil
  | cons part rest =>
      obtain ⟨hpart, hrest⟩ := List.forall_mem_cons.mp hparts
      simp only [writeParts, Text.isStorable_append]
      exact ⟨⟨isStorable_lineBreak _, hpart⟩, isStorable_afterPart hrest⟩

/-- There is a character for each part. -/
theorem length_le_afterPart (depth : Nat) (parts : List Text) :
    parts.length < (afterPart depth parts).length := by
  induction parts with
  | nil => simp [afterPart, lineBreak]
  | cons part rest ih =>
      have hcomma : (Text.ofString ",").length = 1 := by decide
      simp only [afterPart, List.length_append, List.length_cons]
      omega

theorem length_le_writeParts (depth : Nat) (parts : List Text) :
    parts.length ≤ (writeParts depth parts).length := by
  cases parts with
  | nil => exact Nat.le_refl 0
  | cons part rest =>
      rw [writeParts, List.length_append]
      exact Nat.le_trans (length_le_afterPart depth rest) (Nat.le_add_left _ _)

theorem part_isInfix_afterPart {parts : List Text} {part : Text} (hpart : part ∈ parts) :
    part <:+: afterPart depth parts := by
  induction parts with
  | nil => cases hpart
  | cons first rest ih =>
      rw [afterPart]
      rcases List.mem_cons.mp hpart with rfl | hrest
      · exact ⟨_, _, rfl⟩
      · exact (ih hrest).trans (List.suffix_append _ _).isInfix

theorem part_isInfix_writeParts {parts : List Text} {part : Text} (hpart : part ∈ parts) :
    part <:+: writeParts depth parts := by
  cases parts with
  | nil => cases hpart
  | cons first rest =>
      rw [writeParts]
      rcases List.mem_cons.mp hpart with rfl | hrest
      · exact ⟨_, _, rfl⟩
      · exact (part_isInfix_afterPart hrest).trans (List.suffix_append _ _).isInfix

theorem length_le_writeItems (depth : Nat) (items : List Value) :
    items.length ≤ (writeItems depth items).length := by
  have hparts := length_le_writeParts depth (items.map (writeAt (depth + 1)))
  rwa [List.length_map, ← writeItems_eq] at hparts

theorem length_item_le_writeItems {items : List Value} {item : Value} (hitem : item ∈ items) :
    (writeAt (depth + 1) item).length ≤ (writeItems depth items).length := by
  rw [writeItems_eq]
  exact (part_isInfix_writeParts (List.mem_map_of_mem hitem)).length_le

theorem length_le_writeEntries (depth : Nat) (entries : Entries) :
    entries.length ≤ (writeEntries depth entries).length := by
  have hparts := length_le_writeParts depth (entries.map (entryPart (depth + 1)))
  rwa [List.length_map, ← writeEntries_eq] at hparts

theorem length_value_le_writeEntries {entries : Entries} {entry : Text × Value}
    (hentry : entry ∈ entries) :
    (writeAt (depth + 1) entry.2).length ≤ (writeEntries depth entries).length := by
  have hvalue : writeAt (depth + 1) entry.2 <:+: entryPart (depth + 1) entry :=
    (List.suffix_append _ _).isInfix
  rw [writeEntries_eq]
  exact (hvalue.trans (part_isInfix_writeParts (List.mem_map_of_mem hentry))).length_le

end Parts

/-! ## Values -/

/-- The closing brackets of lists and objects. -/
def closings : List CodePoint := [0x5D, 0x7D]

/-- The text starts with an ASCII character that is no blank and closes nothing. -/
def StartsValue (t : Text) : Prop :=
  ∃ c rest, t = c :: rest ∧ isJsonBlank c = false ∧ c ∉ closings ∧ c < 0x80

/-- The characters by which an integer starts. -/
def integerStarts : List CodePoint :=
  [0x2D, 0x30, 0x31, 0x32, 0x33, 0x34, 0x35, 0x36, 0x37, 0x38, 0x39]

theorem exists_start_of_ofInt (n : Int) :
    ∃ c rest, Text.ofInt n = c :: rest ∧ c ∈ integerStarts := by
  cases n with
  | negSucc n => exact ⟨0x2D, _, rfl, by decide⟩
  | ofNat n =>
      obtain ⟨c, rest, hdigits, hdigit⟩ := Text.exists_digit_of_ofNat n
      have hstarts : ∀ d < 0x3A, Text.isAsciiDigit d = true → d ∈ integerStarts := by decide
      have hlast : c ≤ 0x39 := of_decide_eq_true (Bool.and_eq_true_iff.mp hdigit).2
      exact ⟨c, rest, hdigits, hstarts c (Nat.lt_succ_of_le hlast) hdigit⟩

theorem startsValue_ofInt (n : Int) : StartsValue (Text.ofInt n) := by
  obtain ⟨c, rest, hofInt, hc⟩ := exists_start_of_ofInt n
  have hstarts : ∀ d ∈ integerStarts, isJsonBlank d = false ∧ d ∉ closings ∧ d < 0x80 := by
    decide
  exact ⟨c, rest, hofInt, hstarts c hc⟩

theorem startsValue_writeAt {depth : Nat} {value : Value} (h : value.Portable depth)
    (indent : Nat) : StartsValue (writeAt indent value) := by
  cases h with
  | null => exact ⟨_, _, rfl, by decide, by decide, by decide⟩
  | boolean b =>
      cases b with
      | true | false => exact ⟨_, _, rfl, by decide, by decide, by decide⟩
  | integer => exact startsValue_ofInt _
  | text | list | object => exact ⟨_, _, rfl, by decide, by decide, by decide⟩

/-- A portable value is written as a text that can be stored. -/
theorem isStorable_writeAt {depth : Nat} {value : Value} (h : value.Portable depth)
    (indent : Nat) : (writeAt indent value).IsStorable := by
  induction h generalizing indent with
  | null => exact (by decide : (Text.ofString "null").IsStorable)
  | boolean b =>
      cases b with
      | true => exact (by decide : (Text.ofString "true").IsStorable)
      | false => exact (by decide : (Text.ofString "false").IsStorable)
  | @integer _ n => exact (Text.isPlain_ofInt n).isStorable
  | text ht => exact isStorable_quote ht
  | @list _ items _ ih =>
      rw [writeAt, writeItems_eq, Text.isStorable_append, Text.isStorable_append]
      refine ⟨⟨by decide, isStorable_writeParts fun part hpart => ?_⟩, by decide⟩
      obtain ⟨item, hitem, rfl⟩ := List.mem_map.mp hpart
      exact ih item hitem (indent + 1)
  | @object _ entries _ hnames _ ih =>
      rw [writeAt, writeEntries_eq, Text.isStorable_append, Text.isStorable_append]
      refine ⟨⟨by decide, isStorable_writeParts fun part hpart => ?_⟩, by decide⟩
      obtain ⟨entry, hentry, rfl⟩ := List.mem_map.mp hpart
      rw [entryPart, Text.isStorable_append, Text.isStorable_append]
      exact ⟨⟨isStorable_quote (hnames entry hentry), by decide⟩, ih entry hentry (indent + 1)⟩

end Json

end RecordSmith
