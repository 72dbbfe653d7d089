import RecordSmith.Proofs.Fallible
import RecordSmith.Proofs.Schema.Record

/-!
# Names of records

The name of a record never holds a dot: of a dotted name the part behind the last dot is the name
and the rest is the namespace.  Only the whole text is required to hold something, and not the two
parts.  So the name of a record can be empty, and a namespace that is empty is not shown in front
of the name.
-/

namespace RecordSmith.Schema

/-- The text spells the name of the record: the name holds something but no dot, and if the text is
dotted, it is the full name. -/
structure Record.SpelledBy (record : Record) (entry : Text) : Prop where
  name_ne_nil : record.name ≠ []
  name_undotted : 0x2E ∉ record.name
  fullName_eq : 0x2E ∈ entry → record.fullName = entry

/-- Where the text is cut at its last dot, both parts hold something. -/
def HasFullParts (entry : Text) : Prop :=
  ∀ space name, entry = space ++ 0x2E :: name → 0x2E ∉ name → space ≠ [] ∧ name ≠ []

theorem hasFullParts_of_undotted {entry : Text} (hdot : 0x2E ∉ entry) : HasFullParts entry := by
  rintro space name rfl _
  exact absurd (List.mem_append_right space List.mem_cons_self) hdot

/-- A text has one last dot. -/
theorem parts_unique {space name before after : Text} (hname : 0x2E ∉ name) (hafter : 0x2E ∉ after)
    (heq : space ++ 0x2E :: name = before ++ 0x2E :: after) : space = before ∧ name = after := by
  have hsplit := Text.splitLast?_append space hname
  rw [heq, Text.splitLast?_append before hafter, Option.some.injEq, Prod.mk.injEq] at hsplit
  exact ⟨hsplit.1.symm, hsplit.2.symm⟩

theorem hasFullParts_append_iff {space name : Text} (hname : 0x2E ∉ name) :
    HasFullParts (space ++ 0x2E :: name) ↔ space ≠ [] ∧ name ≠ [] := by
  constructor
  · exact fun h => h space name rfl hname
  · intro h before after heq hafter
    obtain ⟨rfl, rfl⟩ := parts_unique hname hafter heq
    exact h

section FullName

variable {entries : Entries} {record : Record}

/-- A full name is the dotted text again, unless the part before the last dot is empty. -/
theorem Record.fullName_eq_iff {space : Text} (hspace : record.space = some space) :
    record.fullName = space ++ 0x2E :: record.name ↔ space ≠ [] := by
  rw [Record.fullName, hspace]
  cases space with
  | nil => simp
  | cons c rest =>
      have hdot : Text.ofString "." = [0x2E] := by decide
      simp [hdot]

/-- The name is empty exactly if its entry ends in a dot, and it is the one that the entry spells
exactly if neither part of a dotted entry is empty. -/
theorem DeclaresRecord.spelledBy_iff (h : DeclaresRecord entries record) :
    ∃ entry, entries.get? "name" = some (.text entry) ∧ 0x2E ∉ record.name ∧
      (record.name = [] ↔ ∃ space, entry = space ++ [0x2E]) ∧
      (record.SpelledBy entry ↔ HasFullParts entry) := by
  have hspelled := h.spelled
  generalize hspace : record.space = space at hspelled
  generalize hname : record.name = name at hspelled
  cases hspelled with
  | @dotted before _ hentry hlast =>
      have hfull := record.fullName_eq_iff hspace
      rw [hname] at hfull
      refine ⟨_, hentry, hlast, ?_, ?_⟩
      · constructor
        · rintro rfl
          exact ⟨before, rfl⟩
        · rintro ⟨other, heq⟩
          exact (parts_unique hlast List.not_mem_nil heq).2
      · rw [hasFullParts_append_iff hlast, ← hfull, ← hname]
        constructor
        · exact fun hspells => ⟨hspells.fullName_eq (by simp), hspells.name_ne_nil⟩
        · exact fun ⟨heq, hne⟩ => ⟨hne, hname ▸ hlast, fun _ => heq⟩
  | plain hentry hne hdot _ =>
      refine ⟨_, hentry, hdot, ?_, ?_⟩
      · refine iff_of_false hne ?_
        rintro ⟨other, rfl⟩
        exact hdot (List.mem_append_right other List.mem_cons_self)
      · refine iff_of_true ⟨hname ▸ hne, hname ▸ hdot, fun hmem => absurd hmem hdot⟩
          (hasFullParts_of_undotted hdot)

end FullName

/-- A record that was read is named by its `name` entry exactly if no part of the entry before or
behind its last dot is empty; whatever the entry, the name holds no dot. -/
theorem record_spelledBy_iff {t : Text} {record : Record}
    (h : Declaration.parse? t = some (.record record)) :
    ∃ (entries : Entries) (entry : Text), Json.read t = .ok (.object entries) ∧
      entries.get? "name" = some (.text entry) ∧ 0x2E ∉ record.name ∧
      (record.name = [] ↔ ∃ space, entry = space ++ [0x2E]) ∧
      (record.SpelledBy entry ↔ HasFullParts entry) := by
  obtain ⟨entries, hread, hdeclares⟩ := Declaration.parse?_record h
  obtain ⟨entry, hentry, hspelled⟩ := hdeclares.spelledBy_iff
  exact ⟨entries, entry, hread, hentry, hspelled⟩

/-- A record without fields and with the given name. -/
def namedRecord (name : String) : Text :=
  ["\x7b\"type\":\"record\",", "\"name\":\"", name, "\",\"fields\":[]\x7d"].flatMap Text.ofString

theorem namedRecord_dotted_spelledBy :
    ∃ (record : Record) (entries : Entries),
      Declaration.parse? (namedRecord "a.b.C") = some (.record record) ∧
      Json.read (namedRecord "a.b.C") = .ok (.object entries) ∧
      entries.get? "name" = some (.text (Text.ofString "a.b.C")) ∧
      record.SpelledBy (Text.ofString "a.b.C") := by
  have hrecord : ((Declaration.parse? (namedRecord "a.b.C")).bind Declaration.record?).any
      (fun _ => true) = true := by decide +kernel
  have hname : (Json.read (namedRecord "a.b.C")).toOption.any (fun value =>
      (value.entries?.bind (Entries.get? · "name")).any fun entry =>
        entry.text? == some (Text.ofString "a.b.C")) = true := by decide +kernel
  obtain ⟨record, hparse, _⟩ := Declaration.exists_record_of_any hrecord
  obtain ⟨value, hvalue, hentry⟩ := Fallible.exists_of_any hname
  obtain ⟨entries, entry, hread, hget, _, _, hspelled⟩ :=
    record_spelledBy_iff hparse
  rw [hread] at hvalue
  cases hvalue
  rw [Value.entries?, Option.bind_some, hget] at hentry
  obtain rfl : entry = Text.ofString "a.b.C" := by simpa [Value.text?] using hentry
  have hparts : Text.ofString "a.b.C" = Text.ofString "a.b" ++ 0x2E :: Text.ofString "C" := by
    decide
  have hfull : HasFullParts (Text.ofString "a.b.C") := by
    rw [hparts, hasFullParts_append_iff (by decide)]
    decide
  exact ⟨record, entries, hparse, hread, hget, hspelled.mpr hfull⟩

/-- A text that is a dot behind a namespace leaves the record without a name, and one that is a
name behind a dot is not its full name. -/
theorem namedRecord_emptyPart_misspelled :
    (∃ record : Record, Declaration.parse? (namedRecord "a.") = some (.record record) ∧
      record.name = [] ∧ ¬record.SpelledBy (Text.ofString "a.")) ∧
    ∃ record : Record, Declaration.parse? (namedRecord ".C") = some (.record record) ∧
      record.fullName = Text.ofString "C" ∧ ¬record.SpelledBy (Text.ofString ".C") := by
  have hnameless : ((Declaration.parse? (namedRecord "a.")).bind Declaration.record?).any
      (·.name.isEmpty) = true := by decide +kernel
  have hshort : ((Declaration.parse? (namedRecord ".C")).bind Declaration.record?).any
      (·.fullName == Text.ofString "C") = true := by decide +kernel
  constructor
  · obtain ⟨record, hparse, hname⟩ := Declaration.exists_record_of_any hnameless
    have hempty : record.name = [] := List.isEmpty_iff.mp hname
    exact ⟨record, hparse, hempty, fun h => h.name_ne_nil hempty⟩
  · obtain ⟨record, hparse, hname⟩ := Declaration.exists_record_of_any hshort
    have hfull : record.fullName = Text.ofString "C" := eq_of_beq hname
    refine ⟨record, hparse, hfull, fun h => ?_⟩
    have heq := h.fullName_eq (by decide)
    rw [hfull] at heq
    exact absurd heq (by decide)

end RecordSmith.Schema
