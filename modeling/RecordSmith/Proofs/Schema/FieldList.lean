import RecordSmith.Proofs.Schema.Record

/-!
# Other lists of fields

Two documents whose objects differ in their lists of fields only declare the same record but for its
fields, or neither declares a record and both declare the same.  So a change to the list shows in
what the list reads as, and nowhere else.
-/

namespace RecordSmith

/-- The objects hold the same at every key but one. -/
def Entries.AgreeBeside (key : Text) (entries others : Entries) : Prop :=
  ∀ other, other ≠ key → others.get? other = entries.get? other

namespace Schema

/-- The texts are objects with lists of fields, and but for these lists they are the same. -/
def ReplacesFields (t u : Text) (items changed : List Value) : Prop :=
  ∃ entries others : Entries, Json.read t = .ok (.object entries) ∧
    Json.read u = .ok (.object others) ∧ entries.get? "fields" = some (.list items) ∧
    others.get? "fields" = some (.list changed) ∧ entries.AgreeBeside "fields" others

/-- The names that the items of a list of fields hold. -/
def fieldNames (items : List Value) : List Text :=
  items.filterMap fun item => item.entries?.bind fun entries => nonEmptyText? entries "name"

/-! ## Reading the list -/

section Lists

variable {items before after : List Value} {fields : List Field} {attributes : Entries}
variable {field : Field}

theorem DeclareFields.fieldNames (h : DeclareFields items fields) :
    fieldNames items = fields.map (·.name) := by
  induction h with
  | nil => rfl
  | cons hfirst _ ih =>
      obtain ⟨entries, rfl, hdeclares⟩ := hfirst
      have hname := nonEmptyText?_eq_some_iff.mpr ⟨hdeclares.name, hdeclares.name_ne_nil⟩
      rw [List.map_cons, ← ih]
      exact List.filterMap_cons_some hname

theorem declareFields_append_iff :
    DeclareFields (before ++ after) fields ↔
      ∃ earlier later, DeclareFields before earlier ∧ DeclareFields after later ∧
        fields = earlier ++ later := by
  constructor
  · intro h
    have hearlier := List.forall₂_take_append _ _ _ h.flip
    have hlater := List.forall₂_drop_append _ _ _ h.flip
    exact ⟨_, _, hearlier.flip, hlater.flip, (List.take_append_drop _ fields).symm⟩
  · rintro ⟨earlier, later, hearlier, hlater, rfl⟩
    exact List.rel_append hearlier hlater

theorem readFields_nil_eq_some_iff :
    readFields [] items = some fields ↔
      DeclareFields items fields ∧ (fields.map (·.name)).Nodup := by
  rw [readFields_eq_some_iff]
  simp

/-- The fields of a list that goes on are those of the list, and then others. -/
theorem readFields_append {more : List Value} (h : readFields [] (items ++ more) = some fields) :
    ∃ earlier later, readFields [] items = some earlier ∧ fields = earlier ++ later := by
  obtain ⟨hdeclare, hnodup⟩ := readFields_nil_eq_some_iff.mp h
  obtain ⟨earlier, later, hearlier, _, rfl⟩ := declareFields_append_iff.mp hdeclare
  rw [List.map_append, List.nodup_append] at hnodup
  exact ⟨earlier, later, readFields_nil_eq_some_iff.mpr ⟨hearlier, hnodup.1⟩, rfl⟩

/-- A list stays readable without one of its items. -/
theorem exists_readFields_of_insert {item : Value}
    (h : readFields [] (before ++ item :: after) = some fields) :
    ∃ others, readFields [] (before ++ after) = some others := by
  obtain ⟨hdeclare, hnodup⟩ := readFields_nil_eq_some_iff.mp h
  obtain ⟨earlier, _, hearlier, hinserted, rfl⟩ := declareFields_append_iff.mp hdeclare
  obtain ⟨inserted, later, _, hlater, rfl⟩ := List.forall₂_cons_left_iff.mp hinserted
  have hsublist : (earlier ++ later).Sublist (earlier ++ inserted :: later) :=
    (List.sublist_cons_self inserted later).append_left earlier
  have hwithout : DeclareFields (before ++ after) (earlier ++ later) :=
    declareFields_append_iff.mpr ⟨_, _, hearlier, hlater, rfl⟩
  exact ⟨_, readFields_nil_eq_some_iff.mpr ⟨hwithout, (hsublist.map _).nodup hnodup⟩⟩

/-- A field with a new name can be put between the items of a list: the list is as readable as it
was, and the field stands between the fields of the items. -/
theorem readFields_insert (hdeclares : DeclaresField attributes field)
    (hfresh : field.name ∉ fieldNames (before ++ after)) :
    (readFields [] (before ++ after) = none ∧
      readFields [] (before ++ .object attributes :: after) = none) ∨
    ∃ earlier later, readFields [] (before ++ after) = some (earlier ++ later) ∧
      readFields [] (before ++ .object attributes :: after) = some (earlier ++ field :: later) ∧
      DeclareFields before earlier ∧ DeclareFields after later := by
  cases hread : readFields [] (before ++ after) with
  | none =>
      refine Or.inl ⟨rfl, Option.eq_none_iff_forall_ne_some.mpr fun fields hfields => ?_⟩
      obtain ⟨_, hwithout⟩ := exists_readFields_of_insert hfields
      rw [hread] at hwithout
      cases hwithout
  | some fields =>
      obtain ⟨hdeclare, hnodup⟩ := readFields_nil_eq_some_iff.mp hread
      rw [hdeclare.fieldNames] at hfresh
      obtain ⟨earlier, later, hearlier, hlater, rfl⟩ := declareFields_append_iff.mp hdeclare
      refine Or.inr ⟨earlier, later, rfl, ?_, hearlier, hlater⟩
      refine readFields_nil_eq_some_iff.mpr ⟨?_, ?_⟩
      · exact declareFields_append_iff.mpr
          ⟨_, _, hearlier, .cons ⟨_, rfl, hdeclares⟩ hlater, rfl⟩
      · rw [List.map_append, List.map_cons, List.nodup_middle, List.nodup_cons, ← List.map_append]
        exact ⟨hfresh, hnodup⟩

end Lists

/-! ## Reading the documents -/

section Documents

variable {entries others : Entries} {t u : Text} {items changed : List Value}

theorem readQualifiedName_congr (h : entries.AgreeBeside "fields" others) :
    readQualifiedName others = readQualifiedName entries := by
  have hname : others.get? "name" = entries.get? "name" := h "name" (by decide)
  have hspace : others.get? "namespace" = entries.get? "namespace" := h "namespace" (by decide)
  simp only [readQualifiedName, nonEmptyText?, hname, hspace]

/-- Objects that differ in their fields only declare the same record but for the fields, or both
declare none. -/
theorem readRecord_replaced (h : entries.AgreeBeside "fields" others)
    (hitems : entries.get? "fields" = some (.list items))
    (hchanged : others.get? "fields" = some (.list changed)) :
    (readRecord entries = none ∧ readRecord others = none) ∨
    ∃ record : Record,
      readRecord entries = (readFields [] items).map (fun fields => { record with fields }) ∧
      readRecord others = (readFields [] changed).map (fun fields => { record with fields }) := by
  have hdoc : readDoc others = readDoc entries := by
    rw [readDoc, readDoc, h "doc" (by decide)]
  simp only [readRecord, readQualifiedName_congr h, hitems, hchanged, hdoc]
  cases readQualifiedName entries with
  | none => exact Or.inl ⟨rfl, rfl⟩
  | some qualified =>
      obtain ⟨space, name⟩ := qualified
      by_cases hsurrogate :
          (name.any Text.isSurrogate || (space.getD []).any Text.isSurrogate) = true
      · left
        constructor
        · exact if_pos hsurrogate
        · exact if_pos hsurrogate
      · right
        refine ⟨{ name, space, fields := [], doc := readDoc entries }, ?_, ?_⟩
        · exact (if_neg hsurrogate).trans (Option.map_eq_bind ..).symm
        · exact (if_neg hsurrogate).trans (Option.map_eq_bind ..).symm

theorem declaresRecord_congr (h : others.get? "type" = entries.get? "type") :
    declaresRecord others = declaresRecord entries := by
  rw [declaresRecord, declaresRecord, h]

/-- Texts that differ in their fields only declare the same record but for the fields, or no record
and the same. -/
theorem Declaration.parse?_replaced (h : ReplacesFields t u items changed) :
    (parse? u = parse? t ∧ ∀ record, parse? t ≠ some (.record record)) ∨
    ∃ record : Record,
      parse? t = (readFields [] items).map (fun fields => .record { record with fields }) ∧
      parse? u = (readFields [] changed).map (fun fields => .record { record with fields }) := by
  obtain ⟨entries, others, ht, hu, hitems, hchanged, hagree⟩ := h
  have htype : others.get? "type" = entries.get? "type" := hagree "type" (by decide)
  have hname : others.get? "name" = entries.get? "name" := hagree "name" (by decide)
  have hexpress : readType (.object others) = readType (.object entries) :=
    Option.ext fun type => by
      rw [readType_eq_some_iff, readType_eq_some_iff, expresses_object_iff, expresses_object_iff,
        htype, hname]
  simp only [parse?, ht, hu, ofValue?, declaresRecord_congr htype, hexpress]
  by_cases hrecord : declaresRecord entries = true
  · simp only [if_pos hrecord]
    rcases readRecord_replaced hagree hitems hchanged with
      ⟨hnone, hnoneOther⟩ | ⟨record, hread, hreadOther⟩
    · left
      simp [hnone, hnoneOther]
    · right
      refine ⟨record, ?_, ?_⟩
      · rw [hread, Option.map_map]
        rfl
      · rw [hreadOther, Option.map_map]
        rfl
  · simp only [if_neg hrecord]
    left
    simp

end Documents

end Schema

end RecordSmith
