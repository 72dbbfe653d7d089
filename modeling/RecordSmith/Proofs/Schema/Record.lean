import Mathlib.Data.List.Nodup
import RecordSmith.Machine
import RecordSmith.Proofs.Json.Reader
import RecordSmith.Proofs.Schema.Type
import RecordSmith.Proofs.Text.Basic
import RecordSmith.Proofs.Text.Utf8
import RecordSmith.Schema.Record

/-!
# The grammar of schema documents

Which objects declare which fields and records is said here as relations, beside the one for type
expressions, and reading finds exactly what they say.  Each part of a declaration is a field of its
relation, so what holds of every record that was read can be taken from there.
-/

namespace RecordSmith.Schema

/-! ## Relations -/

/-- The object declares the field. -/
structure DeclaresField (entries : Entries) (field : Field) : Prop where
  name : entries.get? "name" = some (.text field.name)
  name_ne_nil : field.name ≠ []
  type : ∃ value, entries.get? "type" = some value ∧ Expresses value field.type
  default : field.default = entries.get? "default"
  hasDefault_iff : field.default.isSome = true ↔ Text.ofString "default" ∈ entries.keys
  doc : field.doc = readDoc entries

/-- The values are objects that declare the fields, one each. -/
abbrev DeclareFields (items : List Value) (fields : List Field) : Prop :=
  List.Forall₂ (fun item field => ∃ entries, item = .object entries ∧ DeclaresField entries field)
    items fields

/-- The namespace that an object holds beside its name; null counts as none. -/
inductive HoldsSpace (entries : Entries) : Option Text → Prop where
  | absent (h : entries.get? "namespace" = none) : HoldsSpace entries none
  | null (h : entries.get? "namespace" = some .null) : HoldsSpace entries none
  | text {space : Text} (h : entries.get? "namespace" = some (.text space)) :
      HoldsSpace entries (some space)

/-- The namespace and name that an object spells: what stands before and behind the last dot of a
dotted name, or the name and the namespace beside it. -/
inductive SpellsName (entries : Entries) : Option Text → Text → Prop where
  | dotted {space name : Text}
      (hname : entries.get? "name" = some (.text (space ++ 0x2E :: name)))
      (hlast : 0x2E ∉ name) : SpellsName entries (some space) name
  | plain {space : Option Text} {name : Text} (hname : entries.get? "name" = some (.text name))
      (hne : name ≠ []) (hdot : 0x2E ∉ name) (hspace : HoldsSpace entries space) :
      SpellsName entries space name

/-- The object has the `type` of a record. -/
def IsRecord (entries : Entries) : Prop :=
  ∃ word ∈ recordWords, entries.get? "type" = some (.text word)

/-- The object spells out the record. -/
structure DeclaresRecord (entries : Entries) (record : Record) : Prop where
  spelled : SpellsName entries record.space record.name
  name_encodable : Text.SurrogateFree record.name
  space_encodable : Text.SurrogateFree (record.space.getD [])
  fields : ∃ items, entries.get? "fields" = some (.list items) ∧
    DeclareFields items record.fields
  names_nodup : (record.fields.map (·.name)).Nodup
  doc : record.doc = readDoc entries

/-- The value declares a record, or is no record and expresses another type. -/
inductive Declares : Value → Declaration → Prop where
  | record {entries : Entries} {record : Record} (hrecord : IsRecord entries)
      (hdeclares : DeclaresRecord entries record) : Declares (.object entries) (.record record)
  | other {value : Value} {type : TypeExpr}
      (hother : ∀ entries, value = .object entries → ¬IsRecord entries)
      (hexpresses : Expresses value type) : Declares value (.other type)

/-! ## Reading fields -/

section Fields

variable {entries : Entries} {taken : List Text}

theorem nonEmptyText?_eq_some_iff {key t : Text} :
    nonEmptyText? entries key = some t ↔ entries.get? key = some (.text t) ∧ t ≠ [] := by
  rw [nonEmptyText?, Option.filter_eq_some_iff, Option.bind_eq_some_iff]
  have htext : ∀ value : Value, value.text? = some t ↔ value = .text t := by
    intro value
    cases value with
    | text word => simp [Value.text?]
    | null | boolean | integer | real | list | object => simp [Value.text?]
  simp [htext]

theorem fieldOfEntries?_eq_some_iff {field : Field} :
    fieldOfEntries? taken entries = some field ↔
      DeclaresField entries field ∧ field.name ∉ taken := by
  constructor
  · intro h
    obtain ⟨name, hname, hrest⟩ := Option.bind_eq_some_iff.mp h
    obtain ⟨hget, hne⟩ := nonEmptyText?_eq_some_iff.mp hname
    rw [Option.ite_none_left_eq_some] at hrest
    obtain ⟨hnew, htyped⟩ := hrest
    obtain ⟨type, htype, heq⟩ := Option.bind_eq_some_iff.mp htyped
    obtain ⟨value, hvalue, hread⟩ := Option.bind_eq_some_iff.mp htype
    cases heq
    exact ⟨⟨hget, hne, ⟨value, hvalue, (readType_eq_some_iff value type).mp hread⟩, rfl,
      Entries.isSome_get?_iff, rfl⟩, by simpa using hnew⟩
  · rintro ⟨h, hnew⟩
    obtain ⟨value, hvalue, htype⟩ := h.type
    have hname := nonEmptyText?_eq_some_iff.mpr ⟨h.name, h.name_ne_nil⟩
    have hread := (readType_eq_some_iff value field.type).mpr htype
    simp [fieldOfEntries?, hname, hnew, hvalue, hread, ← h.default, ← h.doc]

theorem readField_eq_some_iff {value : Value} {field : Field} :
    readField taken value = some field ↔
      (∃ entries, value = .object entries ∧ DeclaresField entries field) ∧ field.name ∉ taken := by
  have hentries : ∀ entries, value.entries? = some entries ↔ value = .object entries := by
    intro entries
    cases value with
    | object found => simp [Value.entries?]
    | null | boolean | integer | real | text | list => simp [Value.entries?]
  simp only [readField, Option.bind_eq_some_iff, hentries, fieldOfEntries?_eq_some_iff,
    ← and_assoc, exists_and_right]

/-- Besides the names that are taken, each field takes its own. -/
theorem readFields_eq_some_iff {items : List Value} {fields : List Field} :
    readFields taken items = some fields ↔
      DeclareFields items fields ∧ (fields.map (·.name)).Nodup ∧
        ∀ field ∈ fields, field.name ∉ taken := by
  induction items generalizing taken fields with
  | nil =>
      rw [readFields, Option.some.injEq, DeclareFields, List.forall₂_nil_left_iff]
      constructor
      · rintro rfl
        exact ⟨rfl, List.nodup_nil, List.forall_mem_nil _⟩
      · exact fun h => h.1.symm
  | cons item rest ih =>
      rw [DeclareFields, List.forall₂_cons_left_iff]
      constructor
      · intro h
        obtain ⟨field, hfield, hrest⟩ := Option.bind_eq_some_iff.mp h
        obtain ⟨others, hothers, heq⟩ := Option.bind_eq_some_iff.mp hrest
        cases heq
        obtain ⟨hdeclares, hnew⟩ := readField_eq_some_iff.mp hfield
        obtain ⟨hall, hnodup, hfree⟩ := ih.mp hothers
        simp only [List.mem_cons, not_or] at hfree
        refine ⟨⟨field, others, hdeclares, hall, rfl⟩, ?_, ?_⟩
        · rw [List.map_cons, List.nodup_cons, List.mem_map]
          exact ⟨fun ⟨other, hother, heq⟩ => (hfree other hother).1 heq, hnodup⟩
        · exact List.forall_mem_cons.mpr ⟨hnew, fun other hother => (hfree other hother).2⟩
      · rintro ⟨⟨field, others, hdeclares, hall, rfl⟩, hnodup, hfree⟩
        rw [List.map_cons, List.nodup_cons, List.mem_map] at hnodup
        obtain ⟨hnew, hnewRest⟩ := List.forall_mem_cons.mp hfree
        have hothers : readFields (field.name :: taken) rest = some others := by
          refine ih.mpr ⟨hall, hnodup.2, fun other hother => ?_⟩
          rw [List.mem_cons, not_or]
          exact ⟨fun heq => hnodup.1 ⟨other, hother, heq⟩, hnewRest other hother⟩
        rw [readFields, readField_eq_some_iff.mpr ⟨hdeclares, hnew⟩]
        simp [hothers]

end Fields

/-! ## Reading records -/

section Records

variable {entries : Entries}

theorem readQualifiedName_eq_some_iff {space : Option Text} {name : Text} :
    readQualifiedName entries = some (space, name) ↔ SpellsName entries space name := by
  constructor
  · intro h
    obtain ⟨entry, hentry, hrest⟩ := Option.bind_eq_some_iff.mp h
    obtain ⟨hname, hne⟩ := nonEmptyText?_eq_some_iff.mp hentry
    split at hrest
    case h_1 before after hsplit =>
      cases hrest
      obtain ⟨rfl, hlast⟩ := Text.splitLast?_eq_some_iff.mp hsplit
      exact .dotted hname hlast
    case h_2 hsplit =>
      have hdot := Text.splitLast?_eq_none_iff.mp hsplit
      cases hspace : entries.get? "namespace" with
      | none =>
          rw [hspace] at hrest
          cases hrest
          exact .plain hname hne hdot (.absent hspace)
      | some value =>
          rw [hspace] at hrest
          cases value with
          | null =>
              cases hrest
              exact .plain hname hne hdot (.null hspace)
          | text word =>
              cases hrest
              exact .plain hname hne hdot (.text hspace)
          | boolean | integer | real | list | object => cases hrest
  · intro h
    cases h with
    | @dotted before _ hname hlast =>
        have hentry := nonEmptyText?_eq_some_iff.mpr ⟨hname, by simp⟩
        have hsplit := Text.splitLast?_append before hlast
        simp [readQualifiedName, hentry, hsplit]
    | plain hname hne hdot hspace =>
        have hentry := nonEmptyText?_eq_some_iff.mpr ⟨hname, hne⟩
        have hsplit := Text.splitLast?_eq_none_iff.mpr hdot
        cases hspace with
        | absent h | null h | text h => simp [readQualifiedName, hentry, hsplit, h]

theorem readRecord_eq_some_iff {record : Record} :
    readRecord entries = some record ↔ DeclaresRecord entries record := by
  have hencodable : ∀ name space : Text,
      ¬(name.any Text.isSurrogate || space.any Text.isSurrogate) = true ↔
        name.SurrogateFree ∧ space.SurrogateFree := by simp [Text.SurrogateFree]
  constructor
  · intro h
    obtain ⟨⟨space, name⟩, hname, hrest⟩ := Option.bind_eq_some_iff.mp h
    dsimp only at hrest
    rw [Option.ite_none_left_eq_some, hencodable] at hrest
    obtain ⟨⟨hnameFree, hspaceFree⟩, hlisted⟩ := hrest
    split at hlisted
    case h_1 items hitems =>
      obtain ⟨fields, hfields, heq⟩ := Option.bind_eq_some_iff.mp hlisted
      cases heq
      obtain ⟨hall, hnodup, _⟩ := readFields_eq_some_iff.mp hfields
      exact ⟨readQualifiedName_eq_some_iff.mp hname, hnameFree, hspaceFree,
        ⟨items, hitems, hall⟩, hnodup, rfl⟩
    case h_2 => cases hlisted
  · intro h
    obtain ⟨items, hitems, hall⟩ := h.fields
    have hname := readQualifiedName_eq_some_iff.mpr h.spelled
    have hclean := (hencodable _ _).mpr ⟨h.name_encodable, h.space_encodable⟩
    have hfields : readFields [] items = some record.fields :=
      readFields_eq_some_iff.mpr ⟨hall, h.names_nodup, by simp⟩
    rw [readRecord, hname, Option.bind_eq_bind, Option.bind_some]
    dsimp only
    rw [if_neg hclean, hitems]
    simp [hfields, ← h.doc]

theorem declaresRecord_eq_true_iff : declaresRecord entries = true ↔ IsRecord entries := by
  rw [IsRecord, declaresRecord]
  split
  case h_1 word hword => simp [hword]
  case h_2 hno =>
    simp only [Bool.false_eq_true, false_iff, not_exists, not_and]
    exact fun word _ htype => hno word htype

end Records

/-! ## Reading documents -/

/-- Reading a document finds what its value declares, and nothing else. -/
theorem Declaration.ofValue?_eq_some_iff {value : Value} {declaration : Declaration} :
    ofValue? value = some declaration ↔ Declares value declaration := by
  constructor
  · intro h
    unfold ofValue? at h
    split at h
    case h_1 entries =>
      split at h
      case isTrue hrecord =>
        obtain ⟨record, hread, rfl⟩ := Option.map_eq_some_iff.mp h
        exact .record (declaresRecord_eq_true_iff.mp hrecord) (readRecord_eq_some_iff.mp hread)
      case isFalse hother =>
        obtain ⟨type, hread, rfl⟩ := Option.map_eq_some_iff.mp h
        rw [declaresRecord_eq_true_iff] at hother
        refine .other ?_ ((readType_eq_some_iff _ _).mp hread)
        rintro _ heq
        cases heq
        exact hother
    case h_2 hvalue =>
      obtain ⟨type, hread, rfl⟩ := Option.map_eq_some_iff.mp h
      exact .other (fun entries heq => absurd heq (hvalue entries))
        ((readType_eq_some_iff _ _).mp hread)
  · intro h
    cases h with
    | record hrecord hdeclares =>
        rw [ofValue?, if_pos (declaresRecord_eq_true_iff.mpr hrecord),
          readRecord_eq_some_iff.mpr hdeclares]
        rfl
    | other hother hexpresses =>
        have hread := (readType_eq_some_iff _ _).mpr hexpresses
        cases value with
        | object entries =>
            have hno := mt declaresRecord_eq_true_iff.mp (hother entries rfl)
            rw [ofValue?, if_neg hno, hread]
            rfl
        | null | boolean | integer | real | text | list => simp [ofValue?, hread]

theorem Declaration.parse?_eq_some_iff {t : Text} {declaration : Declaration} :
    parse? t = some declaration ↔ ∃ value, Json.read t = .ok value ∧ Declares value declaration := by
  rw [parse?]
  cases Json.read t with
  | ok value => simp [ofValue?_eq_some_iff]
  | error failure => simp

/-- The record, if one is declared. -/
def Declaration.record? : Declaration → Option Record
  | record found => some found
  | other _ => none

/-- A check of the record that a text declares, if it declares one. -/
theorem Declaration.exists_record_of_any {t : Text} {p : Record → Bool}
    (h : ((parse? t).bind record?).any p = true) :
    ∃ found, parse? t = some (.record found) ∧ p found = true := by
  obtain ⟨found, hfound, hp⟩ := (Option.any_eq_true _ _).mp h
  obtain ⟨declaration, hparse, hrecord⟩ := Option.bind_eq_some_iff.mp hfound
  cases declaration with
  | record _ =>
      cases hrecord
      exact ⟨found, hparse, hp⟩
  | other _ => cases hrecord

/-- A record that a text declares is declared by an object. -/
theorem Declaration.parse?_record {t : Text} {record : Record}
    (h : parse? t = some (.record record)) :
    ∃ entries, Json.read t = .ok (.object entries) ∧ DeclaresRecord entries record := by
  obtain ⟨value, hread, hdeclares⟩ := parse?_eq_some_iff.mp h
  cases hdeclares with
  | record _ hrecord => exact ⟨_, hread, hrecord⟩

theorem exists_of_mem_fields {items : List Value} {fields : List Field}
    (h : DeclareFields items fields) {field : Field} (hfield : field ∈ fields) :
    ∃ entries, .object entries ∈ items ∧ DeclaresField entries field := by
  induction h with
  | nil => cases hfield
  | cons hfirst _ ih =>
      rcases List.mem_cons.mp hfield with rfl | hrest
      · obtain ⟨entries, rfl, hdeclares⟩ := hfirst
        exact ⟨entries, List.mem_cons_self, hdeclares⟩
      · obtain ⟨entries, hmem, hdeclares⟩ := ih hrest
        exact ⟨entries, List.mem_cons_of_mem _ hmem, hdeclares⟩

/-- A default that a text declares can be shown on every machine, so that a message about it can be
given. -/
theorem Declaration.isShowable_default (machine : Machine) {t : Text} {record : Record}
    (h : parse? t = some (.record record)) {field : Field} (hfield : field ∈ record.fields)
    {value : Value} (hvalue : field.default = some value) :
    value.IsShowable machine.shownDepth := by
  obtain ⟨entries, hread, hdeclares⟩ := parse?_record h
  obtain ⟨items, hitems, hfields⟩ := hdeclares.fields
  obtain ⟨attributes, hobject, hdeclared⟩ := exists_of_mem_fields hfields hfield
  have hdefault : attributes.get? "default" = some value := hdeclared.default.symm.trans hvalue
  -- The document is an object, the fields in it are a list, and each of them is an object again.
  have hdocument := (Json.read_isRead hread).showable
  have hlist := Value.isShowable_object_iff.mp hdocument _ (Entries.mem_of_get?_eq_some hitems)
  have hfield := Value.isShowable_list_iff.mp hlist _ hobject
  have hinner := Value.isShowable_object_iff.mp hfield _ (Entries.mem_of_get?_eq_some hdefault)
  have hbelow : 997 ≤ Json.maxDepth := by decide
  exact hinner.mono (Nat.le_trans hbelow machine.showsRead)

end RecordSmith.Schema
