import RecordSmith.Proofs.Fallible
import RecordSmith.Proofs.Schema.Record

/-!
# Documents by the grammar

A document that is readable JSON declares exactly what the grammar of schemas says of its value: a
record, another type, or nothing.  Types are flat: unions stand at the top of a type or nowhere.
-/

namespace RecordSmith.Schema

/-- Only a union has members, and none of them is a union. -/
structure TypeExpr.IsFlat (type : TypeExpr) : Prop where
  member : ∀ branch ∈ type.members, (TypeExpr.single branch).kindWord ≠ Text.ofString "union"
  no_members : type.kindWord ≠ Text.ofString "union" → type.members = []

theorem Branch.kindWord_ne_union (branch : Branch) : branch.kindWord ≠ Text.ofString "union" := by
  have hdeclared : ∀ kind : Declared, kind.word ≠ Text.ofString "union" := by
    intro kind
    cases kind with
    | record | enumeration | array | map | fixed => decide
  cases branch with
  | primitive p =>
      cases p with
      | null | boolean | int | long | float | double | bytes | string => decide
  | declared kind _ => exact hdeclared kind
  | reference _ => exact (by decide : Text.ofString "named" ≠ Text.ofString "union")

theorem TypeExpr.isFlat (type : TypeExpr) : type.IsFlat where
  member := fun branch _ => branch.kindWord_ne_union
  no_members := by
    cases type with
    | single _ => exact fun _ => rfl
    | union _ => exact fun hkind => absurd rfl hkind

/-- The types in a declaration: those of the fields of a record, or the one that is declared. -/
def Declaration.types : Declaration → List TypeExpr
  | record found => found.fields.map (·.type)
  | other type => [type]

/-- The result of reading a document with the value is what the grammar says. -/
structure FollowsGrammar (value : Value) (result : Option Declaration) : Prop where
  record_iff : ∀ record, result = some (.record record) ↔
    ∃ entries, value = .object entries ∧ IsRecord entries ∧ DeclaresRecord entries record
  other_iff : ∀ type, result = some (.other type) ↔
    (∀ entries, value = .object entries → ¬IsRecord entries) ∧ Expresses value type
  none_iff : result = none ↔ ∀ declaration, ¬Declares value declaration
  flat : ∀ declaration ∈ result, ∀ type ∈ declaration.types, type.IsFlat

theorem declares_record_iff {value : Value} {record : Record} :
    Declares value (.record record) ↔
      ∃ entries, value = .object entries ∧ IsRecord entries ∧ DeclaresRecord entries record := by
  constructor
  · intro h
    cases h with
    | record hrecord hdeclares => exact ⟨_, rfl, hrecord, hdeclares⟩
  · rintro ⟨entries, rfl, hrecord, hdeclares⟩
    exact .record hrecord hdeclares

theorem declares_other_iff {value : Value} {type : TypeExpr} :
    Declares value (.other type) ↔
      (∀ entries, value = .object entries → ¬IsRecord entries) ∧ Expresses value type := by
  constructor
  · intro h
    cases h with
    | other hother hexpresses => exact ⟨hother, hexpresses⟩
  · exact fun ⟨hother, hexpresses⟩ => .other hother hexpresses

/-- Reading accepts the grammar, all of it and nothing else, and types are read from values by the
grammar of types. -/
theorem read_followsGrammar {t : Text} {value : Value}
    (hread : Json.read t = .ok value) :
    FollowsGrammar value (Declaration.parse? t) ∧
      ∀ type, readType value = some type ↔ Expresses value type := by
  have hparse : ∀ declaration,
      Declaration.parse? t = some declaration ↔ Declares value declaration := by
    intro declaration
    rw [Declaration.parse?, hread]
    exact Declaration.ofValue?_eq_some_iff
  refine ⟨?_, readType_eq_some_iff value⟩
  constructor
  case record_iff => exact fun record => (hparse _).trans declares_record_iff
  case other_iff => exact fun type => (hparse _).trans declares_other_iff
  case none_iff =>
    rw [Option.eq_none_iff_forall_ne_some]
    exact forall_congr' fun declaration => not_congr (hparse declaration)
  case flat => exact fun _ _ type _ => type.isFlat

/-- A record whose dotted name hides a namespace that is no text, with a field whose type is a
union in an object. -/
def wrappedUnion : Text :=
  ["\x7b\"type\": \"record\", ", "\"name\": \"a.B\", ", "\"namespace\": 7, ", "\"fields\": [",
    "\x7b\"name\": \"x\", ", "\"type\": \x7b\"type\": [\"null\", \"string\"]\x7d, ",
    "\"default\": null\x7d]\x7d"].flatMap Text.ofString

theorem wrappedUnion_followsGrammar :
    ∃ value, Json.read wrappedUnion = .ok value ∧
      FollowsGrammar value (Declaration.parse? wrappedUnion) ∧
      (∀ type, readType value = some type ↔ Expresses value type) ∧
      ∃ record, Declaration.parse? wrappedUnion = some (.record record) ∧
        record.name = Text.ofString "B" ∧ record.space = some (Text.ofString "a") ∧
        record.fields.map (·.name) = [Text.ofString "x"] := by
  have hok : (Json.read wrappedUnion).toOption.any (fun _ => true) = true := by decide +kernel
  have hfound : ((Declaration.parse? wrappedUnion).bind Declaration.record?).any (fun record =>
      record.name == Text.ofString "B" && record.space == some (Text.ofString "a") &&
        record.fields.map (·.name) == [Text.ofString "x"]) = true := by decide +kernel
  obtain ⟨value, hread, _⟩ := Fallible.exists_of_any hok
  obtain ⟨hfollows, htypes⟩ := read_followsGrammar hread
  obtain ⟨record, hparse, hrecord⟩ := Declaration.exists_record_of_any hfound
  simp only [Bool.and_eq_true, beq_iff_eq] at hrecord
  obtain ⟨⟨hname, hspace⟩, hfields⟩ := hrecord
  exact ⟨value, hread, hfollows, htypes, record, hparse, hname, hspace, hfields⟩

end RecordSmith.Schema
