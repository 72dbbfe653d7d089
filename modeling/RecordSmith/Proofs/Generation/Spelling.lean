import RecordSmith.Proofs.Generation.FieldList
import RecordSmith.Proofs.Schema.Spelling

/-!
# Spellings of types in documents

How the types in a list of fields are spelled changes what is reported about fields at most, and
nothing of what is generated.
-/

namespace RecordSmith

open Schema (Field ReplacesFields RespellsField)

/-! ## Fields -/

section Fields

variable {target : Target} {fieldCase : Except GenerationError NamingCase} {pool : NamePool}
variable {field other : Field} {fields others : List Field}

theorem member?_shape_of_alike (h : field.Alike other) :
    other.type.shape.member? = field.type.shape.member? := by
  rw [Schema.TypeExpr.member?_shape, Schema.TypeExpr.member?_shape, h.outline]

/-- The step of a field: fields that are alike both interrupt, or both go on from the same pool with
the same member, if there is one. -/
theorem declareField_alike (h : field.Alike other) :
    (∃ interruption, declareField target fieldCase pool field = .error interruption ∧
      declareField target fieldCase pool other = .error interruption) ∨
    ∃ outcome outcomeOther next, declareField target fieldCase pool field = .ok (outcome, next) ∧
      declareField target fieldCase pool other = .ok (outcomeOther, next) ∧
      outcomeOther.member? = outcome.member? := by
  have hshape := member?_shape_of_alike h
  rw [declareField, declareField]
  cases hfield : field.type.shape with
  | dropped reason =>
      rw [hfield] at hshape
      cases hother : other.type.shape with
      | dropped reasonOther => exact Or.inr ⟨_, _, pool, rfl, rfl, rfl⟩
      | member scalar nullable => rw [hother] at hshape; cases hshape
  | member scalar nullable =>
      rw [hfield] at hshape
      cases hother : other.type.shape with
      | dropped reasonOther => rw [hother] at hshape; cases hshape
      | member scalarOther nullableOther =>
          rw [hother] at hshape
          cases hshape
          have hdefault : target.fieldDefault other scalar nullable =
              target.fieldDefault field scalar nullable := by
            rw [Target.fieldDefault, Target.fieldDefault, h.default]
          simp only [hdefault, h.name]
          cases hliteral : target.fieldDefault field scalar nullable with
          | error problem => exact Or.inl ⟨_, rfl, rfl⟩
          | ok literal =>
              cases fieldCase with
              | error error => exact Or.inl ⟨_, rfl, rfl⟩
              | ok spelling =>
                  have hmember : declareMember target pool spelling other scalar nullable literal =
                      declareMember target pool spelling field scalar nullable literal := by
                    rw [declareMember, declareMember, h.name]
                  exact Or.inr ⟨_, _, _, rfl, congrArg Except.ok hmember, rfl⟩

/-- Lists of fields that are alike make the same members and interrupt for the same reason. -/
theorem declareFields_alike (h : List.Forall₂ Field.Alike fields others) (pool : NamePool) :
    (declareFields target fieldCase pool fields).Matches
      (declareFields target fieldCase pool others) := by
  induction h generalizing pool with
  | nil => exact ⟨rfl, rfl⟩
  | @cons field other rest restOther hfirst _ ih =>
      rw [declareFields_cons, declareFields_cons]
      rcases declareField_alike hfirst with
        ⟨interruption, hfield, hother⟩ | ⟨outcome, outcomeOther, next, hfield, hother, hmember⟩
      · rw [hfield, hother]
        exact ⟨rfl, rfl⟩
      · rw [hfield, hother]
        obtain ⟨hmembers, hinterruption⟩ := ih next
        refine ⟨?_, hinterruption⟩
        rw [FieldOutcomes.members_cons, FieldOutcomes.members_cons, hmember, hmembers]

end Fields

/-! ## Documents -/

theorem eligibleRecord_respelled {t u : Text} {items changed : List Value}
    (h : ReplacesFields t u items changed) (hrespells : List.Forall₂ RespellsField items changed) :
    (∃ skip, eligibleRecord t = .error skip ∧ eligibleRecord u = .error skip) ∨
    ∃ (record : Schema.Record) (fields others : List Field),
      eligibleRecord t = .ok { record with fields } ∧
      eligibleRecord u = .ok { record with fields := others } ∧
      List.Forall₂ Field.Alike fields others := by
  rcases eligibleRecord_replaced h with hskipped | ⟨record, ht, hu⟩
  · exact Or.inl hskipped
  have hread := Schema.readFields_respelled hrespells []
  rw [ht, hu]
  generalize Schema.readFields [] items = read at hread
  generalize Schema.readFields [] changed = readChanged at hread
  cases hread with
  | none => exact Or.inl ⟨_, rfl, rfl⟩
  | @some fields others hall =>
      have hempty : fields = [] ↔ others = [] := by
        rw [← List.length_eq_zero_iff, ← List.length_eq_zero_iff, hall.length_eq]
      exact (eligibleWith_congr record hempty).imp_right
        fun ⟨hfields, hothers⟩ => ⟨record, fields, others, hfields, hothers, hall⟩

/-- However the types of the fields are spelled, the name and the text of what is generated are the
same, and so is whether anything is. -/
theorem Generator.generate_respelled (generator : Generator) {document : Schema.Document}
    {content : Text} {items changed : List Value}
    (h : ReplacesFields document.content content items changed)
    (hrespells : List.Forall₂ RespellsField items changed) :
    (generator.generate { document with content }).map GenerationResult.output? =
      (generator.generate document).map GenerationResult.output? := by
  rcases eligibleRecord_respelled h hrespells with
    ⟨skip, hskipped, hskippedOther⟩ | ⟨record, fields, others, heligible, hother, halike⟩
  · rw [generate_of_skipped hskipped, generate_of_skipped hskippedOther]
  · rw [generate_of_eligible heligible, generate_of_eligible hother]
    exact map_output?_generateRecord_congr document.name rfl
      fun typeName => declareFields_alike halike _

/-- A union, and a word that refers to a type where it stands bare. -/
def bareTypes : Schema.Document :=
  mixedDocument [("id", ["[\"null\", \"string\"]"]), ("kind", ["\"record\""])]

/-- The union in the other order, in an object and with a member in an object, and the word in an
object, where it declares a record. -/
def wrappedTypes : Schema.Document :=
  mixedDocument
    [("id", ["\x7b\"type\": ", "[\x7b\"type\": \"string\"\x7d, ", "\"null\"]\x7d"]),
      ("kind", ["\x7b\"type\": \"record\"\x7d"])]

theorem bareTypes_respelled :
    (Generator.standard .csharp).generates bareTypes = true ∧
      ((Generator.standard .csharp).generate wrappedTypes).map GenerationResult.output? =
        ((Generator.standard .csharp).generate bareTypes).map GenerationResult.output? := by
  let union : Value := .list [.text "null", .text "string"]
  let swapped : Value := .list [.object [("type", .text "string")], .text "null"]
  have hbare : Json.read bareTypes.content = .ok (.object (mixedEntries
      [("id", union), ("kind", .text "record")])) := by decide +kernel
  have hwrapped : Json.read wrappedTypes.content = .ok (.object (mixedEntries
      [("id", .object [("type", swapped)]), ("kind", .object [("type", .text "record")])])) := by
    decide +kernel
  have hmember : Schema.Respells (.list ([] ++ .text "string" :: [.text "null"])) swapped :=
    .member [] [.text "null"] (.wrapped rfl)
  have hunion : Schema.Respells union (.object [("type", swapped)]) :=
    ((Schema.Respells.swapped _ _).trans hmember).trans (.wrapped rfl)
  have hkind : Schema.Respells (.text "record") (.object [("type", .text "record")]) :=
    .wrapped rfl
  have hfield : ∀ (name : String) {old new : Value}, Schema.Respells old new →
      RespellsField (plainField (name, old)) (plainField (name, new)) :=
    fun name _ _ h => .respelled rfl rfl h fun key hkey => by
      simp [Entries.get?_cons, Entries.get?_nil, hkey]
  have houtput := (Generator.standard .csharp).generate_respelled
    (replacesFields_mixed hbare hwrapped)
    (.cons (hfield "id" hunion) (.cons (hfield "kind" hkind) .nil))
  have hgenerates : (Generator.standard .csharp).generates bareTypes = true := by decide +kernel
  exact ⟨hgenerates, houtput⟩

end RecordSmith
