import Mathlib.Data.List.Forall2
import RecordSmith.Proofs.Generation.Declare
import RecordSmith.Proofs.Generator.Standard
import RecordSmith.Proofs.Schema.Shape

/-!
# What becomes of each field

The fields of a record are looked at one after another.  Each one up to an
interruption has an outcome of its own: a member, if its type is one of members, and
a note that it was dropped otherwise.  Only a default that does not fit interrupts,
or a naming case that is none.  So nothing is lost, repeated or put in another place.
-/

namespace RecordSmith

open Schema (Field)

/-! ## Defaults -/

section Defaults

variable {target : Target} {scalar : Schema.Scalar} {nullable : Bool} {field : Field}

theorem exists_defaultLiteral_iff {value : Value} :
    (∃ literal, target.defaultLiteral scalar nullable value = .ok literal) ↔
      scalar.Accepts nullable value := by
  constructor
  · rintro ⟨literal, h⟩
    unfold Target.defaultLiteral at h
    split at h
    · split at h
      case isTrue hnullable => exact hnullable ▸ .null scalar
      case isFalse => cases h
    · exact .text nullable _
    · exact .boolean nullable _
    · cases h
  · intro h
    cases h with
    | null => exact ⟨target.nullLiteral, rfl⟩
    | text _ t => exact ⟨target.textLiteral t, rfl⟩
    | boolean _ b => exact ⟨target.booleanLiteral b, rfl⟩

/-- A field of a type of members misfits exactly if its default has no literal. -/
theorem exists_fieldDefault_error_iff (h : field.type.Supports scalar nullable) :
    (∃ problem, target.fieldDefault field scalar nullable = .error problem) ↔
      field.Misfits := by
  constructor
  · rintro ⟨problem, hproblem⟩
    unfold Target.fieldDefault at hproblem
    split at hproblem
    case h_1 => cases hproblem
    case h_2 value hdefault =>
      refine ⟨scalar, nullable, value, h, hdefault, fun haccepts => ?_⟩
      obtain ⟨literal, hliteral⟩ : ∃ literal,
          target.defaultLiteral scalar nullable value = .ok literal :=
        exists_defaultLiteral_iff.mpr haccepts
      rw [hliteral] at hproblem
      cases hproblem
  · rintro ⟨other, optional, value, hother, hdefault, hrejects⟩
    obtain ⟨rfl, rfl⟩ := h.unique hother
    cases hliteral : target.defaultLiteral scalar nullable value with
    | ok literal => exact absurd (exists_defaultLiteral_iff.mp ⟨literal, hliteral⟩) hrejects
    | error problem =>
        refine ⟨problem, ?_⟩
        simp only [Target.fieldDefault, hdefault, hliteral]
        rfl

end Defaults

/-! ## Outcomes -/

/-- The member says what the field declares: its name, its type and its default. -/
structure MemberDeclaration.Declares (target : Target) (field : Field)
    (member : MemberDeclaration) : Prop where
  wireName : member.wireName = field.name
  typed : ∃ scalar, field.type.Supports scalar member.nullable ∧
    member.typeName = target.memberType scalar member.nullable ∧
    target.fieldDefault field scalar member.nullable = .ok member.defaultLiteral

/-- The outcome belongs to the field: it is a member that says what the field declares,
or says that there is none. -/
inductive FieldOutcome.Answers (target : Target) (field : Field) : FieldOutcome → Prop where
  | member {declaration : MemberDeclaration} (h : declaration.Declares target field)
      (wanted : Option Text) : Answers target field (.member declaration wanted)
  | dropped (h : ¬field.Supported) (reason : Schema.Unsupported) :
      Answers target field (.dropped field.name reason)

/-- Why the fields from some place on were not looked at, if there are any. -/
inductive FieldOutcomes.StopsAt (fieldCase : Except GenerationError NamingCase) :
    List Field → Option Interruption → Prop where
  | done : StopsAt fieldCase [] none
  | misfit {field : Field} (hmisfits : field.Misfits) (problem : DefaultProblem)
      (after : List Field) :
      StopsAt fieldCase (field :: after) (some (.invalidDefault field.name problem))
  | failed {error : GenerationError} (hcase : fieldCase = .error error) (field : Field)
      (after : List Field) : StopsAt fieldCase (field :: after) (some (.failed error))

section Outcomes

variable {target : Target} {field : Field} {member : MemberDeclaration}

theorem MemberDeclaration.Declares.supported (h : member.Declares target field) :
    field.Supported := by
  obtain ⟨scalar, hsupports, _⟩ := h.typed
  exact ⟨scalar, member.nullable, hsupports⟩

theorem FieldOutcome.Answers.not_misfits {outcome : FieldOutcome}
    (h : outcome.Answers target field) : ¬field.Misfits := by
  intro hmisfits
  cases h with
  | member h wanted =>
      obtain ⟨scalar, hsupports, _, hliteral⟩ := h.typed
      obtain ⟨problem, hproblem⟩ := (exists_fieldDefault_error_iff hsupports).mpr hmisfits
      rw [hliteral] at hproblem
      cases hproblem
  | dropped h reason =>
      obtain ⟨scalar, nullable, _, hsupports, _⟩ := hmisfits
      exact h ⟨scalar, nullable, hsupports⟩

/-- Each field that was looked at has its outcome, and the next one, if there is any,
is the reason for the interruption. -/
theorem declareFields_spec (target : Target)
    (fieldCase : Except GenerationError NamingCase) (pool : NamePool) (fields : List Field) :
    ∃ seen rest, fields = seen ++ rest ∧
      List.Forall₂ (FieldOutcome.Answers target) seen
        (declareFields target fieldCase pool fields).outcomes ∧
      FieldOutcomes.StopsAt fieldCase rest
        (declareFields target fieldCase pool fields).interruption := by
  induction fields generalizing pool with
  | nil => exact ⟨[], [], rfl, .nil, .done⟩
  | cons field others ih =>
      cases hshape : field.type.shape with
      | dropped reason =>
          obtain ⟨seen, rest, rfl, houtcomes, hstop⟩ := ih pool
          have hunsupported : ¬field.Supported :=
            fun h => Schema.Field.supported_iff.mp h reason hshape
          rw [declareFields_dropped hshape]
          exact ⟨field :: seen, rest, rfl, .cons (.dropped hunsupported reason) houtcomes, hstop⟩
      | member scalar nullable =>
          have hsupports := Schema.TypeExpr.shape_eq_member_iff.mp hshape
          cases hdefault : target.fieldDefault field scalar nullable with
          | error problem =>
              have hmisfits := (exists_fieldDefault_error_iff hsupports).mp ⟨problem, hdefault⟩
              rw [declareFields_invalidDefault hshape hdefault]
              exact ⟨[], field :: others, rfl, .nil, .misfit hmisfits problem others⟩
          | ok literal =>
              cases fieldCase with
              | error error =>
                  rw [declareFields_failed error hshape hdefault]
                  exact ⟨[], field :: others, rfl, .nil, .failed rfl field others⟩
              | ok spelling =>
                  -- Which identifier the pool gives does not matter here.
                  obtain ⟨seen, rest, rfl, houtcomes, hstop⟩ :=
                    ih (pool.sanitize field.name spelling).2
                  simp only [declareFields, hshape, hdefault, declareMember]
                  refine ⟨field :: seen, rest, rfl, .cons (.member ?_ _) houtcomes, hstop⟩
                  exact ⟨rfl, scalar, hsupports, rfl, hdefault⟩

end Outcomes

/-! ## Members and findings of outcomes -/

section Accounting

variable {target : Target} {seen : List Field} {outcomes : List FieldOutcome}

/-- The members are those of the fields with a type of members, in their order. -/
theorem members_declare (h : List.Forall₂ (FieldOutcome.Answers target) seen outcomes) :
    List.Forall₂ (MemberDeclaration.Declares target) (seen.filter (·.Supported))
      (outcomes.filterMap FieldOutcome.member?) := by
  induction h with
  | nil => exact .nil
  | cons hfirst _ ih =>
      cases hfirst with
      | member hdeclares wanted =>
          rw [List.filter_cons_of_pos (by simpa using hdeclares.supported)]
          exact .cons hdeclares ih
      | dropped hunsupported reason =>
          rw [List.filter_cons_of_neg (by simpa using hunsupported)]
          exact ih

theorem wireNames_of_declare {fields : List Field} {members : List MemberDeclaration}
    (h : List.Forall₂ (MemberDeclaration.Declares target) fields members) :
    members.map (·.wireName) = fields.map (·.name) := by
  induction h with
  | nil => rfl
  | cons hfirst _ ih => rw [List.map_cons, List.map_cons, hfirst.wireName, ih]

theorem exists_declares_of_mem {fields : List Field} {members : List MemberDeclaration}
    (h : List.Forall₂ (MemberDeclaration.Declares target) fields members)
    {member : MemberDeclaration} (hmember : member ∈ members) :
    ∃ field ∈ fields, member.Declares target field := by
  induction h with
  | nil => cases hmember
  | @cons field first fields members hfirst _ ih =>
      rcases List.mem_cons.mp hmember with rfl | hrest
      · exact ⟨field, List.mem_cons_self, hfirst⟩
      · obtain ⟨other, hother, hdeclares⟩ := ih hrest
        exact ⟨other, List.mem_cons_of_mem field hother, hdeclares⟩

/-- The fields that are reported as dropped are the ones without a type of members. -/
theorem dropped_findings (h : List.Forall₂ (FieldOutcome.Answers target) seen outcomes) :
    ((outcomes.filterMap FieldOutcome.finding?).filter
        (·.kind == .unsupportedField)).map Finding.field? =
      (seen.filter (¬·.Supported)).map (some ·.name) := by
  induction h with
  | nil => rfl
  | @cons field outcome fields others hfirst _ ih =>
      cases hfirst with
      | @member declaration hdeclares wanted =>
          have hrest : (field :: fields).filter (¬·.Supported) =
              fields.filter (¬·.Supported) :=
            List.filter_cons_of_neg (by simpa using hdeclares.supported)
          rw [hrest, ← ih]
          cases wanted with
          | none => rfl
          | some identifier => rfl
      | dropped hunsupported reason =>
          have hrest : (field :: fields).filter (¬·.Supported) =
              field :: fields.filter (¬·.Supported) :=
            List.filter_cons_of_pos (by simpa using hunsupported)
          rw [hrest, List.map_cons, ← ih]
          rfl

/-- A finding is about a field that was looked at; there is one at most for each, and
they stand in the order of the fields. -/
theorem findings_sublist (h : List.Forall₂ (FieldOutcome.Answers target) seen outcomes) :
    ((outcomes.filterMap FieldOutcome.finding?).map Finding.field?).Sublist
      (seen.map (some ·.name)) := by
  induction h with
  | nil => exact .slnil
  | cons hfirst _ ih =>
      cases hfirst with
      | member hdeclares wanted =>
          cases wanted with
          | none => exact .cons _ ih
          | some identifier =>
              rw [List.map_cons, ← hdeclares.wireName]
              exact .cons_cons _ ih
      | dropped hunsupported reason => exact .cons_cons _ ih

/-- A field that was looked at is reported as dropped or under another identifier. -/
theorem kind_of_mem_findings (outcomes : List FieldOutcome) :
    ∀ finding ∈ outcomes.filterMap FieldOutcome.finding?,
      finding.kind = .unsupportedField ∨ finding.kind = .nameCollision := by
  intro finding hfinding
  obtain ⟨outcome, _, hfound⟩ := List.mem_filterMap.mp hfinding
  cases outcome with
  | member declaration wanted =>
      obtain ⟨identifier, _, rfl⟩ := Option.map_eq_some_iff.mp hfound
      exact Or.inr rfl
  | dropped field reason =>
      cases hfound
      exact Or.inl rfl

end Accounting

/-! ## Generated records -/

/-- Without an interruption every field has its outcome. -/
theorem answers_of_uninterrupted {target : Target}
    {fieldCase : Except GenerationError NamingCase} {pool : NamePool} {fields : List Field}
    (h : (declareFields target fieldCase pool fields).interruption = none) :
    List.Forall₂ (FieldOutcome.Answers target) fields
      (declareFields target fieldCase pool fields).outcomes := by
  obtain ⟨seen, rest, hfields, houtcomes, hstop⟩ :=
    declareFields_spec target fieldCase pool fields
  rw [h] at hstop
  cases hstop
  rw [List.append_nil] at hfields
  rwa [← hfields] at houtcomes

theorem Generator.emit_counts {generator : Generator} {record : Schema.Record}
    {type : TypeDeclaration} {generated : Generated}
    (h : generator.emit record type = .ok generated) :
    generated.memberCount = type.members.length ∧
      generated.droppedFields = record.fields.length - type.members.length := by
  obtain ⟨source, _, _, rfl⟩ := emit_eq_ok_iff.mp h
  exact ⟨rfl, rfl⟩

/-- Behind every generated source stands a type whose members say what the fields of a
type of members declare. -/
theorem Generator.exists_declares_of_generated {generator : Generator}
    {document : Schema.Document} {result : GenerationResult} {generated : Generated}
    (hresult : generator.generate document = .ok result)
    (hgenerated : result.generated = some generated) :
    ∃ record type, eligibleRecord document.content = .ok record ∧
      generator.declare record = .ok type ∧ generator.emit record type = .ok generated ∧
      List.Forall₂ (MemberDeclaration.Declares generator.target)
        (record.fields.filter (·.Supported)) type.members := by
  obtain ⟨record, frame, heligible, hframe, hnone, hemit, _⟩ :=
    Generator.exists_fields_of_generated hresult hgenerated
  refine ⟨record, _, heligible, ?_, hemit, members_declare (answers_of_uninterrupted hnone)⟩
  rw [Generator.declare, hframe]
  rfl

/-- Every field of a record is accounted for, in its place: it is a member of the type
or reported as dropped, and what else is reported is about a field, too. -/
structure AccountsFor (document : Text) (record : Schema.Record) (type : TypeDeclaration)
    (generated : Generated) (diagnostics : List Diagnostic) : Prop where
  names_differ : (record.fields.map (·.name)).Nodup
  members : type.members.map (·.wireName) =
    (record.fields.filter (·.Supported)).map (·.name)
  dropped : (diagnostics.filter (·.finding.kind == .unsupportedField)).map
    (·.finding.field?) = (record.fields.filter (¬·.Supported)).map (some ·.name)
  memberCount : generated.memberCount = (record.fields.filter (·.Supported)).length
  droppedFields : generated.droppedFields = (record.fields.filter (¬·.Supported)).length
  total : generated.memberCount + generated.droppedFields = record.fields.length
  document : ∀ diagnostic ∈ diagnostics, diagnostic.document = document
  order : (diagnostics.map (·.finding.field?)).Sublist (record.fields.map (some ·.name))

/-- Whatever a document holds and whatever the settings are: if a source is generated
for it, no field of its record is lost, repeated or put in another place. -/
theorem generated_accounts_for_fields {generator : Generator}
    {document : Schema.Document} {result : GenerationResult} {generated : Generated}
    (hresult : generator.generate document = .ok result)
    (hgenerated : result.generated = some generated) :
    ∃ record type, eligibleRecord document.content = .ok record ∧
      generator.declare record = .ok type ∧
      generator.emit record type = .ok generated ∧
      AccountsFor document.name record type generated result.diagnostics := by
  obtain ⟨record, frame, heligible, hframe, hnone, hemit, hreport⟩ :=
    Generator.exists_fields_of_generated hresult hgenerated
  let outcomes := (generator.fields record frame.typeName).outcomes
  have houtcomes : List.Forall₂ (FieldOutcome.Answers generator.target) record.fields outcomes :=
    answers_of_uninterrupted hnone
  have hdeclare : generator.declare record = .ok
      { frame with members := (generator.fields record frame.typeName).members } := by
    rw [Generator.declare, hframe]
    rfl
  have hmembers := members_declare houtcomes
  obtain ⟨hcount, hdropped⟩ := Generator.emit_counts hemit
  have hlength : (generator.fields record frame.typeName).members.length =
      (record.fields.filter (·.Supported)).length := hmembers.length_eq.symm
  have htotal : record.fields.length = (record.fields.filter (·.Supported)).length +
      (record.fields.filter (¬·.Supported)).length := by
    simpa using List.length_eq_length_filter_add (l := record.fields) (fun f => decide f.Supported)
  refine ⟨record, _, heligible, hdeclare, hemit, ?_⟩
  rw [hreport]
  constructor
  case names_differ => exact Generator.eligibleRecord_names heligible
  case members => exact wireNames_of_declare hmembers
  case dropped =>
    rw [← dropped_findings houtcomes]
    simp [GenerationResult.withoutOutput, List.filter_map, Function.comp_def, outcomes,
      FieldOutcomes.findings]
  case memberCount => rw [hcount, hlength]
  case droppedFields => rw [hdropped, hlength, htotal, Nat.add_sub_cancel_left]
  case total => rw [hcount, hdropped, hlength, htotal, Nat.add_sub_cancel_left]
  case document =>
    intro diagnostic hdiagnostic
    obtain ⟨finding, _, rfl⟩ := List.mem_map.mp hdiagnostic
    rfl
  case order =>
    have hsublist := findings_sublist houtcomes
    rw [GenerationResult.withoutOutput, List.map_map]
    exact hsublist

/-- A record with two fields of other types than members, and with two that want the
same identifier. -/
def mixedFields : Schema.Document where
  name := "mixed"
  content :=
    ["\x7b\"type\": \"record\", ", "\"name\": \"Mixed\", ", "\"namespace\": \"a\", ",
      "\"fields\": [", "\x7b\"name\": \"id\", ", "\"type\": \"long\"\x7d, ",
      "\x7b\"name\": \"user_name\", ", "\"type\": \"string\"\x7d, ",
      "\x7b\"name\": \"tags\", ", "\"type\": [\"null\", \"Tags\"]\x7d, ",
      "\x7b\"name\": \"userName\", ", "\"type\": [\"boolean\", \"null\"], ",
      "\"default\": null\x7d]\x7d"].flatMap Text.ofString

theorem mixedFields_accounts_for_fields :
    ∃ result generated record type,
      (Generator.standard .csharp).generate mixedFields = .ok result ∧
      result.generated = some generated ∧
      (Generator.standard .csharp).declare record = .ok type ∧
      (Generator.standard .csharp).emit record type = .ok generated ∧
      AccountsFor mixedFields.name record type generated result.diagnostics := by
  have hgenerates : (Generator.standard .csharp).generates mixedFields = true := by
    decide +kernel
  obtain ⟨result, generated, hresult, hgenerated⟩ := Generator.exists_of_generates hgenerates
  obtain ⟨record, type, _, hdeclare, hemit, haccounts⟩ :=
    generated_accounts_for_fields hresult hgenerated
  exact ⟨result, generated, record, type, hresult, hgenerated, hdeclare, hemit, haccounts⟩

end RecordSmith
