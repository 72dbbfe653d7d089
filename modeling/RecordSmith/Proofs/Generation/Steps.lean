import RecordSmith.Proofs.Generation.Fields

/-!
# Fields one at a time

What becomes of a field depends on the field and on the pool that the fields before it have left.
So a run over a list of fields splits where the list does: the fields behind a place change nothing
before it.
-/

namespace RecordSmith

open Schema (Field)

namespace FieldOutcomes

/-- Puts the outcomes of fields before those of the fields behind them. -/
def prepend (outcomes : List FieldOutcome) (others : FieldOutcomes) : FieldOutcomes :=
  { others with outcomes := outcomes ++ others.outcomes }

/-- The outcomes of fields up to one that interrupts. -/
def interrupted (outcomes : List FieldOutcome) (interruption : Interruption) : FieldOutcomes :=
  { outcomes, interruption := some interruption }

/-- The same members were made of the fields, and the same interrupted, if anything did. -/
structure Matches (fields others : FieldOutcomes) : Prop where
  members : others.members = fields.members
  interruption : others.interruption = fields.interruption

section Members

variable (outcomes : List FieldOutcome) (others : FieldOutcomes)

@[simp]
theorem members_cons (outcome : FieldOutcome) :
    (others.cons outcome).members = outcome.member?.toList ++ others.members := by
  rw [members, cons, List.filterMap_cons]
  cases outcome.member? with
  | none => rfl
  | some declaration => rfl

@[simp]
theorem interruption_cons (outcome : FieldOutcome) :
    (others.cons outcome).interruption = others.interruption := rfl

@[simp]
theorem members_prepend :
    (others.prepend outcomes).members =
      outcomes.filterMap FieldOutcome.member? ++ others.members :=
  List.filterMap_append

@[simp]
theorem findings_prepend :
    (others.prepend outcomes).findings =
      outcomes.filterMap FieldOutcome.finding? ++ others.findings :=
  List.filterMap_append

@[simp]
theorem interruption_prepend : (others.prepend outcomes).interruption = others.interruption := rfl

end Members

end FieldOutcomes

/-! ## Steps -/

/-- The outcome of one field and the pool behind it, unless the field interrupts. -/
def declareField (target : Target) (fieldCase : Except GenerationError NamingCase)
    (pool : NamePool) (field : Field) : Except Interruption (FieldOutcome × NamePool) :=
  match field.type.shape with
  | .dropped reason => .ok (.dropped field.name reason, pool)
  | .member scalar nullable =>
    match target.fieldDefault field scalar nullable with
    | .error problem => .error (.invalidDefault field.name problem)
    | .ok literal =>
      match fieldCase with
      | .error error => .error (.failed error)
      | .ok spelling => .ok (declareMember target pool spelling field scalar nullable literal)

section Steps

variable {target : Target} {fieldCase : Except GenerationError NamingCase} {pool : NamePool}
variable {field : Field}

/-- The first field has its outcome, and the others go on from the pool behind it. -/
theorem declareFields_cons (rest : List Field) :
    declareFields target fieldCase pool (field :: rest) =
      match declareField target fieldCase pool field with
      | .ok (outcome, next) => (declareFields target fieldCase next rest).cons outcome
      | .error interruption => .interrupted [] interruption := by
  rw [declareFields, declareField]
  cases field.type.shape with
  | dropped reason => rfl
  | member scalar nullable =>
      cases hdefault : target.fieldDefault field scalar nullable with
      | error problem => simp only [hdefault, FieldOutcomes.interrupted]
      | ok literal =>
          cases fieldCase with
          | error error => simp only [hdefault, FieldOutcomes.interrupted]
          | ok spelling => simp only [hdefault]

theorem declareField_answers {outcome : FieldOutcome} {next : NamePool}
    (h : declareField target fieldCase pool field = .ok (outcome, next)) :
    outcome.Answers target field := by
  unfold declareField at h
  split at h
  case h_1 reason hshape =>
    cases h
    exact .dropped (fun hsupported => Schema.Field.supported_iff.mp hsupported reason hshape) reason
  case h_2 scalar nullable hshape =>
    split at h
    case h_1 => cases h
    case h_2 literal hdefault =>
      split at h
      case h_1 => cases h
      case h_2 spelling =>
        cases h
        exact .member ⟨rfl, scalar, Schema.TypeExpr.shape_eq_member_iff.mp hshape, rfl, hdefault⟩ _

end Steps

/-! ## Runs -/

section Runs

variable {target : Target} {fieldCase : Except GenerationError NamingCase} {pool : NamePool}

/-- What becomes of the first fields does not depend on the fields behind them: the others go on
from the pool that the first ones leave, or one of the first ones interrupts. -/
theorem declareFields_append (target : Target) (fieldCase : Except GenerationError NamingCase)
    (pool : NamePool) (before : List Field) :
    ∃ outcomes, (∃ next, List.Forall₂ (FieldOutcome.Answers target) before outcomes ∧
        ∀ after, declareFields target fieldCase pool (before ++ after) =
          (declareFields target fieldCase next after).prepend outcomes) ∨
      ∃ interruption, ∀ after, declareFields target fieldCase pool (before ++ after) =
        .interrupted outcomes interruption := by
  induction before generalizing pool with
  | nil => exact ⟨[], Or.inl ⟨pool, .nil, fun _ => rfl⟩⟩
  | cons field rest ih =>
      simp only [List.cons_append, declareFields_cons]
      cases hstep : declareField target fieldCase pool field with
      | error interruption => exact ⟨[], Or.inr ⟨interruption, fun _ => rfl⟩⟩
      | ok step =>
          obtain ⟨outcome, middle⟩ := step
          obtain ⟨outcomes, ⟨next, hanswers, hrest⟩ | ⟨interruption, hrest⟩⟩ := ih middle
          · refine ⟨outcome :: outcomes, Or.inl ⟨next, ?_, fun after => ?_⟩⟩
            · exact .cons (declareField_answers hstep) hanswers
            · exact congrArg (FieldOutcomes.cons outcome) (hrest after)
          · refine ⟨outcome :: outcomes, Or.inr ⟨interruption, fun after => ?_⟩⟩
            exact congrArg (FieldOutcomes.cons outcome) (hrest after)

/-- Fields behind others leave the members of the others as they are. -/
theorem members_prefix_append (before after : List Field) :
    (declareFields target fieldCase pool before).members <+:
      (declareFields target fieldCase pool (before ++ after)).members := by
  obtain ⟨outcomes, ⟨next, _, hrun⟩ | ⟨interruption, hrun⟩⟩ :=
    declareFields_append target fieldCase pool before
  · have halone : declareFields target fieldCase pool before =
        (declareFields target fieldCase next []).prepend outcomes := by
      simpa using hrun []
    rw [halone, hrun after, FieldOutcomes.members_prepend, FieldOutcomes.members_prepend]
    exact (List.prefix_append_right_inj _).mpr List.nil_prefix
  · have halone : declareFields target fieldCase pool before =
        .interrupted outcomes interruption := by
      simpa using hrun []
    have hsame : declareFields target fieldCase pool (before ++ after) =
        declareFields target fieldCase pool before := (hrun after).trans halone.symm
    exact hsame ▸ List.prefix_rfl

/-- The findings are about fields of a list. -/
def AreAbout (fields : List Field) (findings : List Finding) : Prop :=
  ∀ finding ∈ findings, ∃ field ∈ fields, finding.field? = some field.name

theorem areAbout_of_answers {fields : List Field} {outcomes : List FieldOutcome}
    (h : List.Forall₂ (FieldOutcome.Answers target) fields outcomes) :
    AreAbout fields (outcomes.filterMap FieldOutcome.finding?) := by
  intro finding hfinding
  have hmem := (findings_sublist h).subset (List.mem_map.mpr ⟨finding, hfinding, rfl⟩)
  obtain ⟨field, hfield, heq⟩ := List.mem_map.mp hmem
  exact ⟨field, hfield, heq.symm⟩

/-- A field that is dropped leaves nothing behind but a finding about itself. -/
theorem declareFields_insert_dropped {before after : List Field} {field : Field}
    {reason : Schema.Unsupported} (hshape : field.type.shape = .dropped reason) :
    let without := declareFields target fieldCase pool (before ++ after)
    let inserted := declareFields target fieldCase pool (before ++ field :: after)
    without.Matches inserted ∧
      (without.interruption = none → ∃ earlier later, AreAbout before earlier ∧
        AreAbout after later ∧ without.findings = earlier ++ later ∧
        inserted.findings = earlier ++ .unsupported field.name reason :: later) := by
  intro without inserted
  obtain ⟨outcomes, ⟨next, hanswers, hrun⟩ | ⟨interruption, hrun⟩⟩ :=
    declareFields_append target fieldCase pool before
  · have hwithout : without = (declareFields target fieldCase next after).prepend outcomes :=
      hrun after
    have hinserted : inserted = ((declareFields target fieldCase next after).cons
        (.dropped field.name reason)).prepend outcomes := by
      rw [← declareFields_dropped hshape]
      exact hrun (field :: after)
    rw [hwithout, hinserted]
    refine ⟨⟨by simp [FieldOutcome.member?], by simp⟩, fun hnone => ?_⟩
    have hlater := areAbout_of_answers (answers_of_uninterrupted hnone)
    exact ⟨_, _, areAbout_of_answers hanswers, hlater, FieldOutcomes.findings_prepend ..,
      FieldOutcomes.findings_prepend ..⟩
  · have hwithout : without = .interrupted outcomes interruption := hrun after
    have hinserted : inserted = .interrupted outcomes interruption := hrun (field :: after)
    rw [hwithout, hinserted]
    exact ⟨⟨rfl, rfl⟩, fun hnone => nomatch hnone⟩

end Runs

/-! ## What is generated -/

/-- The name and the text of what was generated, if anything was. -/
def GenerationResult.output? (result : GenerationResult) : Option (Text × Text) :=
  result.generated.map fun generated => (generated.artifactName, generated.source)

@[simp]
theorem GenerationResult.isSome_output? (result : GenerationResult) :
    result.output?.isSome = result.success := Option.isSome_map

namespace Generator

variable {generator : Generator} {record : Schema.Record}

/-- The name and the text of the source of a type, when its fields have become something. -/
def output? (generator : Generator) (frame : TypeDeclaration) (fields : FieldOutcomes) :
    Except GenerationError (Option (Text × Text)) :=
  match fields.interruption with
  | some (.failed error) => .error error
  | some (.invalidDefault _ _) => .ok none
  | none => do
    let source ← generator.source { frame with members := fields.members }
    generator.checkMarker
    return some (generator.artifactName frame.space frame.typeName, source)

theorem generateRecord_of_frame_error {error : GenerationError} (name : Text)
    (hframe : generator.frame record = .error error) :
    generator.generateRecord name record = .error error := by
  rw [generateRecord, hframe]
  rfl

theorem map_output?_generateRecord {frame : TypeDeclaration} (name : Text)
    (hframe : generator.frame record = .ok frame) :
    (generator.generateRecord name record).map GenerationResult.output? =
      generator.output? frame (generator.fields record frame.typeName) := by
  rw [generateRecord, hframe, output?]
  dsimp only [bind, Except.bind]
  cases (generator.fields record frame.typeName).interruption with
  | some interruption =>
      cases interruption with
      | invalidDefault field problem => rfl
      | failed error => rfl
  | none =>
      dsimp only [emit, bind, Except.bind]
      cases generator.source
          { frame with members := (generator.fields record frame.typeName).members } with
      | error error => rfl
      | ok source =>
          dsimp only
          cases generator.checkMarker with
          | error error => rfl
          | ok => rfl

/-- Records that are the same but for their fields generate the same if their fields match. -/
theorem map_output?_generateRecord_congr {other : Schema.Record} (name : Text)
    (hframe : generator.frame other = generator.frame record)
    (hfields : ∀ typeName,
      (generator.fields record typeName).Matches (generator.fields other typeName)) :
    (generator.generateRecord name other).map GenerationResult.output? =
      (generator.generateRecord name record).map GenerationResult.output? := by
  cases hok : generator.frame record with
  | error error =>
      rw [generateRecord_of_frame_error name hok,
        generateRecord_of_frame_error name (hframe.trans hok)]
  | ok frame =>
      obtain ⟨hmembers, hinterruption⟩ := hfields frame.typeName
      rw [map_output?_generateRecord name hok, map_output?_generateRecord name (hframe.trans hok),
        output?, output?, hmembers, hinterruption]

end Generator

end RecordSmith
