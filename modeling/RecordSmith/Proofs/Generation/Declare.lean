import RecordSmith.Generation.Basic
import RecordSmith.Proofs.Fallible
import RecordSmith.Proofs.Generation.Members
import RecordSmith.Proofs.Schema.Record

/-!
# Declarations behind sources

Behind every generated source stands one type declaration, and the source is what
the generator emits for it.
-/

namespace RecordSmith

namespace Generator

/-- The type declaration whose source is generated for a record. -/
def declare (generator : Generator) (record : Schema.Record) :
    Except GenerationError TypeDeclaration := do
  let frame ← generator.frame record
  return { frame with members := (generator.fields record frame.typeName).members }

variable {generator : Generator} {document : Schema.Document}

theorem eligibleRecord_declares {content : Text} {record : Schema.Record}
    (h : eligibleRecord content = .ok record) :
    ∃ entries, Json.read content = .ok (.object entries) ∧
      Schema.DeclaresRecord entries record := by
  unfold eligibleRecord at h
  split at h
  case h_1 => cases h
  case h_2 => cases h
  case h_3 found hparse =>
    split at h
    · cases h
    · split at h
      · cases h
      · cases h
        exact Schema.Declaration.parse?_record hparse

theorem eligibleRecord_names {content : Text} {record : Schema.Record}
    (h : eligibleRecord content = .ok record) : (record.fields.map (·.name)).Nodup := by
  obtain ⟨_, _, hdeclares⟩ := eligibleRecord_declares h
  exact hdeclares.names_nodup

/-- A default that does not fit ends the generation without output. -/
theorem generateRecord_of_invalidDefault {name : Text} {record : Schema.Record}
    {frame : TypeDeclaration} {field : Text} {problem : DefaultProblem}
    (hframe : generator.frame record = .ok frame)
    (h : (generator.fields record frame.typeName).interruption =
      some (.invalidDefault field problem)) :
    generator.generateRecord name record = .ok (.withoutOutput name
      ((generator.fields record frame.typeName).findings ++ [.invalidDefault field problem])) := by
  refine Fallible.bind_eq_ok_iff.mpr ⟨frame, hframe, ?_⟩
  simp only [h]
  rfl

/-- Without an interruption there is a result exactly if the source can be emitted. -/
theorem generateRecord_eq_ok_iff {name : Text} {record : Schema.Record}
    {frame : TypeDeclaration} {result : GenerationResult}
    (hframe : generator.frame record = .ok frame)
    (h : (generator.fields record frame.typeName).interruption = none) :
    generator.generateRecord name record = .ok result ↔ ∃ generated,
      generator.emit record
        { frame with members := (generator.fields record frame.typeName).members } =
          .ok generated ∧
      result =
        { GenerationResult.withoutOutput name
            (generator.fields record frame.typeName).findings with
          generated := some generated } := by
  constructor
  · intro hresult
    obtain ⟨found, hfound, hrest⟩ := Fallible.bind_eq_ok_iff.mp hresult
    rw [hframe, Except.ok.injEq] at hfound
    subst hfound
    simp only [h] at hrest
    obtain ⟨generated, hemit, heq⟩ := Fallible.bind_eq_ok_iff.mp hrest
    cases heq
    exact ⟨generated, hemit, rfl⟩
  · rintro ⟨generated, hemit, rfl⟩
    refine Fallible.bind_eq_ok_iff.mpr ⟨frame, hframe, ?_⟩
    simp only [h]
    exact Fallible.bind_eq_ok_iff.mpr ⟨generated, hemit, rfl⟩

/-- A source is generated if the record is eligible, no field interrupts, and the
source can be emitted; the result reports what was found on the way. -/
theorem exists_fields_of_generated {result : GenerationResult} {generated : Generated}
    (hresult : generator.generate document = .ok result)
    (hgenerated : result.generated = some generated) :
    ∃ record frame, eligibleRecord document.content = .ok record ∧
      generator.frame record = .ok frame ∧
      (generator.fields record frame.typeName).interruption = none ∧
      generator.emit record
        { frame with members := (generator.fields record frame.typeName).members } =
          .ok generated ∧
      result =
        { GenerationResult.withoutOutput document.name
            (generator.fields record frame.typeName).findings with
          generated := some generated } := by
  rw [generate] at hresult
  split at hresult
  case h_1 => cases hresult; cases hgenerated
  case h_2 record heligible =>
    rw [generateRecord] at hresult
    obtain ⟨frame, hframe, hfields⟩ := Fallible.bind_eq_ok_iff.mp hresult
    dsimp only at hfields
    split at hfields
    case h_1 => cases hfields
    case h_2 => cases hfields; cases hgenerated
    case h_3 hnone =>
      obtain ⟨emitted, hemit, heq⟩ := Fallible.bind_eq_ok_iff.mp hfields
      cases heq
      cases hgenerated
      exact ⟨record, frame, heligible, hframe, hnone, hemit, rfl⟩

/-- A generated source is emitted for the declaration of the document's record. -/
theorem exists_declare_of_generated {result : GenerationResult} {generated : Generated}
    (hresult : generator.generate document = .ok result)
    (hgenerated : result.generated = some generated) :
    ∃ record type, eligibleRecord document.content = .ok record ∧
      generator.declare record = .ok type ∧ generator.emit record type = .ok generated := by
  obtain ⟨record, frame, heligible, hframe, _, hemit, _⟩ :=
    exists_fields_of_generated hresult hgenerated
  refine ⟨record, _, heligible, ?_, hemit⟩
  rw [declare, hframe]
  rfl

/-- The generator makes a source of the document. -/
def generates (generator : Generator) (document : Schema.Document) : Bool :=
  match generator.generate document with
  | .ok result => result.success
  | .error _ => false

theorem exists_of_generates (h : generator.generates document = true) :
    ∃ result generated, generator.generate document = .ok result ∧
      result.generated = some generated := by
  unfold generates at h
  split at h
  case h_1 result hresult =>
    obtain ⟨generated, hgenerated⟩ := Option.isSome_iff_exists.mp h
    exact ⟨result, generated, hresult, hgenerated⟩
  case h_2 => cases h

/-- A result with a source text is no report of an error. -/
theorem generate_of_generateReporting {result : GenerationResult} {generated : Generated}
    (hresult : generator.generateReporting document = .ok result)
    (hgenerated : result.generated = some generated) :
    generator.generate document = .ok result := by
  rw [generateReporting] at hresult
  split at hresult
  case h_1 found hfound =>
    cases hresult
    exact hfound
  case h_2 =>
    split at hresult
    · cases hresult
      cases hgenerated
    · cases hresult

/-- A source is emitted if there is a text and a name for it. -/
theorem emit_eq_ok_iff {record : Schema.Record} {type : TypeDeclaration} {generated : Generated} :
    generator.emit record type = .ok generated ↔
      ∃ source, generator.source type = .ok source ∧ generator.checkMarker = .ok () ∧
        generated = {
          artifactName := generator.artifactName type.space type.typeName
          source
          target := generator.target
          recordName := type.wireFullName
          memberCount := type.members.length
          droppedFields := record.fields.length - type.members.length } := by
  rw [emit, Fallible.bind_eq_ok_iff]
  refine exists_congr fun source => and_congr_right fun _ => ?_
  rw [Fallible.bind_eq_ok_iff]
  constructor
  · rintro ⟨_, hmarker, hemitted⟩
    cases hemitted
    exact ⟨hmarker, rfl⟩
  · rintro ⟨hmarker, rfl⟩
    exact ⟨(), hmarker, rfl⟩

theorem emit_source {record : Schema.Record} {type : TypeDeclaration} {generated : Generated}
    (h : generator.emit record type = .ok generated) :
    generator.source type = .ok generated.source := by
  obtain ⟨source, hsource, _, rfl⟩ := emit_eq_ok_iff.mp h
  exact hsource

theorem emit_artifactName {record : Schema.Record} {type : TypeDeclaration}
    {generated : Generated} (h : generator.emit record type = .ok generated) :
    generated.artifactName = generator.artifactName type.space type.typeName := by
  obtain ⟨source, _, _, rfl⟩ := emit_eq_ok_iff.mp h
  rfl

/-- All that a declaration takes over from its record, and from the settings two naming cases. -/
theorem declare_eq_ok {record : Schema.Record} {type : TypeDeclaration}
    (h : generator.declare record = .ok type) :
    ∃ spaceCase typeCase,
      let typeName := (NamePool.ofTarget generator.target).wanted record.name typeCase
      type = {
        space := Namespace.convert (record.space.getD []) spaceCase
        typeName
        wireName := record.name
        wireSpace := record.space.getD []
        members := (generator.fields record typeName).members
        doc := record.doc } := by
  obtain ⟨frame, hframe, htype⟩ := Fallible.bind_eq_ok_iff.mp h
  obtain ⟨spaceCase, _, hspace⟩ := Fallible.bind_eq_ok_iff.mp hframe
  obtain ⟨typeCase, _, hname⟩ := Fallible.bind_eq_ok_iff.mp hspace
  cases htype
  cases hname
  exact ⟨spaceCase, typeCase, rfl⟩

/-- The namespace of the type is that of the record, converted. -/
theorem declare_space {record : Schema.Record} {type : TypeDeclaration}
    (h : generator.declare record = .ok type) :
    ∃ spaceCase, type.space = Namespace.convert type.wireSpace spaceCase := by
  obtain ⟨spaceCase, _, rfl⟩ := declare_eq_ok h
  exact ⟨spaceCase, rfl⟩

/-- The type is called what its name in the schema is wanted as. -/
theorem declare_typeName {record : Schema.Record} {type : TypeDeclaration}
    (h : generator.declare record = .ok type) :
    ∃ spelling,
      type.typeName = (NamePool.ofTarget generator.target).wanted record.name spelling := by
  obtain ⟨_, typeCase, rfl⟩ := declare_eq_ok h
  exact ⟨typeCase, rfl⟩

end Generator

end RecordSmith
