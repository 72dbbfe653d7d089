import RecordSmith.Proofs.Generation.Declare
import RecordSmith.Proofs.Generator.Standard
import RecordSmith.Proofs.Schema.FullName

/-!
# What artifact names tell

The name of an artifact is the namespace of its type, the name of the type, the marker and the
extension, with full stops between them.  A namespace can hold full stops, and a marker can be any
text.  But no identifier holds a full stop, and what stands behind the type is the same for every
artifact of a generator.  So two artifacts are called the same only if their types are.
-/

namespace RecordSmith

namespace Generator

/-- What stands behind the type in the names of artifacts: the marker and the extension. -/
def artifactEnding (generator : Generator) : Text :=
  let marker := generator.settings.artifactMarker
  (if marker.isTruthy then "." ++ marker.plainExpression else []) ++
    generator.target.extension

theorem artifactName_eq (generator : Generator) (space typeName : Text) :
    generator.artifactName space typeName =
      (space ++ 0x2E :: typeName) ++ generator.artifactEnding := by
  have hdot : Text.ofString "." = [0x2E] := by decide
  rw [artifactName, artifactEnding, hdot]
  simp only [List.append_assoc, List.singleton_append]

/-- Full stops are in no identifier. -/
theorem isRemoved_fullStop : Identifier.IsRemoved 0x2E where
  casing := by decide +kernel
  not_alphanumeric := by decide +kernel
  ne_lowLine := by decide
  ne_hyphen := by decide
  not_mem_fallback := by decide
  not_mem_snake_fallback := by decide +kernel

/-- Whatever the record is called and however types are spelled, the type has a name without full
stops. -/
theorem fullStop_not_mem_typeName {generator : Generator} {record : Schema.Record}
    {type : TypeDeclaration} (h : generator.declare record = .ok type) :
    0x2E ∉ type.typeName := by
  obtain ⟨spelling, htypeName⟩ := declare_typeName h
  rw [htypeName]
  exact NamePool.not_mem_wanted isRemoved_fullStop _ _ _

/-- The last full stop before the ending tells namespace and type apart. -/
theorem artifactName_eq_iff {generator : Generator} {space typeName otherSpace otherName : Text}
    (hname : 0x2E ∉ typeName) (hother : 0x2E ∉ otherName) :
    generator.artifactName space typeName = generator.artifactName otherSpace otherName ↔
      space = otherSpace ∧ typeName = otherName := by
  rw [artifactName_eq, artifactName_eq, List.append_left_inj]
  constructor
  · exact Schema.parts_unique hname hother
  · rintro ⟨rfl, rfl⟩
    rfl

end Generator

/-- Two sources of one generator have the same artifact name if and only if the types that they
declare have the same namespace and the same name. -/
theorem generated_artifactName_eq_iff {generator : Generator} {first second : Schema.Document}
    {firstResult secondResult : GenerationResult} {firstSource secondSource : Generated}
    (hfirst : generator.generate first = .ok firstResult)
    (hfirstSource : firstResult.generated = some firstSource)
    (hsecond : generator.generate second = .ok secondResult)
    (hsecondSource : secondResult.generated = some secondSource) :
    ∃ firstRecord firstType secondRecord secondType,
      eligibleRecord first.content = .ok firstRecord ∧
      generator.declare firstRecord = .ok firstType ∧
      generator.emit firstRecord firstType = .ok firstSource ∧
      eligibleRecord second.content = .ok secondRecord ∧
      generator.declare secondRecord = .ok secondType ∧
      generator.emit secondRecord secondType = .ok secondSource ∧
      (firstSource.artifactName = secondSource.artifactName ↔
        firstType.space = secondType.space ∧ firstType.typeName = secondType.typeName) := by
  obtain ⟨firstRecord, firstType, hfirstEligible, hfirstType, hfirstEmit⟩ :=
    Generator.exists_declare_of_generated hfirst hfirstSource
  obtain ⟨secondRecord, secondType, hsecondEligible, hsecondType, hsecondEmit⟩ :=
    Generator.exists_declare_of_generated hsecond hsecondSource
  refine ⟨firstRecord, firstType, secondRecord, secondType, hfirstEligible, hfirstType, hfirstEmit,
    hsecondEligible, hsecondType, hsecondEmit, ?_⟩
  rw [Generator.emit_artifactName hfirstEmit, Generator.emit_artifactName hsecondEmit]
  exact Generator.artifactName_eq_iff (Generator.fullStop_not_mem_typeName hfirstType)
    (Generator.fullStop_not_mem_typeName hsecondType)

/-- A record whose name is written together with its namespace. -/
def joinedName : Schema.Document where
  name := "joined"
  content :=
    ["\x7b\"type\": \"record\", ", "\"name\": \"a.b.user\", ", "\"fields\": [",
      "\x7b\"name\": \"id\", ", "\"type\": \"string\"\x7d]\x7d"].flatMap Text.ofString

/-- A record of another name that becomes the same type. -/
def separateName : Schema.Document where
  name := "separate"
  content :=
    ["\x7b\"type\": \"record\", ", "\"name\": \"_User\", ", "\"namespace\": \"A.b\", ",
      "\"fields\": [", "\x7b\"name\": \"key\", ", "\"type\": \"boolean\"\x7d]\x7d"].flatMap
        Text.ofString

theorem joinedName_artifactName_eq :
    ∃ firstResult secondResult firstSource secondSource firstRecord firstType secondRecord
        secondType,
      (Generator.standard .csharp).generate joinedName = .ok firstResult ∧
      firstResult.generated = some firstSource ∧
      (Generator.standard .csharp).generate separateName = .ok secondResult ∧
      secondResult.generated = some secondSource ∧
      (Generator.standard .csharp).declare firstRecord = .ok firstType ∧
      (Generator.standard .csharp).declare secondRecord = .ok secondType ∧
      firstSource.artifactName = secondSource.artifactName ∧
      firstType.space = secondType.space ∧ firstType.typeName = secondType.typeName := by
  have hnames : ∀ document ∈ [joinedName, separateName],
      ((Generator.standard .csharp).generate document).toOption.any (fun result =>
        result.generated.map (·.artifactName) == some (Text.ofString "A.B.User.g.cs")) = true := by
    decide +kernel
  have hgenerated : ∀ document ∈ [joinedName, separateName], ∃ result generated,
      (Generator.standard .csharp).generate document = .ok result ∧
      result.generated = some generated ∧
      generated.artifactName = Text.ofString "A.B.User.g.cs" := by
    intro document hdocument
    obtain ⟨result, hresult, hname⟩ := Fallible.exists_of_any (hnames document hdocument)
    obtain ⟨generated, hgenerated, heq⟩ := Option.map_eq_some_iff.mp (eq_of_beq hname)
    exact ⟨result, generated, hresult, hgenerated, heq⟩
  obtain ⟨firstResult, firstSource, hfirst, hfirstSource, hfirstName⟩ :=
    hgenerated joinedName (by simp)
  obtain ⟨secondResult, secondSource, hsecond, hsecondSource, hsecondName⟩ :=
    hgenerated separateName (by simp)
  obtain ⟨firstRecord, firstType, secondRecord, secondType, _, hfirstType, _, _, hsecondType, _,
    hiff⟩ := generated_artifactName_eq_iff hfirst hfirstSource hsecond hsecondSource
  have hsame := hfirstName.trans hsecondName.symm
  exact ⟨firstResult, secondResult, firstSource, secondSource, firstRecord, firstType,
    secondRecord, secondType, hfirst, hfirstSource, hsecond, hsecondSource, hfirstType,
    hsecondType, hsame, hiff.mp hsame⟩

end RecordSmith
