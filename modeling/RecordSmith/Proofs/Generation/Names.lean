import RecordSmith.Proofs.Generation.Declare
import RecordSmith.Proofs.Generation.Members
import RecordSmith.Proofs.Generator.Standard

/-!
# Names in generated types

Behind every generated source stands one type declaration.  Its names can be used
as they are: the members differ from each other, no name is reserved by the
language, and no member hides the type or what the generated code declares beside
the members.
-/

namespace RecordSmith

/-! ## Reserved names -/

namespace NamePool

theorem reservesUnmarked_ofTarget (target : Target) :
    (ofTarget target).ReservesUnmarked := by
  have hwords : ((ofTarget target).reservedWords ++ (ofTarget target).builtinNames).all
      (fun word => !isMarked word) = true := by
    cases target with
    | csharp => decide +kernel
    | python => decide +kernel
  intro word hword
  simpa using List.all_eq_true.mp hwords word hword

theorem forType_reservedWords (target : Target) (typeName : Text) :
    (forType target typeName).reservedWords = target.reservedWords := by
  cases target with
  | csharp => rfl
  | python => rfl

theorem forType_builtinNames (target : Target) (typeName : Text) :
    (forType target typeName).builtinNames = target.builtinNames := by
  cases target with
  | csharp => rfl
  | python => rfl

theorem reservesUnmarked_forType (target : Target) (typeName : Text) :
    (forType target typeName).ReservesUnmarked := by
  intro word hword
  apply reservesUnmarked_ofTarget target word
  rwa [Reserves, forType_reservedWords, forType_builtinNames] at hword

theorem mem_used_forType {target : Target} (h : target.reservesTypeName = true)
    (typeName : Text) : typeName ∈ (forType target typeName).used := by
  rw [forType, if_pos h]
  exact List.mem_cons_self

/-- Nothing was asked for before the first field. -/
theorem isNew_forType (target : Target) (typeName : Text) (spelling : NamingCase)
    (name : Text) : (forType target typeName).IsNew spelling name := by
  cases target with
  | csharp => rfl
  | python => rfl

end NamePool

/-! ## Sound names -/

/-- The variables of a dataclass that hold the names in the schema. -/
def Dataclass.wireVariables : List Text := ["__avro_name__", "__avro_namespace__"]

/-- The names of a type declaration can be used in its language. -/
structure SoundNames (target : Target) (type : TypeDeclaration) : Prop where
  members_differ : (type.members.map (·.name)).Nodup
  type_unreserved : type.typeName ∉ target.reservedWords ++ target.builtinNames
  members_unreserved : ∀ member ∈ type.members,
    member.name ∉ target.reservedWords ++ target.builtinNames
  members_beside_type : target = .csharp →
    ∀ member ∈ type.members, member.name ≠ type.typeName
  members_beside_variables : target = .python →
    ∀ member ∈ type.members, member.name ∉ Dataclass.wireVariables

theorem not_mem_wireVariables {name : Text}
    (hname : Identifier.startsWithWord name = true) : name ∉ Dataclass.wireVariables := by
  have hvariables : Dataclass.wireVariables.all
      (fun word => !Identifier.startsWithWord word) = true := by decide +kernel
  intro hmem
  have hword := List.all_eq_true.mp hvariables name hmem
  rw [hname] at hword
  cases hword

/-- With a naming case the members of a declaration are named in turn by the pool of the type. -/
theorem Generator.fields_namedInTurn {generator : Generator} {record : Schema.Record}
    {spelling : NamingCase} (hnames : (record.fields.map (·.name)).Nodup)
    (hcase : generator.namingCase .fieldCase = .ok spelling) (typeName : Text) :
    NamedInTurn ((NamePool.forType generator.target typeName).wanted · spelling)
      (NamePool.forType generator.target typeName).used
      (generator.fields record typeName).outcomes := by
  rw [Generator.fields, hcase]
  exact declareFields_namedInTurn hnames fun field _ =>
    NamePool.isNew_forType generator.target typeName spelling field.name

/-- Without one there are none. -/
theorem Generator.fields_error_members {generator : Generator} {error : GenerationError}
    (hcase : generator.namingCase .fieldCase = .error error) (record : Schema.Record)
    (typeName : Text) : (generator.fields record typeName).members = [] := by
  rw [Generator.fields, hcase]
  exact declareFields_error_members error record.fields

/-- So their names come from the pool one after another. -/
theorem Generator.fields_names (generator : Generator) {record : Schema.Record}
    (hnames : (record.fields.map (·.name)).Nodup) (typeName : Text) :
    ∃ spelling wires,
      (generator.fields record typeName).members.map (·.name) =
        NamePool.assign ((NamePool.forType generator.target typeName).wanted · spelling)
          (NamePool.forType generator.target typeName).used wires := by
  cases hcase : generator.namingCase .fieldCase with
  | ok spelling => exact ⟨spelling, _, (fields_namedInTurn hnames hcase typeName).names⟩
  | error error =>
      refine ⟨.snake, [], ?_⟩
      rw [fields_error_members hcase]
      rfl

/-- So are the members of a declared type. -/
theorem Generator.declare_names {generator : Generator} {record : Schema.Record}
    {type : TypeDeclaration} (hnames : (record.fields.map (·.name)).Nodup)
    (hdeclare : generator.declare record = .ok type) :
    ∃ spelling wires, type.members.map (·.name) =
      NamePool.assign ((NamePool.forType generator.target type.typeName).wanted · spelling)
        (NamePool.forType generator.target type.typeName).used wires := by
  obtain ⟨_, _, rfl⟩ := declare_eq_ok hdeclare
  exact generator.fields_names hnames _

theorem Generator.declare_soundNames {generator : Generator} {record : Schema.Record}
    {type : TypeDeclaration} (hnames : (record.fields.map (·.name)).Nodup)
    (hdeclare : generator.declare record = .ok type) :
    SoundNames generator.target type := by
  obtain ⟨typeCase, htypeName⟩ := Generator.declare_typeName hdeclare
  obtain ⟨spelling, wires, hassign⟩ := Generator.declare_names hnames hdeclare
  have hpool := NamePool.reservesUnmarked_forType generator.target type.typeName
  let pool := NamePool.forType generator.target type.typeName
  obtain ⟨hnodup, hunused⟩ := @NamePool.assign_nodup (pool.wanted · spelling) pool.used wires
  have hassigned : ∀ member ∈ type.members,
      member.name ∈ NamePool.assign (pool.wanted · spelling) pool.used wires :=
    fun member hmember => hassign ▸ List.mem_map.mpr ⟨member, hmember, rfl⟩
  constructor
  case members_differ => exact hassign ▸ hnodup
  case type_unreserved =>
    rw [htypeName]
    exact NamePool.not_reserves_wanted (NamePool.reservesUnmarked_ofTarget _) _ _
  case members_unreserved =>
    intro member hmember
    have hfree := NamePool.not_reserves_of_mem_assign hpool (hassigned member hmember)
    rwa [NamePool.Reserves, NamePool.forType_reservedWords,
      NamePool.forType_builtinNames] at hfree
  case members_beside_type =>
    intro htarget member hmember heq
    apply hunused member.name (hassigned member hmember)
    rw [heq]
    exact NamePool.mem_used_forType (by rw [htarget]; rfl) type.typeName
  case members_beside_variables =>
    intro _ member hmember
    exact not_mem_wireVariables
      (NamePool.startsWithWord_of_mem_assign (hassigned member hmember))

/-- Whatever a document holds: if a source is generated for it, the names of the
type that the source declares are sound. -/
theorem generated_type_has_sound_names {generator : Generator}
    {document : Schema.Document} {result : GenerationResult} {generated : Generated}
    (hresult : generator.generate document = .ok result)
    (hgenerated : result.generated = some generated) :
    ∃ record type, eligibleRecord document.content = .ok record ∧
      generator.declare record = .ok type ∧
      generator.emit record type = .ok generated ∧
      SoundNames generator.target type := by
  obtain ⟨record, type, heligible, hdeclare, hemit⟩ :=
    Generator.exists_declare_of_generated hresult hgenerated
  exact ⟨record, type, heligible, hdeclare, hemit,
    Generator.declare_soundNames (Generator.eligibleRecord_names heligible) hdeclare⟩

/-- A record whose three fields all want the same identifier, which is a reserved
word with a low line behind it. -/
def keywordFields : Schema.Document where
  name := "keywords"
  content :=
    ["\x7b\"type\": \"record\", ", "\"name\": \"class\", ", "\"namespace\": \"a\", ",
      "\"fields\": [", "\x7b\"name\": \"class\", ", "\"type\": \"string\"\x7d, ",
      "\x7b\"name\": \"class_\", ", "\"type\": \"string\"\x7d, ",
      "\x7b\"name\": \"-class\", ", "\"type\": \"boolean\"\x7d]\x7d"].flatMap Text.ofString

theorem keywordFields_has_sound_names :
    ∃ result generated record type,
      (Generator.standard .python).generate keywordFields = .ok result ∧
      result.generated = some generated ∧
      (Generator.standard .python).declare record = .ok type ∧
      (Generator.standard .python).emit record type = .ok generated ∧
      SoundNames .python type := by
  have hgenerates : (Generator.standard .python).generates keywordFields = true := by
    decide +kernel
  obtain ⟨result, generated, hresult, hgenerated⟩ := Generator.exists_of_generates hgenerates
  obtain ⟨record, type, _, hdeclare, hemit, hsound⟩ :=
    generated_type_has_sound_names hresult hgenerated
  exact ⟨result, generated, record, type, hresult, hgenerated, hdeclare, hemit, hsound⟩

end RecordSmith
