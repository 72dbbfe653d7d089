import RecordSmith.Batch.Generate
import RecordSmith.Batch.Store
import RecordSmith.Proofs.Files.Tree
import RecordSmith.Proofs.Generation.Declare
import RecordSmith.Proofs.Generator.Standard

/-!
# Where results are stored

Storing results changes no file but those at the places of their artifacts.  The
place of an artifact is below the directory that it is stored in as long as the
namespace of its type stays in that directory: a namespace is free text in which
slashes are kept, so that it may be absolute or lead outward.
-/

namespace RecordSmith

namespace Generator

/-- What stands behind the namespace in the name of an artifact. -/
def fileEnding (target : Target) (typeName : Text) : Text :=
  "." ++ typeName ++ ".g" ++ target.extension

theorem artifactName_standard (target : Target) (space typeName : Text) :
    (standard target).artifactName space typeName = space ++ fileEnding target typeName := by
  have hmarker : (standard target).settings.artifactMarker = .text "g" := by
    cases target with
    | csharp => rfl
    | python => rfl
  rw [artifactName, hmarker, standard_target, fileEnding]
  simp only [List.append_assoc]
  rfl

/-- Slashes are in no identifier. -/
theorem isRemoved_separator : Identifier.IsRemoved Path.separator where
  casing := by decide +kernel
  not_alphanumeric := by decide +kernel
  ne_lowLine := by decide
  ne_hyphen := by decide
  not_mem_fallback := by decide
  not_mem_snake_fallback := by decide +kernel

theorem separator_not_mem_fileEnding (target : Target) {typeName : Text}
    (hname : Path.separator ∉ typeName) : Path.separator ∉ fileEnding target typeName := by
  have hends : Path.separator ∉ Text.ofString "." ∧ Path.separator ∉ Text.ofString ".g" ∧
      Path.separator ∉ target.extension := by
    cases target with
    | csharp => decide
    | python => decide
  simp only [fileEnding, List.mem_append, not_or]
  exact ⟨⟨⟨hends.1, hname⟩, hends.2.1⟩, hends.2.2⟩

theorem two_lt_length_fileEnding (target : Target) (typeName : Text) :
    2 < (fileEnding target typeName).length := by
  simp only [fileEnding, List.length_append]
  change 2 < 1 + typeName.length + 2 + target.extension.length
  omega

end Generator

/-! ## What storing changes -/

namespace Batch

/-- The place at which a source text is stored. -/
def placeOf (directory : Path) (working : Location) (generated : Generated) : Location :=
  (artifactPath directory generated).place working

section Changes

variable {working : Location} {directory : Path}

theorem exists_of_mem_artifacts {seen : List Text} {results : List GenerationResult}
    {generated : Generated} (hmem : generated ∈ artifacts seen results) :
    ∃ result ∈ results, result.generated = some generated := by
  induction results generalizing seen with
  | nil => cases hmem
  | cons result rest ih =>
      have hlater : ∀ {seen : List Text}, generated ∈ artifacts seen rest →
          ∃ result' ∈ result :: rest, result'.generated = some generated := by
        intro seen hrest
        obtain ⟨other, hother, heq⟩ := ih hrest
        exact ⟨other, List.mem_cons_of_mem result hother, heq⟩
      rw [artifacts] at hmem
      split at hmem
      case h_1 => exact hlater hmem
      case h_2 first hfirst =>
        split at hmem
        · exact hlater hmem
        · rcases List.mem_cons.mp hmem with rfl | hrest
          · exact ⟨result, List.mem_cons_self, hfirst⟩
          · exact hlater hrest

theorem changesOnly_store (directory : Path) (generated : Generated) :
    FileAction.ChangesOnly working (· = placeOf directory working generated)
      (store directory generated) := by
  rw [store]
  apply (FileAction.changesOnly_makeDirectories _).bind
  intro _
  apply (FileAction.changesOnly_writeText _ _).bind
  intro _
  exact FileAction.ChangesOnly.pure _

/-- Storing source texts one after another changes their places only. -/
theorem changesOnly_stores (directory : Path) (items : List Generated) :
    FileAction.ChangesOnly working
      (fun location => ∃ generated ∈ items, location = placeOf directory working generated)
      (items.mapM (store directory)) := by
  apply FileAction.ChangesOnly.mapM
  intro generated hmem
  apply (changesOnly_store directory generated).mono
  intro location hlocation
  exact ⟨generated, hmem, hlocation⟩

/-- Only the places of the artifacts change, whether all of them are stored or not. -/
theorem changesOnly_storeAll (directory : Path) (results : List GenerationResult) :
    FileAction.ChangesOnly working
      (fun location => ∃ result ∈ results, ∃ generated,
        result.generated = some generated ∧ location = placeOf directory working generated)
      (storeAll directory results) := by
  rw [storeAll]
  apply (FileAction.changesOnly_makeDirectories _).bind
  intro _
  apply (changesOnly_stores directory (artifacts [] results)).mono
  rintro location ⟨generated, hmem, hlocation⟩
  obtain ⟨result, hresult, hgenerated⟩ := exists_of_mem_artifacts hmem
  exact ⟨result, hresult, generated, hgenerated, hlocation⟩

end Changes

/-! ## Namespaces that stay in a directory -/

/-- The directories of a namespace lead from a place to a place that is in it. -/
def StaysIn (around : Location) (space : Text) : Prop :=
  around <:+ Location.walk ((Path.ofText space).start around) (Path.directoriesOf space)

/-- A relative namespace without a directory called `..` stays in every place. -/
theorem staysIn_of_inward {space : Text} (hrelative : (Path.ofText space).isAbsolute = false)
    (hinward : Path.up ∉ Path.directoriesOf space) (around : Location) :
    StaysIn around space := by
  rw [StaysIn, Path.start, hrelative]
  exact Location.suffix_walk hinward around

/-- A namespace without slashes stays in every place. -/
theorem staysIn_of_no_separator {space : Text} (hslash : Path.separator ∉ space)
    (around : Location) : StaysIn around space := by
  have hfree : ∀ c ∈ space, (c == Path.separator) = false :=
    fun c hc => beq_false_of_ne fun heq => hslash (heq ▸ hc)
  have hroot : Path.rootOf space = [] := Path.rootOf_append hslash []
  apply staysIn_of_inward
  · rw [Path.isAbsolute, Path.ofText, hroot]
    rfl
  · rw [Path.directoriesOf, Text.splitOn_of_free hfree]
    exact List.not_mem_nil

/-- The result of some document under the default settings of a language. -/
def IsStandard (result : GenerationResult) : Prop :=
  ∃ target document, (Generator.standard target).generateReporting document = .ok result

/-- The source text of a type, with the result that it belongs to. -/
def IsSourceOf (result : GenerationResult) (generated : Generated) (type : TypeDeclaration) :
    Prop :=
  result.generated = some generated ∧
    ∃ target record, (Generator.standard target).declare record = .ok type ∧
      (Generator.standard target).emit record type = .ok generated

theorem exists_isSourceOf {result : GenerationResult} {generated : Generated}
    (hresult : IsStandard result) (hgenerated : result.generated = some generated) :
    ∃ type, IsSourceOf result generated type := by
  obtain ⟨target, document, hreporting⟩ := hresult
  obtain ⟨record, type, _, hdeclare, hemit⟩ :=
    Generator.exists_declare_of_generated
      (Generator.generate_of_generateReporting hreporting hgenerated) hgenerated
  exact ⟨type, hgenerated, target, record, hdeclare, hemit⟩

/-- The artifact of a type is called like its namespace with a file name behind it. -/
theorem IsSourceOf.artifactName_eq {result : GenerationResult} {generated : Generated}
    {type : TypeDeclaration} (h : IsSourceOf result generated type) :
    ∃ ending, generated.artifactName = type.space ++ ending ∧
      Path.separator ∉ ending ∧ 2 < ending.length := by
  obtain ⟨_, target, record, hdeclare, hemit⟩ := h
  obtain ⟨spelling, htypeName⟩ := Generator.declare_typeName hdeclare
  have hname : Path.separator ∉ type.typeName := by
    rw [htypeName]
    exact NamePool.not_mem_wanted Generator.isRemoved_separator _ _ _
  refine ⟨Generator.fileEnding target type.typeName, ?_,
    Generator.separator_not_mem_fileEnding target hname,
    Generator.two_lt_length_fileEnding target type.typeName⟩
  rw [Generator.emit_artifactName hemit, Generator.artifactName_standard]

/-- A source text is stored below the directory if the namespace stays in it. -/
theorem isBelow_placeOf_iff {result : GenerationResult} {generated : Generated}
    {type : TypeDeclaration} (h : IsSourceOf result generated type) (directory : Path)
    (working : Location) :
    Location.IsBelow (directory.place working) (placeOf directory working generated) ↔
      StaysIn (directory.place working) type.space := by
  obtain ⟨ending, hartifact, hslash, hlong⟩ := h.artifactName_eq
  -- No slash follows behind the namespace, so that it alone says where the path leads.
  obtain ⟨name, hplace⟩ := Path.place_ofText_append hslash hlong type.space
    (directory.place working)
  rw [placeOf, artifactPath, Path.place_join, hartifact, hplace, StaysIn]
  exact Location.isBelow_cons

/-- Storing changes files below the directory only, if and only if the namespaces
of the source texts that have been stored stay in the directory. -/
theorem stored_below_iff (directory : Path) {results : List GenerationResult}
    (hresults : ∀ result ∈ results, IsStandard result) (tree : FileTree) :
    (∀ location,
        ((storeAll directory results).run tree).2.file? location ≠ tree.file? location →
        Location.IsBelow (directory.place tree.workingDirectory) location) ↔
      ∀ result ∈ results, ∀ generated type, IsSourceOf result generated type →
        ((storeAll directory results).run tree).2.file?
            (placeOf directory tree.workingDirectory generated) ≠
          tree.file? (placeOf directory tree.workingDirectory generated) →
        StaysIn (directory.place tree.workingDirectory) type.space := by
  constructor
  · intro hbelow result _ generated type hsource hchanged
    exact (isBelow_placeOf_iff hsource directory _).mp (hbelow _ hchanged)
  · intro hstays location hchanged
    obtain ⟨_, hfiles⟩ := changesOnly_storeAll directory results tree rfl
    obtain ⟨result, hresult, generated, hgenerated, rfl⟩ :=
      Classical.not_not.mp (mt (hfiles location) hchanged)
    obtain ⟨type, hsource⟩ := exists_isSourceOf (hresults result hresult) hgenerated
    exact (isBelow_placeOf_iff hsource directory _).mpr
      (hstays result hresult generated type hsource hchanged)

/-- A record whose namespace leads to the directory around. -/
def outwardNamespace : Schema.Document where
  name := "outward"
  content :=
    ["\x7b\"type\": \"record\", ", "\"name\": \"User\", ", "\"namespace\": \"../a\", ",
      "\"fields\": [", "\x7b\"name\": \"id\", ", "\"type\": \"string\"\x7d]\x7d"].flatMap
      Text.ofString

/-- A tree with nothing but the working directory. -/
def emptyWorkplace : FileTree where
  nodes := [(["work"], .directory)]
  workingDirectory := ["work"]

theorem outwardNamespace_stored_below_iff :
    ∃ result, result.success = true ∧
      ((∀ location,
          ((storeAll (Path.ofText "out") [result]).run emptyWorkplace).2.file? location ≠
            emptyWorkplace.file? location →
          Location.IsBelow ["out", "work"] location) ↔
        ∀ generated type, IsSourceOf result generated type →
          ((storeAll (Path.ofText "out") [result]).run emptyWorkplace).2.file?
              (placeOf (Path.ofText "out") ["work"] generated) ≠
            emptyWorkplace.file? (placeOf (Path.ofText "out") ["work"] generated) →
          StaysIn ["out", "work"] type.space) := by
  have hreports : ((Generator.standard .csharp).generateReporting outwardNamespace).toOption.any
      (·.success) = true := by decide +kernel
  obtain ⟨result, hresult, hsuccess⟩ := Fallible.exists_of_any hreports
  have hiff := @stored_below_iff (Path.ofText "out") [result]
    (fun _ hmem => List.mem_singleton.mp hmem ▸ ⟨.csharp, outwardNamespace, hresult⟩)
    emptyWorkplace
  rw [List.forall_mem_singleton] at hiff
  exact ⟨result, hsuccess, hiff⟩

/-- The source text of such a record is stored outside of the directory. -/
theorem outwardNamespace_stored_outside :
    ∃ result, (Generator.standard .csharp).generateReporting outwardNamespace = .ok result ∧
      ∃ location,
        ((storeAll (Path.ofText "out") [result]).run emptyWorkplace).2.file? location ≠
          emptyWorkplace.file? location ∧
        ¬Location.IsBelow ((Path.ofText "out").place emptyWorkplace.workingDirectory)
          location := by
  have hreports : ((Generator.standard .csharp).generateReporting outwardNamespace).toOption.any
      (fun result => (((storeAll (Path.ofText "out") [result]).run emptyWorkplace).2.file?
        ["A.User.g.cs", "work"]).isSome) = true := by decide +kernel
  obtain ⟨result, hresult, hstored⟩ := Fallible.exists_of_any hreports
  refine ⟨result, hresult, ["A.User.g.cs", "work"], ?_, by decide⟩
  intro heq
  rw [heq] at hstored
  cases hstored

end Batch

end RecordSmith
