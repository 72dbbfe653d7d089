import Mathlib.Data.List.Nodup
import RecordSmith.Proofs.Batch.Store

/-!
# Results stored side by side

Results are stored once for each artifact name, while files are told apart by the
places that paths lead to.  Storing keeps the first source text of every file exactly
if artifacts with different names have different places, which they have as long as
no name holds a slash.
-/

namespace RecordSmith

namespace Path

/-- A file name without slashes leads one step inward. -/
theorem place_ofText_of_no_separator {name : Text} (hslash : separator ∉ name)
    (hlong : 2 < name.length) (working : Location) :
    (ofText name).place working = name :: working := by
  have hfree : ∀ c ∈ name, (c == separator) = false :=
    fun c hc => beq_false_of_ne fun heq => hslash (heq ▸ hc)
  have hlength : ∀ other : Text, other.length ≤ 2 → name ≠ other := by
    rintro other hshort rfl
    exact absurd hlong (Nat.not_lt_of_le hshort)
  have hnil : name ≠ [] := hlength [] (by decide)
  have hhere : name ≠ here := hlength here (by decide)
  have hroot : rootOf name = [] := rootOf_append hslash []
  have hnames : (ofText name).names = [name] := by
    rw [ofText, Text.splitOn_of_free hfree, List.filter_cons_of_pos (by simp [hnil, hhere])]
    rfl
  rw [place, hnames, Location.walk_singleton (hlength up (by decide)), start, isAbsolute,
    ofText, hroot]
  rfl

end Path

namespace Batch

/-! ## The artifacts of results -/

/-- The source texts among results, in order. -/
def sources (results : List GenerationResult) : List Generated :=
  results.filterMap (·.generated)

section Artifacts

variable {seen : List Text} {results : List GenerationResult}

theorem artifacts_cons_none {result : GenerationResult} (h : result.generated = none) :
    artifacts seen (result :: results) = artifacts seen results := by
  rw [artifacts, h]

theorem artifacts_cons_seen {result : GenerationResult} {generated : Generated}
    (h : result.generated = some generated) (hseen : generated.artifactName ∈ seen) :
    artifacts seen (result :: results) = artifacts seen results := by
  rw [artifacts, h]
  exact if_pos (List.contains_iff_mem.mpr hseen)

theorem artifacts_cons_new {result : GenerationResult} {generated : Generated}
    (h : result.generated = some generated) (hnew : generated.artifactName ∉ seen) :
    artifacts seen (result :: results) =
      generated :: artifacts (generated.artifactName :: seen) results := by
  rw [artifacts, h]
  exact if_neg fun hcontains => hnew (List.contains_iff_mem.mp hcontains)

/-- Artifacts have different names, none of which was seen before. -/
theorem names_artifacts (seen : List Text) (results : List GenerationResult) :
    ((artifacts seen results).map (·.artifactName)).Nodup ∧
      ∀ generated ∈ artifacts seen results, generated.artifactName ∉ seen := by
  induction results generalizing seen with
  | nil => exact ⟨List.nodup_nil, fun _ hmem => nomatch hmem⟩
  | cons result rest ih =>
      cases hresult : result.generated with
      | none =>
          rw [artifacts_cons_none hresult]
          exact ih seen
      | some first =>
          by_cases hseen : first.artifactName ∈ seen
          · rw [artifacts_cons_seen hresult hseen]
            exact ih seen
          · rw [artifacts_cons_new hresult hseen]
            obtain ⟨hnodup, hnew⟩ := ih (first.artifactName :: seen)
            constructor
            · rw [List.map_cons, List.nodup_cons]
              refine ⟨fun hmem => ?_, hnodup⟩
              obtain ⟨generated, hgenerated, hname⟩ := List.mem_map.mp hmem
              exact hnew generated hgenerated (hname ▸ List.mem_cons_self)
            · intro generated hmem
              rcases List.mem_cons.mp hmem with rfl | hrest
              · exact hseen
              · exact List.not_mem_of_not_mem_cons (hnew generated hrest)

/-- Every name that was not seen before has its artifact. -/
theorem exists_artifact {generated : Generated} (hmem : generated ∈ sources results)
    (hnew : generated.artifactName ∉ seen) :
    ∃ artifact ∈ artifacts seen results, artifact.artifactName = generated.artifactName := by
  induction results generalizing seen with
  | nil => cases hmem
  | cons result rest ih =>
      cases hresult : result.generated with
      | none =>
          rw [sources, List.filterMap_cons_none hresult] at hmem
          rw [artifacts_cons_none hresult]
          exact ih hmem hnew
      | some first =>
          rw [sources, List.filterMap_cons_some hresult, List.mem_cons] at hmem
          by_cases hseen : first.artifactName ∈ seen
          · have hne : generated ≠ first := by
              rintro rfl
              exact hnew hseen
            rw [artifacts_cons_seen hresult hseen]
            exact ih (hmem.resolve_left hne) hnew
          · rw [artifacts_cons_new hresult hseen]
            by_cases hname : generated.artifactName = first.artifactName
            · exact ⟨first, List.mem_cons_self, hname.symm⟩
            · have hne : generated ≠ first := by
                rintro rfl
                exact hname rfl
              obtain ⟨artifact, hartifact, heq⟩ :=
                ih (hmem.resolve_left hne) (List.not_mem_cons_of_ne_of_not_mem hname hnew)
              exact ⟨artifact, List.mem_cons_of_mem first hartifact, heq⟩

/-- An artifact is the first source text of its name. -/
theorem find?_name_of_mem_artifacts {artifact : Generated}
    (hmem : artifact ∈ artifacts seen results) :
    (sources results).find? (·.artifactName == artifact.artifactName) = some artifact := by
  induction results generalizing seen with
  | nil => cases hmem
  | cons result rest ih =>
      cases hresult : result.generated with
      | none =>
          rw [artifacts_cons_none hresult] at hmem
          rw [sources, List.filterMap_cons_none hresult]
          exact ih hmem
      | some first =>
          have hnotSeen := (names_artifacts seen (result :: rest)).2 artifact hmem
          rw [sources, List.filterMap_cons_some hresult]
          by_cases hseen : first.artifactName ∈ seen
          · have hne : first.artifactName ≠ artifact.artifactName :=
              fun heq => hnotSeen (heq ▸ hseen)
            rw [artifacts_cons_seen hresult hseen] at hmem
            rw [List.find?_cons_of_neg (by simpa using hne)]
            exact ih hmem
          · rw [artifacts_cons_new hresult hseen] at hmem
            rcases List.mem_cons.mp hmem with rfl | hrest
            · exact List.find?_cons_of_pos (beq_self_eq_true _)
            · have hfirst := (names_artifacts (first.artifactName :: seen) rest).2 artifact hrest
              have hne : first.artifactName ≠ artifact.artifactName :=
                (List.ne_of_not_mem_cons hfirst).symm
              rw [List.find?_cons_of_neg (by simpa using hne)]
              exact ih hrest

theorem mem_sources_of_mem_artifacts {artifact : Generated}
    (hmem : artifact ∈ artifacts seen results) : artifact ∈ sources results := by
  obtain ⟨result, hresult, hgenerated⟩ := exists_of_mem_artifacts hmem
  exact List.mem_filterMap.mpr ⟨result, hresult, hgenerated⟩

end Artifacts

/-! ## What is in the files -/

section Stores

variable {directory : Path} {tree after : FileTree}

/-- One source text that has been stored is at its place. -/
theorem store_eq_ok {generated : Generated} {path : Path}
    (h : (store directory generated).run tree = (.ok path, after)) :
    path = artifactPath directory generated ∧
      ∃ content, Text.toUtf8? generated.source = some content ∧
        after.file? (placeOf directory tree.workingDirectory generated) = some content := by
  rw [store] at h
  obtain ⟨_, between, hdirectories, hrest⟩ := FileAction.run_bind_eq_ok h
  obtain ⟨_, last, hwrite, hpath⟩ := FileAction.run_bind_eq_ok hrest
  cases hpath
  have hcontent := FileAction.file?_of_writeText hwrite
  rw [(FileAction.makeDirectories_unchanged hdirectories).1] at hcontent
  exact ⟨rfl, hcontent⟩

/-- Source texts that have been stored at different places are all there. -/
theorem stores_eq_ok {items : List Generated} {paths : List Path}
    (h : (items.mapM (store directory)).run tree = (.ok paths, after)) :
    paths = items.map (artifactPath directory) ∧
      ((items.map (placeOf directory tree.workingDirectory)).Nodup →
        ∀ generated ∈ items, ∃ content, Text.toUtf8? generated.source = some content ∧
          after.file? (placeOf directory tree.workingDirectory generated) = some content) := by
  induction items generalizing tree paths with
  | nil =>
      cases h
      exact ⟨rfl, fun _ _ hmem => nomatch hmem⟩
  | cons item rest ih =>
      rw [List.mapM_cons] at h
      obtain ⟨path, between, hstore, hnext⟩ := FileAction.run_bind_eq_ok h
      obtain ⟨others, last, hrest, hlast⟩ := FileAction.run_bind_eq_ok hnext
      cases hlast
      obtain ⟨rfl, content, hsource, hfile⟩ := store_eq_ok hstore
      have hworking : between.workingDirectory = tree.workingDirectory := by
        have hchanged := changesOnly_store directory item tree rfl
        rw [hstore] at hchanged
        exact hchanged.1
      obtain ⟨rfl, hothers⟩ := ih hrest
      rw [hworking] at hothers
      refine ⟨rfl, fun hnodup => List.forall_mem_cons.mpr ⟨?_, ?_⟩⟩
      · -- The texts that are stored later have other places.
        rw [List.map_cons, List.nodup_cons] at hnodup
        have hunchanged := changesOnly_stores directory rest between hworking
        rw [hrest] at hunchanged
        refine ⟨content, hsource, ?_⟩
        rw [hunchanged.2, hfile]
        rintro ⟨later, hlater, hplace⟩
        exact hnodup.1 (List.mem_map.mpr ⟨later, hlater, hplace.symm⟩)
      · exact hothers (List.nodup_cons.mp hnodup).2

end Stores

/-! ## Files that keep their first source text -/

/-- The first source text among results that belongs at a place. -/
def firstAt (directory : Path) (working : Location) (results : List GenerationResult)
    (location : Location) : Option Generated :=
  (sources results).find? fun generated => placeOf directory working generated == location

/-- Storing results has overwritten nothing of its own: the paths lead to different
places, each with the first source text that belongs there, every source text has its
path, and no other file has changed. -/
structure KeepsFirst (directory : Path) (results : List GenerationResult)
    (tree after : FileTree) (paths : List Path) : Prop where
  distinct : (paths.map (·.place tree.workingDirectory)).Nodup
  holdsFirst : ∀ path ∈ paths, ∃ generated content,
    firstAt directory tree.workingDirectory results (path.place tree.workingDirectory) =
      some generated ∧
    Text.toUtf8? generated.source = some content ∧
    after.file? (path.place tree.workingDirectory) = some content
  listed : ∀ generated ∈ sources results, artifactPath directory generated ∈ paths
  unchanged : ∀ location, location ∉ paths.map (·.place tree.workingDirectory) →
    after.file? location = tree.file? location

/-- Source texts with different artifact names have different places. -/
def PlacesDiffer (directory : Path) (working : Location)
    (results : List GenerationResult) : Prop :=
  ∀ generated ∈ sources results, ∀ other ∈ sources results,
    placeOf directory working generated = placeOf directory working other →
      generated.artifactName = other.artifactName

instance (directory : Path) (working : Location) (results : List GenerationResult) :
    Decidable (PlacesDiffer directory working results) :=
  inferInstanceAs (Decidable (∀ generated ∈ sources results, ∀ other ∈ sources results, _ → _))

section KeepsFirst

variable {directory : Path} {working : Location} {results : List GenerationResult}

theorem artifactPath_eq_of_name {generated other : Generated}
    (hname : generated.artifactName = other.artifactName) :
    artifactPath directory generated = artifactPath directory other := by
  rw [artifactPath, artifactPath, hname]

theorem placeOf_eq_of_name {generated other : Generated}
    (hname : generated.artifactName = other.artifactName) :
    placeOf directory working generated = placeOf directory working other := by
  rw [placeOf, placeOf, artifactPath_eq_of_name hname]

/-- File names without slashes have places of their own. -/
theorem placesDiffer_of_no_separator
    (hslash : ∀ generated ∈ sources results, Path.separator ∉ generated.artifactName)
    (hlong : ∀ generated ∈ sources results, 2 < generated.artifactName.length) :
    PlacesDiffer directory working results := by
  have hplace : ∀ generated ∈ sources results, placeOf directory working generated =
      generated.artifactName :: directory.place working := by
    intro generated hmem
    rw [placeOf, artifactPath, Path.place_join]
    exact Path.place_ofText_of_no_separator (hslash generated hmem) (hlong generated hmem) _
  intro generated hgenerated other hother heq
  rw [hplace generated hgenerated, hplace other hother] at heq
  exact (List.cons.inj heq).1

/-- Under the default settings places differ as long as no namespace holds a slash. -/
theorem placesDiffer_of_standard (hresults : ∀ result ∈ results, IsStandard result)
    (hspaces : ∀ result ∈ results, ∀ generated type, IsSourceOf result generated type →
      Path.separator ∉ type.space) : PlacesDiffer directory working results := by
  have hnames : ∀ generated ∈ sources results, Path.separator ∉ generated.artifactName ∧
      2 < generated.artifactName.length := by
    intro generated hmem
    obtain ⟨result, hresult, hgenerated⟩ := List.mem_filterMap.mp hmem
    obtain ⟨type, hsource⟩ := exists_isSourceOf (hresults result hresult) hgenerated
    obtain ⟨ending, hname, hslash, hlong⟩ := hsource.artifactName_eq
    rw [hname, List.mem_append, List.length_append]
    exact ⟨fun hmem => hmem.elim (hspaces result hresult generated type hsource) hslash,
      Nat.lt_of_lt_of_le hlong (Nat.le_add_left _ _)⟩
  apply placesDiffer_of_no_separator
  · exact fun generated hmem => (hnames generated hmem).1
  · exact fun generated hmem => (hnames generated hmem).2

theorem nodup_places_artifacts (hdiffer : PlacesDiffer directory working results) :
    ((artifacts [] results).map (placeOf directory working)).Nodup := by
  have hnames := (names_artifacts [] results).1
  rw [List.Nodup, List.pairwise_map] at hnames ⊢
  apply hnames.imp_of_mem
  intro generated other hgenerated hother hne heq
  exact hne (hdiffer generated (mem_sources_of_mem_artifacts hgenerated) other
    (mem_sources_of_mem_artifacts hother) heq)

/-- If places differ, the first source text at the place of an artifact is the
artifact. -/
theorem firstAt_of_mem_artifacts (hdiffer : PlacesDiffer directory working results)
    {artifact : Generated} (hmem : artifact ∈ artifacts [] results) :
    firstAt directory working results (placeOf directory working artifact) =
      some artifact := by
  rw [firstAt, ← find?_name_of_mem_artifacts hmem, ← List.head?_filter, ← List.head?_filter]
  apply congrArg List.head?
  apply List.filter_congr
  intro generated hgenerated
  rw [Bool.eq_iff_iff, beq_iff_eq, beq_iff_eq]
  exact ⟨hdiffer generated hgenerated artifact (mem_sources_of_mem_artifacts hmem),
    placeOf_eq_of_name⟩

variable {tree after : FileTree} {paths : List Path}

/-- Storing results overwrites nothing of its own if and only if artifacts with
different names have different places. -/
theorem storeAll_keepsFirst_iff
    (hstored : (storeAll directory results).run tree = (.ok paths, after)) :
    KeepsFirst directory results tree after paths ↔
      PlacesDiffer directory tree.workingDirectory results := by
  rw [storeAll] at hstored
  obtain ⟨_, between, hdirectories, hstores⟩ := FileAction.run_bind_eq_ok hstored
  obtain ⟨hworking, hbefore⟩ := FileAction.makeDirectories_unchanged hdirectories
  obtain ⟨rfl, hcontents⟩ := stores_eq_ok hstores
  obtain ⟨_, hafter⟩ := changesOnly_stores directory (artifacts [] results) between hworking
  rw [hworking] at hcontents
  rw [hstores] at hafter
  have hplaces : ((artifacts [] results).map (artifactPath directory)).map
      (·.place tree.workingDirectory) =
        (artifacts [] results).map (placeOf directory tree.workingDirectory) :=
    List.map_map
  constructor
  · intro hkeeps generated hgenerated other hother hplace
    obtain ⟨first, hfirst, hfirstName⟩ := exists_artifact hgenerated List.not_mem_nil
    obtain ⟨second, hsecond, hsecondName⟩ := exists_artifact hother List.not_mem_nil
    have hdistinct := hkeeps.distinct
    rw [hplaces] at hdistinct
    have hsame : first = second := by
      apply List.inj_on_of_nodup_map hdistinct hfirst hsecond
      rw [placeOf_eq_of_name hfirstName, placeOf_eq_of_name hsecondName, hplace]
    rw [← hfirstName, ← hsecondName, hsame]
  · intro hdiffer
    have hnodup := nodup_places_artifacts hdiffer
    constructor
    · rw [hplaces]
      exact hnodup
    · intro path hpath
      obtain ⟨artifact, hartifact, rfl⟩ := List.mem_map.mp hpath
      obtain ⟨content, hsource, hfile⟩ := hcontents hnodup artifact hartifact
      exact ⟨artifact, content, firstAt_of_mem_artifacts hdiffer hartifact, hsource, hfile⟩
    · intro generated hgenerated
      obtain ⟨artifact, hartifact, hname⟩ := exists_artifact hgenerated List.not_mem_nil
      rw [← artifactPath_eq_of_name hname]
      exact List.mem_map_of_mem hartifact
    · intro location hlocation
      rw [hplaces] at hlocation
      rw [hafter location, hbefore location]
      rintro ⟨artifact, hartifact, rfl⟩
      exact hlocation (List.mem_map_of_mem hartifact)

end KeepsFirst

/-- A record of one field in some namespace. -/
def fieldRecord (space field : String) : Schema.Document where
  name := "user"
  content :=
    ["\x7b\"type\": \"record\", ", "\"name\": \"User\", ", "\"namespace\": \"", space, "\", ",
      "\"fields\": [", "\x7b\"name\": \"", field, "\", ",
      "\"type\": \"string\"\x7d]\x7d"].flatMap Text.ofString

/-- The results of records, if there are any, can be stored, and `p` holds of the
results and the paths. -/
def storesWith (documents : List Schema.Document)
    (p : List GenerationResult → List Path → Bool) : Bool :=
  ((Generator.standard .csharp).generateAll documents).toOption.any fun results =>
    ((storeAll (Path.ofText "out") results).run emptyWorkplace).1.toOption.any (p results)

theorem exists_of_storesWith {documents : List Schema.Document}
    {p : List GenerationResult → List Path → Bool} (h : storesWith documents p = true) :
    ∃ results paths after, (Generator.standard .csharp).generateAll documents = .ok results ∧
      (storeAll (Path.ofText "out") results).run emptyWorkplace = (.ok paths, after) ∧
      p results paths = true := by
  obtain ⟨results, hresults, hstores⟩ := Fallible.exists_of_any h
  obtain ⟨paths, hpaths, hp⟩ := Fallible.exists_of_any hstores
  exact ⟨results, paths, _, hresults, Prod.ext hpaths rfl, hp⟩

/-- Of two sources for one name the first is kept beside that of another name. -/
theorem repeatedName_keepsFirst :
    ∃ results paths after,
      (Generator.standard .csharp).generateAll
        [fieldRecord "a" "id", fieldRecord "a" "key", fieldRecord "b" "id"] = .ok results ∧
      (storeAll (Path.ofText "out") results).run emptyWorkplace = (.ok paths, after) ∧
      paths.length = 2 ∧
      KeepsFirst (Path.ofText "out") results emptyWorkplace after paths := by
  have hstores : storesWith [fieldRecord "a" "id", fieldRecord "a" "key", fieldRecord "b" "id"]
      (fun results paths => paths.length == 2 &&
        decide (PlacesDiffer (Path.ofText "out") ["work"] results)) = true := by
    decide +kernel
  obtain ⟨results, paths, after, hresults, hrun, hboth⟩ := exists_of_storesWith hstores
  rw [Bool.and_eq_true, beq_iff_eq, decide_eq_true_eq] at hboth
  exact ⟨results, paths, after, hresults, hrun, hboth.1,
    (storeAll_keepsFirst_iff hrun).mpr hboth.2⟩

/-- Two namespaces whose artifacts have different names but one place: the second
source overwrites the first. -/
theorem respelledNamespace_not_keepsFirst :
    ∃ results paths after,
      (Generator.standard .csharp).generateAll
        [fieldRecord "a" "id", fieldRecord "./a" "key"] = .ok results ∧
      (storeAll (Path.ofText "out") results).run emptyWorkplace = (.ok paths, after) ∧
      ¬KeepsFirst (Path.ofText "out") results emptyWorkplace after paths := by
  have hstores : storesWith [fieldRecord "a" "id", fieldRecord "./a" "key"]
      (fun _ paths => !decide (paths.map (·.place ["work"])).Nodup) = true := by
    decide +kernel
  obtain ⟨results, paths, after, hresults, hrun, hsame⟩ := exists_of_storesWith hstores
  rw [Bool.not_eq_true', decide_eq_false_iff_not] at hsame
  exact ⟨results, paths, after, hresults, hrun, fun hkeeps => hsame hkeeps.distinct⟩

end Batch

end RecordSmith
