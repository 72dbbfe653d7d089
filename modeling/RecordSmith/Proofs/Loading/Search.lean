import RecordSmith.Loading.Documents
import RecordSmith.Proofs.Files.Below

/-!
# Which schema files are found

The schema files at paths are found by their places alone: what comes of a search is the increasing
list of the given files, and of the files at any depth below the given directories, that have a
schema suffix.  A search has no result if a path leads nowhere, which is reported, or is too long
for the system.  The second can also happen to a path that is met below a directory.
-/

namespace RecordSmith

namespace Loading

/-- A file with a schema suffix stands at the path itself, or names lead to it inward from there. -/
inductive IsSchemaAt (files : FileTree) (suffixes : List Text) (path : Path) : Path → Prop where
  | itself {content : Bytes} (hfile : files.node path = .ok (.file content))
      (hsuffix : hasSchemaSuffix path.toText suffixes = true) : IsSchemaAt files suffixes path path
  | below {around : Location} {names : List Text} {content : Bytes}
      (hpath : files.locate path = .ok around)
      (hinward : files.LeadsInward around names (.file content))
      (hsuffix : hasSchemaSuffix (path.join { names }).toText suffixes = true) :
      IsSchemaAt files suffixes path (path.join { names })

/-- Something is at the path, and all paths to what lies below it are short enough. -/
structure IsSearchable (files : FileTree) (path : Path) : Prop where
  has : files.Has path
  fits : ∀ {around : Location} {names : List Text} {node : Node},
    files.locate path = .ok around → files.LeadsInward around names node →
      FileTree.Fits (path.join { names })

/-- Nothing is at the path, and the system can tell. -/
structure IsAbsent (files : FileTree) (path : Path) : Prop where
  not_has : ¬files.Has path
  not_isTooLong : ¬files.IsTooLong path

/-! ## One path -/

section Path

variable {files : FileTree} {suffixes : List Text} {path : Path}

/-- What is kept of a path to a node: the path, if the node is a file and the suffix is right. -/
def keptAt (suffixes : List Text) (path : Path) : Node → List Path
  | .file _ => if hasSchemaSuffix path.toText suffixes then [path] else []
  | .directory => []

theorem mem_keptAt_iff {node : Node} {p : Path} : p ∈ keptAt suffixes path node ↔
    p = path ∧ (∃ content, node = .file content) ∧ hasSchemaSuffix path.toText suffixes = true := by
  cases node with
  | directory =>
      exact iff_of_false List.not_mem_nil fun ⟨_, ⟨content, hfile⟩, _⟩ => nomatch hfile
  | file content =>
      rw [keptAt]
      split
      case isTrue hsuffix =>
        rw [List.mem_singleton]
        exact ⟨fun h => ⟨h, ⟨content, rfl⟩, hsuffix⟩, And.left⟩
      case isFalse hsuffix => exact iff_of_false List.not_mem_nil fun h => hsuffix h.2.2

theorem keepSchema_texts (content : Bytes) :
    keepSchema { texts := suffixes } path = .ok (keptAt suffixes path (.file content)) := by
  rw [keepSchema, isSchemaFile, keptAt]
  cases hasSchemaSuffix path.toText suffixes with
  | true => rfl
  | false => rfl

theorem nodeAt_of_has {node : Node} (hallowed : path.IsAllowed)
    (hnode : files.node path = .ok node) : nodeAt files path = .ok (some node) := by
  rw [nodeAt, FileTree.node?_eq_some_iff.mpr ⟨hallowed, hnode⟩]
  rfl

theorem nodeAt_of_isTooLong (h : files.IsTooLong path) :
    nodeAt files path = .error (.pathUnusable (.fault .nameTooLong path)) := by
  rw [nodeAt, FileTree.node?_eq_error_iff.mpr ⟨h, rfl⟩]
  rfl

theorem nodeAt_of_isAbsent (h : IsAbsent files path) : nodeAt files path = .ok none := by
  rcases hnode : files.node? path with fault | _ | node
  · exact absurd (FileTree.node?_eq_error_iff.mp hnode).1 h.not_isTooLong
  · rw [nodeAt, hnode]
    rfl
  · obtain ⟨hallowed, hfound⟩ := FileTree.node?_eq_some_iff.mp hnode
    exact absurd ⟨hallowed, node, hfound⟩ h.not_has

theorem isTooLong_or_has_or_isAbsent (files : FileTree) (path : Path) :
    files.IsTooLong path ∨ files.Has path ∨ IsAbsent files path := by
  by_cases hlong : files.IsTooLong path
  · exact Or.inl hlong
  · by_cases hhas : files.Has path
    · exact Or.inr (Or.inl hhas)
    · exact Or.inr (Or.inr ⟨hhas, hlong⟩)

theorem not_has_of_isTooLong (h : files.IsTooLong path) : ¬files.Has path := by
  rintro ⟨_, node, hnode⟩
  cases h.2.symm.trans hnode

/-- Below a file nothing is found. -/
theorem not_leadsInward_of_file (hfiles : files.WellFormed) {content : Bytes}
    (hfile : files.node path = .ok (.file content)) {around : Location} {names : List Text}
    {node : Node} (hpath : files.locate path = .ok around) :
    ¬files.LeadsInward around names node := by
  intro hinward
  rw [FileTree.node, hpath] at hfile
  dsimp only [bind, Except.bind] at hfile
  rw [hfiles.directory_of_leadsInward hinward] at hfile
  cases hfile

/-- What comes of a path below a directory: an answer, unless the path is too long. -/
theorem keepSchemaFile_join (hfiles : files.WellFormed) (hallowed : path.IsAllowed)
    {around : Location} (hpath : files.locate path = .ok around) {names : List Text} {node : Node}
    (hinward : files.LeadsInward around names node) :
    keepSchemaFile files { texts := suffixes } (path.join { names }) =
      if FileTree.Fits (path.join { names }) then .ok (keptAt suffixes (path.join { names }) node)
      else .error (.pathUnusable (.fault .nameTooLong (path.join { names }))) := by
  have hnode := hfiles.node_join hpath hinward
  have hallowedJoin := hfiles.isAllowed_join hallowed hinward
  rw [keepSchemaFile]
  split
  case isTrue hfits =>
    rw [if_pos hfits] at hnode
    rw [nodeAt_of_has hallowedJoin hnode]
    cases node with
    | file content => exact keepSchema_texts content
    | directory => rfl
  case isFalse hfits =>
    rw [if_neg hfits] at hnode
    rw [nodeAt_of_isTooLong ⟨hallowedJoin, hnode⟩]
    rfl

theorem schemaFiles_of_isTooLong (h : files.IsTooLong path) (suffixes : Suffixes) :
    schemaFiles files suffixes path = .error (.pathUnusable (.fault .nameTooLong path)) := by
  rw [schemaFiles, nodeAt_of_isTooLong h]
  rfl

theorem schemaFiles_of_isAbsent (h : IsAbsent files path) (suffixes : Suffixes) :
    schemaFiles files suffixes path = .error (.pathMissing path) := by
  rw [schemaFiles, nodeAt_of_isAbsent h]
  rfl

theorem schemaFiles_of_file (hallowed : path.IsAllowed) {content : Bytes}
    (hfile : files.node path = .ok (.file content)) :
    schemaFiles files { texts := suffixes } path =
      .ok (keptAt suffixes path (.file content)) := by
  rw [schemaFiles, nodeAt_of_has hallowed hfile]
  exact keepSchema_texts content

theorem schemaFiles_of_directory (hallowed : path.IsAllowed)
    (hdirectory : files.node path = .ok .directory) {around : Location}
    (hpath : files.locate path = .ok around) (suffixes : Suffixes) :
    schemaFiles files suffixes path =
      (((files.nodesBelow around).map fun node => path.join { names := node.1 }).mapM
        (keepSchemaFile files suffixes)).map List.flatten := by
  rw [schemaFiles, nodeAt_of_has hallowed hdirectory]
  dsimp only [bind, Except.bind]
  rw [hpath]
  rfl

theorem isSearchable_of_file (hfiles : files.WellFormed) (hallowed : path.IsAllowed)
    {content : Bytes} (hfile : files.node path = .ok (.file content)) : IsSearchable files path :=
  ⟨⟨hallowed, _, hfile⟩, fun hpath hinward =>
    absurd hinward (not_leadsInward_of_file hfiles hfile hpath)⟩

theorem isSchemaAt_file_iff (hfiles : files.WellFormed) {content : Bytes}
    (hfile : files.node path = .ok (.file content)) {p : Path} :
    IsSchemaAt files suffixes path p ↔ p ∈ keptAt suffixes path (.file content) := by
  rw [mem_keptAt_iff]
  constructor
  · rintro (⟨_, hsuffix⟩ | ⟨hpath, hinward, _⟩)
    · exact ⟨rfl, ⟨content, rfl⟩, hsuffix⟩
    · exact absurd hinward (not_leadsInward_of_file hfiles hfile hpath)
  · rintro ⟨rfl, _, hsuffix⟩
    exact .itself hfile hsuffix

theorem isSchemaAt_directory_iff (hdirectory : files.node path = .ok .directory)
    {around : Location} (hpath : files.locate path = .ok around) {p : Path} :
    IsSchemaAt files suffixes path p ↔ ∃ names node, files.LeadsInward around names node ∧
      p ∈ keptAt suffixes (path.join { names }) node := by
  simp only [mem_keptAt_iff]
  constructor
  · rintro (⟨hfile, _⟩ | ⟨hother, hinward, hsuffix⟩)
    · cases hdirectory.symm.trans hfile
    · cases hpath.symm.trans hother
      exact ⟨_, _, hinward, rfl, ⟨_, rfl⟩, hsuffix⟩
  · rintro ⟨names, _, hinward, rfl, ⟨content, rfl⟩, hsuffix⟩
    exact .below hpath hinward hsuffix

/-- What comes of the search at one path: the schema files there, if it can be searched.  Only an
absent path is reported as missing. -/
def AnswersFor (files : FileTree) (suffixes : List Text) (path : Path) :
    Except LoadError (List Path) → Prop
  | .ok found => IsSearchable files path ∧ ∀ p, p ∈ found ↔ IsSchemaAt files suffixes path p
  | .error error => ¬IsSearchable files path ∧ (error.isMissing = true ↔ IsAbsent files path)

/-- The search below a directory has a result unless it meets a path that is too long. -/
theorem answersFor_directory (hfiles : files.WellFormed) (suffixes : List Text)
    (hallowed : path.IsAllowed) (hdirectory : files.node path = .ok .directory) :
    AnswersFor files suffixes path (schemaFiles files { texts := suffixes } path) := by
  obtain ⟨around, hpath, _⟩ := Fallible.bind_eq_ok_iff.mp hdirectory
  have hhas : files.Has path := ⟨hallowed, _, hdirectory⟩
  have hbelow : ∀ p, p ∈ (files.nodesBelow around).map (fun node => path.join { names := node.1 }) ↔
      ∃ names node, files.LeadsInward around names node ∧ path.join { names } = p := by
    intro p
    rw [List.mem_map, Prod.exists]
    simp only [hfiles.mem_nodesBelow_iff]
  rw [schemaFiles_of_directory hallowed hdirectory hpath]
  generalize (files.nodesBelow around).map (fun node => path.join { names := node.1 }) = paths
    at hbelow ⊢
  rcases hrun : paths.mapM (keepSchemaFile files { texts := suffixes }) with error | results
  · obtain ⟨before, p, after, rfl, _, hfailed⟩ := Fallible.mapM_eq_error_iff.mp hrun
    obtain ⟨names, node, hinward, rfl⟩ :=
      (hbelow p).mp (List.mem_append_right before List.mem_cons_self)
    rw [keepSchemaFile_join hfiles hallowed hpath hinward] at hfailed
    split at hfailed
    case isTrue => cases hfailed
    case isFalse hlong =>
      cases hfailed
      exact ⟨fun h => hlong (h.fits hpath hinward),
        iff_of_false Bool.false_ne_true fun h => h.not_has hhas⟩
  · have hfits : ∀ {names node}, files.LeadsInward around names node →
        FileTree.Fits (path.join { names }) := by
      intro names node hinward
      obtain ⟨_, hkept⟩ := Fallible.exists_mapM_iff.mp ⟨results, hrun⟩ _
        ((hbelow _).mpr ⟨names, node, hinward, rfl⟩)
      rw [keepSchemaFile_join hfiles hallowed hpath hinward] at hkept
      split at hkept
      case isTrue hfits => exact hfits
      case isFalse => cases hkept
    refine ⟨⟨hhas, fun hother hinward => ?_⟩, fun p => ?_⟩
    · cases hpath.symm.trans hother
      exact hfits hinward
    · rw [Fallible.mem_flatten_of_mapM hrun, isSchemaAt_directory_iff hdirectory hpath]
      constructor
      · rintro ⟨_, hmem, found, hkept, hp⟩
        obtain ⟨names, node, hinward, rfl⟩ := (hbelow _).mp hmem
        rw [keepSchemaFile_join hfiles hallowed hpath hinward, if_pos (hfits hinward)] at hkept
        cases hkept
        exact ⟨names, node, hinward, hp⟩
      · rintro ⟨names, node, hinward, hp⟩
        refine ⟨_, (hbelow _).mpr ⟨names, node, hinward, rfl⟩, _, ?_, hp⟩
        rw [keepSchemaFile_join hfiles hallowed hpath hinward, if_pos (hfits hinward)]

theorem answersFor_schemaFiles (hfiles : files.WellFormed) (suffixes : List Text) (path : Path) :
    AnswersFor files suffixes path (schemaFiles files { texts := suffixes } path) := by
  rcases isTooLong_or_has_or_isAbsent files path with hlong | ⟨hallowed, node, hnode⟩ | habsent
  · rw [schemaFiles_of_isTooLong hlong]
    exact ⟨fun h => not_has_of_isTooLong hlong h.has,
      iff_of_false Bool.false_ne_true fun h => h.not_isTooLong hlong⟩
  · cases node with
    | directory => exact answersFor_directory hfiles suffixes hallowed hnode
    | file content =>
        rw [schemaFiles_of_file hallowed hnode]
        exact ⟨isSearchable_of_file hfiles hallowed hnode,
          fun p => (isSchemaAt_file_iff hfiles hnode).symm⟩
  · rw [schemaFiles_of_isAbsent habsent]
    exact ⟨fun h => habsent.not_has h.has, iff_of_true rfl habsent⟩

theorem exists_schemaFiles_iff (hfiles : files.WellFormed) :
    (∃ found, schemaFiles files { texts := suffixes } path = .ok found) ↔
      IsSearchable files path := by
  have hanswers := answersFor_schemaFiles hfiles suffixes path
  cases hfound : schemaFiles files { texts := suffixes } path with
  | ok found =>
      rw [hfound] at hanswers
      exact iff_of_true ⟨found, rfl⟩ hanswers.1
  | error error =>
      rw [hfound] at hanswers
      exact iff_of_false (fun ⟨_, h⟩ => nomatch h) hanswers.1

theorem exists_missing_iff (hfiles : files.WellFormed) :
    (∃ error, schemaFiles files { texts := suffixes } path = .error error ∧
      error.isMissing = true) ↔ IsAbsent files path := by
  have hanswers := answersFor_schemaFiles hfiles suffixes path
  cases hfound : schemaFiles files { texts := suffixes } path with
  | ok found =>
      rw [hfound] at hanswers
      exact iff_of_false (fun ⟨_, h, _⟩ => nomatch h) fun h => h.not_has hanswers.1.has
  | error error =>
      rw [hfound] at hanswers
      simp only [Except.error.injEq, exists_eq_left', hanswers.2]

theorem mem_schemaFiles_iff (hfiles : files.WellFormed) {found : List Path}
    (h : schemaFiles files { texts := suffixes } path = .ok found) {p : Path} :
    p ∈ found ↔ IsSchemaAt files suffixes path p := by
  have hanswers := answersFor_schemaFiles hfiles suffixes path
  rw [h] at hanswers
  exact hanswers.2 p

theorem isRegular_of_isSchemaAt (hfiles : files.WellFormed) (hpath : path.IsRegular) {p : Path}
    (h : IsSchemaAt files suffixes path p) : p.IsRegular := by
  rcases h with _ | ⟨_, hinward, _⟩
  · exact hpath
  · exact hpath.join fun name hname =>
      (hfiles.isName_of_leadsInward hinward name hname).component

end Path

/-! ## Several paths -/

section Paths

variable {files : FileTree} {suffixes : List Text} {given : List Path}

theorem schemaPaths_eq_ok_iff {found : List Path} :
    schemaPaths files given { texts := suffixes } = .ok found ↔
      ∃ results, given.mapM (schemaFiles files { texts := suffixes }) = .ok results ∧
        Path.sortUnique results.flatten = found := by
  rw [schemaPaths, Fallible.bind_eq_ok_iff]
  simp only [pure, Except.pure, Except.ok.injEq]

theorem exists_schemaPaths_iff (hfiles : files.WellFormed) :
    (∃ found, schemaPaths files given { texts := suffixes } = .ok found) ↔
      ∀ path ∈ given, IsSearchable files path := by
  simp only [schemaPaths_eq_ok_iff]
  rw [exists_comm]
  simp only [exists_and_left, exists_eq', and_true]
  rw [Fallible.exists_mapM_iff]
  exact forall₂_congr fun path _ => exists_schemaFiles_iff hfiles

theorem mem_schemaPaths_iff (hfiles : files.WellFormed) {found : List Path}
    (h : schemaPaths files given { texts := suffixes } = .ok found) {p : Path} :
    p ∈ found ↔ ∃ path ∈ given, IsSchemaAt files suffixes path p := by
  obtain ⟨results, hresults, rfl⟩ := schemaPaths_eq_ok_iff.mp h
  rw [Path.mem_sortUnique, Fallible.mem_flatten_of_mapM hresults]
  refine exists_congr fun path => and_congr_right fun hpath => ?_
  obtain ⟨found, hfound⟩ := Fallible.exists_mapM_iff.mp ⟨results, hresults⟩ path hpath
  rw [hfound]
  simp only [Except.ok.injEq, exists_eq_left', mem_schemaFiles_iff hfiles hfound]

theorem increasing_schemaPaths (hfiles : files.WellFormed)
    (hgiven : ∀ path ∈ given, path.IsRegular) {found : List Path}
    (h : schemaPaths files given { texts := suffixes } = .ok found) : Path.Increasing found := by
  have hmem := @mem_schemaPaths_iff files suffixes given hfiles found h
  obtain ⟨results, _, rfl⟩ := schemaPaths_eq_ok_iff.mp h
  refine Path.increasing_sortUnique fun p hp => ?_
  obtain ⟨path, hpath, hschema⟩ := hmem.mp (Path.mem_sortUnique.mpr hp)
  exact isRegular_of_isSchemaAt hfiles (hgiven path hpath) hschema

/-- A search ends with the report of a missing path at the first that cannot be searched. -/
theorem schemaPaths_missing_iff (hfiles : files.WellFormed) :
    (∃ error, schemaPaths files given { texts := suffixes } = .error error ∧
        error.isMissing = true) ↔
      ∃ before path after, given = before ++ path :: after ∧
        (∀ other ∈ before, IsSearchable files other) ∧ IsAbsent files path := by
  have herror : ∀ error, schemaPaths files given { texts := suffixes } = .error error ↔
      given.mapM (schemaFiles files { texts := suffixes }) = .error error := by
    intro error
    rw [schemaPaths, Fallible.bind_eq_error_iff]
    exact or_iff_left fun ⟨_, _, h⟩ => nomatch h
  simp only [herror, Fallible.mapM_eq_error_iff, exists_schemaFiles_iff hfiles]
  constructor
  · rintro ⟨error, ⟨before, path, after, rfl, hbefore, hfailed⟩, hmissing⟩
    exact ⟨before, path, after, rfl, hbefore,
      (exists_missing_iff hfiles).mp ⟨error, hfailed, hmissing⟩⟩
  · rintro ⟨before, path, after, rfl, hbefore, habsent⟩
    obtain ⟨error, hfailed, hmissing⟩ :=
      (@exists_missing_iff files suffixes path hfiles).mpr habsent
    exact ⟨error, ⟨before, path, after, rfl, hbefore, hfailed⟩, hmissing⟩

/-- The order of the paths and their repetition do not matter for what is found. -/
theorem schemaPaths_eq_ok_of_same (hfiles : files.WellFormed) {others : List Path}
    (hgiven : ∀ path ∈ given, path.IsRegular) (hsame : ∀ path, path ∈ others ↔ path ∈ given)
    {found : List Path} (h : schemaPaths files others { texts := suffixes } = .ok found) :
    schemaPaths files given { texts := suffixes } = .ok found := by
  have hall : ∀ path ∈ given, IsSearchable files path := fun path hpath =>
    (exists_schemaPaths_iff hfiles).mp ⟨found, h⟩ path ((hsame path).mpr hpath)
  obtain ⟨result, hresult⟩ := (@exists_schemaPaths_iff files suffixes given hfiles).mpr hall
  have hothers : ∀ path ∈ others, path.IsRegular := fun path hpath =>
    hgiven path ((hsame path).mp hpath)
  have heq : result = found :=
    (increasing_schemaPaths hfiles hgiven hresult).eq (increasing_schemaPaths hfiles hothers h)
      fun p => by
        rw [mem_schemaPaths_iff hfiles hresult, mem_schemaPaths_iff hfiles h]
        simp only [hsame]
  rw [hresult, heq]

/-- Schema files are found if all paths can be searched: the files at or below the paths that have
a schema suffix, in strictly increasing order, so that the order and the repetition of the paths do
not matter.  A missing path is reported if all before it can be searched. -/
theorem schemaPaths_search (hfiles : files.WellFormed) (suffixes texts : List Text) :
    ((∃ found, schemaPaths files (texts.map Path.ofText) { texts := suffixes } = .ok found) ↔
        ∀ path ∈ texts.map Path.ofText, IsSearchable files path) ∧
      (∀ found, schemaPaths files (texts.map Path.ofText) { texts := suffixes } = .ok found →
        Path.Increasing found ∧
          ∀ p, p ∈ found ↔ ∃ path ∈ texts.map Path.ofText, IsSchemaAt files suffixes path p) ∧
      (∀ others : List Text,
        (∀ path, path ∈ others.map Path.ofText ↔ path ∈ texts.map Path.ofText) →
        ∀ found, schemaPaths files (others.map Path.ofText) { texts := suffixes } = .ok found ↔
          schemaPaths files (texts.map Path.ofText) { texts := suffixes } = .ok found) ∧
      ((∃ error, schemaPaths files (texts.map Path.ofText) { texts := suffixes } = .error error ∧
          error.isMissing = true) ↔
        ∃ before path after, texts.map Path.ofText = before ++ path :: after ∧
          (∀ other ∈ before, IsSearchable files other) ∧ IsAbsent files path) := by
  have hregular : ∀ texts : List Text, ∀ path ∈ texts.map Path.ofText, path.IsRegular := by
    intro texts path hpath
    obtain ⟨t, _, rfl⟩ := List.mem_map.mp hpath
    exact Path.isRegular_ofText t
  refine ⟨exists_schemaPaths_iff hfiles, fun found h => ?_, fun others hsame found => ?_,
    schemaPaths_missing_iff hfiles⟩
  · exact ⟨increasing_schemaPaths hfiles (hregular texts) h, fun p => mem_schemaPaths_iff hfiles h⟩
  · exact ⟨schemaPaths_eq_ok_of_same hfiles (hregular texts) hsame,
      schemaPaths_eq_ok_of_same hfiles (hregular others) fun path => (hsame path).symm⟩

/-- A tree with a directory in a directory, another one that is named like a schema file, and a
file beside them. -/
def nestedFiles : FileTree where
  nodes := [(["d"], .directory), (["e", "d"], .directory), (["b.AVSC", "e", "d"], .file []),
    (["x.avsc", "d"], .directory), (["a.avsc"], .file []), (["notes.md", "d"], .file [])]

theorem wellFormed_nestedFiles : nestedFiles.WellFormed := by
  have hname : ∀ name ∈ nestedFiles.nodes.flatMap Prod.fst, FileTree.IsName name := by
    intro name hname
    have hall : ∀ name ∈ nestedFiles.nodes.flatMap Prod.fst, name ≠ [] ∧ name ≠ Path.here ∧
        Path.separator ∉ name ∧ name ≠ Path.up ∧
        FileTree.nameLength name ≤ FileTree.maxNameLength ∧
        ∀ c ∈ name, (FileTree.isForbidden c || c == 0) = false := by decide +kernel
    obtain ⟨hne, hhere, hslash, hup, hshort, hallowed⟩ := hall name hname
    exact ⟨⟨hne, hhere, hslash⟩, hup, hshort, hallowed⟩
  refine ⟨by decide +kernel, fun entry hentry => ?_, rfl⟩
  have hplace : ∀ entry ∈ nestedFiles.nodes,
      entry.1 ≠ [] ∧ nestedFiles.lookup? entry.1.tail = some .directory := by decide +kernel
  obtain ⟨hne, hdirectory⟩ := hplace entry hentry
  obtain ⟨name, around, heq⟩ := List.exists_cons_of_ne_nil hne
  refine ⟨name, around, heq, hname name (List.mem_flatMap.mpr ⟨entry, hentry, ?_⟩), ?_⟩
  · exact heq ▸ List.mem_cons_self
  · rwa [heq] at hdirectory

/-- Paths that lead below one another, and one that leads to a directory twice. -/
def overlappingPaths : List Text := ["d/e", "a.avsc", "d", "./d/"]

theorem nestedFiles_search :
    nestedFiles.WellFormed ∧
      Path.Increasing [Path.ofText "a.avsc", Path.ofText "d/e/b.AVSC"] ∧
      ∀ p, p ∈ [Path.ofText "a.avsc", Path.ofText "d/e/b.AVSC"] ↔
        ∃ path ∈ overlappingPaths.map Path.ofText,
          IsSchemaAt nestedFiles [".avsc"] path p := by
  have hfound : schemaPaths nestedFiles (overlappingPaths.map Path.ofText)
      { texts := [".avsc"] } = .ok [Path.ofText "a.avsc", Path.ofText "d/e/b.AVSC"] := by
    refine schemaPaths_eq_ok_iff.mpr ⟨[[Path.ofText "d/e/b.AVSC"], [Path.ofText "a.avsc"],
      [Path.ofText "d/e/b.AVSC"], [Path.ofText "d/e/b.AVSC"]], rfl, ?_⟩
    -- Sorting is not evaluated: the list is the increasing one with the same paths.
    refine (Path.increasing_sortUnique fun path hpath => ?_).eq ?_ fun path => ?_
    · have hread : path ∈ ["d/e/b.AVSC", "a.avsc"].map fun t => Path.ofText (Text.ofString t) := by
        grind
      obtain ⟨t, _, rfl⟩ := List.mem_map.mp hread
      exact Path.isRegular_ofText _
    · unfold Path.Increasing
      decide +kernel
    · rw [Path.mem_sortUnique]
      grind
  exact ⟨wellFormed_nestedFiles, (schemaPaths_search wellFormed_nestedFiles _ _).2.1 _ hfound⟩

/-- A name that is too long for the system is not reported as missing. -/
theorem longName_not_missing :
    ¬FileTree.Has {} (Path.ofText (List.replicate 256 0x78)) ∧
      ¬∃ error, schemaPaths {} [Path.ofText (List.replicate 256 0x78)] = .error error ∧
        error.isMissing = true := by
  have hlong : FileTree.IsTooLong {} (Path.ofText (List.replicate 256 0x78)) :=
    ⟨⟨by decide +kernel, by decide +kernel⟩, by decide +kernel⟩
  refine ⟨not_has_of_isTooLong hlong, ?_⟩
  rintro ⟨error, herror, hmissing⟩
  rw [schemaPaths, List.mapM_cons, schemaFiles_of_isTooLong hlong] at herror
  cases herror
  cases hmissing

end Paths

end Loading

end RecordSmith
