import RecordSmith.Proofs.Association
import RecordSmith.Proofs.Fallible
import RecordSmith.Proofs.Files.Path

/-!
# What file actions change

A path that can be followed leads to its place, whatever the tree holds.  Making
directories changes no file, and writing a file changes the one at its place, also
when the action fails in the end.
-/

namespace RecordSmith

namespace FileTree

/-- The bytes of the file at a place, if there is one. -/
def file? (tree : FileTree) (location : Location) : Option Bytes :=
  match tree.lookup? location with
  | some (.file content) => some content
  | _ => none

theorem follow_eq_walk {tree : FileTree} {start location : Location} {names : List Text}
    (h : tree.follow start names = .ok location) : location = start.walk names := by
  induction names generalizing start with
  | nil =>
      cases h
      rfl
  | cons name rest ih =>
      rw [follow] at h
      split at h
      case h_1 => cases h
      case h_2 => cases h
      case h_3 =>
        rw [Location.walk, List.foldl_cons]
        split at h
        case isTrue hup =>
          rw [if_pos hup]
          exact ih h
        case isFalse hname =>
          rw [if_neg hname]
          split at h
          · cases h
          · exact ih h

/-- A path that can be followed leads to its place. -/
theorem locate_eq_place {tree : FileTree} {path : Path} {location : Location}
    (h : tree.locate path = .ok location) : location = path.place tree.workingDirectory := by
  rw [locate] at h
  split at h
  · cases h
  · exact follow_eq_walk h

theorem lookup?_insert_of_ne {location other : Location} (hne : other ≠ location)
    (tree : FileTree) (node : Node) :
    (tree.insert location node).lookup? other = tree.lookup? other := by
  cases other with
  | nil => rfl
  | cons name around =>
      rw [lookup?, lookup?, insert, List.lookup_cons, beq_false_of_ne hne]
      exact Association.lookup_filter_ne hne tree.nodes

theorem lookup?_insert_self (tree : FileTree) (name : Text) (around : Location)
    (node : Node) :
    (tree.insert (name :: around) node).lookup? (name :: around) = some node :=
  List.lookup_cons_self

theorem file?_insert_of_ne {location other : Location} (hne : other ≠ location)
    (tree : FileTree) (node : Node) :
    (tree.insert location node).file? other = tree.file? other := by
  rw [file?, lookup?_insert_of_ne hne, file?]

/-- A directory where there was nothing changes no file. -/
theorem file?_insert_directory {tree : FileTree} {location : Location}
    (hmissing : tree.lookup? location = none) (other : Location) :
    (tree.insert location .directory).file? other = tree.file? other := by
  by_cases hsame : other = location
  · subst hsame
    cases other with
    | nil => cases hmissing
    | cons name around => rw [file?, lookup?_insert_self, file?, hmissing]
  · exact file?_insert_of_ne hsame tree .directory

end FileTree

/-- A file can have the path: no surrogate is in it that no name can hold, and no zero. -/
def Path.IsAllowed (path : Path) : Prop :=
  path.toText.any FileTree.isForbidden = false ∧ path.toText.contains 0 = false

namespace FileAction

/-- Whether it succeeds or not, the action keeps the working directory and every
file outside of the given places. -/
def ChangesOnly {α : Type} (working : Location) (places : Location → Prop)
    (action : FileAction α) : Prop :=
  ∀ tree : FileTree, tree.workingDirectory = working →
    (action.run tree).2.workingDirectory = working ∧
      ∀ location, ¬places location →
        (action.run tree).2.file? location = tree.file? location

section ChangesOnly

variable {α β : Type} {working : Location} {places : Location → Prop}

/-- A chain succeeds if both parts do, one after the other. -/
theorem run_bind_eq_ok {action : FileAction α} {next : α → FileAction β}
    {tree after : FileTree} {answer : β}
    (h : (action >>= next).run tree = (.ok answer, after)) :
    ∃ first between, action.run tree = (.ok first, between) ∧
      (next first).run between = (.ok answer, after) := by
  rw [Fallible.run_bind] at h
  rcases hrun : action.run tree with ⟨result, between⟩
  rw [hrun] at h
  cases result with
  | error error => cases h
  | ok first => exact ⟨first, between, rfl, h⟩

theorem run_tryCatch (action : FileAction α) (handler : FileError → FileAction α)
    (tree : FileTree) :
    (tryCatch action handler).run tree =
      match action.run tree with
      | (.ok answer, after) => (.ok answer, after)
      | (.error error, after) => (handler error).run after := by
  simp only [tryCatch, tryCatchThe, MonadExceptOf.tryCatch, ExceptT.tryCatch, ExceptT.run,
    ExceptT.mk, bind, StateT.bind]
  rcases action tree with ⟨result, after⟩
  cases result with
  | ok answer => rfl
  | error error => rfl

/-- What an action gives does not depend on how its errors are reported. -/
theorem run_adapt {ε : Type} (report : FileError → ε) {action : FileAction α}
    {tree after : FileTree} {answer : α} (h : action.run tree = (.ok answer, after)) :
    (action.adapt report).run tree = (.ok answer, after) := by
  change Prod.map (Except.mapError report) id (action.run tree) = _
  rw [h]
  rfl

theorem ChangesOnly.pure (answer : α) :
    ChangesOnly working places (Pure.pure answer : FileAction α) :=
  fun _ hworking => ⟨hworking, fun _ _ => rfl⟩

theorem ChangesOnly.throw (error : FileError) :
    ChangesOnly working places (MonadExcept.throw error : FileAction α) :=
  fun _ hworking => ⟨hworking, fun _ _ => rfl⟩

theorem ChangesOnly.bind {action : FileAction α} {next : α → FileAction β}
    (hfirst : ChangesOnly working places action)
    (hnext : ∀ answer, ChangesOnly working places (next answer)) :
    ChangesOnly working places (action >>= next) := by
  intro tree hworking
  obtain ⟨hworkingFirst, hfilesFirst⟩ := hfirst tree hworking
  rw [Fallible.run_bind]
  rcases hrun : action.run tree with ⟨result, after⟩
  rw [hrun] at hworkingFirst hfilesFirst
  cases result with
  | error error => exact ⟨hworkingFirst, hfilesFirst⟩
  | ok answer =>
      obtain ⟨hworkingNext, hfilesNext⟩ := hnext answer after hworkingFirst
      refine ⟨hworkingNext, fun location hlocation => ?_⟩
      rw [hfilesNext location hlocation, hfilesFirst location hlocation]

theorem ChangesOnly.tryCatch {action : FileAction α} {handler : FileError → FileAction α}
    (hfirst : ChangesOnly working places action)
    (hhandler : ∀ error, ChangesOnly working places (handler error)) :
    ChangesOnly working places (MonadExcept.tryCatch action handler) := by
  intro tree hworking
  obtain ⟨hworkingFirst, hfilesFirst⟩ := hfirst tree hworking
  rw [run_tryCatch]
  rcases hrun : action.run tree with ⟨result, after⟩
  rw [hrun] at hworkingFirst hfilesFirst
  cases result with
  | ok answer => exact ⟨hworkingFirst, hfilesFirst⟩
  | error error =>
      obtain ⟨hworkingNext, hfilesNext⟩ := hhandler error after hworkingFirst
      refine ⟨hworkingNext, fun location hlocation => ?_⟩
      rw [hfilesNext location hlocation, hfilesFirst location hlocation]

theorem ChangesOnly.mapM {items : List β} {step : β → FileAction α}
    (hstep : ∀ item ∈ items, ChangesOnly working places (step item)) :
    ChangesOnly working places (items.mapM step) := by
  induction items with
  | nil => exact ChangesOnly.pure []
  | cons item rest ih =>
      rw [List.mapM_cons]
      apply (hstep item List.mem_cons_self).bind
      intro answer
      apply (ih fun other hother => hstep other (List.mem_cons_of_mem item hother)).bind
      intro answers
      exact ChangesOnly.pure _

theorem ChangesOnly.mono {action : FileAction α} {others : Location → Prop}
    (h : ChangesOnly working places action)
    (hplaces : ∀ location, places location → others location) :
    ChangesOnly working others action := by
  intro tree hworking
  obtain ⟨hafter, hfiles⟩ := h tree hworking
  exact ⟨hafter, fun location hlocation =>
    hfiles location fun hplace => hlocation (hplaces location hplace)⟩

end ChangesOnly

/-! ## Directories and files -/

section Actions

variable {working : Location} {places : Location → Prop}

theorem query_run {α : Type} (path : Path) (question : FileTree → Except FileFault α)
    (tree : FileTree) :
    (query path question).run tree =
      (match question tree with
        | .ok answer => .ok answer
        | .error fault => .error (.fault fault path), tree) := by
  rw [query]
  rw [Fallible.run_bind]
  change (match question tree with
    | .ok answer => (pure answer : FileAction α)
    | .error fault => (throw (FileError.fault fault path) : FileAction α)).run tree = _
  cases question tree with
  | ok answer => rfl
  | error fault => rfl

theorem changesOnly_query {α : Type} (path : Path)
    (question : FileTree → Except FileFault α) :
    ChangesOnly working places (query path question) := by
  intro tree hworking
  rw [query_run]
  exact ⟨hworking, fun _ _ => rfl⟩

theorem changesOnly_checkPath (path : Path) :
    ChangesOnly working places (checkPath path) := by
  rw [checkPath]
  split
  · exact ChangesOnly.throw _
  · split
    · exact ChangesOnly.throw _
    · exact ChangesOnly.pure ()

/-- A new directory changes no file. -/
theorem changesOnly_makeDirectory (path : Path) :
    ChangesOnly working places (makeDirectory path) := by
  rw [makeDirectory]
  apply (changesOnly_checkPath path).bind
  intro _ tree hworking
  rw [Fallible.run_bind, query_run]
  cases hplace : directoryPlace tree path with
  | error fault => exact ⟨hworking, fun _ _ => rfl⟩
  | ok location =>
      -- There is nothing at the place, so that no file gives way to the directory.
      refine ⟨hworking, fun other _ => ?_⟩
      apply FileTree.file?_insert_directory
      obtain ⟨found, _, hmissing⟩ := Fallible.bind_eq_ok_iff.mp hplace
      cases hlookup : tree.lookup? found with
      | some node => rw [hlookup] at hmissing; cases hmissing
      | none =>
          rw [hlookup] at hmissing
          cases hmissing
          exact hlookup

theorem changesOnly_acceptDirectory (path : Path) (error : FileError) :
    ChangesOnly working places (acceptDirectory path error) := by
  unfold acceptDirectory
  split
  case h_1 fault faultPath =>
    apply ((changesOnly_query path _).bind fun node => ChangesOnly.pure _).bind
    intro found
    split
    · exact ChangesOnly.pure ()
    · exact ChangesOnly.throw _
  case h_2 => exact ChangesOnly.throw _

theorem changesOnly_makeDirectoriesUp (root : Text) (names : List Text) :
    ChangesOnly working places (makeDirectoriesUp root names) := by
  induction names with
  | nil =>
      exact (changesOnly_makeDirectory _).tryCatch (changesOnly_acceptDirectory _)
  | cons name around ih =>
      rw [makeDirectoriesUp]
      apply (changesOnly_makeDirectory _).tryCatch
      intro error
      split
      case h_1 faultPath =>
        exact ih.bind fun _ =>
          (changesOnly_makeDirectory _).tryCatch (changesOnly_acceptDirectory _)
      case h_2 => exact changesOnly_acceptDirectory _ error

/-- Directories that are made, and failures on the way, change no file. -/
theorem changesOnly_makeDirectories (path : Path) :
    ChangesOnly working places (makeDirectories path) :=
  changesOnly_makeDirectoriesUp path.root path.names.reverse

/-- The files and the working directory behind directories that have been made. -/
theorem makeDirectories_unchanged {path : Path} {tree after : FileTree}
    (h : (makeDirectories path).run tree = (.ok (), after)) :
    after.workingDirectory = tree.workingDirectory ∧
      ∀ location, after.file? location = tree.file? location := by
  have hchanges : ChangesOnly tree.workingDirectory (fun _ => False) (makeDirectories path) :=
    changesOnly_makeDirectories path
  obtain ⟨hworking, hfiles⟩ := hchanges tree rfl
  rw [h] at hworking hfiles
  exact ⟨hworking, fun location => hfiles location not_false⟩

theorem filePlace_eq_place {tree : FileTree} {path : Path} {location : Location}
    (h : filePlace tree path = .ok location) :
    location = path.place tree.workingDirectory := by
  obtain ⟨found, hfound, hnode⟩ := Fallible.bind_eq_ok_iff.mp h
  have hplace := FileTree.locate_eq_place hfound
  cases hlookup : tree.lookup? found with
  | none =>
      rw [hlookup] at hnode
      cases hnode
      exact hplace
  | some node =>
      rw [hlookup] at hnode
      cases node with
      | directory => cases hnode
      | file content =>
          cases hnode
          exact hplace

/-- A file can be put anywhere but at the root. -/
theorem filePlace_ne_root {tree : FileTree} {path : Path} {location : Location}
    (h : filePlace tree path = .ok location) : location ≠ [] := by
  obtain ⟨found, _, hnode⟩ := Fallible.bind_eq_ok_iff.mp h
  rintro rfl
  cases found with
  | nil => cases hnode
  | cons name around =>
      rcases hlookup : tree.lookup? (name :: around) with _ | _ | content
      all_goals
        rw [hlookup] at hnode
        cases hnode

theorem run_checkPath_eq_ok_iff {path : Path} {tree after : FileTree} :
    (checkPath path).run tree = (.ok (), after) ↔ path.IsAllowed ∧ after = tree := by
  rw [Path.IsAllowed, checkPath]
  cases path.toText.any FileTree.isForbidden with
  | true => exact iff_of_false (fun h => (nomatch h)) fun h => (nomatch h.1.1)
  | false =>
      cases path.toText.contains 0 with
      | true => exact iff_of_false (fun h => (nomatch h)) fun h => (nomatch h.1.2)
      | false =>
          constructor
          · intro h
            cases h
            exact ⟨⟨rfl, rfl⟩, rfl⟩
          · rintro ⟨_, rfl⟩
            rfl

/-- A text that has been written is at the place of its path. -/
theorem file?_of_writeText {path : Path} {t : Text} {tree after : FileTree}
    (h : (writeText path t).run tree = (.ok (), after)) :
    ∃ content, Text.toUtf8? t = some content ∧
      after.file? (path.place tree.workingDirectory) = some content := by
  rw [writeText] at h
  obtain ⟨_, between, hcheck, hrest⟩ := run_bind_eq_ok h
  obtain ⟨_, rfl⟩ := run_checkPath_eq_ok_iff.mp hcheck
  rw [Fallible.run_bind, query_run] at hrest
  cases hplace : filePlace between path with
  | error fault => rw [hplace] at hrest; cases hrest
  | ok location =>
      rw [hplace] at hrest
      have hroot := filePlace_ne_root hplace
      rw [← filePlace_eq_place hplace]
      cases hutf8 : Text.toUtf8? t with
      | none => rw [hutf8] at hrest; cases hrest
      | some content =>
          rw [hutf8] at hrest
          cases hrest
          refine ⟨content, rfl, ?_⟩
          obtain ⟨name, around, rfl⟩ := List.exists_cons_of_ne_nil hroot
          rw [FileTree.file?, FileTree.lookup?_insert_self]

/-- A text that is written changes the file at the place of its path. -/
theorem changesOnly_writeText (path : Path) (t : Text) :
    ChangesOnly working (· = path.place working) (writeText path t) := by
  rw [writeText]
  apply (changesOnly_checkPath path).bind
  intro _ tree hworking
  rw [Fallible.run_bind, query_run]
  cases hplace : filePlace tree path with
  | error fault => exact ⟨hworking, fun _ _ => rfl⟩
  | ok location =>
      have hlocation : location = path.place working := hworking ▸ filePlace_eq_place hplace
      subst hlocation
      cases Text.toUtf8? t with
      | some content =>
          exact ⟨hworking, fun other hother => FileTree.file?_insert_of_ne hother tree _⟩
      | none =>
          exact ⟨hworking, fun other hother => FileTree.file?_insert_of_ne hother tree _⟩

end Actions

end FileAction

end RecordSmith
