import RecordSmith.Proofs.Files.Presence
import RecordSmith.Proofs.Text.Plain

/-!
# Reading a file that was written

A text that is written at a path stands there afterwards: the places on the way are
directories, and the new file takes the place of none of them.
-/

namespace RecordSmith

namespace FileTree

variable {tree : FileTree} {location : Location}

/-- A file where there was no directory changes no way through the tree. -/
theorem follow_insert_file (hplace : tree.lookup? location ≠ some .directory) (content : Bytes)
    {start : Location} {names : List Text} {found : Location}
    (h : tree.follow start names = .ok found) :
    (tree.insert location (.file content)).follow start names = .ok found := by
  induction names generalizing start with
  | nil => exact h
  | cons name rest ih =>
      rw [follow] at h
      split at h
      case h_1 => cases h
      case h_2 => cases h
      case h_3 hdirectory =>
        have hstart : start ≠ location := by
          rintro rfl
          exact hplace hdirectory
        rw [follow, lookup?_insert_of_ne hstart, hdirectory]
        dsimp only
        split at h
        case isTrue hup =>
          rw [if_pos hup]
          exact ih h
        case isFalse hname =>
          rw [if_neg hname]
          split at h
          case isTrue => cases h
          case isFalse hlength =>
            rw [if_neg hlength]
            exact ih h

theorem locate_insert_file (hplace : tree.lookup? location ≠ some .directory) (content : Bytes)
    {path : Path} {found : Location} (h : tree.locate path = .ok found) :
    (tree.insert location (.file content)).locate path = .ok found := by
  rw [locate] at h ⊢
  split at h
  case isTrue => cases h
  case isFalse hlength =>
    rw [if_neg hlength]
    exact follow_insert_file hplace content h

end FileTree

/-- A file can be written at the path. -/
def FileTree.Writable (tree : FileTree) (path : Path) : Prop :=
  ((FileAction.writeText path []).run tree).1 = .ok ()

namespace FileAction

variable {path : Path} {tree : FileTree}

/-- Where a file can be written, it has a path that a file can have, and a place. -/
theorem exists_place_of_writable (h : tree.Writable path) :
    path.IsAllowed ∧ ∃ location, filePlace tree path = .ok location := by
  rcases hrun : (writeText path []).run tree with ⟨result, after⟩
  rw [FileTree.Writable, hrun] at h
  cases h
  rw [writeText] at hrun
  obtain ⟨_, between, hcheck, hrest⟩ := run_bind_eq_ok hrun
  obtain ⟨hallowed, rfl⟩ := run_checkPath_eq_ok_iff.mp hcheck
  refine ⟨hallowed, ?_⟩
  rw [Fallible.run_bind, query_run] at hrest
  cases hplace : filePlace between path with
  | error fault => rw [hplace] at hrest; cases hrest
  | ok location => exact ⟨location, rfl⟩

/-- A file stands where the path to it leads. -/
theorem node_insert_file {location : Location} (hplace : filePlace tree path = .ok location)
    (content : Bytes) :
    (tree.insert location (.file content)).node path = .ok (.file content) := by
  have hroot := filePlace_ne_root hplace
  obtain ⟨found, hfound, hnode⟩ := Fallible.bind_eq_ok_iff.mp hplace
  have hdirectory : tree.lookup? found ≠ some .directory := by
    intro heq
    rw [heq] at hnode
    cases hnode
  have hlocation : found = location := by
    rcases hlookup : tree.lookup? found with _ | _ | _
    all_goals
      rw [hlookup] at hnode
      cases hnode
    · rfl
    · rfl
  subst hlocation
  obtain ⟨name, around, rfl⟩ := List.exists_cons_of_ne_nil hroot
  rw [FileTree.node, FileTree.locate_insert_file hdirectory content hfound]
  dsimp only [bind, Except.bind]
  rw [FileTree.lookup?_insert_self]

section Stored

variable {after : FileTree} {content : Bytes}

theorem pathExists_of_node (hallowed : path.IsAllowed)
    (hnode : after.node path = .ok (.file content)) :
    (pathExists path).run after = (.ok true, after) := by
  rw [pathExists_run, FileTree.node?_eq_some_iff.mpr ⟨hallowed, hnode⟩]
  rfl

theorem readText_of_node (hallowed : path.IsAllowed)
    (hnode : after.node path = .ok (.file content)) {t : Text}
    (ht : Text.ofUtf8? content = some t) :
    (readText path).run after = (.ok (Text.normalizeNewlines t), after) := by
  rw [readText_run_file hallowed hnode, ht]

end Stored

/-- A storable text that is written where a file can be written is there to be read. -/
theorem exists_stored (hpath : tree.Writable path) {t : Text} (ht : t.IsStorable) :
    ∃ after, (writeText path t).run tree = (.ok (), after) ∧
      (pathExists path).run after = (.ok true, after) ∧
      (readText path).run after = (.ok t, after) := by
  obtain ⟨hallowed, location, hplace⟩ := exists_place_of_writable hpath
  obtain ⟨content, hcontent⟩ := ht.1.exists_toUtf8?
  have hnode := node_insert_file hplace content
  refine ⟨tree.insert location (.file content), ?_, pathExists_of_node hallowed hnode, ?_⟩
  · rw [writeText, Fallible.run_bind, run_checkPath_eq_ok_iff.mpr ⟨hallowed, rfl⟩]
    dsimp only
    rw [Fallible.run_bind, query_run, hplace]
    dsimp only
    rw [hcontent]
    rfl
  · have hread := readText_of_node hallowed hnode (Text.ofUtf8?_of_toUtf8? hcontent)
    rwa [Text.normalizeNewlines_of_free ht.2] at hread

end FileAction

end RecordSmith
