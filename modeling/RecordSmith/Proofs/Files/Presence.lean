import RecordSmith.Proofs.Files.Tree

/-!
# What is at a path

Whether something is at a path is looked up without a failure, unless the path is too long.  What
is there decides what comes of reading it.
-/

namespace RecordSmith

/-- A path that a file can have holds none of the characters that are looked for. -/
theorem Path.isAllowed_iff {path : Path} :
    path.IsAllowed ↔ (path.toText.any fun c => FileTree.isForbidden c || c == 0) = false := by
  rw [Path.IsAllowed, List.contains_eq_mem, decide_eq_false_iff_not, List.any_eq_false,
    List.any_eq_false]
  constructor
  · rintro ⟨hforbidden, hzero⟩ c hc
    rw [Bool.or_eq_true, not_or]
    exact ⟨hforbidden c hc, fun heq => hzero (eq_of_beq heq ▸ hc)⟩
  · intro h
    refine ⟨fun c hc hforbidden => h c hc (by rw [hforbidden, Bool.true_or]), fun hzero => ?_⟩
    exact h 0 hzero (by rw [beq_self_eq_true, Bool.or_true])

namespace FileTree

variable {tree : FileTree} {path : Path}

/-- The path, or a name in a directory that it leads to, is too long for the system. -/
def IsTooLong (tree : FileTree) (path : Path) : Prop :=
  path.IsAllowed ∧ tree.node path = .error .nameTooLong

/-- A path that a file can have is followed. -/
theorem node?_of_isAllowed (hallowed : path.IsAllowed) :
    tree.node? path =
      match tree.node path with
      | .ok node => .ok (some node)
      | .error .nameTooLong => .error .nameTooLong
      | .error _ => .ok none := by
  rw [node?, Path.isAllowed_iff.mp hallowed]
  exact if_neg Bool.false_ne_true

theorem node?_of_not_isAllowed (hallowed : ¬path.IsAllowed) : tree.node? path = .ok none := by
  rw [Path.isAllowed_iff, Bool.not_eq_false] at hallowed
  rw [node?, hallowed, if_pos rfl]

theorem node?_eq_some_iff {node : Node} :
    tree.node? path = .ok (some node) ↔ path.IsAllowed ∧ tree.node path = .ok node := by
  by_cases hallowed : path.IsAllowed
  · rw [node?_of_isAllowed hallowed]
    split
    case h_1 found hfound =>
      rw [hfound, Except.ok.injEq, Except.ok.injEq, Option.some.injEq, and_iff_right hallowed]
    case h_2 hfound =>
      rw [hfound]
      exact iff_of_false (fun h => nomatch h) fun h => nomatch h.2
    case h_3 fault _ hfound =>
      rw [hfound]
      exact iff_of_false (fun h => nomatch h) fun h => nomatch h.2
  · rw [node?_of_not_isAllowed hallowed]
    exact iff_of_false (fun h => nomatch h) fun h => hallowed h.1

theorem node?_eq_error_iff {fault : FileFault} :
    tree.node? path = .error fault ↔ tree.IsTooLong path ∧ fault = .nameTooLong := by
  by_cases hallowed : path.IsAllowed
  · rw [node?_of_isAllowed hallowed, IsTooLong]
    split
    case h_1 found hfound =>
      rw [hfound]
      exact iff_of_false (fun h => nomatch h) fun h => nomatch h.1.2
    case h_2 hfound =>
      rw [hfound, Except.error.injEq, and_iff_right ⟨hallowed, rfl⟩, eq_comm]
    case h_3 other hother hfound =>
      rw [hfound]
      exact iff_of_false (fun h => nomatch h) fun h => hother (Except.error.inj h.1.2)
  · rw [node?_of_not_isAllowed hallowed]
    exact iff_of_false (fun h => nomatch h) fun h => hallowed h.1.1

end FileTree

namespace FileAction

variable {tree : FileTree} {path : Path}

theorem pathExists_run :
    (pathExists path).run tree =
      (match tree.node? path with
        | .ok found => .ok found.isSome
        | .error fault => .error (.fault fault path), tree) := by
  rw [pathExists, Fallible.run_bind, node?, query_run]
  cases tree.node? path with
  | ok found => rfl
  | error fault => rfl

theorem readBytes_run (hallowed : path.IsAllowed) :
    (readBytes path).run tree =
      (match tree.node path with
        | .ok (.file content) => .ok content
        | .ok .directory => .error (.fault .isDirectory path)
        | .error fault => .error (.fault fault path), tree) := by
  rw [readBytes, Fallible.run_bind, run_checkPath_eq_ok_iff.mpr ⟨hallowed, rfl⟩]
  dsimp only
  rw [Fallible.run_bind, query_run]
  rcases tree.node path with fault | _ | content
  · rfl
  · rfl
  · rfl

theorem readText_run_directory (hallowed : path.IsAllowed)
    (hnode : tree.node path = .ok .directory) :
    (readText path).run tree = (.error (.fault .isDirectory path), tree) := by
  rw [readText, Fallible.run_bind, readBytes_run hallowed, hnode]

theorem readText_run_file {content : Bytes} (hallowed : path.IsAllowed)
    (hnode : tree.node path = .ok (.file content)) :
    (readText path).run tree =
      (match Text.ofUtf8? content with
        | some t => .ok (Text.normalizeNewlines t)
        | none => .error .notUtf8, tree) := by
  rw [readText, Fallible.run_bind, readBytes_run hallowed, hnode]
  dsimp only
  cases Text.ofUtf8? content with
  | some t => rfl
  | none => rfl

end FileAction

end RecordSmith
