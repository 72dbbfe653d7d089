import RecordSmith.Proofs.Files.Order
import RecordSmith.Proofs.Files.Presence

/-!
# What lies below a directory

In a tree as systems have them, everything stands under a name in a directory.  So names that go
inward from a directory to something can be put behind every path that leads to the directory, and
the new path leads there, unless it is too long.
-/

namespace RecordSmith

/-- What holds of a full stop and a slash holds of every character of a path, as it is written, if
and only if it does so of the characters of the root and of the names. -/
theorem Path.forall_mem_toText_iff {p : CodePoint → Prop} (hstop : p 0x2E) (hslash : p separator)
    {path : Path} : (∀ c ∈ path.toText, p c) ↔
      (∀ c ∈ path.root, p c) ∧ ∀ name ∈ path.names, ∀ c ∈ name, p c := by
  have hwritten : (∀ c ∈ path.toText, p c) ↔
      ∀ c ∈ path.root ++ Text.join [separator] path.names, p c := by
    rw [toText]
    split
    case h_1 hnil =>
      rw [hnil]
      exact iff_of_true (List.forall_mem_singleton.mpr hstop) (List.forall_mem_nil _)
    case h_2 => rfl
  rw [hwritten, List.forall_mem_append]
  refine and_congr_right fun _ => ⟨fun h name hname c hc => ?_, fun h c hc => ?_⟩
  · exact h c (Text.mem_join_of_mem hname hc)
  · rcases Text.mem_of_mem_join hc with hsep | ⟨name, hname, hin⟩
    · rwa [List.mem_singleton.mp hsep]
    · exact h name hname c hin

namespace FileTree

/-- The character can be part of the name of a file. -/
def IsAllowedCharacter (c : CodePoint) : Prop := (isForbidden c || c == 0) = false

/-- A name under which something can stand in a directory. -/
structure IsName (name : Text) : Prop where
  component : Path.IsComponent name
  ne_up : name ≠ Path.up
  short : nameLength name ≤ maxNameLength
  allowed : ∀ c ∈ name, IsAllowedCharacter c

/-- A tree as systems have them: every place is listed once, stands under a name in a directory,
and the working directory is one. -/
structure WellFormed (tree : FileTree) : Prop where
  once : (tree.nodes.map Prod.fst).Nodup
  named : ∀ entry ∈ tree.nodes, ∃ name around, entry.1 = name :: around ∧ IsName name ∧
    tree.lookup? around = some .directory
  working : tree.lookup? tree.workingDirectory = some .directory

/-- The names go inward from a place to a node. -/
structure LeadsInward (tree : FileTree) (around : Location) (names : List Text) (node : Node) :
    Prop where
  nonempty : names ≠ []
  inward : Path.up ∉ names
  found : tree.lookup? (names.reverse ++ around) = some node

/-! ## Well-formed trees -/

section WellFormed

variable {tree : FileTree} (htree : tree.WellFormed)
include htree

theorem WellFormed.mem_nodes_iff {location : Location} {node : Node} :
    (location, node) ∈ tree.nodes ↔ location ≠ [] ∧ tree.lookup? location = some node := by
  rw [← Association.lookup_eq_some_iff_mem htree.once]
  cases location with
  | nil =>
      refine iff_of_false (fun h => ?_) fun h => h.1 rfl
      obtain ⟨name, around, heq, _⟩ :=
        htree.named _ ((Association.lookup_eq_some_iff_mem htree.once).mp h)
      cases heq
  | cons name around => exact (and_iff_right (List.cons_ne_nil name around)).symm

/-- Something that is not the root stands under a name in a directory. -/
theorem WellFormed.named_of_lookup? {name : Text} {around : Location} {node : Node}
    (h : tree.lookup? (name :: around) = some node) :
    IsName name ∧ tree.lookup? around = some .directory := by
  obtain ⟨_, _, heq, hname, haround⟩ :=
    htree.named _ (htree.mem_nodes_iff.mpr ⟨List.cons_ne_nil name around, h⟩)
  obtain ⟨rfl, rfl⟩ := List.cons.inj heq
  exact ⟨hname, haround⟩

/-- What something lies below is a directory, and every name on the way is one. -/
theorem WellFormed.of_lookup?_append {inner around : Location} {node : Node}
    (h : tree.lookup? (inner ++ around) = some node) :
    (∀ name ∈ inner, IsName name) ∧ (inner ≠ [] → tree.lookup? around = some .directory) := by
  induction inner generalizing node with
  | nil => exact ⟨List.forall_mem_nil _, fun hne => absurd rfl hne⟩
  | cons name rest ih =>
      obtain ⟨hname, hrest⟩ := htree.named_of_lookup? h
      obtain ⟨hnames, haround⟩ := ih hrest
      refine ⟨List.forall_mem_cons.mpr ⟨hname, hnames⟩, fun _ => ?_⟩
      cases rest with
      | nil => exact hrest
      | cons next others => exact haround (List.cons_ne_nil next others)

theorem WellFormed.isName_of_leadsInward {around : Location} {names : List Text} {node : Node}
    (h : tree.LeadsInward around names node) : ∀ name ∈ names, IsName name :=
  fun name hname => (htree.of_lookup?_append h.found).1 name (List.mem_reverse.mpr hname)

theorem WellFormed.directory_of_leadsInward {around : Location} {names : List Text} {node : Node}
    (h : tree.LeadsInward around names node) : tree.lookup? around = some .directory :=
  (htree.of_lookup?_append h.found).2 (mt List.reverse_eq_nil_iff.mp h.nonempty)

end WellFormed

/-! ## The nodes below a place -/

theorem below?_eq_some_iff {around location : Location} {names : List Text} :
    below? around location = some names ↔ names ≠ [] ∧ location = names.reverse ++ around := by
  rw [below?]
  split
  case isTrue h =>
    rw [Bool.and_eq_true, List.isSuffixOf_iff_suffix, bne_iff_ne] at h
    obtain ⟨⟨inner, rfl⟩, hne⟩ := h
    have htake : (inner ++ around).take ((inner ++ around).length - around.length) = inner := by
      rw [List.length_append, Nat.add_sub_cancel, List.take_left]
    rw [htake, Option.some.injEq]
    constructor
    · rintro rfl
      refine ⟨fun hnil => hne ?_, by rw [List.reverse_reverse]⟩
      rw [List.reverse_eq_nil_iff.mp hnil, List.nil_append]
    · rintro ⟨_, heq⟩
      rw [List.append_cancel_right heq, List.reverse_reverse]
  case isFalse h =>
    refine iff_of_false (fun heq => nomatch heq) ?_
    rintro ⟨hne, rfl⟩
    apply h
    rw [Bool.and_eq_true, List.isSuffixOf_iff_suffix, bne_iff_ne]
    refine ⟨List.suffix_append _ _, fun heq => hne ?_⟩
    rwa [List.append_left_eq_self, List.reverse_eq_nil_iff] at heq

theorem WellFormed.mem_nodesBelow_iff {tree : FileTree} (htree : tree.WellFormed)
    {around : Location} {names : List Text} {node : Node} :
    (names, node) ∈ tree.nodesBelow around ↔ tree.LeadsInward around names node := by
  rw [nodesBelow, List.mem_filterMap]
  constructor
  · rintro ⟨⟨location, found⟩, hmem, hbelow⟩
    obtain ⟨inner, hinner, heq⟩ := Option.map_eq_some_iff.mp hbelow
    obtain ⟨rfl, rfl⟩ := Prod.mk.inj heq
    obtain ⟨hne, rfl⟩ := below?_eq_some_iff.mp hinner
    obtain ⟨_, hfound⟩ := htree.mem_nodes_iff.mp hmem
    refine ⟨hne, fun hup => ?_, hfound⟩
    exact ((htree.of_lookup?_append hfound).1 _ (List.mem_reverse.mpr hup)).ne_up rfl
  · rintro ⟨hne, _, hfound⟩
    refine ⟨(names.reverse ++ around, node), htree.mem_nodes_iff.mpr ⟨?_, hfound⟩, ?_⟩
    · exact fun hnil => hne (List.reverse_eq_nil_iff.mp (List.append_eq_nil_iff.mp hnil).1)
    · exact Option.map_eq_some_iff.mpr ⟨names, below?_eq_some_iff.mpr ⟨hne, rfl⟩, rfl⟩

/-! ## Following names inward -/

theorem follow_append (tree : FileTree) (start : Location) (names others : List Text) :
    tree.follow start (names ++ others) =
      tree.follow start names >>= fun place => tree.follow place others := by
  induction names generalizing start with
  | nil => rfl
  | cons name rest ih =>
      rw [List.cons_append, follow, follow]
      split
      case h_1 => rfl
      case h_2 => rfl
      case h_3 =>
        split
        case isTrue => exact ih _
        case isFalse =>
          split
          case isTrue => rfl
          case isFalse => exact ih _

theorem WellFormed.follow_inward {tree : FileTree} (htree : tree.WellFormed) {around : Location}
    {names : List Text} {node : Node}
    (hfound : tree.lookup? (names.reverse ++ around) = some node) :
    tree.follow around names = .ok (names.reverse ++ around) := by
  induction names generalizing around with
  | nil => rfl
  | cons name rest ih =>
      obtain ⟨hnames, hdirectory⟩ := htree.of_lookup?_append hfound
      have hname : IsName name := hnames name (List.mem_reverse.mpr List.mem_cons_self)
      have haround := hdirectory (mt List.reverse_eq_nil_iff.mp (List.cons_ne_nil name rest))
      have hplace : (name :: rest).reverse ++ around = rest.reverse ++ name :: around := by
        rw [List.reverse_cons, List.append_assoc, List.singleton_append]
      rw [hplace] at hfound ⊢
      rw [follow, haround]
      dsimp only
      rw [if_neg (by simpa using hname.ne_up), if_neg (Nat.not_lt.mpr hname.short)]
      exact ih hfound

/-! ## Paths below a directory -/

/-- Something is at the path. -/
def Has (tree : FileTree) (path : Path) : Prop :=
  path.IsAllowed ∧ ∃ node, tree.node path = .ok node

/-- The path is not longer than paths can be. -/
def Fits (path : Path) : Prop := nameLength path.toText ≤ maxPathLength

instance (path : Path) : Decidable (Fits path) := inferInstanceAs (Decidable (_ ≤ _))

theorem isAllowed_iff_forall {path : Path} : path.IsAllowed ↔
    (∀ c ∈ path.root, IsAllowedCharacter c) ∧
      ∀ name ∈ path.names, ∀ c ∈ name, IsAllowedCharacter c := by
  rw [Path.isAllowed_iff, ← Path.forall_mem_toText_iff (p := IsAllowedCharacter) rfl rfl,
    List.any_eq_false]
  simp only [IsAllowedCharacter, Bool.not_eq_true]

/-- What leads to a directory, and from there inward to something, leads to it. -/
theorem WellFormed.node_join {tree : FileTree} (htree : tree.WellFormed) {path : Path}
    {around : Location} (hpath : tree.locate path = .ok around) {names : List Text} {node : Node}
    (hinward : tree.LeadsInward around names node) :
    tree.node (path.join { names }) =
      if Fits (path.join { names }) then .ok node else .error .nameTooLong := by
  rw [FileTree.node, locate]
  rw [locate] at hpath
  split at hpath
  case isTrue => cases hpath
  case isFalse =>
    by_cases hfits : Fits (path.join { names })
    · have hfollow : tree.follow (if path.isAbsolute then [] else tree.workingDirectory)
          (path.names ++ names) = .ok (names.reverse ++ around) := by
        rw [follow_append, hpath]
        exact htree.follow_inward hinward.found
      rw [if_neg (Nat.not_lt.mpr hfits), if_pos hfits]
      change (tree.follow (if path.isAbsolute then [] else tree.workingDirectory)
        (path.names ++ names) >>= _) = _
      rw [hfollow]
      dsimp only [bind, Except.bind]
      rw [hinward.found]
    · rw [if_pos (Nat.lt_of_not_le hfits), if_neg hfits]
      rfl

theorem WellFormed.isAllowed_join {tree : FileTree} (htree : tree.WellFormed) {path : Path}
    (hpath : path.IsAllowed) {around : Location} {names : List Text} {node : Node}
    (hinward : tree.LeadsInward around names node) : (path.join { names }).IsAllowed := by
  rw [isAllowed_iff_forall] at hpath ⊢
  refine ⟨hpath.1, List.forall_mem_append.mpr ⟨hpath.2, fun name hname => ?_⟩⟩
  exact (htree.isName_of_leadsInward hinward name hname).allowed

end FileTree

end RecordSmith
