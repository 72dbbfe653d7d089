import Mathlib.Data.List.Lex
import RecordSmith.Files.Path
import RecordSmith.Proofs.Text.Basic

/-!
# Paths in order

The order of paths is the lexicographic one of their roots and names, which determine a path that
is read from a text.  So paths that are put in order, each once, increase strictly, and their list
depends on nothing but which paths they are.
-/

namespace RecordSmith

theorem Text.le_iff {s t : Text} : Text.le s t = true ↔ s ≤ t := by
  induction s generalizing t with
  | nil => exact iff_of_true rfl (not_lt.mp (List.not_lt_nil t))
  | cons c s ih =>
      cases t with
      | nil => exact iff_of_false Bool.false_ne_true (not_le.mpr (List.nil_lt_cons c s))
      | cons d t =>
          rw [Text.le, ← not_lt, List.cons_lt_cons_iff]
          by_cases hcd : c = d
          · subst hcd
            rw [beq_self_eq_true, if_pos rfl, ih]
            simp only [lt_self_iff_false, true_and, false_or, not_lt]
          · rw [beq_false_of_ne hcd, if_neg Bool.false_ne_true, decide_eq_true_iff]
            simp only [Ne.symm hcd, false_and, or_false, not_lt]
            exact ⟨le_of_lt, fun hle => lt_of_le_of_ne hle hcd⟩

namespace Path

theorem keyLe_iff {key other : List Text} : keyLe key other = true ↔ key ≤ other := by
  induction key generalizing other with
  | nil => exact iff_of_true rfl (not_lt.mp (List.not_lt_nil other))
  | cons s key ih =>
      cases other with
      | nil => exact iff_of_false Bool.false_ne_true (not_le.mpr (List.nil_lt_cons s key))
      | cons t other =>
          rw [keyLe, ← not_lt, List.cons_lt_cons_iff]
          by_cases hst : s = t
          · subst hst
            rw [beq_self_eq_true, if_pos rfl, ih]
            simp only [lt_self_iff_false, true_and, false_or, not_lt]
          · rw [beq_false_of_ne hst, if_neg Bool.false_ne_true, Text.le_iff]
            simp only [Ne.symm hst, false_and, or_false, not_lt]

theorem le_iff {path other : Path} : path.le other = true ↔ path.key ≤ other.key := keyLe_iff

/-! ## Regular paths -/

/-- A name that stands for something else than the directory itself. -/
structure IsComponent (name : Text) : Prop where
  ne_nil : name ≠ []
  ne_here : name ≠ here
  separator_not_mem : separator ∉ name

/-- A path as it is read from a text: there is no root, or it is one or two slashes, and no name
holds one. -/
structure IsRegular (path : Path) : Prop where
  root : path.root = [] ∨ path.root = [separator] ∨ path.root = [separator, separator]
  names : ∀ name ∈ path.names, IsComponent name

theorem isComponent_of_mem_names_ofText {t name : Text} (h : name ∈ (ofText t).names) :
    IsComponent name := by
  obtain ⟨hpart, hkept⟩ := List.mem_filter.mp h
  rw [Bool.and_eq_true, Bool.not_eq_true', List.isEmpty_eq_false_iff, bne_iff_ne] at hkept
  refine ⟨hkept.1, hkept.2, fun hslash => ?_⟩
  have hfree := Text.splitOn_part hpart separator hslash
  rw [beq_self_eq_true] at hfree
  cases hfree

theorem isRegular_ofText (t : Text) : (ofText t).IsRegular := by
  refine ⟨?_, fun name => isComponent_of_mem_names_ofText⟩
  rw [ofText, rootOf]
  split
  · exact Or.inl rfl
  · exact Or.inr (Or.inr rfl)
  · exact Or.inr (Or.inl rfl)

theorem IsRegular.join {path : Path} (hpath : path.IsRegular) {names : List Text}
    (hnames : ∀ name ∈ names, IsComponent name) : (path.join { names }).IsRegular :=
  ⟨hpath.root, List.forall_mem_append.mpr ⟨hpath.names, hnames⟩⟩

theorem IsRegular.mem_root {path : Path} (hpath : path.IsRegular) {c : CodePoint}
    (hc : c ∈ path.root) : c = separator := by
  rcases hpath.root with hroot | hroot | hroot
  all_goals rw [hroot] at hc
  · cases hc
  · exact List.mem_singleton.mp hc
  · simpa using hc

/-- A root is no name, so that an absolute path and a relative one differ in what they are
ordered by. -/
theorem IsRegular.root_not_mem {path other : Path} (hpath : path.IsRegular)
    (habsolute : path.isAbsolute = true) (hother : other.IsRegular) : path.root ∉ other.names := by
  intro hmem
  rw [isAbsolute, Bool.not_eq_true', List.isEmpty_eq_false_iff] at habsolute
  obtain ⟨c, rest, hroot⟩ := List.exists_cons_of_ne_nil habsolute
  have hc : c = separator := hpath.mem_root (hroot ▸ List.mem_cons_self)
  refine (hother.names _ hmem).separator_not_mem ?_
  rw [hroot, hc]
  exact List.mem_cons_self

theorem IsRegular.eq_of_key_eq {path other : Path} (hpath : path.IsRegular)
    (hother : other.IsRegular) (hkey : path.key = other.key) : path = other := by
  obtain ⟨root, names⟩ := path
  obtain ⟨root', names'⟩ := other
  cases habsolute : (Path.mk root names).isAbsolute <;>
    cases habsolute' : (Path.mk root' names').isAbsolute
  all_goals simp only [key, habsolute, habsolute', if_true, if_false, Bool.false_eq_true] at hkey
  case false.false =>
    rw [isAbsolute, Bool.not_eq_false', List.isEmpty_iff] at habsolute habsolute'
    exact (Path.mk.injEq ..).mpr ⟨habsolute.trans habsolute'.symm, hkey⟩
  case false.true =>
    exact absurd (hkey ▸ List.mem_cons_self) (hother.root_not_mem habsolute' hpath)
  case true.false =>
    exact absurd (hkey ▸ List.mem_cons_self) (hpath.root_not_mem habsolute hother)
  case true.true =>
    obtain ⟨hroot, hnames⟩ := List.cons.inj hkey
    rw [hroot, hnames]

/-! ## Increasing paths -/

/-- The paths increase strictly. -/
def Increasing (paths : List Path) : Prop := paths.Pairwise fun path other => path.key < other.key

theorem mem_sortUnique {paths : List Path} {path : Path} :
    path ∈ sortUnique paths ↔ path ∈ paths := by
  rw [sortUnique, List.mem_mergeSort, List.mem_eraseDups]

theorem nodup_eraseDups (paths : List Path) : paths.eraseDups.Nodup := by
  induction hlength : paths.length using Nat.strong_induction_on generalizing paths with
  | _ length ih =>
    cases paths with
    | nil => exact List.nodup_nil
    | cons path rest =>
        rw [List.eraseDups_cons, List.nodup_cons, List.mem_eraseDups]
        subst hlength
        refine ⟨fun hmem => ?_, ih _ (Nat.lt_succ_of_le (List.length_filter_le _ _)) _ rfl⟩
        have hother := (List.mem_filter.mp hmem).2
        rw [beq_self_eq_true] at hother
        cases hother

theorem increasing_sortUnique {paths : List Path} (hpaths : ∀ path ∈ paths, path.IsRegular) :
    Increasing (sortUnique paths) := by
  have hsorted : (sortUnique paths).Pairwise fun path other => path.le other = true := by
    refine List.pairwise_mergeSort (fun a b c => ?_) (fun a b => ?_) _
    · simp only [le_iff]
      exact le_trans
    · rw [Bool.or_eq_true, le_iff, le_iff]
      exact le_total _ _
  have hdistinct : (sortUnique paths).Nodup :=
    (List.mergeSort_perm _ _).nodup_iff.mpr (nodup_eraseDups paths)
  refine (hsorted.and hdistinct).imp_of_mem fun {path other} hpath hother h => ?_
  obtain ⟨hle, hne⟩ := h
  refine lt_of_le_of_ne (le_iff.mp hle) fun hkey => hne ?_
  exact (hpaths _ (mem_sortUnique.mp hpath)).eq_of_key_eq (hpaths _ (mem_sortUnique.mp hother))
    hkey

/-- Increasing lists with the same paths are the same. -/
theorem Increasing.eq {paths others : List Path} (hpaths : Increasing paths)
    (hothers : Increasing others) (hmem : ∀ path, path ∈ paths ↔ path ∈ others) :
    paths = others := by
  have hperm : paths.Perm others :=
    (List.perm_ext_iff_of_nodup (hpaths.imp fun h => mt (congrArg key) (ne_of_lt h))
      (hothers.imp fun h => mt (congrArg key) (ne_of_lt h))).mpr hmem
  exact hperm.eq_of_pairwise (fun path other _ _ h h' => absurd h' (lt_asymm h)) hpaths hothers

end Path

end RecordSmith
