import Mathlib.Order.Bounds.Defs
import RecordSmith.Proofs.Naming.Pool

/-!
# The search for a free identifier

A name that is in use gives way to numbered ones, one after the other, until one of them is free.
What is tried is different in every round, so that the search is over after no more rounds than
there are used identifiers.  It ends with the identifier that resolves the conflict, and with the
least number that makes the name free.
-/

namespace RecordSmith.NamePool

open RecordSmith.Text

/-- A search: the identifier that is tried, and the number of the one after it. -/
structure Search where
  tried : Text
  next : Nat
  deriving Repr, DecidableEq

namespace Search

/-- The name itself is tried before all numbers. -/
def start (name : Text) : Search := { tried := name, next := 1 }

/-- An identifier in use gives way to the stem with the next number. -/
def round? (used : List Text) (stem : Text) (search : Search) : Option Search :=
  if used.contains search.tried then
    some { tried := stem ++ Text.ofNat search.next, next := search.next + 1 }
  else none

/-- The search is over after so many rounds, and this identifier is tried then. -/
inductive Ends (used : List Text) (stem : Text) : Search → Nat → Text → Prop where
  | free {search : Search} (h : search.round? used stem = none) :
      Ends used stem search 0 search.tried
  | round {search later : Search} {rounds : Nat} {identifier : Text}
      (h : search.round? used stem = some later) (hlater : Ends used stem later rounds identifier) :
      Ends used stem search (rounds + 1) identifier

section Rounds

variable {used : List Text} {stem : Text} {search : Search}

theorem round?_of_mem (h : search.tried ∈ used) : search.round? used stem =
    some { tried := stem ++ Text.ofNat search.next, next := search.next + 1 } :=
  if_pos (List.contains_iff_mem.mpr h)

theorem round?_of_not_mem (h : search.tried ∉ used) : search.round? used stem = none :=
  if_neg fun hcontains => h (List.contains_iff_mem.mp hcontains)

/-- Each round is determined by the one before it, and so is the end. -/
theorem Ends.unique {rounds count : Nat} {identifier other : Text}
    (h : search.Ends used stem rounds identifier) (hother : search.Ends used stem count other) :
    count = rounds ∧ other = identifier := by
  induction h generalizing count with
  | free hfree =>
      cases hother with
      | free _ => exact ⟨rfl, rfl⟩
      | round hround _ => cases hfree.symm.trans hround
  | round hround _ ih =>
      cases hother with
      | free hfree => cases hfree.symm.trans hround
      | round hround' hlater =>
          cases hround.symm.trans hround'
          obtain ⟨hcount, hidentifier⟩ := ih hlater
          exact ⟨congrArg (· + 1) hcount, hidentifier⟩

end Rounds

end Search

/-! ## What is tried -/

/-- What is tried after so many rounds: the name at first, and then the stem with their number. -/
def candidate (name stem : Text) : Nat → Text
  | 0 => name
  | k + 1 => stem ++ Text.ofNat (k + 1)

section Candidates

variable {used : List Text} {name stem : Text}

theorem candidate_of_pos {k : Nat} (hk : 1 ≤ k) : candidate name stem k = stem ++ Text.ofNat k := by
  obtain ⟨j, rfl⟩ := Nat.exists_eq_add_of_le' hk
  rfl

theorem length_le_numberStem (name suffix : Text) :
    name.length ≤ (numberStem name suffix).length := by
  rw [numberStem]
  split
  case isTrue => exact List.length_append ▸ Nat.le_add_right _ _
  case isFalse => exact Nat.le_refl _

/-- A name with a number is longer than the name. -/
theorem numberStem_append_ofNat_ne (name suffix : Text) (k : Nat) :
    numberStem name suffix ++ Text.ofNat k ≠ name := by
  intro h
  have hlength := congrArg List.length h
  have hstem := length_le_numberStem name suffix
  have hdigits := List.length_pos_of_ne_nil (ofNat_ne_nil k)
  rw [List.length_append] at hlength
  omega

theorem candidate_injective (name suffix : Text) :
    Function.Injective (candidate name (numberStem name suffix)) := by
  intro j k h
  match j, k with
  | 0, 0 => rfl
  | 0, k + 1 => exact absurd h.symm (numberStem_append_ofNat_ne name suffix (k + 1))
  | j + 1, 0 => exact absurd h (numberStem_append_ofNat_ne name suffix (j + 1))
  | j + 1, k + 1 => exact numbered_injective _ h

/-- From any round on, the search goes on while what is tried is in use, and ends behind that. -/
theorem Search.ends_of_candidates {first rounds : Nat}
    (hused : ∀ k, first ≤ k → k < first + rounds → candidate name stem k ∈ used)
    (hfree : candidate name stem (first + rounds) ∉ used) :
    Search.Ends used stem { tried := candidate name stem first, next := first + 1 } rounds
      (candidate name stem (first + rounds)) := by
  induction rounds generalizing first with
  | zero => exact .free (Search.round?_of_not_mem hfree)
  | succ rounds ih =>
      -- A round leads to the next candidate, from where the rest of the search starts.
      have hnow : candidate name stem first ∈ used := hused first (Nat.le_refl _) (by omega)
      have hshift : first + (rounds + 1) = first + 1 + rounds := by omega
      rw [hshift] at hused hfree ⊢
      exact .round (Search.round?_of_mem hnow) (ih (fun k hk => hused k (by omega)) hfree)

/-- While what is tried is in use, every way to the end of the search is the one to the first
candidate that is free. -/
theorem Search.start_ends_iff {rounds : Nat} (hused : ∀ k < rounds, candidate name stem k ∈ used)
    (hfree : candidate name stem rounds ∉ used) {count : Nat} {identifier : Text} :
    (Search.start name).Ends used stem count identifier ↔
      count = rounds ∧ identifier = candidate name stem rounds := by
  have hend : (Search.start name).Ends used stem rounds (candidate name stem rounds) := by
    rw [← Nat.zero_add rounds] at hfree
    have hend := Search.ends_of_candidates (fun k _ hk => hused k (by omega)) hfree
    rwa [Nat.zero_add rounds] at hend
  constructor
  · exact hend.unique
  · rintro ⟨rfl, rfl⟩
    exact hend

end Candidates

/-! ## The end of the search -/

/-- The search for a free identifier is over after at most as many rounds as there are used
identifiers, and ends with the resolution of the conflict: the name itself if it is free, and
otherwise the name with the least number that makes it so. -/
theorem resolveConflict_search_ends (used : List Text) (name suffix : Text) :
    ∃ rounds ≤ used.toFinset.card,
      (∀ count identifier,
        (Search.start name).Ends used (numberStem name suffix) count identifier ↔
          count = rounds ∧ identifier = resolveConflict used name suffix) ∧
      (name ∉ used ∧ resolveConflict used name suffix = name ∨
        name ∈ used ∧
          IsLeast {k | 1 ≤ k ∧ numberStem name suffix ++ Text.ofNat k ∉ used} rounds ∧
          resolveConflict used name suffix = numberStem name suffix ++ Text.ofNat rounds) := by
  rcases resolveConflict_spec used name suffix with
    ⟨hfree, heq⟩ | ⟨hname, rounds, hpos, heq, hfree, hbefore⟩
  · refine ⟨0, Nat.zero_le _, fun count identifier => ?_, Or.inl ⟨hfree, heq⟩⟩
    rw [heq]
    exact Search.start_ends_iff (fun _ hk => absurd hk (Nat.not_lt_zero _)) hfree
  · have hlast : candidate name (numberStem name suffix) rounds =
        numberStem name suffix ++ Text.ofNat rounds := candidate_of_pos hpos
    have hused : ∀ k < rounds, candidate name (numberStem name suffix) k ∈ used := by
      intro k hk
      cases k with
      | zero => exact hname
      | succ j => exact hbefore (j + 1) (Nat.le_add_left 1 j) hk
    have hleast : IsLeast {k | 1 ≤ k ∧ numberStem name suffix ++ Text.ofNat k ∉ used} rounds := by
      refine ⟨⟨hpos, hfree⟩, fun k hk => Nat.le_of_not_lt fun hlt => ?_⟩
      exact hk.2 (hbefore k hk.1 hlt)
    have hcount : rounds ≤ used.toFinset.card :=
      le_card_of_mem (candidate_injective name suffix) hused
    refine ⟨rounds, hcount, fun count identifier => ?_, Or.inr ⟨hname, hleast, heq⟩⟩
    rw [heq, ← hlast]
    exact Search.start_ends_iff hused (hlast ▸ hfree)

/-- A gap in the numbers is filled, and a suffix other than the default one is not repeated. -/
example : resolveConflict (["id", "id_1", "id_3"].map Text.ofString) "id" "_" = "id_2" ∧
    resolveConflict (["id", "id_1"].map Text.ofString) "id" "x" = "id1" := by
  decide +kernel

end RecordSmith.NamePool
