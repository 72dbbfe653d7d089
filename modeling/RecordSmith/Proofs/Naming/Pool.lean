import Mathlib.Data.Finset.Card
import RecordSmith.Naming.Pool
import RecordSmith.Proofs.Naming.Identifier

/-!
# Identifiers of a name pool

What a pool hands out is never in use already: among one more number than there
are used identifiers one is free.  A suffix or a number never turns a name into
a reserved word, because no reserved word looks like a name with such a mark.
-/

namespace RecordSmith.NamePool

open RecordSmith.Text

/-! ## Numbers behind a stem -/

/-- The text that the number of a name stands behind. -/
def numberStem (name suffix : Text) : Text :=
  if suffix == defaultSuffix then name ++ suffix else name

theorem numbered_injective (stem : Text) :
    Function.Injective fun k : Nat => stem ++ Text.ofNat k := by
  intro j k h
  exact ofNat_injective (List.append_cancel_left h)

/-- Names that are different for different numbers are taken for no more numbers than there are
identifiers. -/
theorem le_card_of_mem {f : Nat → Text} (hf : Function.Injective f) {used : List Text}
    {count : Nat} (h : ∀ k < count, f k ∈ used) : count ≤ used.toFinset.card := by
  have hmaps : ∀ k ∈ Finset.range count, f k ∈ used.toFinset := fun k hk =>
    List.mem_toFinset.mpr (h k (Finset.mem_range.mp hk))
  calc
    count = (Finset.range count).card := (Finset.card_range count).symm
    _ ≤ used.toFinset.card := Finset.card_le_card_of_injOn f hmaps hf.injOn

/-- So many numbers in a row are taken only if there are so many identifiers. -/
theorem le_length_of_numbered_mem {used : List Text} {stem : Text} {start count : Nat}
    (h : ∀ k, start ≤ k → k < start + count → stem ++ Text.ofNat k ∈ used) :
    count ≤ used.length := by
  have hinjective : Function.Injective fun k => stem ++ Text.ofNat (start + k) :=
    (numbered_injective stem).comp fun _ _ => Nat.add_left_cancel
  have hcard : count ≤ used.toFinset.card := le_card_of_mem hinjective fun k hk =>
    h (start + k) (Nat.le_add_right start k) (Nat.add_lt_add_left hk start)
  exact hcard.trans (List.toFinset_card_le used)

/-- The search stops at the first number that is free, or when its fuel is spent. -/
theorem firstFree_eq (used : List Text) (stem : Text) (fuel counter : Nat) :
    ∃ k, counter ≤ k ∧ k ≤ counter + fuel ∧
      firstFree used stem fuel counter = stem ++ Text.ofNat k ∧
      (∀ j, counter ≤ j → j < k → stem ++ Text.ofNat j ∈ used) ∧
      (k < counter + fuel → stem ++ Text.ofNat k ∉ used) := by
  induction fuel generalizing counter with
  | zero =>
      refine ⟨counter, Nat.le_refl _, Nat.le_refl _, rfl, ?_, ?_⟩
      · intro j hstart hstop
        omega
      · intro hlt
        omega
  | succ fuel ih =>
      rw [firstFree]
      by_cases hused : stem ++ Text.ofNat counter ∈ used
      · rw [if_pos (List.contains_iff_mem.mpr hused)]
        obtain ⟨k, hstart, hstop, heq, hbefore, hfree⟩ := ih (counter + 1)
        refine ⟨k, by omega, by omega, heq, ?_, ?_⟩
        · intro j hj hjk
          rcases Nat.eq_or_lt_of_le hj with rfl | hlt
          · exact hused
          · exact hbefore j hlt hjk
        · intro hk
          exact hfree (by omega)
      · rw [if_neg (fun h => hused (List.contains_iff_mem.mp h))]
        refine ⟨counter, Nat.le_refl _, by omega, rfl, ?_, fun _ => hused⟩
        intro j hstart hstop
        omega

/-- With fuel for every used identifier the search ends at the least number that
is free. -/
theorem firstFree_least (used : List Text) (stem : Text) :
    ∃ k, 1 ≤ k ∧ k ≤ used.length + 1 ∧
      firstFree used stem used.length 1 = stem ++ Text.ofNat k ∧
      stem ++ Text.ofNat k ∉ used ∧
      ∀ j, 1 ≤ j → j < k → stem ++ Text.ofNat j ∈ used := by
  obtain ⟨k, hstart, hstop, heq, hbefore, hfree⟩ :=
    firstFree_eq used stem used.length 1
  refine ⟨k, hstart, by omega, heq, ?_, hbefore⟩
  rcases Nat.lt_or_ge k (1 + used.length) with hlt | hge
  · exact hfree hlt
  · -- A spent fuel means one more number in a row than there are used identifiers.
    intro hmem
    have hcount : used.length + 1 ≤ used.length := by
      refine @le_length_of_numbered_mem used stem 1 _ fun j hj hlast => ?_
      rcases Nat.lt_or_ge j k with hjk | hkj
      · exact hbefore j hj hjk
      · have hjk : j = k := by omega
        exact hjk ▸ hmem
    omega

/-- A name that is free is kept, and another one gets the least number that makes
it so. -/
theorem resolveConflict_spec (used : List Text) (name suffix : Text) :
    (name ∉ used ∧ resolveConflict used name suffix = name) ∨
    (name ∈ used ∧ ∃ k, 1 ≤ k ∧
      resolveConflict used name suffix = numberStem name suffix ++ Text.ofNat k ∧
      numberStem name suffix ++ Text.ofNat k ∉ used ∧
      ∀ j, 1 ≤ j → j < k → numberStem name suffix ++ Text.ofNat j ∈ used) := by
  rw [resolveConflict]
  by_cases hused : name ∈ used
  · right
    rw [if_pos (List.contains_iff_mem.mpr hused)]
    obtain ⟨k, hk, _, heq, hfree, hbefore⟩ :=
      firstFree_least used (numberStem name suffix)
    exact ⟨hused, k, hk, heq, hfree, hbefore⟩
  · left
    rw [if_neg (fun h => hused (List.contains_iff_mem.mp h))]
    exact ⟨hused, rfl⟩

theorem resolveConflict_not_mem (used : List Text) (name suffix : Text) :
    resolveConflict used name suffix ∉ used := by
  rcases resolveConflict_spec used name suffix with ⟨hfree, heq⟩ | ⟨_, k, _, heq, hfree, _⟩
  · rw [heq]
    exact hfree
  · rw [heq]
    exact hfree

/-! ## Marks of reserved and repeated names -/

/-- The text ends like a name that got a number, or a low line behind it. -/
def isMarked (t : Text) : Bool :=
  match t.reverse with
  | [] => false
  | c :: before => isAsciiDigit c || (c == Identifier.lowLine && !before.isEmpty)

theorem isMarked_suffixed {name : Text} (hname : name ≠ []) :
    isMarked (name ++ defaultSuffix) = true := by
  have hreverse : (name ++ defaultSuffix).reverse = Identifier.lowLine :: name.reverse := by
    rw [List.reverse_append]
    rfl
  simp [isMarked, hreverse, hname]

theorem isMarked_numbered (stem : Text) (k : Nat) :
    isMarked (stem ++ Text.ofNat k) = true := by
  have hlast := isAsciiDigit_getLast_ofNat k
  have hsplit := List.dropLast_concat_getLast (ofNat_ne_nil k)
  rw [← hsplit, ← List.append_assoc]
  simp only [isMarked, List.reverse_append, List.reverse_singleton,
    List.singleton_append, hlast, Bool.true_or]

/-- The name is one that members may not have. -/
def Reserves (pool : NamePool) (name : Text) : Prop :=
  name ∈ pool.reservedWords ++ pool.builtinNames

/-- No reserved word looks as if it had a mark. -/
def ReservesUnmarked (pool : NamePool) : Prop :=
  ∀ word, pool.Reserves word → isMarked word = false

theorem escapeReserved_eq (pool : NamePool) (name suffix : Text) :
    (pool.Reserves name ∧ pool.escapeReserved name suffix = name ++ suffix) ∨
    (¬pool.Reserves name ∧ pool.escapeReserved name suffix = name) := by
  have hiff : (pool.reservedWords.contains name || pool.builtinNames.contains name) = true ↔
      pool.Reserves name := by
    simp [Reserves]
  rw [escapeReserved]
  by_cases h : pool.Reserves name
  · exact Or.inl ⟨h, if_pos (hiff.mpr h)⟩
  · exact Or.inr ⟨h, if_neg (fun hcontains => h (hiff.mp hcontains))⟩

section Unreserved

variable {pool : NamePool}

theorem not_reserves_escapeReserved (hpool : pool.ReservesUnmarked) {name : Text}
    (hname : name ≠ []) : ¬pool.Reserves (pool.escapeReserved name) := by
  rcases pool.escapeReserved_eq name defaultSuffix with ⟨_, heq⟩ | ⟨hfree, heq⟩
  · rw [heq]
    intro hreserved
    have hunmarked := hpool _ hreserved
    rw [isMarked_suffixed hname] at hunmarked
    cases hunmarked
  · rw [heq]
    exact hfree

theorem not_reserves_resolveConflict (hpool : pool.ReservesUnmarked)
    (used : List Text) {name : Text} (hname : ¬pool.Reserves name) (suffix : Text) :
    ¬pool.Reserves (resolveConflict used name suffix) := by
  rcases resolveConflict_spec used name suffix with ⟨_, heq⟩ | ⟨_, k, _, heq, _, _⟩
  · rw [heq]
    exact hname
  · rw [heq]
    intro hreserved
    have hunmarked := hpool _ hreserved
    rw [isMarked_numbered] at hunmarked
    cases hunmarked

end Unreserved

theorem startsWithWord_escapeReserved (pool : NamePool) {name : Text}
    (hname : Identifier.startsWithWord name = true) (suffix : Text) :
    Identifier.startsWithWord (pool.escapeReserved name suffix) = true := by
  rcases pool.escapeReserved_eq name suffix with ⟨_, heq⟩ | ⟨_, heq⟩
  · rw [heq]
    exact Identifier.startsWithWord_append hname suffix
  · rw [heq]
    exact hname

theorem startsWithWord_resolveConflict (used : List Text) {name : Text}
    (hname : Identifier.startsWithWord name = true) (suffix : Text) :
    Identifier.startsWithWord (resolveConflict used name suffix) = true := by
  rcases resolveConflict_spec used name suffix with ⟨_, heq⟩ | ⟨_, k, _, heq, _, _⟩
  · rw [heq]
    exact hname
  · rw [heq]
    apply Identifier.startsWithWord_append
    rw [numberStem]
    split
    · exact Identifier.startsWithWord_append hname suffix
    · exact hname

/-! ## Requests -/

theorem requestKey_injective (target : NamingCase) (suffix : Text) :
    Function.Injective fun name => requestKey name target suffix := by
  intro name other h
  unfold requestKey at h
  exact List.append_cancel_right
    (List.append_cancel_right (List.append_cancel_right (List.append_cancel_right h)))

/-- A name is new to a pool if it was not asked for in this case. -/
def IsNew (pool : NamePool) (target : NamingCase) (name : Text) : Prop :=
  pool.issued.lookup (requestKey name target defaultSuffix) = none

/-- The pool behind an answer that it did not give before. -/
def issue (pool : NamePool) (target : NamingCase) (name identifier : Text) : NamePool :=
  { pool with
    used := pool.used ++ [identifier]
    issued := (requestKey name target defaultSuffix, identifier) :: pool.issued }

/-- The identifier of a request that was not made before is resolved against the used
ones and then used itself. -/
theorem sanitize_of_lookup_eq_none {pool : NamePool} {name suffix : Text}
    {target : NamingCase} (hnew : pool.issued.lookup (requestKey name target suffix) = none) :
    let identifier := resolveConflict pool.used
      (pool.escapeReserved (Identifier.convert name target) suffix) suffix
    pool.sanitize name target suffix =
      (identifier, { pool with
        used := pool.used ++ [identifier]
        issued := (requestKey name target suffix, identifier) :: pool.issued }) := by
  intro identifier
  have hfree : pool.isUsed identifier = false := by
    simpa [isUsed] using resolveConflict_not_mem pool.used _ suffix
  have hadd : pool.addUsed identifier = { pool with used := pool.used ++ [identifier] } := by
    simp [addUsed, hfree]
  simp only [sanitize, hnew]
  rw [hadd]

/-- The identifier of a new name is resolved against the used ones and then used
itself. -/
theorem sanitize_of_isNew {pool : NamePool} {target : NamingCase} {name : Text}
    (hnew : pool.IsNew target name) :
    let identifier := resolveConflict pool.used
      (pool.escapeReserved (Identifier.convert name target)) defaultSuffix
    pool.sanitize name target = (identifier, pool.issue target name identifier) :=
  sanitize_of_lookup_eq_none hnew

/-- The other names stay new. -/
theorem isNew_issue {pool : NamePool} {target : NamingCase} {name other : Text}
    (hother : pool.IsNew target other) (hne : other ≠ name) (identifier : Text) :
    (pool.issue target name identifier).IsNew target other := by
  have hkey : requestKey other target defaultSuffix ≠ requestKey name target defaultSuffix :=
    fun h => hne (requestKey_injective target defaultSuffix h)
  rw [IsNew, issue]
  rw [List.lookup_cons, beq_false_of_ne hkey]
  exact hother

end RecordSmith.NamePool
