/-!
# Computations that can fail

A chain of computations succeeds exactly if each of them does.  These lemmas take
such a chain apart from its result.
-/

namespace RecordSmith.Fallible

universe u

variable {ε α β : Type u}

theorem bind_eq_ok_iff {first : Except ε α} {next : α → Except ε β} {b : β} :
    (first >>= next) = .ok b ↔ ∃ a, first = .ok a ∧ next a = .ok b := by
  cases first with
  | error e =>
      constructor
      · intro h
        cases h
      · rintro ⟨a, h, _⟩
        cases h
  | ok a =>
      constructor
      · intro h
        exact ⟨a, rfl, h⟩
      · rintro ⟨a', h, hnext⟩
        cases h
        exact hnext

theorem bind_eq_error_iff {first : Except ε α} {next : α → Except ε β} {e : ε} :
    (first >>= next) = .error e ↔
      first = .error e ∨ ∃ a, first = .ok a ∧ next a = .error e := by
  cases first with
  | error other => simp [bind, Except.bind]
  | ok a => simp [bind, Except.bind]

theorem map_eq_ok_iff {first : Except ε α} {f : α → β} {b : β} :
    first.map f = .ok b ↔ ∃ a, first = .ok a ∧ f a = b := by
  cases first with
  | error e => simp [Except.map]
  | ok a => simp [Except.map]

theorem mapError_eq_ok_iff {ε' : Type u} {first : Except ε α} {f : ε → ε'} {a : α} :
    first.mapError f = .ok a ↔ first = .ok a := by
  cases first with
  | error e =>
      constructor
      · intro h
        cases h
      · intro h
        cases h
  | ok found =>
      change (Except.ok found : Except ε' α) = .ok a ↔ _
      rw [Except.ok.injEq, Except.ok.injEq]

/-- A check of the result, if there is one, gives a result that passes it. -/
theorem exists_of_any {first : Except ε α} {p : α → Bool} (h : first.toOption.any p = true) :
    ∃ a, first = .ok a ∧ p a = true := by
  cases first with
  | error e => cases h
  | ok a => exact ⟨a, rfl, h⟩

/-- Checks that are made one after the other succeed if each of them does. -/
theorem forM_eq_ok_iff {items : List α} {check : α → Except ε PUnit.{u + 1}} :
    items.forM check = .ok ⟨⟩ ↔ ∀ item ∈ items, check item = .ok ⟨⟩ := by
  induction items with
  | nil => exact iff_of_true rfl (List.forall_mem_nil _)
  | cons item rest ih =>
      rw [List.forM, bind_eq_ok_iff, List.forall_mem_cons, ← ih]
      constructor
      · rintro ⟨_, hitem, hrest⟩
        exact ⟨hitem, hrest⟩
      · rintro ⟨hitem, hrest⟩
        exact ⟨⟨⟩, hitem, hrest⟩

/-- Results of computations on a list are there if the result of each of them is. -/
theorem exists_mapM_iff {items : List α} {f : α → Except ε β} :
    (∃ results, items.mapM f = .ok results) ↔ ∀ item ∈ items, ∃ result, f item = .ok result := by
  induction items with
  | nil => exact iff_of_true ⟨[], rfl⟩ (List.forall_mem_nil _)
  | cons item rest ih =>
      rw [List.mapM_cons, List.forall_mem_cons, ← ih]
      constructor
      · rintro ⟨_, h⟩
        obtain ⟨result, hitem, hrest⟩ := bind_eq_ok_iff.mp h
        obtain ⟨results, hresults, _⟩ := bind_eq_ok_iff.mp hrest
        exact ⟨⟨result, hitem⟩, results, hresults⟩
      · rintro ⟨⟨result, hitem⟩, results, hresults⟩
        exact ⟨result :: results,
          bind_eq_ok_iff.mpr ⟨result, hitem, bind_eq_ok_iff.mpr ⟨results, hresults, rfl⟩⟩⟩

/-- What is in the lists that computations give is in one of them. -/
theorem mem_flatten_of_mapM {items : List α} {f : α → Except ε (List β)} {results : List (List β)}
    (h : items.mapM f = .ok results) {b : β} :
    b ∈ results.flatten ↔ ∃ item ∈ items, ∃ found, f item = .ok found ∧ b ∈ found := by
  induction items generalizing results with
  | nil =>
      cases h
      exact iff_of_false List.not_mem_nil fun ⟨_, hitem, _⟩ => nomatch hitem
  | cons item rest ih =>
      rw [List.mapM_cons] at h
      obtain ⟨found, hitem, htail⟩ := bind_eq_ok_iff.mp h
      obtain ⟨others, hrest, heq⟩ := bind_eq_ok_iff.mp htail
      cases heq
      rw [List.flatten_cons, List.mem_append, ih hrest]
      simp only [List.mem_cons, exists_eq_or_imp]
      refine or_congr ⟨fun hb => ⟨found, hitem, hb⟩, ?_⟩ Iff.rfl
      rintro ⟨other, hother, hb⟩
      exact Except.ok.inj (hitem.symm.trans hother) ▸ hb

/-- Computations on a list fail as the first of them that fails. -/
theorem mapM_eq_error_iff {items : List α} {f : α → Except ε β} {e : ε} :
    items.mapM f = .error e ↔ ∃ before item after, items = before ++ item :: after ∧
      (∀ other ∈ before, ∃ result, f other = .ok result) ∧ f item = .error e := by
  induction items with
  | nil =>
      refine iff_of_false (fun h => nomatch h) ?_
      rintro ⟨before, item, after, heq, _⟩
      exact List.append_ne_nil_of_right_ne_nil before (List.cons_ne_nil item after) heq.symm
  | cons item rest ih =>
      rw [List.mapM_cons, bind_eq_error_iff]
      constructor
      · rintro (hitem | ⟨result, hitem, htail⟩)
        · exact ⟨[], item, rest, rfl, List.forall_mem_nil _, hitem⟩
        · rcases bind_eq_error_iff.mp htail with hrest | ⟨_, _, hpure⟩
          · obtain ⟨before, other, after, rfl, hbefore, hother⟩ := ih.mp hrest
            exact ⟨item :: before, other, after, rfl,
              List.forall_mem_cons.mpr ⟨⟨result, hitem⟩, hbefore⟩, hother⟩
          · cases hpure
      · rintro ⟨before, other, after, heq, hbefore, hother⟩
        cases before with
        | nil =>
            cases heq
            exact Or.inl hother
        | cons first before =>
            cases heq
            obtain ⟨⟨result, hitem⟩, hrest⟩ := List.forall_mem_cons.mp hbefore
            refine Or.inr ⟨result, hitem, bind_eq_error_iff.mpr (Or.inl ?_)⟩
            exact ih.mpr ⟨before, other, after, rfl, hrest, hother⟩

/-- The computation has a result or fails for a reason of some kind. -/
def FailsOnly (p : ε → Prop) (computation : Except ε α) : Prop :=
  ∀ e, computation = .error e → p e

section FailsOnly

variable {p : ε → Prop}

theorem failsOnly_ok (a : α) : FailsOnly p (.ok a : Except ε α) := fun _ h => nomatch h

theorem failsOnly_error_iff {e : ε} : FailsOnly p (.error e : Except ε α) ↔ p e :=
  ⟨fun h => h e rfl, fun h _ heq => Except.error.inj heq ▸ h⟩

theorem failsOnly_bind_iff {first : Except ε α} {next : α → Except ε β} :
    FailsOnly p (first >>= next) ↔
      FailsOnly p first ∧ ∀ a, first = .ok a → FailsOnly p (next a) := by
  cases first with
  | error e =>
      have hfails : (Except.error e >>= next) = .error e := rfl
      rw [hfails, failsOnly_error_iff, failsOnly_error_iff]
      exact ⟨fun h => ⟨h, fun _ heq => nomatch heq⟩, And.left⟩
  | ok a =>
      constructor
      · exact fun h => ⟨failsOnly_ok a, fun _ heq => Except.ok.inj heq ▸ h⟩
      · exact fun h => h.2 a rfl

theorem failsOnly_mapM {items : List α} {f : α → Except ε β}
    (h : ∀ item ∈ items, FailsOnly p (f item)) : FailsOnly p (items.mapM f) := by
  induction items with
  | nil => exact failsOnly_ok []
  | cons item rest ih =>
      obtain ⟨hitem, hrest⟩ := List.forall_mem_cons.mp h
      rw [List.mapM_cons]
      exact failsOnly_bind_iff.mpr ⟨hitem, fun _ _ =>
        failsOnly_bind_iff.mpr ⟨ih hrest, fun _ _ => failsOnly_ok _⟩⟩

theorem failsOnly_foldlM {items : List α} {f : β → α → Except ε β} {start : β}
    (h : ∀ b, ∀ item ∈ items, FailsOnly p (f b item)) : FailsOnly p (items.foldlM f start) := by
  induction items generalizing start with
  | nil => exact failsOnly_ok start
  | cons item rest ih =>
      rw [List.foldlM_cons]
      exact failsOnly_bind_iff.mpr ⟨h start item List.mem_cons_self, fun _ _ =>
        ih fun b other hother => h b other (List.mem_cons_of_mem item hother)⟩

/-- If a computation fails for other reasons only, it has to have a result. -/
theorem failsOnly_iff_exists {computation : Except ε α}
    (h : FailsOnly (fun e => ¬p e) computation) :
    FailsOnly p computation ↔ ∃ a, computation = .ok a := by
  cases computation with
  | error e =>
      rw [failsOnly_error_iff] at h ⊢
      exact iff_of_false h fun ⟨_, heq⟩ => nomatch heq
  | ok a => exact iff_of_true (failsOnly_ok a) ⟨a, rfl⟩

end FailsOnly

/-- A chain of calls on a state goes on from the state that the first of them leaves. -/
theorem run_bind {σ : Type u} (first : ExceptT ε (StateM σ) α)
    (next : α → ExceptT ε (StateM σ) β) (state : σ) :
    (first >>= next).run state =
      match first.run state with
      | (.ok answer, after) => (next answer).run after
      | (.error error, after) => (.error error, after) := by
  change (match first.run state with
    | (result, after) => ExceptT.bindCont next result after) = _
  rcases first.run state with ⟨result, after⟩
  cases result with
  | ok answer => rfl
  | error error => rfl

end RecordSmith.Fallible
