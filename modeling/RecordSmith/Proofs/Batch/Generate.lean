import RecordSmith.Batch.Generate

/-!
# Results of batches

A batch has results exactly if each of its documents has one, and otherwise it
fails for the reason of the first document that has none.
-/

namespace RecordSmith

/-- Why a document has no result, if it has none. -/
def Outcome.failure? : Outcome → Option BatchError
  | .ok _ => none
  | .error error => some error

namespace Generator

section Collect

variable {outcomes : List Outcome}

theorem collect_cons_ok (result : GenerationResult) :
    collect (.ok result :: outcomes) = (collect outcomes).map (result :: ·) := by
  rw [collect, List.mapM_cons]
  change (List.mapM id outcomes >>= fun rest => pure (result :: rest)) = _
  cases h : List.mapM id outcomes with
  | error error => rw [collect, h]; rfl
  | ok results => rw [collect, h]; rfl

theorem collect_cons_error (error : BatchError) :
    collect (.error error :: outcomes) = .error error := by
  rw [collect, List.mapM_cons]
  rfl

/-- A batch of results. -/
theorem collect_eq_ok_iff {results : List GenerationResult} :
    collect outcomes = .ok results ↔ outcomes = results.map .ok := by
  induction outcomes generalizing results with
  | nil =>
      constructor
      · intro h
        cases h
        rfl
      · intro h
        rw [List.map_eq_nil_iff.mp h.symm]
        rfl
  | cons outcome rest ih =>
      cases outcome with
      | error error =>
          rw [collect_cons_error]
          constructor
          · intro h
            cases h
          · intro h
            cases results with
            | nil => cases h
            | cons _ _ => cases h
      | ok result =>
          rw [collect_cons_ok]
          constructor
          · intro h
            cases hrest : collect rest with
            | error error => rw [hrest] at h; cases h
            | ok others =>
                rw [hrest] at h
                cases h
                rw [List.map_cons, ih.mp hrest]
          · intro h
            cases results with
            | nil => cases h
            | cons first others =>
                rw [List.map_cons, List.cons.injEq, Except.ok.injEq] at h
                rw [h.1, ih.mpr h.2]
                rfl

/-- A batch fails for its first failure. -/
theorem collect_eq_error_iff {error : BatchError} :
    collect outcomes = .error error ↔ outcomes.findSome? Outcome.failure? = some error := by
  induction outcomes with
  | nil =>
      constructor
      · intro h
        cases h
      · intro h
        cases h
  | cons outcome rest ih =>
      cases outcome with
      | error first =>
          rw [collect_cons_error, List.findSome?_cons]
          simp [Outcome.failure?]
      | ok result =>
          rw [collect_cons_ok, List.findSome?_cons]
          simp only [Outcome.failure?]
          rw [← ih]
          cases collect rest with
          | error other => simp [Except.map]
          | ok others => simp [Except.map]

end Collect

end Generator

end RecordSmith
