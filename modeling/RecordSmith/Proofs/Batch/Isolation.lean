import RecordSmith.Proofs.Batch.Interleaving
import RecordSmith.Proofs.Generation.Outcome

/-!
# Documents that do not affect each other

A document that nothing can be made of has a result all the same, so it does not keep
the others from theirs.  The cache is where documents meet: it asks for the digest of
every content, and it knows a document only by name and digest.
-/

namespace RecordSmith

theorem Generator.exists_outcome_standard (target : Target) (document : Schema.Document) :
    ∃ result, (standard target).outcome document = .ok result := by
  have hindent : (standard target).IndentFits := by
    cases target with
    | csharp => exact ⟨4, rfl, by decide, by decide, rfl⟩
    | python => exact ⟨4, rfl, by decide, by decide, rfl⟩
  obtain ⟨verdict, happlies⟩ := Verdict.exists_appliesTo document.content
  obtain ⟨result, hresult⟩ :=
    ((wellTyped_standard target).generate_spec happlies).1.mpr fun _ => hindent
  refine ⟨result, ?_⟩
  rw [outcome, generateReporting, hresult]
  rfl

namespace Batch

/-- There is no cache, or nothing in it. -/
def IsFresh (cache : Option ResultCache) : Prop :=
  ∀ shared, cache = some shared → shared.results = []

/-- However the workers share the documents, there is a result for each of them.  If the
cache is fresh, the results are those that the documents have on their own. -/
def Isolated (generator : Generator) (workers : Int) (documents : List Schema.Document)
    (cache : Option ResultCache) : Prop :=
  (Work.ofDocuments documents cache).AlwaysEnds generator workers fun final =>
    ∃ results, final.answer = some (.ok results) ∧ results.length = documents.length ∧
      (IsFresh cache → documents.map generator.outcome = results.map .ok)

/-- Documents with one key have one outcome. -/
def KeysAgree (generator : Generator) (documents : List Schema.Document) : Prop :=
  ∀ document ∈ documents, ∀ other ∈ documents, ∀ key,
    ResultCache.key? document = some key → ResultCache.key? other = some key →
    generator.outcome document = generator.outcome other

section Keys

variable {generator : Generator} {workers : Int} {documents : List Schema.Document}
variable {document : Schema.Document} {cache : ResultCache} {key : Text × Text}
variable {result : GenerationResult}

/-- One document after another, no entry of the cache is replaced. -/
theorem result?_outcomeWithCache (hresult : cache.result? key = some result) :
    (generator.outcomeWithCache document cache).2.result? key = some result := by
  cases hkey : ResultCache.key? document with
  | none =>
      simp only [Generator.outcomeWithCache, hkey]
      exact hresult
  | some found =>
      rcases hget : cache.get found with ⟨_ | known, later⟩
      · obtain ⟨hmissing, rfl⟩ := ResultCache.get_eq_none hget
        simp only [Generator.outcomeWithCache, hkey, hget, Generator.outcomeAfterMiss]
        cases generator.outcome document with
        | error error => exact hresult
        | ok made =>
            have hne : key ≠ found := by
              rintro rfl
              cases hmissing.symm.trans hresult
            exact (ResultCache.result?_put_of_ne hne _ _).trans hresult
      · obtain ⟨_, rfl⟩ := ResultCache.get_eq_some hget
        simp only [Generator.outcomeWithCache, hkey, hget]
        exact hresult

theorem result?_outcomesWithCache (documents : List Schema.Document)
    (hresult : cache.result? key = some result) :
    (generator.outcomesWithCache documents cache).2.result? key = some result := by
  induction documents generalizing cache with
  | nil => exact hresult
  | cons document rest ih => exact ih (result?_outcomeWithCache hresult)

/-- The result of a document is in the cache behind it. -/
theorem result?_of_outcomeWithCache (hkey : ResultCache.key? document = some key)
    (houtcome : (generator.outcomeWithCache document cache).1 = .ok result) :
    (generator.outcomeWithCache document cache).2.result? key = some result := by
  rcases hget : cache.get key with ⟨_ | known, later⟩
  · simp only [Generator.outcomeWithCache, hkey, hget, Generator.outcomeAfterMiss]
      at houtcome ⊢
    cases hmade : generator.outcome document with
    | error error =>
        rw [hmade] at houtcome
        cases houtcome
    | ok made =>
        rw [hmade] at houtcome
        cases houtcome
        exact ResultCache.result?_put_self later key result
  · obtain ⟨hknown, rfl⟩ := ResultCache.get_eq_some hget
    simp only [Generator.outcomeWithCache, hkey, hget] at houtcome ⊢
    cases houtcome
    exact hknown

/-- If all documents have the outcomes that they have on their own, then these are
behind them in the cache. -/
theorem result?_of_outcomesWithCache
    (houtcomes : (generator.outcomesWithCache documents cache).1 =
      documents.map generator.outcome)
    (hdocument : document ∈ documents) (hkey : ResultCache.key? document = some key)
    (hresult : generator.outcome document = .ok result) :
    (generator.outcomesWithCache documents cache).2.result? key = some result := by
  induction documents generalizing cache with
  | nil => cases hdocument
  | cons first rest ih =>
      rw [List.map_cons, Generator.outcomesWithCache, List.cons.injEq] at houtcomes
      rcases List.mem_cons.mp hdocument with rfl | hrest
      · have hfirst := result?_of_outcomeWithCache hkey (houtcomes.1.trans hresult)
        exact result?_outcomesWithCache rest hfirst
      · exact ih houtcomes.2 hrest

theorem KeysAgree.of_outcomesWithCache {results : List GenerationResult}
    (hserved : (generator.outcomesWithCache documents cache).1 = results.map .ok)
    (houtcomes : documents.map generator.outcome = results.map .ok) :
    KeysAgree generator documents := by
  have hresults : ∀ document ∈ documents,
      ∃ result, generator.outcome document = .ok result := by
    intro document hdocument
    have hmem : generator.outcome document ∈ results.map .ok :=
      houtcomes ▸ List.mem_map_of_mem hdocument
    obtain ⟨result, _, hresult⟩ := List.mem_map.mp hmem
    exact ⟨result, hresult.symm⟩
  intro document hdocument other hother key hkey hotherKey
  obtain ⟨result, hresult⟩ := hresults document hdocument
  obtain ⟨otherResult, hotherResult⟩ := hresults other hother
  -- Both results are in the cache under the same key.
  have hsame : some result = some otherResult :=
    calc some result
        = (generator.outcomesWithCache documents cache).2.result? key :=
          (result?_of_outcomesWithCache (hserved.trans houtcomes.symm) hdocument hkey
            hresult).symm
      _ = some otherResult :=
          result?_of_outcomesWithCache (hserved.trans houtcomes.symm) hother hotherKey
            hotherResult
  rw [hresult, hotherResult, Option.some.inj hsame]

end Keys

section Isolated

variable {generator : Generator} {workers : Int} {documents : List Schema.Document}
variable {document : Schema.Document} {cache : Option ResultCache}

/-- What may be answered with a cache: anything, unless it is fresh. -/
def Answers (generator : Generator) (cache : Option ResultCache) (document : Schema.Document)
    (result : GenerationResult) : Prop :=
  IsFresh cache → generator.outcome document = .ok result

theorem permits_answers
    (hagree : cache.isSome = true → IsFresh cache → KeysAgree generator documents) :
    Permits generator documents (Answers generator cache) cache.isSome where
  own := fun _ _ _ houtcome _ => houtcome
  sameKey := by
    intro hcached document hdocument other hother key hkey hotherKey result hresult hfresh
    rw [← hresult hfresh]
    exact (hagree hcached hfresh document hdocument other hother key hkey hotherKey).symm

theorem allows_answers (generator : Generator) (documents : List Schema.Document)
    (cache : Option ResultCache) : Allows (Answers generator cache) documents cache := by
  intro shared hshared document _ key _ result hresult hfresh
  rw [ResultCache.result?, hfresh shared hshared] at hresult
  cases hresult

section Outcomes

variable (houtcomes : ∀ document, ∃ result, generator.outcome document = .ok result)
include houtcomes

/-- Where every document has a result on its own, only a missing key makes one fail. -/
theorem key?_eq_none_of_failure {answers : Schema.Document → GenerationResult → Prop}
    {cached : Bool} {work : Work} (hsound : work.Sound generator documents answers cached)
    {task : Task} (hmem : task ∈ work.tasks) {error : BatchError}
    (hfinished : task.2 = .finished (.error error)) :
    cached = true ∧ ResultCache.key? task.1 = none ∧ error = .surrogateInContent := by
  obtain ⟨document, progress⟩ := task
  subst hfinished
  have hfails : generator.alone cached document = .error error := hsound.fits _ hmem
  have hunkeyed : ¬IsKeyed cached document := by
    intro hkeyed
    obtain ⟨result, hresult⟩ := houtcomes document
    rw [hkeyed.alone_eq, hresult] at hfails
    cases hfails
  cases cached with
  | false => exact absurd (fun hfalse => nomatch hfalse) hunkeyed
  | true =>
      cases hkey : ResultCache.key? document with
      | some key => exact absurd (fun _ => ⟨key, hkey⟩) hunkeyed
      | none =>
          rw [generator.alone_keyless hkey] at hfails
          cases hfails
          exact ⟨rfl, rfl, rfl⟩

/-- A batch of which every document has a key, if it needs one, has its results. -/
theorem isolated_of_keys
    (hkeyed : ∀ document ∈ documents, IsKeyed cache.isSome document)
    (hagree : cache.isSome = true → IsFresh cache → KeysAgree generator documents) :
    Isolated generator workers documents cache := by
  apply Work.alwaysEnds_of_invariant (Work.sound_ofDocuments (allows_answers _ _ _))
  · intro work next hsound hstep
    exact hsound.step (permits_answers hagree) hstep
  · intro final hsound hsettled
    have hfailure : ∀ task ∈ final.tasks, ∀ error, task.2 ≠ .finished (.error error) := by
      intro task hmem error hfinished
      obtain ⟨hcached, hkeyless, _⟩ := key?_eq_none_of_failure houtcomes hsound hmem hfinished
      obtain ⟨key, hkey⟩ := hkeyed task.1 (hsound.mem_documents hmem) hcached
      rw [hkeyless] at hkey
      cases hkey
    rcases Work.answerOf_cases_of_settled hsettled hsound.cancelled with
      ⟨results, hresults⟩ | ⟨task, hmem, error, hfinished, _⟩
    · refine ⟨results, hresults, ?_, fun hfresh => ?_⟩
      · have hprogress := congrArg List.length (Work.answerOf_eq_ok_iff.mp hresults)
        rw [List.length_map, List.length_map] at hprogress
        rw [← hprogress, ← hsound.documents_eq, List.length_map]
      · have hexpected : ∀ task ∈ final.tasks, ∀ outcome, task.2 = .finished outcome →
            outcome = generator.outcome task.1 := by
          rintro ⟨document, progress⟩ hmem outcome rfl
          cases outcome with
          | ok result => exact ((hsound.fits _ hmem).2 hfresh).symm
          | error error => exact absurd rfl (hfailure _ hmem error)
        have hanswer := Work.answerOf_of_settled hsettled hsound.cancelled hexpected
        rw [hresults, hsound.documents_eq, Option.some.injEq] at hanswer
        exact Generator.collect_eq_ok_iff.mp hanswer.symm
    · exact absurd hfinished (hfailure task hmem error)

/-- With a cache, one document without a key takes the results from all of them. -/
theorem fails_of_keyless (workers : Int) (shared : ResultCache) (hdocument : document ∈ documents)
    (hkeyless : ResultCache.key? document = none) :
    (Work.ofDocuments documents (some shared)).AlwaysEnds generator workers fun final =>
      final.answer = some (.error .surrogateInContent) := by
  have hallows : Allows (fun _ _ => True) documents (some shared) :=
    fun _ _ _ _ _ _ _ _ => trivial
  have hpermits : Permits generator documents (fun _ _ => True) true :=
    ⟨fun _ _ _ _ => trivial, fun _ _ _ _ _ _ _ _ _ _ => trivial⟩
  apply Work.alwaysEnds_of_invariant (Work.sound_ofDocuments hallows)
  · intro work next hsound hstep
    exact hsound.step hpermits hstep
  · intro final hsound hsettled
    rcases Work.answerOf_cases_of_settled hsettled hsound.cancelled with
      ⟨results, hresults⟩ | ⟨task, hmem, error, hfinished, hanswer⟩
    · -- The document would have a result, and so a key.
      rw [← hsound.documents_eq] at hdocument
      obtain ⟨⟨document, progress⟩, hmem, rfl⟩ := List.mem_map.mp hdocument
      obtain ⟨result, rfl⟩ := Work.exists_result_of_answerOf hresults hmem
      obtain ⟨key, hkey⟩ := (hsound.fits _ hmem).1 rfl
      rw [hkeyless] at hkey
      cases hkey
    · obtain ⟨_, _, rfl⟩ := key?_eq_none_of_failure houtcomes hsound hmem hfinished
      exact hanswer

theorem Isolated.exists_key {shared : ResultCache}
    (h : Isolated generator workers documents (some shared)) (hdocument : document ∈ documents) :
    ∃ key, ResultCache.key? document = some key := by
  cases hkey : ResultCache.key? document with
  | some key => exact ⟨key, rfl⟩
  | none =>
      obtain ⟨final, hrun, hended, -, -⟩ :=
        Work.exists_serial_run generator workers documents shared
      obtain ⟨results, hresults, _, _⟩ := h.atEnd final hrun hended
      rw [(fails_of_keyless houtcomes workers shared hdocument hkey).atEnd final hrun hended]
        at hresults
      cases hresults

end Outcomes

/-- In a fresh cache, documents with one key have to have one outcome. -/
theorem Isolated.keysAgree {shared : ResultCache}
    (h : Isolated generator workers documents (some shared)) (hfresh : IsFresh (some shared)) :
    KeysAgree generator documents := by
  obtain ⟨final, hrun, hended, hserial, -⟩ :=
    Work.exists_serial_run generator workers documents shared
  obtain ⟨results, hresults, _, houtcomes⟩ := h.atEnd final hrun hended
  rw [hserial, Option.some.injEq] at hresults
  exact .of_outcomesWithCache (Generator.collect_eq_ok_iff.mp hresults) (houtcomes hfresh)

end Isolated

/-- When the documents of a batch do not affect each other: always without a cache, and
with one exactly if every content can be encoded and, as long as the cache is fresh, no
two documents with one name and one digest differ in their results. -/
theorem standard_isolated_iff (target : Target) (workers : Int)
    (documents : List Schema.Document) (cache : Option ResultCache) :
    Isolated (Generator.standard target) workers documents cache ↔
      cache = none ∨
        (∀ document ∈ documents, (Text.toUtf8? document.content).isSome = true) ∧
          (IsFresh cache → KeysAgree (Generator.standard target) documents) := by
  have houtcomes := Generator.exists_outcome_standard target
  constructor
  · intro hisolated
    cases cache with
    | none => exact Or.inl rfl
    | some shared =>
        right
        refine ⟨fun document hdocument => ?_, fun hfresh => hisolated.keysAgree hfresh⟩
        exact ResultCache.exists_key_iff.mp (hisolated.exists_key houtcomes hdocument)
  · rintro (rfl | ⟨hencodable, hagree⟩)
    · exact isolated_of_keys houtcomes (fun _ _ hfalse => nomatch hfalse)
        (fun hfalse => nomatch hfalse)
    · apply isolated_of_keys houtcomes
      · intro document hdocument _
        exact ResultCache.exists_key_iff.mpr (hencodable document hdocument)
      · intro _ hfresh
        exact hagree hfresh

/-- A content that cannot be encoded. -/
def surrogateContent : Schema.Document where
  name := Text.ofString "bad"
  content := [0xD800]

/-- Next to a content that cannot be encoded a record has no result with a cache. -/
theorem surrogateContent_not_isolated :
    ¬Isolated (Generator.standard .csharp) 1 [plainRecord, surrogateContent]
      (some {}) := by
  intro hisolated
  have hmem : surrogateContent ∈ [plainRecord, surrogateContent] :=
    List.mem_cons_of_mem _ (List.mem_singleton_self _)
  obtain ⟨key, hkey⟩ := hisolated.exists_key (Generator.exists_outcome_standard .csharp) hmem
  cases hkey

end Batch

end RecordSmith
