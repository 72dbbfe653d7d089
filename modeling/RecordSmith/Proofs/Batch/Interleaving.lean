import RecordSmith.Proofs.Batch.SharedCache
import RecordSmith.Proofs.Batch.Workers

/-!
# Results of interleaved workers

Two workers can miss the same document and both generate it, and one can find what the
other has just remembered.  None of this shows in the end: the answer of a batch is
the one without a cache, and the cache has grown by the results of its documents.
-/

namespace RecordSmith

namespace ResultCache

/-- Every key has one entry at most. -/
def KeysOnce (cache : ResultCache) : Prop := (cache.results.map Prod.fst).Nodup

/-- The entry is what the generator makes of one of the documents. -/
def IsMadeBy (generator : Generator) (documents : List Schema.Document)
    (entry : (Text × Text) × GenerationResult) : Prop :=
  ∃ document ∈ documents,
    key? document = some entry.1 ∧ generator.outcome document = .ok entry.2

/-- The cache has grown by exactly the added entries, and has been asked a number of
times. -/
structure GrownBy (added : (Text × Text) × GenerationResult → Prop) (lookups : Nat)
    (cache after : ResultCache) : Prop where
  keysOnce : after.KeysOnce
  entries : ∀ entry, entry ∈ after.results ↔ entry ∈ cache.results ∨ added entry
  counted : after.hits + after.misses = cache.hits + cache.misses + lookups

section Entries

variable {cache later : ResultCache} {key : Text × Text} {result : GenerationResult}

theorem get_eq_some (h : cache.get key = (some result, later)) :
    cache.result? key = some result ∧ later = { cache with hits := cache.hits + 1 } := by
  rw [get] at h
  split at h
  case h_1 found hfound =>
    cases h
    exact ⟨hfound, rfl⟩
  case h_2 => cases h

theorem get_eq_none (h : cache.get key = (none, later)) :
    cache.result? key = none ∧ later = { cache with misses := cache.misses + 1 } := by
  rw [get] at h
  split at h
  case h_1 => cases h
  case h_2 hmissing =>
    cases h
    exact ⟨hmissing, rfl⟩

theorem KeysOnce.put (h : cache.KeysOnce) (key : Text × Text) (result : GenerationResult) :
    (cache.put key result).KeysOnce := by
  rw [KeysOnce, ResultCache.put, List.map_cons, List.nodup_cons]
  constructor
  · intro hmem
    obtain ⟨entry, hentry, hkey⟩ := List.mem_map.mp hmem
    have hne := (List.mem_filter.mp hentry).2
    rw [bne_iff_ne] at hne
    exact hne hkey
  · exact h.sublist (List.filter_sublist.map Prod.fst)

theorem KeysOnce.mem_results_iff (h : cache.KeysOnce) :
    (key, result) ∈ cache.results ↔ cache.result? key = some result :=
  (Association.lookup_eq_some_iff_mem h).symm

/-- A result that is remembered again leaves all entries as they are. -/
theorem KeysOnce.mem_put_iff (h : cache.KeysOnce)
    (hsame : ∀ found, cache.result? key = some found → found = result)
    (entry : (Text × Text) × GenerationResult) :
    entry ∈ (cache.put key result).results ↔ entry ∈ cache.results ∨ entry = (key, result) := by
  rw [ResultCache.put, List.mem_cons, List.mem_filter, bne_iff_ne]
  constructor
  · rintro (rfl | ⟨hmem, _⟩)
    · exact Or.inr rfl
    · exact Or.inl hmem
  · rintro (hmem | rfl)
    · by_cases hkey : entry.1 = key
      · left
        have hfound := h.mem_results_iff.mp hmem
        rw [hkey] at hfound
        exact Prod.ext hkey (hsame entry.2 hfound)
      · exact Or.inr ⟨hmem, hkey⟩
    · exact Or.inl rfl

end Entries

section Growth

variable {added more : (Text × Text) × GenerationResult → Prop} {lookups others : Nat}
variable {cache after last : ResultCache}

theorem GrownBy.refl (h : cache.KeysOnce) : GrownBy (fun _ => False) 0 cache cache where
  keysOnce := h
  entries := fun _ => by rw [or_false]
  counted := rfl

theorem GrownBy.congr (h : GrownBy added lookups cache after)
    (hadded : ∀ entry, added entry ↔ more entry) (hlookups : lookups = others) :
    GrownBy more others cache after where
  keysOnce := h.keysOnce
  entries := fun entry => by rw [h.entries, hadded]
  counted := hlookups ▸ h.counted

theorem GrownBy.trans (h : GrownBy added lookups cache after)
    (hnext : GrownBy more others after last) :
    GrownBy (fun entry => added entry ∨ more entry) (lookups + others) cache last where
  keysOnce := hnext.keysOnce
  entries := fun entry => by rw [hnext.entries, h.entries, or_assoc]
  counted := by rw [hnext.counted, h.counted, Nat.add_assoc]

end Growth

end ResultCache

namespace Generator

/-- The outcome of a document that is alone, without a cache or with an empty one. -/
def alone (generator : Generator) (cached : Bool) (document : Schema.Document) : Outcome :=
  if cached then (generator.outcomeWithCache document {}).1 else generator.outcome document

theorem alone_of_key (generator : Generator) (cached : Bool) {document : Schema.Document}
    {key : Text × Text} (hkey : ResultCache.key? document = some key) :
    generator.alone cached document = generator.outcome document := by
  cases cached with
  | false => rfl
  | true =>
      have hget : ({} : ResultCache).get key = (none, { misses := 1 }) := rfl
      rw [alone, if_pos rfl]
      simp only [outcomeWithCache, hkey, hget, outcomeAfterMiss]
      cases generator.outcome document with
      | ok result => rfl
      | error error => rfl

theorem alone_keyless (generator : Generator) {document : Schema.Document}
    (hkey : ResultCache.key? document = none) :
    generator.alone true document = .error .surrogateInContent := by
  rw [alone, if_pos rfl]
  simp only [outcomeWithCache, hkey]

end Generator

namespace Batch

/-! ## What may be answered -/

/-- What may be answered for the documents of a batch: what the generator makes of
them, and with a cache the same for documents with one key. -/
structure Permits (generator : Generator) (documents : List Schema.Document)
    (answers : Schema.Document → GenerationResult → Prop) (cached : Bool) : Prop where
  own : ∀ document ∈ documents, ∀ result,
    generator.outcome document = .ok result → answers document result
  sameKey : cached = true → ∀ document ∈ documents, ∀ other ∈ documents, ∀ key,
    ResultCache.key? document = some key → ResultCache.key? other = some key →
    ∀ result, answers document result → answers other result

/-- The cache, if there is one, holds for the documents only what may be answered. -/
def Allows (answers : Schema.Document → GenerationResult → Prop)
    (documents : List Schema.Document) (cache : Option ResultCache) : Prop :=
  ∀ shared, cache = some shared → ∀ document ∈ documents, ∀ key,
    ResultCache.key? document = some key → ∀ result,
      shared.result? key = some result → answers document result

/-- The document has a key if there is a cache to look it up in. -/
def IsKeyed (cached : Bool) (document : Schema.Document) : Prop :=
  cached = true → ∃ key, ResultCache.key? document = some key

/-- A document has come as far as may be answered. -/
def Progress.Fits (generator : Generator)
    (answers : Schema.Document → GenerationResult → Prop) (cached : Bool)
    (document : Schema.Document) : Progress → Prop
  | waiting => True
  | missed => IsKeyed cached document
  | generated result => IsKeyed cached document ∧ generator.outcome document = .ok result
  | finished (.ok result) => IsKeyed cached document ∧ answers document result
  | finished (.error error) => generator.alone cached document = .error error
  | cancelled => True

/-- A batch at work has answered only what may be answered. -/
structure Work.Sound (generator : Generator) (documents : List Schema.Document)
    (answers : Schema.Document → GenerationResult → Prop) (cached : Bool)
    (work : Work) : Prop where
  documents_eq : work.tasks.map Prod.fst = documents
  isCached : work.cache.isSome = cached
  cancelled : Work.CancelledBehindFailure work.tasks
  fits : ∀ task ∈ work.tasks, task.2.Fits generator answers cached task.1
  allows : Allows answers documents work.cache

section Sound

variable {generator : Generator} {workers : Int} {documents : List Schema.Document}
variable {answers : Schema.Document → GenerationResult → Prop} {cached : Bool}
variable {document : Schema.Document} {progress next : Progress}

theorem IsKeyed.alone_eq (h : IsKeyed cached document) :
    generator.alone cached document = generator.outcome document := by
  cases cached with
  | false => rfl
  | true =>
      obtain ⟨key, hkey⟩ := h rfl
      exact generator.alone_of_key true hkey

/-- A list of tasks in which one is replaced. -/
theorem forall_mem_replace {property : Task → Prop} {before rest : List Task}
    (h : ∀ task ∈ before ++ (document, progress) :: rest, property task)
    (hnext : property (document, next)) :
    ∀ task ∈ before ++ (document, next) :: rest, property task := by
  intro task hmem
  rw [List.mem_append, List.mem_cons] at hmem
  rcases hmem with hbefore | rfl | hrest
  · exact h task (List.mem_append_left _ hbefore)
  · exact hnext
  · exact h task (List.mem_append_right _ (List.mem_cons_of_mem _ hrest))

section Allows

variable {shared later : ResultCache}

/-- The counters of a cache do not matter. -/
theorem Allows.of_results (h : Allows answers documents (some shared))
    (hresults : later.results = shared.results) : Allows answers documents (some later) := by
  rintro _ ⟨⟩ document hdocument key hkey result hresult
  rw [ResultCache.result?, hresults] at hresult
  exact h shared rfl document hdocument key hkey result hresult

theorem Allows.put (h : Allows answers documents (some shared))
    (hpermits : Permits generator documents answers true) (hdocument : document ∈ documents)
    {key : Text × Text} (hkey : ResultCache.key? document = some key)
    {result : GenerationResult} (hanswer : answers document result) :
    Allows answers documents (some (shared.put key result)) := by
  rintro _ ⟨⟩ other hother otherKey hotherKey found hfound
  by_cases hsame : otherKey = key
  · subst hsame
    rw [ResultCache.result?_put_self, Option.some.injEq] at hfound
    subst hfound
    exact hpermits.sameKey rfl document hdocument other hother otherKey hkey hotherKey _ hanswer
  · rw [ResultCache.result?_put_of_ne hsame] at hfound
    exact h shared rfl other hother otherKey hotherKey found hfound

end Allows

/-- One step of a worker answers what may be answered, and leaves no more in the
cache. -/
theorem Advance.sound {cache later : Option ResultCache}
    (h : Advance generator document progress cache next later)
    (hpermits : Permits generator documents answers cached) (hdocument : document ∈ documents)
    (hcached : cache.isSome = cached) (hfits : progress.Fits generator answers cached document)
    (hallows : Allows answers documents cache) :
    later.isSome = cached ∧ next.Fits generator answers cached document ∧
      Allows answers documents later := by
  cases h with
  | start =>
      subst hcached
      have hkeyed : IsKeyed (none : Option ResultCache).isSome document := Bool.false_ne_true.elim
      exact ⟨rfl, hkeyed, hallows⟩
  | keyless hkey =>
      subst hcached
      exact ⟨rfl, generator.alone_keyless hkey, hallows⟩
  | @hit shared after key result hkey hget =>
      obtain ⟨hresult, rfl⟩ := ResultCache.get_eq_some hget
      refine ⟨hcached, ⟨fun _ => ⟨key, hkey⟩, ?_⟩, hallows.of_results rfl⟩
      exact hallows shared rfl document hdocument key hkey result hresult
  | @miss shared after key hkey hget =>
      obtain ⟨_, rfl⟩ := ResultCache.get_eq_none hget
      exact ⟨hcached, fun _ => ⟨key, hkey⟩, hallows.of_results rfl⟩
  | generate houtcome => exact ⟨hcached, ⟨hfits, houtcome⟩, hallows⟩
  | fail houtcome =>
      have hkeyed : IsKeyed cached document := hfits
      exact ⟨hcached, hkeyed.alone_eq.trans houtcome, hallows⟩
  | finish =>
      obtain ⟨hkeyed, houtcome⟩ := hfits
      exact ⟨hcached, ⟨hkeyed, hpermits.own document hdocument _ houtcome⟩, hallows⟩
  | put hkey =>
      obtain ⟨hkeyed, houtcome⟩ := hfits
      have hanswer := hpermits.own document hdocument _ houtcome
      subst hcached
      exact ⟨rfl, ⟨hkeyed, hanswer⟩, hallows.put hpermits hdocument hkey hanswer⟩
  | putKeyless hkey =>
      subst hcached
      exact ⟨rfl, generator.alone_keyless hkey, hallows⟩

theorem Work.Sound.mem_documents {work : Work}
    (h : work.Sound generator documents answers cached) {task : Task} (hmem : task ∈ work.tasks) :
    task.1 ∈ documents :=
  h.documents_eq ▸ List.mem_map_of_mem hmem

theorem Work.Sound.step {work after : Work} (h : work.Sound generator documents answers cached)
    (hpermits : Permits generator documents answers cached)
    (hstep : Work.Step generator workers work after) :
    after.Sound generator documents answers cached := by
  have hdocuments := hstep.documents_eq.trans h.documents_eq
  have hcancelled := hstep.cancelledBehindFailure h.cancelled
  have hfits := h.fits
  cases hstep with
  | @advance _ _ document progress _ _ htasks hfree hadvance =>
      have hmem := Work.mem_tasks htasks
      obtain ⟨hlater, hnext, hallows⟩ := hadvance.sound hpermits (h.mem_documents hmem)
        h.isCached (hfits _ hmem) h.allows
      rw [htasks] at hfits
      exact ⟨hdocuments, hlater, hcancelled, forall_mem_replace hfits hnext, hallows⟩
  | cancel htasks hfailed =>
      rw [htasks] at hfits
      exact ⟨hdocuments, h.isCached, hcancelled, forall_mem_replace hfits trivial, h.allows⟩

theorem Work.sound_ofDocuments {cache : Option ResultCache}
    (hallows : Allows answers documents cache) :
    (Work.ofDocuments documents cache).Sound generator documents answers cache.isSome where
  documents_eq := by simp [Work.ofDocuments, Function.comp_def]
  isCached := rfl
  cancelled := Work.cancelledBehindFailure_ofDocuments documents
  fits := by
    intro task hmem
    obtain ⟨document, _, rfl⟩ := List.mem_map.mp hmem
    exact trivial
  allows := hallows

end Sound

/-! ## What is remembered -/

/-- A worker has taken the document. -/
def Progress.isTaken : Progress → Bool
  | waiting => false
  | cancelled => false
  | _ => true

/-- The documents that workers have taken. -/
def taken (tasks : List Task) : List Schema.Document :=
  (tasks.filter (·.2.isTaken)).map Prod.fst

/-- The entry is the result that one of the documents has finished with. -/
def IsFinished (tasks : List Task) (entry : (Text × Text) × GenerationResult) : Prop :=
  ∃ task ∈ tasks, ResultCache.key? task.1 = some entry.1 ∧ task.2 = .finished (.ok entry.2)

section Growth

variable {generator : Generator} {workers : Int} {documents : List Schema.Document}
variable {document : Schema.Document} {progress next : Progress}
variable {entry : (Text × Text) × GenerationResult}

theorem length_taken (before rest : List Task) (document : Schema.Document)
    (progress : Progress) : (taken (before ++ (document, progress) :: rest)).length =
      (taken (before ++ rest)).length + progress.isTaken.toNat := by
  cases htaken : progress.isTaken with
  | true => simp [taken, htaken, Nat.add_assoc]
  | false => simp [taken, htaken]

theorem isFinished_iff {before rest : List Task} :
    IsFinished (before ++ (document, progress) :: rest) entry ↔
      IsFinished (before ++ rest) entry ∨
        (ResultCache.key? document = some entry.1 ∧ progress = .finished (.ok entry.2)) := by
  simp only [IsFinished, List.mem_append, List.mem_cons, or_and_right, exists_or,
    exists_eq_left]
  exact (or_congr_right or_comm).trans or_assoc.symm

/-- One step of a worker adds the result of its document to the cache when it finishes
with it, and asks the cache when it takes the document. -/
theorem Advance.grown {shared : ResultCache} {later : Option ResultCache} {key : Text × Text}
    (h : Advance generator document progress (some shared) next later)
    (honce : shared.KeysOnce) (hkey : ResultCache.key? document = some key)
    (hshared : ∀ result, shared.result? key = some result →
      generator.outcome document = .ok result)
    (hgenerated : ∀ result, progress = .generated result →
      generator.outcome document = .ok result) :
    ∃ after lookups, later = some after ∧
      lookups + progress.isTaken.toNat = next.isTaken.toNat ∧
      ResultCache.GrownBy (fun entry => ResultCache.key? document = some entry.1 ∧
        next = .finished (.ok entry.2)) lookups shared after := by
  cases h with
  | keyless hkeyless => rw [hkeyless] at hkey; cases hkey
  | hit hkey' hget =>
      cases hkey.symm.trans hkey'
      obtain ⟨hresult, rfl⟩ := ResultCache.get_eq_some hget
      refine ⟨_, 1, rfl, rfl, honce, fun entry => ?_, by simp; omega⟩
      -- The result is in the cache already.
      refine ⟨Or.inl, fun hentry => hentry.elim id ?_⟩
      rintro ⟨hentry, hfinished⟩
      cases hkey.symm.trans hentry
      cases hfinished
      exact honce.mem_results_iff.mpr hresult
  | miss hkey' hget =>
      obtain ⟨_, rfl⟩ := ResultCache.get_eq_none hget
      exact ⟨_, 1, rfl, rfl, honce, fun entry => by simp, by simp; omega⟩
  | generate houtcome =>
      exact ⟨_, 0, rfl, rfl, (ResultCache.GrownBy.refl honce).congr (by simp) rfl⟩
  | fail houtcome =>
      exact ⟨_, 0, rfl, rfl, (ResultCache.GrownBy.refl honce).congr (by simp) rfl⟩
  | @put _ _ result hkey' =>
      cases hkey.symm.trans hkey'
      refine ⟨_, 0, rfl, rfl, honce.put key result, fun entry => ?_, rfl⟩
      rw [honce.mem_put_iff]
      · simp [hkey, Prod.ext_iff, eq_comm]
      · intro found hfound
        have hsame := (hshared found hfound).symm.trans (hgenerated result rfl)
        cases hsame
        rfl
  | putKeyless hkeyless => rw [hkeyless] at hkey; cases hkey

/-- A batch that has answered only what the generator makes of its documents. -/
abbrev IsExact (generator : Generator) (documents : List Schema.Document)
    (work : Work) : Prop :=
  work.Sound generator documents (fun document result => generator.outcome document = .ok result)
    true

/-- The cache has grown by the results of the documents that have finished, and has been
asked for all that were taken. -/
def Accounts (start : ResultCache) (work : Work) : Prop :=
  ∃ shared, work.cache = some shared ∧
    ResultCache.GrownBy (IsFinished work.tasks) (taken work.tasks).length start shared

theorem Accounts.step {start : ResultCache} {work after : Work} (h : Accounts start work)
    (hexact : IsExact generator documents work)
    (hkeys : ∀ document ∈ documents, ∃ key, ResultCache.key? document = some key)
    (hstep : Work.Step generator workers work after) : Accounts start after := by
  obtain ⟨shared, hshared, hgrown⟩ := h
  cases hstep with
  | @advance before rest document progress next _ htasks hfree hadvance =>
      have hmem := Work.mem_tasks htasks
      have hdocument := hexact.mem_documents hmem
      have hfits := hexact.fits _ hmem
      have hopen := hadvance.isSettled_eq_false
      obtain ⟨key, hkey⟩ := hkeys document hdocument
      rw [hshared] at hadvance
      have hallows := hexact.allows shared hshared document hdocument key hkey
      have hgenerated : ∀ result, progress = .generated result →
          generator.outcome document = .ok result := by
        rintro result rfl
        exact hfits.2
      obtain ⟨later, lookups, rfl, hlookups, hadded⟩ :=
        hadvance.grown hgrown.keysOnce hkey hallows hgenerated
      -- The document had not finished before, so its result is all that is new.
      refine ⟨later, rfl, (hgrown.trans hadded).congr (fun entry => ?_) ?_⟩
      · have hunfinished : progress ≠ .finished (.ok entry.2) := by
          rintro rfl
          cases hopen
        rw [htasks, isFinished_iff, isFinished_iff]
        simp [hunfinished]
      · rw [htasks, length_taken, length_taken]
        omega
  | cancel htasks hfailed =>
      refine ⟨shared, hshared, hgrown.congr (fun entry => ?_) ?_⟩
      · rw [htasks, isFinished_iff, isFinished_iff]
        simp
      · rw [htasks, length_taken, length_taken]
        rfl

theorem accounts_ofDocuments {cache : ResultCache} (honce : cache.KeysOnce)
    (documents : List Schema.Document) :
    Accounts cache (Work.ofDocuments documents (some cache)) := by
  have htaken : taken (Work.ofDocuments documents (some cache)).tasks = [] := by
    rw [taken, List.map_eq_nil_iff, List.filter_eq_nil_iff]
    intro task hmem
    obtain ⟨_, _, rfl⟩ := List.mem_map.mp hmem
    exact Bool.false_ne_true
  refine ⟨cache, rfl, (ResultCache.GrownBy.refl honce).congr (fun entry => ?_) ?_⟩
  · simp [IsFinished, Work.ofDocuments]
  · rw [htaken]
    rfl

section Final

variable {final : Work} (hexact : IsExact generator documents final)
variable (hkeys : ∀ document ∈ documents, ∃ key, ResultCache.key? document = some key)
variable (hsettled : ∀ task ∈ final.tasks, task.2.isSettled = true)
include hexact hkeys

theorem eq_outcome_of_finished {task : Task} (hmem : task ∈ final.tasks) {outcome : Outcome}
    (hfinished : task.2 = .finished outcome) : outcome = generator.outcome task.1 := by
  obtain ⟨document, progress⟩ := task
  subst hfinished
  cases outcome with
  | ok result => exact (hexact.fits _ hmem).2.symm
  | error error =>
      have hfails : generator.alone true document = .error error := hexact.fits _ hmem
      obtain ⟨key, hkey⟩ := hkeys document (hexact.mem_documents hmem)
      rw [← hfails, generator.alone_of_key true hkey]

include hsettled

theorem isFinished_iff_isMadeBy_taken : IsFinished final.tasks entry ↔
    ResultCache.IsMadeBy generator (taken final.tasks) entry := by
  constructor
  · rintro ⟨task, hmem, hkey, hfinished⟩
    have hmade := eq_outcome_of_finished hexact hkeys hmem hfinished
    refine ⟨task.1, List.mem_map_of_mem (List.mem_filter.mpr ⟨hmem, ?_⟩), hkey, hmade.symm⟩
    rw [hfinished]
    rfl
  · rintro ⟨_, htaken, hkey, hmade⟩
    obtain ⟨⟨document, progress⟩, hfiltered, rfl⟩ := List.mem_map.mp htaken
    obtain ⟨hmem, htaken⟩ := List.mem_filter.mp hfiltered
    refine ⟨_, hmem, hkey, ?_⟩
    have hsettled := hsettled _ hmem
    cases progress with
    | finished outcome => rw [eq_outcome_of_finished hexact hkeys hmem rfl, hmade]
    | cancelled => cases htaken
    | _ => cases hsettled

end Final

/-- A batch of which all documents have a result has taken all of them. -/
theorem taken_of_answer {final : Work} {results : List GenerationResult}
    (hanswer : final.answer = some (.ok results)) :
    taken final.tasks = final.tasks.map Prod.fst := by
  rw [taken, List.filter_eq_self.mpr]
  intro task hmem
  obtain ⟨result, hfinished⟩ := Work.exists_result_of_answerOf hanswer hmem
  rw [hfinished]
  rfl

/-- However several workers share a cache of one generator, the answer is the one without
a cache.  The cache grows by exactly the results of the documents that were taken, and
is asked once for each of them; if there are results, these are all documents. -/
theorem interleaved_eq_generateAll {known : List Schema.Document} {cache : ResultCache}
    (hkeys : ResultCache.Separates (documents ++ known)) (honce : cache.KeysOnce)
    (hmade : ∀ entry ∈ cache.results, ResultCache.IsMadeBy generator known entry) :
    (Work.ofDocuments documents (some cache)).AlwaysEnds generator workers fun final =>
      final.answer = some (generator.generateAll documents) ∧
      (∃ after, final.cache = some after ∧
        ResultCache.GrownBy (ResultCache.IsMadeBy generator (taken final.tasks))
          (taken final.tasks).length cache after) ∧
      ∀ results, generator.generateAll documents = .ok results →
        taken final.tasks = documents := by
  have hkeyed : ∀ document ∈ documents, ∃ key, ResultCache.key? document = some key :=
    fun document hdocument => hkeys.exists_key (List.mem_append_left known hdocument)
  have hpermits : Permits generator documents
      (fun document result => generator.outcome document = .ok result) true := by
    refine ⟨fun _ _ _ houtcome => houtcome, ?_⟩
    intro _ document hdocument other hother key hkey hotherKey result hresult
    rwa [← hkeys.eq_of_key (List.mem_append_left _ hdocument) (List.mem_append_left _ hother)
      hkey hotherKey]
  have hallows : Allows (fun document result => generator.outcome document = .ok result)
      documents (some cache) := by
    rintro _ ⟨⟩ document hdocument key hkey result hresult
    obtain ⟨other, hother, hotherKey, hresult⟩ := hmade _ (honce.mem_results_iff.mpr hresult)
    rwa [hkeys.eq_of_key (List.mem_append_left _ hdocument) (List.mem_append_right _ hother)
      hkey hotherKey]
  -- What is answered and what is remembered are kept together: a worker may answer with
  -- what another one has remembered.
  let invariant (work : Work) := IsExact generator documents work ∧ Accounts cache work
  have hstart : invariant (Work.ofDocuments documents (some cache)) :=
    ⟨Work.sound_ofDocuments hallows, accounts_ofDocuments honce documents⟩
  apply Work.alwaysEnds_of_invariant hstart
  · intro work next ⟨hexact, haccounts⟩ hstep
    exact ⟨hexact.step hpermits hstep, haccounts.step hexact hkeyed hstep⟩
  · intro final ⟨hexact, after, hafter, hgrown⟩ hsettled
    have hanswer : final.answer = some (generator.generateAll documents) := by
      rw [Work.answer, Work.answerOf_of_settled hsettled hexact.cancelled
        fun task hmem outcome => eq_outcome_of_finished hexact hkeyed hmem,
        hexact.documents_eq]
      rfl
    refine ⟨hanswer, ⟨after, hafter, ?_⟩, fun results hresults => ?_⟩
    · exact hgrown.congr (fun entry => isFinished_iff_isMadeBy_taken hexact hkeyed hsettled) rfl
    · rw [taken_of_answer (hanswer.trans (congrArg some hresults)), hexact.documents_eq]

end Growth

/-- A record, the same under another name, and the record again. -/
def repeatedRecord : List Schema.Document :=
  [plainRecord, { plainRecord with name := Text.ofString "order" }, plainRecord]

/-- The cache after one look at the record. -/
def recordCache : ResultCache :=
  ((Generator.standard .csharp).outcomeWithCache plainRecord {}).2

theorem separates_repeatedRecord : ResultCache.Separates (repeatedRecord ++ [plainRecord]) where
  encodable := by
    have hencodable : (Text.toUtf8? plainRecord.content).isSome = true := by decide +kernel
    simpa [repeatedRecord] using hencodable
  collisionFree := by simp [repeatedRecord]

theorem results_recordCache : ∃ key result, recordCache.results = [(key, result)] ∧
    ResultCache.IsMadeBy (Generator.standard .csharp) [plainRecord] (key, result) := by
  have hrecord : plainRecord ∈ repeatedRecord ++ [plainRecord] := List.mem_cons_self
  obtain ⟨key, hkey⟩ := separates_repeatedRecord.exists_key hrecord
  obtain ⟨result, houtcome, _⟩ := outcome_plainRecord .csharp
  refine ⟨key, result, ?_, plainRecord, List.mem_singleton_self _, hkey, houtcome⟩
  have hget : ({} : ResultCache).get key = (none, { misses := 1 }) := rfl
  simp only [recordCache, Generator.outcomeWithCache, hkey, hget, Generator.outcomeAfterMiss,
    houtcome]
  rfl

theorem keysOnce_recordCache : recordCache.KeysOnce := by
  obtain ⟨key, result, hresults, _⟩ := results_recordCache
  rw [ResultCache.KeysOnce, hresults]
  exact List.pairwise_singleton _ key

theorem isMadeBy_of_mem_recordCache : ∀ entry ∈ recordCache.results,
    ResultCache.IsMadeBy (Generator.standard .csharp) [plainRecord] entry := by
  obtain ⟨key, result, hresults, hmade⟩ := results_recordCache
  rw [hresults, List.forall_mem_singleton]
  exact hmade

theorem repeatedRecord_interleaved :
    ResultCache.Separates (repeatedRecord ++ [plainRecord]) ∧ recordCache.KeysOnce ∧
      (∀ entry ∈ recordCache.results,
        ResultCache.IsMadeBy (Generator.standard .csharp) [plainRecord] entry) ∧
      (Work.ofDocuments repeatedRecord (some recordCache)).AlwaysEnds
        (Generator.standard .csharp) 2 fun final =>
          final.answer = some ((Generator.standard .csharp).generateAll repeatedRecord) ∧
          (∃ after, final.cache = some after ∧
            ResultCache.GrownBy
              (ResultCache.IsMadeBy (Generator.standard .csharp) (taken final.tasks))
              (taken final.tasks).length recordCache after) ∧
          ∀ results, (Generator.standard .csharp).generateAll repeatedRecord = .ok results →
            taken final.tasks = repeatedRecord :=
  ⟨separates_repeatedRecord, keysOnce_recordCache, isMadeBy_of_mem_recordCache,
    interleaved_eq_generateAll separates_repeatedRecord keysOnce_recordCache
      isMadeBy_of_mem_recordCache⟩

end Batch

end RecordSmith
