import Mathlib.Logic.Function.Basic
import RecordSmith.Proofs.Association
import RecordSmith.Proofs.Batch.Generate
import RecordSmith.Proofs.Fallible
import RecordSmith.Proofs.Generator.Standard

/-!
# A cache shared by several calls

A cache knows documents by name and content, but not who made the results.  So a
call is served what the first call that made something of a document has made of
it.  The module computes these answers from the calls alone and says exactly for
which runs they are the answers without a cache.
-/

namespace RecordSmith

namespace ResultCache

theorem result?_put_self (cache : ResultCache) (key : Text × Text)
    (result : GenerationResult) : (cache.put key result).result? key = some result :=
  List.lookup_cons_self

theorem result?_put_of_ne {key other : Text × Text} (hne : other ≠ key)
    (cache : ResultCache) (result : GenerationResult) :
    (cache.put key result).result? other = cache.result? other := by
  rw [put, result?]
  rw [List.lookup_cons, beq_false_of_ne hne]
  exact Association.lookup_filter_ne hne cache.results

/-- The documents have keys that tell them apart: their contents can be encoded,
and no two of them with one digest differ. -/
structure Separates (documents : List Schema.Document) : Prop where
  encodable : ∀ document ∈ documents, (Text.toUtf8? document.content).isSome = true
  collisionFree : ∀ document ∈ documents, ∀ other ∈ documents,
    document.digest? = other.digest? → document.content = other.content

section Keys

variable {documents : List Schema.Document} {document other : Schema.Document}

theorem exists_key_iff :
    (∃ key, key? document = some key) ↔ (Text.toUtf8? document.content).isSome = true := by
  rw [← Option.isSome_iff_exists, key?, Schema.Document.digest?, Option.isSome_map,
    Option.isSome_map]

theorem Separates.exists_key (h : Separates documents) (hdocument : document ∈ documents) :
    ∃ key, key? document = some key :=
  exists_key_iff.mpr (h.encodable document hdocument)

/-- Documents with one key are equal if their common digest belongs to one content. -/
theorem eq_of_key {key : Text × Text} (hkey : key? document = some key)
    (hotherKey : key? other = some key)
    (hdigest : document.digest? = other.digest? → document.content = other.content) :
    document = other := by
  obtain ⟨digest, hdocumentDigest, hpair⟩ := Option.map_eq_some_iff.mp hkey
  obtain ⟨otherDigest, hotherDigest, hotherPair⟩ := Option.map_eq_some_iff.mp hotherKey
  rw [← hpair, Prod.mk.injEq] at hotherPair
  obtain ⟨hname, hsame⟩ := hotherPair
  have hcontent := hdigest (by rw [hdocumentDigest, hotherDigest, hsame])
  cases document
  cases other
  simp_all

theorem Separates.eq_of_key (h : Separates documents) (hdocument : document ∈ documents)
    (hother : other ∈ documents) {key : Text × Text} (hkey : key? document = some key)
    (hotherKey : key? other = some key) : document = other :=
  ResultCache.eq_of_key hkey hotherKey (h.collisionFree document hdocument other hother)

end Keys

/-- The cache holds of each document what the memory does. -/
def Holds (cache : ResultCache) (documents : List Schema.Document)
    (memory : Schema.Document → Option GenerationResult) : Prop :=
  ∀ document ∈ documents, ∀ key, key? document = some key →
    cache.result? key = memory document

section Holds

variable {cache : ResultCache} {documents : List Schema.Document}
variable {memory : Schema.Document → Option GenerationResult}

theorem holds_empty (documents : List Schema.Document) :
    Holds {} documents fun _ => none := by
  intro document _ key _
  rfl

/-- The counters of a cache do not matter. -/
theorem Holds.of_results {other : ResultCache} (h : cache.Holds documents memory)
    (hresults : other.results = cache.results) : other.Holds documents memory := by
  intro document hdocument key hkey
  rw [result?, hresults]
  exact h document hdocument key hkey

/-- A new result is held for its document alone. -/
theorem Holds.put (h : cache.Holds documents memory) (hkeys : Separates documents)
    {document : Schema.Document} (hdocument : document ∈ documents) {key : Text × Text}
    (hkey : key? document = some key) (result : GenerationResult) :
    (cache.put key result).Holds documents
      (Function.update memory document (some result)) := by
  intro other hother otherKey hotherKey
  by_cases hsame : other = document
  · subst hsame
    have heq : otherKey = key := Option.some.inj (hotherKey.symm.trans hkey)
    rw [heq, result?_put_self, Function.update_self]
  · have hne : otherKey ≠ key := by
      rintro rfl
      exact hsame (hkeys.eq_of_key hother hdocument hotherKey hkey)
    rw [result?_put_of_ne hne, Function.update_of_ne hsame]
    exact h other hother otherKey hotherKey

end Holds

end ResultCache

namespace Generator

/-- The outcome of a document for a call that remembers results. -/
def served (generator : Generator)
    (memory : Schema.Document → Option GenerationResult) (document : Schema.Document) :
    Outcome :=
  match memory document with
  | some result => .ok result
  | none => generator.outcome document

/-- What is remembered after more documents were looked at: a result that is there
stays, and a failure leaves nothing behind. -/
def learn (generator : Generator) (documents : List Schema.Document)
    (memory : Schema.Document → Option GenerationResult) :
    Schema.Document → Option GenerationResult :=
  fun document => (memory document).or
    (if document ∈ documents then (generator.outcome document).toOption else none)

section Memory

variable {generator : Generator} {involved documents : List Schema.Document}
variable {memory : Schema.Document → Option GenerationResult}

theorem learn_nil : generator.learn [] memory = memory := by
  funext document
  simp [learn]

theorem learn_cons (document : Schema.Document) :
    generator.learn documents (generator.learn [document] memory) =
      generator.learn (document :: documents) memory := by
  funext other
  by_cases hfirst : other = document
  · subst hfirst
    cases houtcome : generator.outcome other with
    | error error => simp [learn, houtcome, Except.toOption]
    | ok result => simp [learn, houtcome, Except.toOption]
  · simp [learn, hfirst]

section One

variable {document : Schema.Document}

theorem learn_known {result : GenerationResult} (hmemory : memory document = some result) :
    generator.learn [document] memory = memory := by
  funext other
  by_cases hsame : other = document
  · subst hsame
    simp [learn, hmemory]
  · simp [learn, hsame]

theorem learn_failure {error : BatchError}
    (houtcome : generator.outcome document = .error error) :
    generator.learn [document] memory = memory := by
  funext other
  by_cases hsame : other = document
  · subst hsame
    simp [learn, houtcome, Except.toOption]
  · simp [learn, hsame]

theorem learn_result {result : GenerationResult} (hmemory : memory document = none)
    (houtcome : generator.outcome document = .ok result) :
    generator.learn [document] memory = Function.update memory document (some result) := by
  funext other
  by_cases hsame : other = document
  · subst hsame
    rw [Function.update_self]
    simp [learn, hmemory, houtcome, Except.toOption]
  · rw [Function.update_of_ne hsame]
    simp [learn, hsame]

end One

/-- What a generator learns does not change what it is served. -/
theorem served_learn : generator.served (generator.learn documents memory) =
    generator.served memory := by
  funext document
  unfold served learn
  cases memory document with
  | some result => rfl
  | none =>
      by_cases hmem : document ∈ documents
      · rw [if_pos hmem, Option.none_or]
        cases generator.outcome document with
        | ok result => rfl
        | error error => rfl
      · rw [if_neg hmem]
        rfl

variable {cache : ResultCache}

/-- One document: the cache answers for the memory, and goes on to hold what the
generator has learned. -/
theorem outcomeWithCache_of_holds (generator : Generator)
    (hkeys : ResultCache.Separates involved) {document : Schema.Document}
    (hdocument : document ∈ involved) (hcache : cache.Holds involved memory) :
    (generator.outcomeWithCache document cache).1 = generator.served memory document ∧
      (generator.outcomeWithCache document cache).2.Holds involved
        (generator.learn [document] memory) := by
  obtain ⟨key, hkey⟩ := hkeys.exists_key hdocument
  have hresult := hcache document hdocument key hkey
  cases hmemory : memory document with
  | some result =>
      rw [hmemory] at hresult
      simp only [outcomeWithCache, hkey, ResultCache.get, hresult, served, hmemory, true_and]
      rw [learn_known hmemory]
      exact hcache.of_results rfl
  | none =>
      rw [hmemory] at hresult
      cases houtcome : generator.outcome document with
      | error error =>
          simp only [outcomeWithCache, hkey, ResultCache.get, hresult, outcomeAfterMiss,
            houtcome, served, hmemory, true_and]
          rw [learn_failure houtcome]
          exact hcache.of_results rfl
      | ok result =>
          simp only [outcomeWithCache, hkey, ResultCache.get, hresult, outcomeAfterMiss,
            houtcome, served, hmemory, true_and]
          rw [learn_result hmemory houtcome]
          exact (hcache.put hkeys hdocument hkey result).of_results rfl

/-- Many documents: the cache answers all of them for the memory at the start. -/
theorem outcomesWithCache_of_holds (generator : Generator)
    (hkeys : ResultCache.Separates involved)
    (hdocuments : ∀ document ∈ documents, document ∈ involved)
    (hcache : cache.Holds involved memory) :
    (generator.outcomesWithCache documents cache).1 =
        documents.map (generator.served memory) ∧
      (generator.outcomesWithCache documents cache).2.Holds involved
        (generator.learn documents memory) := by
  induction documents generalizing cache memory with
  | nil =>
      rw [learn_nil]
      exact ⟨rfl, hcache⟩
  | cons document rest ih =>
      obtain ⟨hfirst, hheld⟩ := outcomeWithCache_of_holds generator hkeys
        (hdocuments document List.mem_cons_self) hcache
      obtain ⟨hrest, hfinal⟩ := ih
        (fun other hother => hdocuments other (List.mem_cons_of_mem document hother)) hheld
      rw [served_learn] at hrest
      rw [learn_cons] at hfinal
      rw [outcomesWithCache, List.map_cons, ← hfirst, ← hrest]
      exact ⟨rfl, hfinal⟩

end Memory

end Generator

/-! ## Runs of calls -/

namespace Batch

/-- A call that generates the sources of documents. -/
structure Call where
  generator : Generator
  documents : List Schema.Document

namespace Call

/-- The answer of a call without a cache. -/
def direct (call : Call) : Except BatchError (List GenerationResult) :=
  call.generator.generateAll call.documents

/-- What a call makes of a document. -/
def result? (call : Call) (document : Schema.Document) : Option GenerationResult :=
  if document ∈ call.documents then (call.generator.outcome document).toOption else none

end Call

/-- The answers of calls one after another with one cache, and the cache behind
them. -/
def runShared : List Call → ResultCache →
    List (Except BatchError (List GenerationResult)) × ResultCache
  | [], cache => ([], cache)
  | call :: rest, cache =>
    let (answer, cache) := call.generator.generateAllWithCache call.documents cache
    let (answers, cache) := runShared rest cache
    (answer :: answers, cache)

/-- What the first of the calls that made something of a document has made of it. -/
def remembered (before : List Call) (document : Schema.Document) :
    Option GenerationResult := before.findSome? (·.result? document)

/-- The answer of a call behind others. -/
def answer (before : List Call) (call : Call) : Except BatchError (List GenerationResult) :=
  Generator.collect (call.documents.map (call.generator.served (remembered before)))

/-- The answers of calls behind others. -/
def answers : List Call → List Call → List (Except BatchError (List GenerationResult))
  | _, [] => []
  | before, call :: rest => answer before call :: answers (before ++ [call]) rest

theorem remembered_append_singleton (before : List Call) (call : Call) :
    remembered (before ++ [call]) =
      call.generator.learn call.documents (remembered before) := by
  funext document
  rw [remembered, List.findSome?_append]
  simp only [List.findSome?_cons, List.findSome?_nil, Generator.learn, remembered,
    Call.result?]
  congr 1
  cases (if document ∈ call.documents then (call.generator.outcome document).toOption
    else none) with
  | none => rfl
  | some result => rfl

/-- The answers with a shared cache follow from the calls alone. -/
theorem runShared_eq_answers {involved : List Schema.Document} {calls before : List Call}
    {cache : ResultCache} (hkeys : ResultCache.Separates involved)
    (hcalls : ∀ call ∈ calls, ∀ document ∈ call.documents, document ∈ involved)
    (hcache : cache.Holds involved (remembered before)) :
    (runShared calls cache).1 = answers before calls := by
  -- The cache holds what the calls before remember, from one call to the next.
  induction calls generalizing before cache with
  | nil => rfl
  | cons call rest ih =>
      obtain ⟨houtcomes, hheld⟩ := Generator.outcomesWithCache_of_holds call.generator hkeys
        (hcalls call List.mem_cons_self) hcache
      rw [← remembered_append_singleton] at hheld
      have hrest := ih (fun other hother =>
        hcalls other (List.mem_cons_of_mem call hother)) hheld
      rw [answers, answer, ← hrest, ← houtcomes]
      rfl

/-- All answers agree with those of the single calls if each of them does. -/
theorem answers_eq_direct_iff {calls before : List Call} :
    answers before calls = calls.map Call.direct ↔
      ∀ earlier call later, calls = earlier ++ call :: later →
        answer (before ++ earlier) call = call.direct := by
  induction calls generalizing before with
  | nil =>
      constructor
      · intro _ earlier call later hsplit
        cases earlier with
        | nil => cases hsplit
        | cons _ _ => cases hsplit
      · intro _
        rfl
  | cons first rest ih =>
      rw [answers, List.map_cons, List.cons.injEq, ih]
      constructor
      · intro ⟨hfirst, hrest⟩ earlier call later hsplit
        cases earlier with
        | nil =>
            cases hsplit
            rw [List.append_nil]
            exact hfirst
        | cons _ earlier =>
            cases hsplit
            rw [List.append_cons]
            exact hrest earlier call later rfl
      · intro hall
        constructor
        · have hfirst := hall [] first rest rfl
          rwa [List.append_nil] at hfirst
        · intro earlier call later hsplit
          have hlater := hall (first :: earlier) call later (by rw [hsplit, List.cons_append])
          rwa [List.append_cons] at hlater

/-- What the calls before have made of the documents makes no difference to a call.
If the call alone has results, they are the ones that are remembered.  If it fails,
it does so for the first failure among the documents that are not remembered. -/
def Unaffected (before : List Call) (call : Call) : Prop :=
  match call.direct with
  | .ok _ => ∀ document ∈ call.documents, ∀ result,
      remembered before document = some result →
        call.generator.outcome document = .ok result
  | .error error =>
      (call.documents.filter fun document => (remembered before document).isNone).findSome?
        (fun document => Outcome.failure? (call.generator.outcome document)) = some error

theorem served_eq_outcome_iff {generator : Generator}
    {memory : Schema.Document → Option GenerationResult} {document : Schema.Document} :
    generator.served memory document = generator.outcome document ↔
      ∀ result, memory document = some result → generator.outcome document = .ok result := by
  rw [Generator.served]
  cases memory document with
  | none => simp
  | some result =>
      constructor
      · intro h other hother
        rw [← h, Option.some.inj hother]
      · intro h
        exact (h result rfl).symm

/-- Only a document that is not remembered can fail. -/
theorem findSome?_failure_served (generator : Generator)
    (memory : Schema.Document → Option GenerationResult)
    (documents : List Schema.Document) :
    (documents.map (generator.served memory)).findSome? Outcome.failure? =
      (documents.filter fun document => (memory document).isNone).findSome?
        (fun document => Outcome.failure? (generator.outcome document)) := by
  induction documents with
  | nil => rfl
  | cons document rest ih =>
      cases hmemory : memory document with
      | some result =>
          have hserved : generator.served memory document = .ok result := by
            rw [Generator.served, hmemory]
          rw [List.filter_cons_of_neg (by simp [hmemory]), ← ih, List.map_cons, hserved]
          rfl
      | none =>
          have hserved : generator.served memory document = generator.outcome document := by
            rw [Generator.served, hmemory]
          rw [List.filter_cons_of_pos (by simp [hmemory]), List.map_cons, hserved,
            List.findSome?_cons, List.findSome?_cons, ih]

theorem answer_eq_direct_iff {before : List Call} {call : Call} :
    answer before call = call.direct ↔ Unaffected before call := by
  rw [Unaffected]
  split
  case h_1 results hdirect =>
    have houtcomes := Generator.collect_eq_ok_iff.mp hdirect
    rw [hdirect, answer, Generator.collect_eq_ok_iff, ← houtcomes, List.map_inj_left]
    exact forall₂_congr fun document _ => served_eq_outcome_iff
  case h_2 error hdirect =>
    rw [hdirect, answer, Generator.collect_eq_error_iff, findSome?_failure_served]

theorem mem_documents_of_mem_calls {calls : List Call} :
    ∀ call ∈ calls, ∀ document ∈ call.documents,
      document ∈ calls.flatMap (·.documents) :=
  fun call hcall _ hdocument => List.mem_flatMap.mpr ⟨call, hcall, hdocument⟩

/-- A cache that is empty at first answers for the calls that came before. -/
theorem runShared_eq_direct_iff {calls : List Call}
    (hkeys : ResultCache.Separates (calls.flatMap (·.documents))) :
    (runShared calls {}).1 = calls.map Call.direct ↔
      ∀ before call after, calls = before ++ call :: after →
        answer before call = call.direct := by
  have hempty : ResultCache.Holds {} (calls.flatMap (·.documents)) (remembered []) :=
    ResultCache.holds_empty _
  rw [runShared_eq_answers hkeys mem_documents_of_mem_calls hempty, answers_eq_direct_iff]
  rfl

/-- A cache that calls of one generator share makes no difference. -/
theorem runShared_of_one_generator {calls : List Call} {generator : Generator}
    (hkeys : ResultCache.Separates (calls.flatMap (·.documents)))
    (hgenerator : ∀ call ∈ calls, call.generator = generator) :
    (runShared calls {}).1 = calls.map Call.direct := by
  rw [runShared_eq_direct_iff hkeys]
  intro earlier call later hsplit
  have hcall : call ∈ calls := hsplit ▸ List.mem_append_right earlier List.mem_cons_self
  rw [answer, Call.direct, Generator.generateAll]
  congr 1
  apply List.map_congr_left
  intro document _
  -- What is remembered was made by the generator of the call itself.
  apply served_eq_outcome_iff.mpr
  intro result hresult
  obtain ⟨other, hother, hmade⟩ := List.exists_of_findSome?_eq_some hresult
  have hmem : other ∈ calls := hsplit ▸ List.mem_append_left _ hother
  rw [Call.result?, hgenerator other hmem] at hmade
  rw [hgenerator call hcall]
  split at hmade
  · cases houtcome : generator.outcome document with
    | ok found =>
        rw [houtcome] at hmade
        exact congrArg Except.ok (Option.some.inj hmade)
    | error error => rw [houtcome] at hmade; cases hmade
  · cases hmade

/-- Exactly when a run of calls gets the same answers with a shared cache as
without one: each call has to be unaffected by what the calls before it have made
of its documents, be it with another language or with other settings. -/
theorem shared_cache_transparent_iff {calls : List Call}
    (hkeys : ResultCache.Separates (calls.flatMap (·.documents))) :
    (runShared calls {}).1 = calls.map Call.direct ↔
      ∀ before call after, calls = before ++ call :: after → Unaffected before call := by
  rw [runShared_eq_direct_iff hkeys]
  simp only [answer_eq_direct_iff]

/-- A record with one field, which both languages have code for. -/
def plainRecord : Schema.Document where
  name := "user"
  content :=
    ["\x7b\"type\": \"record\", ", "\"name\": \"User\", ", "\"namespace\": \"a\", ",
      "\"fields\": [", "\x7b\"name\": \"id\", ", "\"type\": \"string\"\x7d]\x7d"].flatMap Text.ofString

/-- The record in one language and then in the other. -/
def bothLanguages : List Call :=
  [⟨Generator.standard .csharp, [plainRecord]⟩, ⟨Generator.standard .python, [plainRecord]⟩]

theorem separates_bothLanguages :
    ResultCache.Separates (bothLanguages.flatMap (·.documents)) where
  encodable := by
    have hencodable : (Text.toUtf8? plainRecord.content).isSome = true := by decide +kernel
    simpa [bothLanguages] using hencodable
  collisionFree := by
    simp [bothLanguages]

theorem bothLanguages_transparent_iff :
    ResultCache.Separates (bothLanguages.flatMap (·.documents)) ∧
      ((runShared bothLanguages {}).1 = bothLanguages.map Call.direct ↔
        ∀ before call after, bothLanguages = before ++ call :: after →
          Unaffected before call) :=
  ⟨separates_bothLanguages, shared_cache_transparent_iff separates_bothLanguages⟩

theorem outcome_plainRecord (target : Target) :
    ∃ result, (Generator.standard target).outcome plainRecord = .ok result ∧
      result.generated.map (·.target) = some target := by
  have htarget : ((Generator.standard target).outcome plainRecord).toOption.any
      (fun result => result.generated.map (·.target) == some target) = true := by
    cases target with
    | csharp => decide +kernel
    | python => decide +kernel
  obtain ⟨result, houtcome, hresult⟩ := Fallible.exists_of_any htarget
  exact ⟨result, houtcome, by simpa using hresult⟩

/-- With a shared cache the second language is answered with the source of the
first. -/
theorem bothLanguages_not_transparent :
    (runShared bothLanguages {}).1 ≠ bothLanguages.map Call.direct := by
  obtain ⟨first, hfirst, hcsharp⟩ := outcome_plainRecord .csharp
  obtain ⟨second, hsecond, hpython⟩ := outcome_plainRecord .python
  have hremembered : remembered [⟨Generator.standard .csharp, [plainRecord]⟩] plainRecord =
      some first := by
    simp [remembered, Call.result?, hfirst, Except.toOption]
  intro htransparent
  -- The second call is answered with what the first has made.
  have hsame := (runShared_eq_direct_iff separates_bothLanguages).mp htransparent
    [⟨Generator.standard .csharp, [plainRecord]⟩] ⟨Generator.standard .python, [plainRecord]⟩
    [] rfl
  simp only [answer, Call.direct, Generator.generateAll, List.map_cons, List.map_nil,
    Generator.served, hremembered, hsecond, Generator.collect_cons_ok] at hsame
  cases hsame
  rw [hcsharp] at hpython
  cases hpython

end Batch

end RecordSmith
