import Mathlib.Data.List.Count
import Mathlib.Logic.Relation
import RecordSmith.Proofs.Batch.Generate

/-!
# Workers on a batch

Several workers share the documents of a batch and a cache.  A worker takes a document
that waits, looks it up, generates it if it was not there, and remembers the result;
each of these is one step, and the steps of different workers mix in any order.  Once
a document has failed, those behind it may be given up.  The module says what one step
can do, that the workers always come to an end with nothing left to do, and that one
document after another is one of the ways to work.
-/

namespace RecordSmith.Batch

/-- How far the work on a document has come. -/
inductive Progress where
  /-- No worker has looked the document up. -/
  | waiting
  /-- The document has to be generated. -/
  | missed
  /-- The result has to be remembered. -/
  | generated (result : GenerationResult)
  | finished (outcome : Outcome)
  /-- The document was given up because one before it has failed. -/
  | cancelled

namespace Progress

/-- A worker is on the document. -/
def isBusy : Progress → Bool
  | missed => true
  | generated _ => true
  | _ => false

/-- There is nothing left to do for the document. -/
def isSettled : Progress → Bool
  | finished _ => true
  | cancelled => true
  | _ => false

/-- The document has failed. -/
def isFailure : Progress → Bool
  | finished (.error _) => true
  | _ => false

theorem isFailure_eq_false {progress : Progress} (hopen : progress.isSettled = false) :
    progress.isFailure = false := by
  cases progress with
  | finished outcome => cases hopen
  | _ => rfl

theorem isSettled_eq_false_of_isBusy {progress : Progress} (hbusy : progress.isBusy = true) :
    progress.isSettled = false := by
  cases progress with
  | finished outcome => cases hbusy
  | cancelled => cases hbusy
  | _ => rfl

/-- The number of steps that are left at most. -/
def weight : Progress → Nat
  | waiting => 3
  | missed => 2
  | generated _ => 1
  | finished _ => 0
  | cancelled => 0

end Progress

/-- A document of a batch and how far it has come. -/
abbrev Task := Schema.Document × Progress

/-- A batch at work: its documents in order, and the cache that the workers share, if
there is one. -/
structure Work where
  cache : Option ResultCache
  tasks : List Task

/-- One step of the worker on a document. -/
inductive Advance (generator : Generator) (document : Schema.Document) :
    Progress → Option ResultCache → Progress → Option ResultCache → Prop where
  /-- Without a cache there is nothing to look up. -/
  | start : Advance generator document .waiting none .missed none
  | keyless {cache : ResultCache} (hkey : ResultCache.key? document = none) :
      Advance generator document .waiting (some cache)
        (.finished (.error .surrogateInContent)) (some cache)
  | hit {cache later : ResultCache} {key : Text × Text} {result : GenerationResult}
      (hkey : ResultCache.key? document = some key)
      (hget : cache.get key = (some result, later)) :
      Advance generator document .waiting (some cache) (.finished (.ok result)) (some later)
  | miss {cache later : ResultCache} {key : Text × Text}
      (hkey : ResultCache.key? document = some key) (hget : cache.get key = (none, later)) :
      Advance generator document .waiting (some cache) .missed (some later)
  | generate {cache : Option ResultCache} {result : GenerationResult}
      (houtcome : generator.outcome document = .ok result) :
      Advance generator document .missed cache (.generated result) cache
  | fail {cache : Option ResultCache} {error : BatchError}
      (houtcome : generator.outcome document = .error error) :
      Advance generator document .missed cache (.finished (.error error)) cache
  /-- Without a cache there is nothing to remember. -/
  | finish {result : GenerationResult} :
      Advance generator document (.generated result) none (.finished (.ok result)) none
  | put {cache : ResultCache} {key : Text × Text} {result : GenerationResult}
      (hkey : ResultCache.key? document = some key) :
      Advance generator document (.generated result) (some cache)
        (.finished (.ok result)) (some (cache.put key result))
  | putKeyless {cache : ResultCache} {result : GenerationResult}
      (hkey : ResultCache.key? document = none) :
      Advance generator document (.generated result) (some cache)
        (.finished (.error .surrogateInContent)) (some cache)

namespace Work

/-- A batch that nobody has started on. -/
def ofDocuments (documents : List Schema.Document) (cache : Option ResultCache) : Work :=
  { cache, tasks := documents.map (·, .waiting) }

/-- The number of workers that are on a document. -/
def busy (work : Work) : Nat := work.tasks.countP (·.2.isBusy)

/-- The number of steps that are left at most for documents. -/
def weightOf : List Task → Nat
  | [] => 0
  | task :: rest => task.2.weight + weightOf rest

/-- The number of steps that are left at most. -/
def weight (work : Work) : Nat := weightOf work.tasks

/-- The answer of a batch, as soon as it is known: its results in order, or the failure
of the first document that has failed. -/
def answerOf : List Task → Option (Except BatchError (List GenerationResult))
  | [] => some (.ok [])
  | (_, .finished (.ok result)) :: rest => (answerOf rest).map (·.map (result :: ·))
  | (_, .finished (.error error)) :: _ => some (.error error)
  | _ :: _ => none

/-- The answer of the batch, as soon as it is known. -/
def answer (work : Work) : Option (Except BatchError (List GenerationResult)) :=
  answerOf work.tasks

/-- A worker is free; of workers there is always at least one. -/
def HasFree (workers : Int) (work : Work) : Prop := work.busy = 0 ∨ (work.busy : Int) < workers

/-- One step on a batch.  A document is taken only by a worker that is free, and it is
given up only behind a failure. -/
inductive Step (generator : Generator) (workers : Int) : Work → Work → Prop where
  | advance {work : Work} {before after : List Task} {document : Schema.Document}
      {progress next : Progress} {cache : Option ResultCache}
      (htasks : work.tasks = before ++ (document, progress) :: after)
      (hfree : progress = .waiting → work.HasFree workers)
      (hadvance : Advance generator document progress work.cache next cache) :
      Step generator workers work { cache, tasks := before ++ (document, next) :: after }
  | cancel {work : Work} {before after : List Task} {document : Schema.Document}
      (htasks : work.tasks = before ++ (document, .waiting) :: after)
      (hfailed : ∃ task ∈ before, task.2.isFailure = true) :
      Step generator workers work
        { work with tasks := before ++ (document, .cancelled) :: after }

/-- No step is left. -/
def Ended (generator : Generator) (workers : Int) (work : Work) : Prop :=
  ∀ next, ¬Step generator workers work next

/-- However the steps mix, the work comes to an end, and then the property holds. -/
structure AlwaysEnds (generator : Generator) (workers : Int) (start : Work)
    (property : Work → Prop) : Prop where
  terminates : Acc (fun next work => Step generator workers work next) start
  atEnd : ∀ final, Relation.ReflTransGen (Step generator workers) start final →
    final.Ended generator workers → property final

end Work

/-! ## One step -/

section Step

variable {generator : Generator} {workers : Int} {document : Schema.Document}
variable {progress next : Progress} {cache later : Option ResultCache}

theorem Advance.isSettled_eq_false
    (h : Advance generator document progress cache next later) :
    progress.isSettled = false := by
  cases h <;> rfl

theorem Advance.weight_lt (h : Advance generator document progress cache next later) :
    next.weight < progress.weight := by
  cases h <;> simp [Progress.weight]

theorem Advance.ne_cancelled (h : Advance generator document progress cache next later) :
    next ≠ .cancelled := by
  cases h <;> exact Progress.noConfusion

/-- As long as a document is not settled a worker can go on with it. -/
theorem exists_advance (generator : Generator) (document : Schema.Document)
    (hopen : progress.isSettled = false) (cache : Option ResultCache) :
    ∃ next later, Advance generator document progress cache next later := by
  cases progress with
  | waiting =>
      cases cache with
      | none => exact ⟨_, _, .start⟩
      | some cache =>
          cases hkey : ResultCache.key? document with
          | none => exact ⟨_, _, .keyless hkey⟩
          | some key =>
              rcases hget : cache.get key with ⟨_ | result, later⟩
              · exact ⟨_, _, .miss hkey hget⟩
              · exact ⟨_, _, .hit hkey hget⟩
  | missed =>
      cases houtcome : generator.outcome document with
      | ok result => exact ⟨_, _, .generate houtcome⟩
      | error error => exact ⟨_, _, .fail houtcome⟩
  | generated result =>
      cases cache with
      | none => exact ⟨_, _, .finish⟩
      | some cache =>
          cases hkey : ResultCache.key? document with
          | none => exact ⟨_, _, .putKeyless hkey⟩
          | some key => exact ⟨_, _, .put hkey⟩
  | finished outcome => cases hopen
  | cancelled => cases hopen

namespace Work

variable {work after : Work}

theorem weightOf_replace_lt {before rest : List Task} (hlt : next.weight < progress.weight) :
    weightOf (before ++ (document, next) :: rest) <
      weightOf (before ++ (document, progress) :: rest) := by
  induction before with
  | nil => exact Nat.add_lt_add_right hlt (weightOf rest)
  | cons task before ih => exact Nat.add_lt_add_left ih task.2.weight

theorem Step.weight_lt (h : Step generator workers work after) : after.weight < work.weight := by
  cases h with
  | advance htasks hfree hadvance =>
      rw [weight, weight, htasks]
      exact weightOf_replace_lt hadvance.weight_lt
  | cancel htasks hfailed =>
      rw [weight, weight, htasks]
      exact weightOf_replace_lt (Nat.zero_lt_succ 2)

theorem mem_tasks {before rest : List Task}
    (htasks : work.tasks = before ++ (document, progress) :: rest) :
    (document, progress) ∈ work.tasks :=
  htasks ▸ List.mem_append_right before List.mem_cons_self

/-- The documents of a batch stay as they are. -/
theorem Step.documents_eq (h : Step generator workers work after) :
    after.tasks.map Prod.fst = work.tasks.map Prod.fst := by
  cases h with
  | advance htasks hfree hadvance => simp [htasks]
  | cancel htasks hfailed => simp [htasks]

/-- Every way to work comes to an end. -/
theorem acc_step (generator : Generator) (workers : Int) (start : Work) :
    Acc (fun next work => Step generator workers work next) start :=
  Subrelation.accessible (fun h => h.weight_lt) ((measure weight).wf.apply start)

/-- At the end nothing is left to do. -/
theorem Ended.isSettled (h : work.Ended generator workers) :
    ∀ task ∈ work.tasks, task.2.isSettled = true := by
  have hsteps : ∀ task ∈ work.tasks, task.2.isSettled = false →
      ¬(task.2 = .waiting → work.HasFree workers) := by
    intro task hmem hopen hfree
    obtain ⟨before, after, htasks⟩ := List.append_of_mem hmem
    obtain ⟨next, cache, hadvance⟩ := exists_advance generator task.1 hopen work.cache
    exact h _ (.advance htasks hfree hadvance)
  have hidle : work.busy = 0 := by
    rw [busy, List.countP_eq_zero]
    intro task hmem hbusy
    refine hsteps task hmem (Progress.isSettled_eq_false_of_isBusy hbusy) fun hwaiting => ?_
    rw [hwaiting] at hbusy
    cases hbusy
  intro task hmem
  by_contra hopen
  exact hsteps task hmem (by simpa using hopen) fun _ => Or.inl hidle

theorem ended_of_isSettled (h : ∀ task ∈ work.tasks, task.2.isSettled = true) :
    work.Ended generator workers := by
  intro next hstep
  cases hstep with
  | advance htasks hfree hadvance =>
      have hsettled := h _ (mem_tasks htasks)
      rw [hadvance.isSettled_eq_false] at hsettled
      cases hsettled
  | cancel htasks hfailed =>
      cases h _ (mem_tasks htasks)

/-- What holds at the start and is kept by every step holds behind any number of
steps. -/
theorem invariant_of_run {start : Work} {invariant : Work → Prop} (hstart : invariant start)
    (hstep : ∀ work next, invariant work → Step generator workers work next → invariant next)
    (hrun : Relation.ReflTransGen (Step generator workers) start work) : invariant work := by
  induction hrun with
  | refl => exact hstart
  | tail _ hlast ih => exact hstep _ _ ih hlast

/-- What follows at the end from an invariant always holds at the end. -/
theorem alwaysEnds_of_invariant {start : Work} {invariant property : Work → Prop}
    (hstart : invariant start)
    (hstep : ∀ work next, invariant work → Step generator workers work next → invariant next)
    (hend : ∀ final, invariant final → (∀ task ∈ final.tasks, task.2.isSettled = true) →
      property final) : start.AlwaysEnds generator workers property where
  terminates := acc_step generator workers start
  atEnd := fun final hrun hended =>
    hend final (invariant_of_run hstart hstep hrun) hended.isSettled

/-! ## The answer of a batch -/

/-- Whoever was given up stands behind a failure. -/
def CancelledBehindFailure : List Task → Prop
  | [] => True
  | task :: rest =>
    task.2.isFailure = true ∨ (task.2 ≠ .cancelled ∧ CancelledBehindFailure rest)

theorem cancelledBehindFailure_ofDocuments (documents : List Schema.Document) :
    CancelledBehindFailure (documents.map (·, .waiting)) := by
  induction documents with
  | nil => exact trivial
  | cons document rest ih => exact Or.inr ⟨Progress.noConfusion, ih⟩

/-- A document that was not settled may go on, or be given up behind a failure. -/
theorem CancelledBehindFailure.replace {before rest : List Task} {document : Schema.Document}
    (h : CancelledBehindFailure (before ++ (document, progress) :: rest))
    (hopen : progress.isSettled = false)
    (hnext : next = .cancelled → ∃ task ∈ before, task.2.isFailure = true) :
    CancelledBehindFailure (before ++ (document, next) :: rest) := by
  induction before with
  | nil =>
      have hne : next ≠ .cancelled := by
        intro heq
        obtain ⟨task, hmem, _⟩ := hnext heq
        cases hmem
      rcases h with hfailure | ⟨_, hrest⟩
      · rw [Progress.isFailure_eq_false hopen] at hfailure
        cases hfailure
      · exact Or.inr ⟨hne, hrest⟩
  | cons task before ih =>
      rcases h with hfailure | ⟨hne, hrest⟩
      · exact Or.inl hfailure
      · by_cases hfirst : task.2.isFailure = true
        · exact Or.inl hfirst
        · refine Or.inr ⟨hne, ih hrest fun heq => ?_⟩
          obtain ⟨failed, hmem, hfailed⟩ := hnext heq
          rcases List.mem_cons.mp hmem with rfl | hbefore
          · exact absurd hfailed hfirst
          · exact ⟨failed, hbefore, hfailed⟩

theorem Step.cancelledBehindFailure (h : Step generator workers work after)
    (hwork : CancelledBehindFailure work.tasks) : CancelledBehindFailure after.tasks := by
  cases h with
  | advance htasks hfree hadvance =>
      rw [htasks] at hwork
      exact hwork.replace hadvance.isSettled_eq_false
        fun heq => absurd heq hadvance.ne_cancelled
  | cancel htasks hfailed =>
      rw [htasks] at hwork
      exact hwork.replace rfl fun _ => hfailed

theorem answerOf_cons_ok_iff {document : Schema.Document} {result : GenerationResult}
    {rest : List Task} {results : List GenerationResult} :
    answerOf ((document, .finished (.ok result)) :: rest) = some (.ok results) ↔
      ∃ others, answerOf rest = some (.ok others) ∧ results = result :: others := by
  rw [answerOf]
  rcases answerOf rest with _ | _ | others
  · simp
  · simp [Except.map]
  · simp [Except.map, eq_comm]

/-- A batch has results exactly if all its documents have. -/
theorem answerOf_eq_ok_iff {tasks : List Task} {results : List GenerationResult} :
    answerOf tasks = some (.ok results) ↔
      tasks.map Prod.snd = results.map fun result => .finished (.ok result) := by
  induction tasks generalizing results with
  | nil => cases results <;> simp [answerOf]
  | cons task rest ih =>
      obtain ⟨document, progress⟩ := task
      have hunfinished : (∀ result, progress ≠ .finished (.ok result)) →
          (progress :: rest.map Prod.snd ≠
            results.map fun result => .finished (.ok result)) := by
        intro hne heq
        cases results with
        | nil => cases heq
        | cons result results => exact hne result (List.cons.inj heq).1
      rw [List.map_cons]
      cases progress with
      | finished outcome =>
          cases outcome with
          | ok result =>
              rw [answerOf_cons_ok_iff]
              simp only [ih]
              cases results with
              | nil => simp
              | cons first others => simp [eq_comm, and_comm]
          | error error => simp [answerOf, hunfinished]
      | _ => simp [answerOf, hunfinished]

theorem exists_result_of_answerOf {tasks : List Task} {results : List GenerationResult}
    (hanswer : answerOf tasks = some (.ok results)) {task : Task} (hmem : task ∈ tasks) :
    ∃ result, task.2 = .finished (.ok result) := by
  have hprogress : task.2 ∈ tasks.map Prod.snd := List.mem_map_of_mem hmem
  rw [answerOf_eq_ok_iff.mp hanswer] at hprogress
  obtain ⟨result, _, hresult⟩ := List.mem_map.mp hprogress
  exact ⟨result, hresult.symm⟩

section Settled

variable {tasks : List Task} (hsettled : ∀ task ∈ tasks, task.2.isSettled = true)
variable (hcancelled : CancelledBehindFailure tasks)
include hsettled hcancelled

/-- The answer is known: there are results, or a document has failed for the reason
of the batch. -/
theorem answerOf_cases_of_settled :
    (∃ results, answerOf tasks = some (.ok results)) ∨
      ∃ task ∈ tasks, ∃ error, task.2 = .finished (.error error) ∧
        answerOf tasks = some (.error error) := by
  induction tasks with
  | nil => exact Or.inl ⟨[], rfl⟩
  | cons task rest ih =>
      obtain ⟨document, progress⟩ := task
      rw [List.forall_mem_cons] at hsettled
      cases progress with
      | finished outcome =>
          cases outcome with
          | error error => exact Or.inr ⟨_, List.mem_cons_self, error, rfl, rfl⟩
          | ok result =>
              obtain ⟨_, hrest⟩ := hcancelled.resolve_left Bool.false_ne_true
              rcases ih hsettled.2 hrest with
                ⟨results, hresults⟩ | ⟨failed, hmem, error, hfinished, hanswer⟩
              · exact Or.inl ⟨_, answerOf_cons_ok_iff.mpr ⟨results, hresults, rfl⟩⟩
              · refine Or.inr ⟨failed, List.mem_cons_of_mem _ hmem, error, hfinished, ?_⟩
                rw [answerOf, hanswer]
                rfl
      | cancelled =>
          rcases hcancelled with hfailure | ⟨hne, _⟩
          · cases hfailure
          · exact absurd rfl hne
      | _ => cases hsettled.1

/-- If every document has finished as expected, so has the batch. -/
theorem answerOf_of_settled {expected : Schema.Document → Outcome}
    (hexpected : ∀ task ∈ tasks, ∀ outcome, task.2 = .finished outcome →
      outcome = expected task.1) :
    answerOf tasks = some (Generator.collect ((tasks.map Prod.fst).map expected)) := by
  induction tasks with
  | nil => rfl
  | cons task rest ih =>
      obtain ⟨document, progress⟩ := task
      rw [List.forall_mem_cons] at hsettled hexpected
      cases progress with
      | finished outcome =>
          have houtcome : outcome = expected document := hexpected.1 outcome rfl
          rw [List.map_cons, List.map_cons, ← houtcome]
          cases outcome with
          | ok result =>
              obtain ⟨_, hrest⟩ := hcancelled.resolve_left Bool.false_ne_true
              rw [answerOf, ih hsettled.2 hrest hexpected.2, Generator.collect_cons_ok]
              rfl
          | error error => rw [answerOf, Generator.collect_cons_error]
      | cancelled =>
          rcases hcancelled with hfailure | ⟨hne, _⟩
          · cases hfailure
          · exact absurd rfl hne
      | _ => cases hsettled.1

end Settled

/-! ## One document after another -/

/-- A step of the worker on a document, when no other worker is on one. -/
theorem Step.of_idle {before rest : List Task}
    (hidle : ∀ task ∈ before ++ rest, task.2.isBusy = false)
    (hadvance : Advance generator document progress cache next later) :
    Step generator workers ⟨cache, before ++ (document, progress) :: rest⟩
      ⟨later, before ++ (document, next) :: rest⟩ := by
  apply Step.advance rfl _ hadvance
  rintro rfl
  left
  rw [busy, List.countP_eq_zero]
  intro task hmem
  rw [List.mem_append, List.mem_cons, or_left_comm, ← List.mem_append] at hmem
  rcases hmem with rfl | hother
  · exact Bool.false_ne_true
  · simp [hidle task hother]

/-- One document: the worker ends with the outcome and the cache that the document has
with the cache. -/
theorem run_outcomeWithCache {before rest : List Task} (cache : ResultCache)
    (hidle : ∀ task ∈ before ++ rest, task.2.isBusy = false) :
    Relation.ReflTransGen (Step generator workers)
      ⟨some cache, before ++ (document, .waiting) :: rest⟩
      ⟨some (generator.outcomeWithCache document cache).2,
        before ++ (document, .finished (generator.outcomeWithCache document cache).1) ::
          rest⟩ := by
  cases hkey : ResultCache.key? document with
  | none =>
      simp only [Generator.outcomeWithCache, hkey]
      exact .single (.of_idle hidle (.keyless hkey))
  | some key =>
      rcases hget : cache.get key with ⟨_ | result, later⟩
      · simp only [Generator.outcomeWithCache, hkey, hget, Generator.outcomeAfterMiss]
        have hlook : Step generator workers ⟨some cache, before ++ (document, .waiting) :: rest⟩
            ⟨some later, before ++ (document, .missed) :: rest⟩ :=
          .of_idle hidle (.miss hkey hget)
        cases houtcome : generator.outcome document with
        | error error =>
            exact .tail (.single hlook) (.of_idle hidle (.fail houtcome))
        | ok result =>
            exact .tail (.tail (.single hlook) (.of_idle hidle (.generate houtcome)))
              (.of_idle hidle (.put hkey))
      · simp only [Generator.outcomeWithCache, hkey, hget]
        exact .single (.of_idle hidle (.hit hkey hget))

/-- Documents that have finished with outcomes. -/
def finishedTasks (documents : List Schema.Document) (outcomes : List Outcome) : List Task :=
  (documents.zip outcomes).map fun (document, outcome) => (document, .finished outcome)

theorem run_outcomesWithCache {before : List Task} (documents : List Schema.Document)
    (cache : ResultCache) (hidle : ∀ task ∈ before, task.2.isBusy = false) :
    Relation.ReflTransGen (Step generator workers)
      ⟨some cache, before ++ documents.map (·, .waiting)⟩
      ⟨some (generator.outcomesWithCache documents cache).2,
        before ++ finishedTasks documents (generator.outcomesWithCache documents cache).1⟩ := by
  induction documents generalizing before cache with
  | nil => exact .refl
  | cons document rest ih =>
      have hothers : ∀ task ∈ before ++ rest.map (·, .waiting), task.2.isBusy = false := by
        intro task hmem
        rcases List.mem_append.mp hmem with hbefore | hrest
        · exact hidle task hbefore
        · obtain ⟨_, _, rfl⟩ := List.mem_map.mp hrest
          rfl
      apply (run_outcomeWithCache cache hothers).trans
      have hdone : ∀ task ∈ before ++ [(document, .finished
          (generator.outcomeWithCache document cache).1)], task.2.isBusy = false := by
        intro task hmem
        rcases List.mem_append.mp hmem with hbefore | hlast
        · exact hidle task hbefore
        · rw [List.mem_singleton.mp hlast]
          rfl
      have hrest := ih (generator.outcomeWithCache document cache).2 hdone
      rw [List.append_assoc, List.append_assoc] at hrest
      exact hrest

theorem length_outcomesWithCache (documents : List Schema.Document) (cache : ResultCache) :
    (generator.outcomesWithCache documents cache).1.length = documents.length := by
  induction documents generalizing cache with
  | nil => rfl
  | cons document rest ih =>
      rw [Generator.outcomesWithCache, List.length_cons, List.length_cons, ih]

theorem answerOf_finishedTasks {documents : List Schema.Document} {outcomes : List Outcome}
    (hlength : outcomes.length = documents.length) :
    answerOf (finishedTasks documents outcomes) = some (Generator.collect outcomes) := by
  induction documents generalizing outcomes with
  | nil =>
      rw [List.length_nil, List.length_eq_zero_iff] at hlength
      rw [hlength]
      rfl
  | cons document rest ih =>
      cases outcomes with
      | nil => cases hlength
      | cons outcome others =>
          have hrest := ih (Nat.succ.inj hlength)
          rw [finishedTasks, List.zip_cons_cons, List.map_cons]
          cases outcome with
          | error error => rw [answerOf, Generator.collect_cons_error]
          | ok result =>
              rw [Generator.collect_cons_ok]
              exact congrArg (Option.map _) hrest

theorem isSettled_of_mem_finishedTasks {documents : List Schema.Document}
    {outcomes : List Outcome} {task : Task} (hmem : task ∈ finishedTasks documents outcomes) :
    task.2.isSettled = true := by
  obtain ⟨_, _, rfl⟩ := List.mem_map.mp hmem
  rfl

/-- A batch with a cache, one document after another, is one of the ways to work. -/
theorem exists_serial_run (generator : Generator) (workers : Int)
    (documents : List Schema.Document) (cache : ResultCache) :
    ∃ final, Relation.ReflTransGen (Step generator workers)
        (ofDocuments documents (some cache)) final ∧
      final.Ended generator workers ∧
      final.answer = some (generator.generateAllWithCache documents cache).1 ∧
      final.cache = some (generator.generateAllWithCache documents cache).2 := by
  let outcomes := generator.outcomesWithCache documents cache
  have hrun : Relation.ReflTransGen (Step generator workers)
      (ofDocuments documents (some cache)) ⟨some outcomes.2, finishedTasks documents outcomes.1⟩ :=
    @run_outcomesWithCache generator workers [] documents cache fun _ hmem => nomatch hmem
  refine ⟨_, hrun, ?_, ?_, rfl⟩
  · exact ended_of_isSettled fun task hmem => isSettled_of_mem_finishedTasks hmem
  · exact answerOf_finishedTasks (length_outcomesWithCache documents cache)

end Work

end Step

end RecordSmith.Batch
