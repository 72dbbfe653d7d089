import RecordSmith.Batch.Cache

/-!
# Batches of documents

The source of every document of a batch is generated on its own, so that the results do not depend
on the order of the work.  A cache saves the work for documents that were seen before.
-/

namespace RecordSmith

/-- Why a document has no result. -/
inductive BatchError where
  /-- A content that has no digest, where a cache needs one. -/
  | surrogateInContent
  | generation (error : GenerationError)
  deriving Repr

/-- The result of a document, and why there may be none. -/
abbrev Outcome := Except BatchError GenerationResult

namespace Generator

/-- The outcome of a document without a cache. -/
def outcome (generator : Generator) (document : Schema.Document) : Outcome :=
  (generator.generateReporting document).mapError .generation

/-- The outcome of a document that is not in the cache under its key, and the cache with it. -/
def outcomeAfterMiss (generator : Generator) (document : Schema.Document) (key : Text × Text)
    (cache : ResultCache) : Outcome × ResultCache :=
  match generator.outcome document with
  | .ok result => (.ok result, cache.put key result)
  | .error error => (.error error, cache)

/-- The outcome of a document with a cache. -/
def outcomeWithCache (generator : Generator) (document : Schema.Document) (cache : ResultCache) :
    Outcome × ResultCache :=
  match ResultCache.key? document with
  | none => (.error .surrogateInContent, cache)
  | some key =>
    match cache.get key with
    | (some result, cache) => (.ok result, cache)
    | (none, cache) => generator.outcomeAfterMiss document key cache

/-- The outcomes of documents with a cache, one after another. -/
def outcomesWithCache (generator : Generator) :
    List Schema.Document → ResultCache → List Outcome × ResultCache
  | [], cache => ([], cache)
  | document :: rest, cache =>
    let (first, cache) := generator.outcomeWithCache document cache
    let (others, cache) := outcomesWithCache generator rest cache
    (first :: others, cache)

/-- All results in the order of the documents, or the first reason why one is missing. -/
def collect (outcomes : List Outcome) : Except BatchError (List GenerationResult) :=
  outcomes.mapM id

/-- The results of documents without a cache. -/
def generateAll (generator : Generator) (documents : List Schema.Document) :
    Except BatchError (List GenerationResult) := collect (documents.map generator.outcome)

/-- The results of documents with a cache. -/
def generateAllWithCache (generator : Generator) (documents : List Schema.Document)
    (cache : ResultCache) : Except BatchError (List GenerationResult) × ResultCache :=
  let (outcomes, cache) := generator.outcomesWithCache documents cache
  (collect outcomes, cache)

end Generator

end RecordSmith
