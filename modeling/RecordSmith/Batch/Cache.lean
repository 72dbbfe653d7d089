import RecordSmith.Digest.Sha256
import RecordSmith.Generation.Basic

/-!
# Result caches

A cache remembers results by the name of the document and the digest of its content.  The name
belongs to the key because diagnostics name the document.  Contents that cannot be encoded have no
digest and cannot be looked up.
-/

namespace RecordSmith

/-- The digest of the content of a document, unless it holds a surrogate. -/
def Schema.Document.digest? (document : Schema.Document) : Option Text :=
  (Text.toUtf8? document.content).map Digest.sha256

/-- Results by name and digest of their documents, and how often one was asked for and was there or
was not there. -/
structure ResultCache where
  results : List ((Text × Text) × GenerationResult) := []
  hits : Nat := 0
  misses : Nat := 0
  deriving Repr

namespace ResultCache

/-- The key of a document. -/
def key? (document : Schema.Document) : Option (Text × Text) :=
  document.digest?.map fun digest => (document.name, digest)

/-- The number of results. -/
def size (cache : ResultCache) : Nat := cache.results.length

/-- The result under a key. -/
def result? (cache : ResultCache) (key : Text × Text) : Option GenerationResult :=
  cache.results.lookup key

/-- Looks up a key and counts whether it was there. -/
def get (cache : ResultCache) (key : Text × Text) : Option GenerationResult × ResultCache :=
  match cache.result? key with
  | some result => (some result, { cache with hits := cache.hits + 1 })
  | none => (none, { cache with misses := cache.misses + 1 })

/-- Remembers a result under a key. -/
def put (cache : ResultCache) (key : Text × Text) (result : GenerationResult) : ResultCache :=
  { cache with results := (key, result) :: cache.results.filter fun entry => entry.1 != key }

end ResultCache

end RecordSmith
