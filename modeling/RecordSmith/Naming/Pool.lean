import RecordSmith.Naming.Identifier

/-!
# Name pools

A pool hands out identifiers for the names of one scope.  A reserved word gets a suffix, and a name
that has been handed out already gets a number.  Asking again for the same name, case and suffix
gives the same identifier.
-/

namespace RecordSmith

/-- The identifiers handed out in one scope. -/
structure NamePool where
  /-- Words that the language reserves. -/
  reservedWords : List Text := []
  /-- Names that the generated code relies on. -/
  builtinNames : List Text := []
  /-- The answers given so far, by request. -/
  issued : List (Text × Text) := []
  /-- The identifiers in use, each once. -/
  used : List Text := []
  deriving Repr

namespace NamePool

/-- The suffix that reserved words get by default, and that numbers follow. -/
def defaultSuffix : Text := "_"

/-- Adds the suffix to a word that members may not be called. -/
def escapeReserved (pool : NamePool) (name : Text) (suffix : Text := defaultSuffix) : Text :=
  if pool.reservedWords.contains name || pool.builtinNames.contains name then name ++ suffix
  else name

/-- The identifier has been handed out or taken. -/
def isUsed (pool : NamePool) (name : Text) : Bool := pool.used.contains name

/-- Takes an identifier out of circulation. -/
def addUsed (pool : NamePool) (name : Text) : NamePool :=
  if pool.isUsed name then pool else { pool with used := pool.used ++ [name] }

/-- The first of `stem1`, `stem2`, … from `counter` on that is not used, looking at no more than
`fuel` of them before the answer. -/
def firstFree (used : List Text) (stem : Text) : Nat → Nat → Text
  | 0, counter => stem ++ Text.ofNat counter
  | fuel + 1, counter =>
    if used.contains (stem ++ Text.ofNat counter) then firstFree used stem fuel (counter + 1)
    else stem ++ Text.ofNat counter

/-- The name itself if it is free, and otherwise the name with the least number that makes it so.
Only the default suffix is repeated before the number.  Among one more number than there are used
identifiers one is free. -/
def resolveConflict (used : List Text) (name suffix : Text) : Text :=
  if used.contains name then
    firstFree used (if suffix == defaultSuffix then name ++ suffix else name) used.length 1
  else name

/-- The key under which an answer is remembered. -/
def requestKey (name : Text) (target : NamingCase) (suffix : Text) : Text :=
  name ++ "_" ++ target.name ++ "_" ++ suffix

/-- Hands out the identifier of a name. -/
def sanitize (pool : NamePool) (name : Text) (target : NamingCase := .snake)
    (suffix : Text := defaultSuffix) : Text × NamePool :=
  let key := requestKey name target suffix
  match pool.issued.lookup key with
  | some identifier => (identifier, pool)
  | none =>
    let wanted := pool.escapeReserved (Identifier.convert name target) suffix
    let identifier := resolveConflict pool.used wanted suffix
    (identifier, { pool.addUsed identifier with issued := (key, identifier) :: pool.issued })

end NamePool

end RecordSmith
