import RecordSmith.Naming.Pool
import RecordSmith.Schema.Record
import RecordSmith.Generation.Diagnostic

/-!
# Members of a record

The fields of a record become members one after another.  A field of an unsupported type is left out
and the rest goes on; a default that does not fit, or a naming case that is none, stops everything.
-/

namespace RecordSmith

/-- What one field has become. -/
inductive FieldOutcome where
  /-- A member; `wanted` is the identifier it could not have, if another one had it already. -/
  | member (declaration : MemberDeclaration) (wanted : Option Text)
  | dropped (field : Text) (reason : Schema.Unsupported)
  deriving Repr

namespace FieldOutcome

/-- The member that a field has become. -/
def member? : FieldOutcome → Option MemberDeclaration
  | member declaration _ => some declaration
  | dropped _ _ => none

/-- What there is to report about a field. -/
def finding? : FieldOutcome → Option Finding
  | member declaration wanted =>
    wanted.map fun identifier => .nameTaken declaration.wireName identifier declaration.name
  | dropped field reason => some (.unsupported field reason)

end FieldOutcome

/-- Why not all fields were looked at. -/
inductive Interruption where
  | invalidDefault (field : Text) (problem : DefaultProblem)
  | failed (error : GenerationError)
  deriving Repr

/-- What became of the fields up to the end, or up to an interruption. -/
structure FieldOutcomes where
  outcomes : List FieldOutcome
  interruption : Option Interruption := none
  deriving Repr

namespace FieldOutcomes

/-- Puts the outcome of a field before those of the fields behind it. -/
def cons (outcome : FieldOutcome) (others : FieldOutcomes) : FieldOutcomes :=
  { others with outcomes := outcome :: others.outcomes }

/-- The members. -/
def members (fields : FieldOutcomes) : List MemberDeclaration :=
  fields.outcomes.filterMap FieldOutcome.member?

/-- What there is to report about the fields that were looked at. -/
def findings (fields : FieldOutcomes) : List Finding :=
  fields.outcomes.filterMap FieldOutcome.finding?

end FieldOutcomes

/-- The literal of the default of a field, if it declares one. -/
def Target.fieldDefault (target : Target) (field : Schema.Field) (scalar : Schema.Scalar)
    (nullable : Bool) : Except DefaultProblem (Option Text) :=
  match field.default with
  | none => .ok none
  | some value => (target.defaultLiteral scalar nullable value).map some

namespace NamePool

/-- The pool of a language, from which nothing has been handed out. -/
def ofTarget (target : Target) : NamePool :=
  { reservedWords := target.reservedWords, builtinNames := target.builtinNames }

/-- The pool for the members of a type; where they may not be called like it, its name is taken. -/
def forType (target : Target) (typeName : Text) : NamePool :=
  if target.reservesTypeName then (ofTarget target).addUsed typeName else ofTarget target

/-- The identifier that a name gets if no other name has it. -/
def wanted (pool : NamePool) (name : Text) (target : NamingCase) : Text :=
  pool.escapeReserved (Identifier.convert name target)

end NamePool

/-- The member that a field of a supported shape becomes, and the pool behind it. -/
def declareMember (target : Target) (pool : NamePool) (fieldCase : NamingCase)
    (field : Schema.Field) (scalar : Schema.Scalar) (nullable : Bool)
    (defaultLiteral : Option Text) : FieldOutcome × NamePool :=
  let wanted := pool.wanted field.name fieldCase
  let (name, rest) := pool.sanitize field.name fieldCase
  (.member
    { name, wireName := field.name, typeName := target.memberType scalar nullable, nullable,
      defaultLiteral }
    (if pool.isUsed wanted then some wanted else none), rest)

/-- What becomes of the fields of a record.  The naming case may be missing: this is noticed by the
first field that needs it. -/
def declareFields (target : Target) (fieldCase : Except GenerationError NamingCase) :
    NamePool → List Schema.Field → FieldOutcomes
  | _, [] => { outcomes := [] }
  | pool, field :: rest =>
    match field.type.shape with
    | .dropped reason =>
      (declareFields target fieldCase pool rest).cons (.dropped field.name reason)
    | .member scalar nullable =>
      match target.fieldDefault field scalar nullable with
      | .error problem =>
        { outcomes := [], interruption := some (.invalidDefault field.name problem) }
      | .ok literal =>
        match fieldCase with
        | .error error => { outcomes := [], interruption := some (.failed error) }
        | .ok spelling =>
          let (outcome, pool) := declareMember target pool spelling field scalar nullable literal
          (declareFields target fieldCase pool rest).cons outcome

end RecordSmith
