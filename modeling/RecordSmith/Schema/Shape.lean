import RecordSmith.Schema.Type

/-!
# Shapes of fields

Only two shapes of type become members: a scalar, and a union of null and a scalar.  Every other
type is left out for a stated reason.
-/

namespace RecordSmith.Schema

/-- A type that members can have. -/
inductive Scalar where
  | string
  | boolean
  deriving Repr, DecidableEq

/-- The word for a scalar. -/
def Scalar.word : Scalar → Text
  | string => "string"
  | boolean => "boolean"

/-- The scalar that a branch is. -/
def Branch.scalar? : Branch → Option Scalar
  | primitive .string => some .string
  | primitive .boolean => some .boolean
  | _ => none

/-- Why a type makes no member. -/
inductive Unsupported where
  | notNullPlusOne (union : TypeExpr)
  | nullableOther (branch : Branch)
  | nullOnly
  | reference (branch : Branch)
  | otherKind (branch : Branch)
  deriving Repr

/-- What a field type makes of its field. -/
inductive Shape where
  | member (scalar : Scalar) (nullable : Bool)
  | dropped (reason : Unsupported)
  deriving Repr

/-- Why a branch that is no scalar makes no member. -/
def Branch.unsupported : Branch → Unsupported
  | primitive .null => .nullOnly
  | reference name => .reference (reference name)
  | branch => .otherKind branch

/-- The shape of a type. -/
def TypeExpr.shape : TypeExpr → Shape
  | single branch =>
    match branch.scalar? with
    | some scalar => .member scalar false
    | none => .dropped branch.unsupported
  | union branches =>
    match (union branches).nonNull? with
    | none => .dropped (.notNullPlusOne (union branches))
    | some branch =>
      match branch.scalar? with
      | some scalar => .member scalar true
      | none => .dropped (.nullableOther branch)

/-- The wording of a reason. -/
def Unsupported.message : Unsupported → Text
  | notNullPlusOne union => "union " ++ union.describe ++ " is not null plus one type"
  | nullableOther branch => "nullable " ++ branch.describe ++ " fields are not supported"
  | nullOnly => "null fields carry no value"
  | reference branch => "named type reference " ++ branch.describe ++ " is not supported"
  | otherKind branch => branch.kindWord ++ " fields are not supported"

end RecordSmith.Schema
