import RecordSmith.Generator.Basic

/-!
# Diagnostics

What was left out of the output or changed on the way, and why.  A diagnostic belongs to a document
and, if it is about a field, names it.
-/

namespace RecordSmith

/-- Why a document yields no code although nothing is wrong with the generator. -/
inductive SkipReason where
  | unreadable
  | notRecord (type : Schema.TypeExpr)
  | noNamespace (record : Text)
  | noFields (record : Text)
  deriving Repr

/-- The wording of a reason to skip a document. -/
def SkipReason.message : SkipReason → Text
  | unreadable => "not a readable Avro schema"
  | notRecord type => "top-level schema is " ++ type.describe ++ ", not a record"
  | noNamespace record => "record " ++ record ++ " has no namespace"
  | noFields record => "record " ++ record ++ " has no fields"

/-- What was found in a document. -/
inductive Finding where
  | skipped (reason : SkipReason)
  /-- A field that makes no member. -/
  | unsupported (field : Text) (reason : Schema.Unsupported)
  /-- A field with a default that does not fit; it stops the generation. -/
  | invalidDefault (field : Text) (problem : DefaultProblem)
  /-- A field whose identifier was taken, and the one it got instead. -/
  | nameTaken (field wanted given : Text)
  | failed (error : GenerationError)
  deriving Repr

namespace Finding

/-- The kinds of findings. -/
inductive Kind where
  | skippedDocument
  | unsupportedField
  | invalidDefault
  | nameCollision
  | generationError
  deriving Repr, DecidableEq

/-- The word for a kind. -/
def Kind.word : Kind → Text
  | skippedDocument => "skipped_document"
  | unsupportedField => "unsupported_field"
  | invalidDefault => "invalid_default"
  | nameCollision => "name_collision"
  | generationError => "generation_error"

/-- The kind of a finding. -/
def kind : Finding → Kind
  | skipped _ => .skippedDocument
  | unsupported _ _ => .unsupportedField
  | invalidDefault _ _ => .invalidDefault
  | nameTaken _ _ _ => .nameCollision
  | failed _ => .generationError

/-- The field that a finding is about. -/
def field? : Finding → Option Text
  | unsupported field _ => some field
  | invalidDefault field _ => some field
  | nameTaken field _ _ => some field
  | _ => none

/-- The wording of a finding. -/
def message : Finding → Text
  | skipped reason => reason.message
  | unsupported _ reason => reason.message
  | invalidDefault _ problem => problem.message
  | nameTaken _ wanted given =>
    "identifier " ++ wanted ++ " is already taken, using " ++ given
  | failed error => "Code generation failed: " ++ error.message?.getD []

end Finding

/-- A finding in a document. -/
structure Diagnostic where
  document : Text
  finding : Finding
  deriving Repr

/-- A diagnostic in one line. -/
def Diagnostic.line (diagnostic : Diagnostic) : Text :=
  match diagnostic.finding.field? with
  | some field => diagnostic.document ++ ": " ++ field ++ ": " ++ diagnostic.finding.message
  | none => diagnostic.document ++ ": " ++ diagnostic.finding.message

end RecordSmith
