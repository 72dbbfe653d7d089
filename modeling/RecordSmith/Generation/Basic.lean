import RecordSmith.Naming.Namespace
import RecordSmith.Generation.Members

/-!
# Generation of sources

A document that declares a record with a namespace and with fields becomes a source text; any other
document is skipped.  Either way there is a result that says what was left out and why.  Only
settings that cannot be used give an error instead.
-/

namespace RecordSmith

/-- A generated source text with facts about it. -/
structure Generated where
  artifactName : Text
  source : Text
  target : Target
  /-- The name of the record with its namespace, as in the schema. -/
  recordName : Text
  memberCount : Nat
  droppedFields : Nat
  deriving Repr, DecidableEq

/-- What became of a document. -/
structure GenerationResult where
  documentName : Text
  generated : Option Generated := none
  diagnostics : List Diagnostic
  deriving Repr

/-- Code was generated. -/
def GenerationResult.success (result : GenerationResult) : Bool := result.generated.isSome

/-- The result of a document without output. -/
def GenerationResult.withoutOutput (document : Text) (findings : List Finding) :
    GenerationResult :=
  { documentName := document, diagnostics := findings.map fun finding => ⟨document, finding⟩ }

/-- The namespace of a record is more than white space once it is normalized. -/
def Schema.Record.hasNamespace (record : Schema.Record) : Bool :=
  !(Text.trim (Namespace.normalize (record.space.getD []))).isEmpty

/-- The record that a text declares, if code can be generated for it. -/
def eligibleRecord (content : Text) : Except SkipReason Schema.Record :=
  match Schema.Declaration.parse? content with
  | none => .error .unreadable
  | some (.other type) => .error (.notRecord type)
  | some (.record record) =>
    if !record.hasNamespace then .error (.noNamespace record.name)
    else if record.fields.isEmpty then .error (.noFields record.name)
    else .ok record

namespace Generator

/-- The type that a record becomes, without its members. -/
def frame (generator : Generator) (record : Schema.Record) :
    Except GenerationError TypeDeclaration := do
  let wireSpace := record.space.getD []
  let space := Namespace.convert wireSpace (← generator.namingCase .namespaceCase)
  let typeCase ← generator.namingCase .typeCase
  let typeName := (NamePool.ofTarget generator.target).wanted record.name typeCase
  return { space, typeName, wireName := record.name, wireSpace, doc := record.doc }

/-- What becomes of the fields of a record in a type of some name. -/
def fields (generator : Generator) (record : Schema.Record) (typeName : Text) : FieldOutcomes :=
  declareFields generator.target (generator.namingCase .fieldCase)
    (NamePool.forType generator.target typeName) record.fields

/-- The source text of a record whose fields have become members. -/
def emit (generator : Generator) (record : Schema.Record) (type : TypeDeclaration) :
    Except GenerationError Generated := do
  let source ← generator.source type
  generator.checkMarker
  return {
    artifactName := generator.artifactName type.space type.typeName
    source
    target := generator.target
    recordName := type.wireFullName
    memberCount := type.members.length
    droppedFields := record.fields.length - type.members.length }

/-- Generates the source of a record. -/
def generateRecord (generator : Generator) (document : Text) (record : Schema.Record) :
    Except GenerationError GenerationResult := do
  let frame ← generator.frame record
  let fields := generator.fields record frame.typeName
  match fields.interruption with
  | some (.failed error) => throw error
  | some (.invalidDefault field problem) =>
    return .withoutOutput document (fields.findings ++ [.invalidDefault field problem])
  | none =>
    let generated ← generator.emit record { frame with members := fields.members }
    return { GenerationResult.withoutOutput document fields.findings with
      generated := some generated }

/-- Generates the source of a document. -/
def generate (generator : Generator) (document : Schema.Document) :
    Except GenerationError GenerationResult :=
  match eligibleRecord document.content with
  | .error reason => .ok (.withoutOutput document.name [.skipped reason])
  | .ok record => generator.generateRecord document.name record

/-- Generates the source of a document; an announced error becomes a finding. -/
def generateReporting (generator : Generator) (document : Schema.Document) :
    Except GenerationError GenerationResult :=
  match generator.generate document with
  | .ok result => .ok result
  | .error error =>
    match error.message? with
    | some _ => .ok (.withoutOutput document.name [.failed error])
    | none => .error error

end Generator

end RecordSmith
