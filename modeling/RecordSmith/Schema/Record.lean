import RecordSmith.Json.Reader
import RecordSmith.Schema.Type

/-!
# Schema documents

A document declares a record or is any other type expression.  Reading is all or nothing: a record
with a missing name, a repeated field or a field without a readable type is no schema at all.
-/

namespace RecordSmith.Schema

/-- A field of a record. -/
structure Field where
  name : Text
  type : TypeExpr
  /-- The declared default, null included; none if there is no declaration. -/
  default : Option Value
  doc : Option Text
  deriving Repr

/-- A record. -/
structure Record where
  name : Text
  space : Option Text
  fields : List Field
  doc : Option Text
  deriving Repr

/-- The name behind its namespace. -/
def Record.fullName (record : Record) : Text :=
  match record.space with
  | none => record.name
  | some space => if space.isEmpty then record.name else space ++ "." ++ record.name

/-- What a document declares. -/
inductive Declaration where
  | record (record : Record)
  | other (type : TypeExpr)
  deriving Repr

/-- A document: its text and a short name for where it came from. -/
structure Document where
  name : Text
  content : Text
  deriving Repr, DecidableEq

/-- The documentation of a declaration; it counts only if it is a text. -/
def readDoc (entries : Entries) : Option Text := (entries.get? "doc").bind Value.text?

/-- The text that an object has at a key, if it is not empty. -/
def nonEmptyText? (entries : Entries) (key : Text) : Option Text :=
  ((entries.get? key).bind Value.text?).filter fun t => !t.isEmpty

/-- The field that an object declares, unless its name is one of `taken`. -/
def fieldOfEntries? (taken : List Text) (entries : Entries) : Option Field := do
  let name ← nonEmptyText? entries "name"
  if taken.contains name then none
  else
    let type ← (entries.get? "type").bind readType
    return { name, type, default := entries.get? "default", doc := readDoc entries }

/-- The field that a value declares, unless its name is one of `taken`. -/
def readField (taken : List Text) (value : Value) : Option Field :=
  value.entries?.bind (fieldOfEntries? taken)

/-- The fields that a list declares, if their names differ from each other and from `taken`. -/
def readFields (taken : List Text) : List Value → Option (List Field)
  | [] => some []
  | item :: rest => do
    let field ← readField taken item
    let fields ← readFields (field.name :: taken) rest
    return field :: fields

/-- The namespace and name of a record: a dotted name carries its namespace, and otherwise the
`namespace` entry holds it, which may be null or missing. -/
def readQualifiedName (entries : Entries) : Option (Option Text × Text) := do
  let name ← nonEmptyText? entries "name"
  match Text.splitLast? 0x2E name with
  | some (space, simple) => return (some space, simple)
  | none =>
    match (entries.get? "namespace").getD .null with
    | .null => return (none, name)
    | .text space => return (some space, name)
    | _ => none

/-- The record that an object declares.  Names with surrogates are refused, because they could not
be written to a file. -/
def readRecord (entries : Entries) : Option Record := do
  let (space, name) ← readQualifiedName entries
  if name.any Text.isSurrogate || (space.getD []).any Text.isSurrogate then none
  else
    match entries.get? "fields" with
    | some (.list items) =>
      let fields ← readFields [] items
      return { name, space, fields, doc := readDoc entries }
    | _ => none

/-- The words for which an object is read as a record. -/
def recordWords : List Text := ["record", "error"]

/-- The object declares a record. -/
def declaresRecord (entries : Entries) : Bool :=
  match entries.get? "type" with
  | some (.text word) => recordWords.contains word
  | _ => false

/-- What a value declares. -/
def Declaration.ofValue? : Value → Option Declaration
  | .object entries =>
    if declaresRecord entries then (readRecord entries).map .record
    else (readType (.object entries)).map .other
  | value => (readType value).map .other

/-- What a text declares, if it is a readable schema. -/
def Declaration.parse? (t : Text) : Option Declaration :=
  match Json.read t with
  | .ok value => ofValue? value
  | .error _ => none

end RecordSmith.Schema
