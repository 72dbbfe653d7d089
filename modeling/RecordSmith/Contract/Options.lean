import RecordSmith.Value.Object

/-!
# Options of data contracts

The settings that only C# sources have: whether nullable references are enabled, and the keyword
that declares the type.
-/

namespace RecordSmith.Contract

/-- A keyword, or pair of keywords, that declares a type with properties. -/
inductive TypeKeyword where
  | record
  | recordClass
  | recordStruct
  | plainClass
  deriving Repr, DecidableEq

namespace TypeKeyword

/-- The keyword as it is written. -/
def text : TypeKeyword → Text
  | record => "record"
  | recordClass => "record class"
  | recordStruct => "record struct"
  | plainClass => "class"

/-- Every keyword, in the order of their texts. -/
def all : List TypeKeyword := [plainClass, record, recordClass, recordStruct]

/-- The keyword with a text. -/
def ofText? (t : Text) : Option TypeKeyword := all.find? (·.text == t)

/-- The keyword that a value names. -/
def ofValue? (value : Value) : Option TypeKeyword := value.text?.bind ofText?

end TypeKeyword

/-- The options of a data contract. -/
structure Options where
  /-- Enables nullable references if it is set to something that counts as true. -/
  nullableContext : Value := .boolean true
  typeKeyword : TypeKeyword := .record
  deriving Repr

/-- The options that a set of entries chooses; the value of a keyword that is none is handed
back. -/
def Options.ofEntries (entries : Entries) : Except Value Options :=
  let chosen := (entries.get? "type_keyword").getD (.text TypeKeyword.record.text)
  match TypeKeyword.ofValue? chosen with
  | some typeKeyword =>
    .ok { nullableContext := (entries.get? "nullable_context").getD (.boolean true), typeKeyword }
  | none => .error chosen

end RecordSmith.Contract
