import RecordSmith.Value.Object

/-!
# Options of dataclasses

The settings that only Python sources have: whether the class declares slots, and the key of the
field metadata under which the name in the schema is kept.
-/

namespace RecordSmith.Dataclass

/-- The options of a dataclass. -/
structure Options where
  slots : Bool := true
  metadataKey : Text := "avro_name"
  deriving Repr, DecidableEq

/-- The text of a value that is a text and not empty. -/
def metadataKey? (value : Value) : Option Text := value.text?.filter fun t => !t.isEmpty

/-- The options that a set of entries chooses; the value of a metadata key that is none is handed
back. -/
def Options.ofEntries (entries : Entries) : Except Value Options :=
  let chosen := (entries.get? "metadata_key").getD (.text "avro_name")
  match metadataKey? chosen with
  | some metadataKey =>
    .ok { slots := ((entries.get? "dataclass_slots").getD (.boolean true)).isTruthy, metadataKey }
  | none => .error chosen

end RecordSmith.Dataclass
