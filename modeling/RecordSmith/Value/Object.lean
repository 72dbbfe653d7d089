import RecordSmith.Value.Basic

/-!
# Objects

Entries with one value for each key.  Setting a key that is present keeps its place; a new key goes
to the end.  Reading is by the first entry with the key.
-/

namespace RecordSmith.Entries

/-- The value of a key. -/
def get? (entries : Entries) (key : Text) : Option Value := entries.lookup key

/-- The keys in their order. -/
def keys (entries : Entries) : List Text := entries.map Prod.fst

/-- Sets the value of a key. -/
def set (key : Text) (value : Value) : Entries → Entries
  | [] => [(key, value)]
  | (k, v) :: rest => if k == key then (k, value) :: rest else (k, v) :: set key value rest

/-- Sets every entry of `changes`, in their order. -/
def setAll (entries changes : Entries) : Entries :=
  changes.foldl (fun result change => set change.1 change.2 result) entries

/-- The entries with each key once: at its first place and with its last value. -/
def ofList (entries : List (Text × Value)) : Entries := setAll [] entries

end RecordSmith.Entries
