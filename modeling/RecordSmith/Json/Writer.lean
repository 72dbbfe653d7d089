import RecordSmith.Value.Basic

/-!
# Writing JSON

Strings are written with the escapes that JSON demands and no others, so that characters beyond the
seven-bit range stay readable.  Documents are written with one value on a line, indented by two
blanks for each open container.
-/

namespace RecordSmith.Json

/-- One code point of a string. -/
def escape (c : CodePoint) : Text :=
  if c == 0x22 || c == 0x5C then [0x5C, c]
  else if c == 0x08 then "\\b"
  else if c == 0x09 then "\\t"
  else if c == 0x0A then "\\n"
  else if c == 0x0C then "\\f"
  else if c == 0x0D then "\\r"
  else if c < 0x20 then "\\u" ++ Text.hexDigits 4 c
  else [c]

/-- A string between quotation marks. -/
def quote (t : Text) : Text := [0x22] ++ t.flatMap escape ++ [0x22]

/-- A floating point number; the ones that are no numbers have names. -/
def writeReal : Binary64 → Text
  | .notANumber => "NaN"
  | .infinite negative => if negative then Text.ofString "-Infinity" else Text.ofString "Infinity"
  | x => x.toText

/-- A new line inside `depth` containers. -/
def lineBreak (depth : Nat) : Text := 0x0A :: List.replicate (2 * depth) 0x20

mutual

/-- A value inside `depth` containers. -/
def writeAt (depth : Nat) : Value → Text
  | .null => "null"
  | .boolean b => if b then Text.ofString "true" else Text.ofString "false"
  | .integer n => Text.ofInt n
  | .real x => writeReal x
  | .text t => quote t
  | .list items => "[" ++ writeItems depth items ++ "]"
  | .object entries => "\x7b" ++ writeEntries depth entries ++ "\x7d"

/-- The values of a list and the line break before its closing bracket. -/
def writeItems (depth : Nat) : List Value → Text
  | [] => []
  | [item] => lineBreak (depth + 1) ++ writeAt (depth + 1) item ++ lineBreak depth
  | item :: rest =>
    lineBreak (depth + 1) ++ writeAt (depth + 1) item ++ "," ++ writeItems depth rest

/-- The entries of an object and the line break before its closing brace. -/
def writeEntries (depth : Nat) : List (Text × Value) → Text
  | [] => []
  | [(key, value)] =>
    lineBreak (depth + 1) ++ quote key ++ ": " ++ writeAt (depth + 1) value ++ lineBreak depth
  | (key, value) :: rest =>
    lineBreak (depth + 1) ++ quote key ++ ": " ++ writeAt (depth + 1) value ++ "," ++
      writeEntries depth rest

end

/-- A document. -/
def write (value : Value) : Text := writeAt 0 value

end RecordSmith.Json
