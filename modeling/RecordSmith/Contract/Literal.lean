import RecordSmith.Text.Basic

/-!
# Literals of C# sources

Names of the schema appear in a data contract as regular string literals, and its documentation as
text of an XML comment.  Neither may end the line it stands on, and neither may hold a surrogate.
-/

namespace RecordSmith.Contract

/-- The characters with an escape of their own, and the letters of these escapes. -/
def letterEscapes : List (CodePoint × CodePoint) :=
  [(0x5C, 0x5C), (0x22, 0x22), (0x00, 0x30), (0x07, 0x61), (0x08, 0x62), (0x0C, 0x66),
    (0x0A, 0x6E), (0x0D, 0x72), (0x09, 0x74), (0x0B, 0x76)]

/-- A character that ends a line of a source, other than CR and LF. -/
def isWideLineBreak (c : CodePoint) : Bool := c == 0x85 || c == 0x2028 || c == 0x2029

/-- A character that is written by its number. -/
def needsNumber (c : CodePoint) : Bool := c < 0x20 || isWideLineBreak c || Text.isSurrogate c

/-- One character of a string literal. -/
def escape (c : CodePoint) : Text :=
  match letterEscapes.lookup c with
  | some letter => [0x5C, letter]
  | none => if needsNumber c then "\\u" ++ Text.hexDigits 4 c else [c]

/-- The regular string literal of a text. -/
def stringLiteral (t : Text) : Text := [0x22] ++ t.flatMap escape ++ [0x22]

/-- The character that stands for one that cannot be written. -/
def replacementCharacter : CodePoint := 0xFFFD

/-- One character of XML text. -/
def escapeXml (c : CodePoint) : Text :=
  if Text.isSurrogate c then [replacementCharacter]
  else if c == 0x26 then "&amp;"
  else if c == 0x3C then "&lt;"
  else if c == 0x3E then "&gt;"
  else [c]

/-- The text as XML text. -/
def xmlText (t : Text) : Text := t.flatMap escapeXml

end RecordSmith.Contract
