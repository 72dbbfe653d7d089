import RecordSmith.Json.Writer

/-!
# Literals of Python sources

Names of the schema appear in a dataclass as double-quoted string literals, and its documentation in
a triple-quoted one.  A string literal is a JSON string in which surrogates are escapes as well.
-/

namespace RecordSmith.Dataclass

/-- One character of a string literal. -/
def escape (c : CodePoint) : Text :=
  if Text.isSurrogate c then "\\u" ++ Text.hexDigits 4 c else Json.escape c

/-- The string literal of a text. -/
def stringLiteral (t : Text) : Text := [0x22] ++ t.flatMap escape ++ [0x22]

/-- The character that stands for one that cannot be written. -/
def replacementCharacter : CodePoint := 0xFFFD

/-- One character of documentation, quotation marks apart. -/
def escapeDoc (c : CodePoint) : Text :=
  if Text.isSurrogate c then [replacementCharacter]
  else if c == 0x5C then [0x5C, 0x5C]
  else [c]

/-- Three quotation marks, which delimit documentation. -/
def tripleQuote : Text := [0x22, 0x22, 0x22]

/-- Three quotation marks inside documentation. -/
def escapedTripleQuote : Text := [0x5C, 0x22, 0x5C, 0x22, 0x5C, 0x22]

/-- The text between the delimiters of documentation. -/
def docstring (t : Text) : Text := Text.replace tripleQuote escapedTripleQuote (t.flatMap escapeDoc)

end RecordSmith.Dataclass
