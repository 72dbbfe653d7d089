import RecordSmith.Text.Printable

/-!
# Quoted texts

How a message shows a text that may hold anything: in single quotes, or in double quotes if that
saves escaping, with a backslash escape for each character that is not printable.
-/

namespace RecordSmith.Text

/-- The quotation mark for `t`: a double one only for a text with single and without double
ones. -/
def quoteFor (t : Text) : CodePoint := if t.contains 0x27 && !t.contains 0x22 then 0x22 else 0x27

/-- One code point between quotation marks `quote`. -/
def escapeQuoted (quote c : CodePoint) : Text :=
  if c == quote || c == 0x5C then [0x5C, c]
  else if c == 0x09 then "\\t"
  else if c == 0x0A then "\\n"
  else if c == 0x0D then "\\r"
  else if isPrintable c then [c]
  else if c < 0x100 then "\\x" ++ hexDigits 2 c
  else if c < 0x10000 then "\\u" ++ hexDigits 4 c
  else "\\U" ++ hexDigits 8 c

/-- The quoted form of a text. -/
def quoted (t : Text) : Text :=
  quoteFor t :: t.flatMap (escapeQuoted (quoteFor t)) ++ [quoteFor t]

end RecordSmith.Text
