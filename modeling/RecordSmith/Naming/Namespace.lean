import RecordSmith.Naming.Identifier
import RecordSmith.Text.Blank

/-!
# Namespaces

A namespace is a row of segments between full stops and slashes.  Conversion works on one segment at
a time and leaves every delimiter where it was.
-/

namespace RecordSmith.Namespace

/-- A code point between two segments. -/
def isDelimiter (c : CodePoint) : Bool := c == 0x2E || c == 0x2F

/-- The first segment, and the others with the delimiters before them. -/
def segments : Text → Text × List (CodePoint × Text)
  | [] => ([], [])
  | c :: rest =>
    let (first, others) := segments rest
    if isDelimiter c then ([], (c, first) :: others) else (c :: first, others)

/-- Converts every segment. -/
def mapSegments (f : Text → Text) (t : Text) : Text :=
  let (first, others) := segments t
  f first ++ others.flatMap fun (delimiter, segment) => delimiter :: f segment

/-- A code point between two words of a segment: a low line, a hyphen or white space. -/
def isWordBreak (c : CodePoint) : Bool := c == 0x5F || c == 0x2D || Text.isBlank c

/-- A segment in Pascal case.  Unlike in an identifier, all characters but word breaks are kept. -/
def pascalSegment (segment : Text) : Text :=
  ((Text.splitOn isWordBreak segment).filter fun word => !word.isEmpty).flatMap Text.capitalizeFirst

/-- A namespace in Pascal case. -/
def normalize (t : Text) : Text := mapSegments pascalSegment t

/-- A segment in another case; one without letters, digits and numerals is kept. -/
def convertSegment (target : NamingCase) (segment : Text) : Text :=
  if segment.any Text.isAlphanumeric then Identifier.convert segment target else segment

/-- A namespace in a case. -/
def convert (t : Text) : NamingCase → Text
  | .pascal => normalize t
  | target => mapSegments (convertSegment target) t

/-- Converts to a case that may be left open: then the namespace stays as it is. -/
def convertOptional (t : Text) : Option NamingCase → Text
  | none => t
  | some target => convert t target

end RecordSmith.Namespace
