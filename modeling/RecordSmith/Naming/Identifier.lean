import RecordSmith.Text.Alphanumeric
import RecordSmith.Text.Casing

/-!
# Identifiers

Names in a schema are free text; names in generated code are identifiers.  An identifier is built
from the words of a name, spelled in one of five cases.  It is never empty and never starts with a
digit.
-/

namespace RecordSmith

/-- A spelling of identifiers. -/
inductive NamingCase where
  | snake
  | camel
  | pascal
  | kebab
  | screamingSnake
  deriving Repr, DecidableEq

namespace NamingCase

/-- Every case. -/
def all : List NamingCase := [snake, camel, pascal, kebab, screamingSnake]

/-- The name of a case in settings. -/
def name : NamingCase → Text
  | snake => "snake"
  | camel => "camel"
  | pascal => "pascal"
  | kebab => "kebab"
  | screamingSnake => "screaming_snake"

/-- The case with a name. -/
def ofName? (name : Text) : Option NamingCase := all.find? (·.name == name)

end NamingCase

namespace Identifier

/-- The low line, which stands between the words of a snake case identifier. -/
def lowLine : CodePoint := 0x5F

/-- The words of a name: its longest runs of letters, digits and numerals. -/
def words (name : Text) : List Text :=
  (Text.splitOn (fun c => !Text.isAlphanumeric c) name).filter fun word => !word.isEmpty

/-- Puts a low line before a leading digit. -/
def guardDigit : Text → Text
  | [] => []
  | c :: rest => if Text.isDigit c then lowLine :: c :: rest else c :: rest

/-- The identifier of a name without any word, in Pascal case. -/
def fallback : Text := "Field"

/-- Pascal case: the words with their first letters in upper case, one after another.  The rest of a
word is kept. -/
def pascal (name : Text) : Text :=
  match words name with
  | [] => fallback
  | found => guardDigit (found.flatMap Text.capitalizeFirst)

/-- Camel case: Pascal case with the first letter in lower case. -/
def camel (name : Text) : Text :=
  match pascal name with
  | [] => []
  | c :: rest => if c == lowLine then c :: rest else Text.toLower [c] ++ rest

/-- A letter `a` to `z` or a digit `0` to `9`: what a capital letter is separated from. -/
def endsWord (c : CodePoint) : Bool := Text.isAsciiLower c || Text.isAsciiDigit c

/-- Puts a low line between a small letter or digit and the capital letter behind it. -/
def separateCapitals : Text → Text
  | [] => []
  | [c] => [c]
  | c :: d :: rest =>
    if endsWord c && Text.isAsciiUpper d then c :: lowLine :: separateCapitals (d :: rest)
    else c :: separateCapitals (d :: rest)

/-- A character that a snake case word keeps; every other one becomes a low line. -/
def keepWordCharacter (c : CodePoint) : CodePoint :=
  if Text.isAlphanumeric c then c else lowLine

/-- The non-empty parts between low lines, with single low lines between them. -/
def squeezeLowLines (t : Text) : Text :=
  Text.join [lowLine] ((Text.splitOn (· == lowLine) t).filter fun part => !part.isEmpty)

/-- Snake case: the words in lower case with low lines between them. -/
def snake (name : Text) : Text :=
  match squeezeLowLines (Text.toLower (separateCapitals (name.map keepWordCharacter))) with
  | [] => "field"
  | identifier => guardDigit identifier

/-- The identifier of a name in a case. -/
def convert (name : Text) : NamingCase → Text
  | .snake => snake name
  | .camel => camel name
  | .pascal => pascal name
  | .kebab => (snake name).map fun c => if c == lowLine then 0x2D else c
  | .screamingSnake => Text.toUpper (snake name)

/-- Converts a name that may be missing, to a case that may be left open.  A missing name counts as
the empty one in the cases that look at words; the cases built on snake case need a name, and an
open case leaves the name as it is. -/
def convertOptional? (name : Option Text) : Option NamingCase → Option (Option Text)
  | none => some name
  | some target =>
    match name, target with
    | some t, _ => some (some (convert t target))
    | none, .camel => some (some (convert [] .camel))
    | none, .pascal => some (some (convert [] .pascal))
    | none, _ => none

end Identifier

end RecordSmith
