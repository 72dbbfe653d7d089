/-!
# Texts

Schema documents, names and settings are sequences of Unicode code points.  A JSON escape can leave
an unpaired surrogate behind, so the code points are not restricted to Unicode scalar values and a
text is not a `String`.  This module holds the carrier and the operations that do not depend on
properties of characters.
-/

namespace RecordSmith

/-- The number of a Unicode code point, the surrogate range U+D800 to U+DFFF included. -/
abbrev CodePoint := Nat

/-- A sequence of code points. -/
abbrev Text := List CodePoint

namespace Text

/-- The code points of a string. -/
def ofString (s : String) : Text := s.toList.map Char.toNat

instance : Coe String Text := ⟨ofString⟩

instance : Coe Char CodePoint := ⟨Char.toNat⟩

/-- A code point of the surrogate range, which UTF-8 cannot carry. -/
def isSurrogate (c : CodePoint) : Bool := 0xD800 ≤ c && c ≤ 0xDFFF

/-- A code point of the seven-bit range. -/
def isAscii (c : CodePoint) : Bool := c < 0x80

/-- One of the digits `0` to `9`. -/
def isAsciiDigit (c : CodePoint) : Bool := 0x30 ≤ c && c ≤ 0x39

/-- One of the letters `A` to `Z`. -/
def isAsciiUpper (c : CodePoint) : Bool := 0x41 ≤ c && c ≤ 0x5A

/-- One of the letters `a` to `z`. -/
def isAsciiLower (c : CodePoint) : Bool := 0x61 ≤ c && c ≤ 0x7A

/-- The number of a hexadecimal digit, of either case. -/
def hexValue? (c : CodePoint) : Option Nat :=
  if 0x30 ≤ c && c ≤ 0x39 then some (c - 0x30)
  else if 0x41 ≤ c && c ≤ 0x46 then some (c - 0x41 + 10)
  else if 0x61 ≤ c && c ≤ 0x66 then some (c - 0x61 + 10)
  else none

/-- The lower-case hexadecimal digit of a number below sixteen. -/
def hexDigit (n : Nat) : CodePoint := if n < 10 then 0x30 + n else 0x61 + (n - 10)

/-- The last `width` hexadecimal digits of a number, leading zeros included. -/
def hexDigits : Nat → Nat → Text
  | 0, _ => []
  | width + 1, n => hexDigits width (n / 16) ++ [hexDigit (n % 16)]

/-- The decimal digits of a natural number. -/
def ofNat (n : Nat) : Text := (Nat.toDigits 10 n).map Char.toNat

/-- The decimal digits of an integer, after a minus sign if it is negative. -/
def ofInt : Int → Text
  | .ofNat n => ofNat n
  | .negSucc n => '-' :: ofNat (n + 1)

/-- The number that a sequence of ASCII digits denotes. -/
def digitsValue (t : Text) : Nat := t.foldl (fun n c => n * 10 + (c - 0x30)) 0

/-- Cuts a text at every code point that satisfies `p`; the cutting code points are dropped. -/
def splitOn (p : CodePoint → Bool) : Text → List Text
  | [] => [[]]
  | c :: rest =>
    match p c, splitOn p rest with
    | true, parts => [] :: parts
    | false, [] => [[c]]
    | false, part :: parts => (c :: part) :: parts

/-- The lines of a text, cut at line feeds. -/
def splitLines (t : Text) : List Text := splitOn (· == 0x0A) t

/-- Puts `separator` between the parts. -/
def join (separator : Text) (parts : List Text) : Text := separator.intercalate parts

/-- The text before the first occurrence of `c` and the text after it. -/
def splitFirst? (c : CodePoint) : Text → Option (Text × Text)
  | [] => none
  | d :: rest =>
    if d == c then some ([], rest)
    else (splitFirst? c rest).map fun (before, after) => (d :: before, after)

/-- The text before the last occurrence of `c` and the text after it. -/
def splitLast? (c : CodePoint) : Text → Option (Text × Text)
  | [] => none
  | d :: rest =>
    match splitLast? c rest with
    | some (before, after) => some (d :: before, after)
    | none => if d == c then some ([], rest) else none

/-- The rest of `t` after `start`, if `t` starts with it. -/
def dropStart? : Text → Text → Option Text
  | [], t => some t
  | _ :: _, [] => none
  | c :: start, d :: t => if c == d then dropStart? start t else none

/-- `t` ends with `ending`. -/
def endsWith (t ending : Text) : Bool := ending.isSuffixOf t

/-- `part` occurs somewhere in `t`. -/
def occursIn (part : Text) : Text → Bool
  | [] => part.isEmpty
  | c :: rest => part.isPrefixOf (c :: rest) || occursIn part rest

/-- Replaces the occurrences of a non-empty `old`, from left to right and without overlap.  `skip`
counts the code points of an occurrence that are still to be dropped. -/
def replaceFrom (old new : Text) : Nat → Text → Text
  | _, [] => []
  | skip + 1, _ :: rest => replaceFrom old new skip rest
  | 0, c :: rest =>
    if old.isPrefixOf (c :: rest) then new ++ replaceFrom old new (old.length - 1) rest
    else c :: replaceFrom old new 0 rest

/-- Replaces every occurrence of a non-empty `old` by `new`. -/
def replace (old new t : Text) : Text := replaceFrom old new 0 t

/-- Order by code points, a proper start of a text coming first. -/
def le : Text → Text → Bool
  | [], _ => true
  | _ :: _, [] => false
  | c :: s, d :: t => if c == d then le s t else c < d

/-- A list of texts in increasing order, each once. -/
def sortUnique (texts : List Text) : List Text := (texts.eraseDups).mergeSort le

end Text

end RecordSmith
