import RecordSmith.Value.Object

/-!
# Reading JSON

The reader accepts the JSON grammar and the constants `NaN`, `Infinity` and `-Infinity`.  Of two
entries of an object with the same key the last one wins.  An escape for half of a surrogate pair
stands for a surrogate; two halves in a row, both escaped, stand for one code point.  What is
refused is refused with the place where the reader gave up.
-/

namespace RecordSmith.Json

/-- What the reader misses or cannot accept. -/
inductive Defect where
  | byteOrderMark
  | expectedValue
  | expectedName
  | expectedColon
  | expectedComma
  | unterminatedString
  | controlCharacter
  | unknownEscape
  | malformedUnicodeEscape
  | extraData
  deriving Repr, DecidableEq

/-- Why a text was refused: a defect at an offset, an integer with more digits than the reader
converts, or containers inside one another beyond the depth it follows. -/
inductive Failure where
  | defect (defect : Defect) (offset : Nat)
  | integerTooLong
  | nestedTooDeep
  deriving Repr, DecidableEq

/-- The part of the text that is not read yet, and its offset in the whole text. -/
structure Cursor where
  rest : Text
  offset : Nat
  deriving Repr

/-- A reader consumes the start of what is not read yet. -/
abbrev Reader (α : Type) := Cursor → Except Failure (α × Cursor)

/-- The number of digits from which on an integer is refused is one above this. -/
def maxIntegerDigits : Nat := 4300

/-- How many containers may be open at one place. -/
def maxDepth : Nat := 1000

/-- The blanks that may stand between the parts of a document. -/
def isJsonBlank (c : CodePoint) : Bool := c == 0x20 || c == 0x09 || c == 0x0A || c == 0x0D

/-- The cursor behind the blanks of a text that starts at `offset`. -/
def afterBlanks : Text → Nat → Cursor
  | [], offset => ⟨[], offset⟩
  | c :: rest, offset =>
    if isJsonBlank c then afterBlanks rest (offset + 1) else ⟨c :: rest, offset⟩

/-- The cursor behind the next blanks. -/
def Cursor.skipBlanks (cursor : Cursor) : Cursor := afterBlanks cursor.rest cursor.offset

/-- The cursor behind the next `count` code points. -/
def Cursor.advance (cursor : Cursor) (count : Nat) : Cursor :=
  ⟨cursor.rest.drop count, cursor.offset + count⟩

/-- Gives up at the cursor. -/
def Cursor.fail {α : Type} (cursor : Cursor) (defect : Defect) : Except Failure α :=
  .error (.defect defect cursor.offset)

/-! ## Strings -/

/-- A code point of a string, as it stands there or from an escape by number. -/
inductive StringUnit where
  | plain (c : CodePoint)
  | numbered (c : CodePoint)
  deriving Repr, DecidableEq

/-- The first half of a surrogate pair. -/
def isHighSurrogate (c : CodePoint) : Bool := 0xD800 ≤ c && c ≤ 0xDBFF

/-- The second half of a surrogate pair. -/
def isLowSurrogate (c : CodePoint) : Bool := 0xDC00 ≤ c && c ≤ 0xDFFF

/-- The code point of a surrogate pair. -/
def joinSurrogates (high low : CodePoint) : CodePoint :=
  0x10000 + (high - 0xD800) * 0x400 + (low - 0xDC00)

/-- Puts a unit before the text of the units behind it.  The truth value says whether that text
starts with a code point that was given by number. -/
def StringUnit.prepend : StringUnit → Bool × Text → Bool × Text
  | .plain c, (_, t) => (false, c :: t)
  | .numbered c, (true, low :: t) =>
    if isHighSurrogate c && isLowSurrogate low then (false, joinSurrogates c low :: t)
    else (true, c :: low :: t)
  | .numbered c, (_, t) => (true, c :: t)

/-- The text of a string; a numbered high surrogate before a numbered low one makes a pair. -/
def textOfUnits (units : List StringUnit) : Text := (units.foldr StringUnit.prepend (false, [])).2

/-- The code point of an escape by letter. -/
def letterEscape? (c : CodePoint) : Option CodePoint :=
  if c == 0x22 || c == 0x5C || c == 0x2F then some c
  else if c == 'b'.toNat then some 0x08
  else if c == 'f'.toNat then some 0x0C
  else if c == 'n'.toNat then some 0x0A
  else if c == 'r'.toNat then some 0x0D
  else if c == 't'.toNat then some 0x09
  else none

/-- The number of four hexadecimal digits. -/
def fourHexDigits? (a b c d : CodePoint) : Option Nat := do
  let a ← Text.hexValue? a
  let b ← Text.hexValue? b
  let c ← Text.hexValue? c
  let d ← Text.hexValue? d
  return ((a * 16 + b) * 16 + c) * 16 + d

/-- Reads the units of a string up to its closing quotation mark.  `start` is the offset of the
opening one, and `units` holds the units read so far, the last one first. -/
def readUnits (start : Nat) : Text → Nat → List StringUnit →
    Except Failure (List StringUnit × Cursor)
  | [], _, _ => .error (.defect .unterminatedString start)
  | c :: rest, offset, units =>
    if c == 0x22 then .ok (units.reverse, ⟨rest, offset + 1⟩)
    else if c == 0x5C then
      match rest with
      | [] => .error (.defect .unterminatedString start)
      | e :: rest =>
        if e == 'u'.toNat then
          match rest with
          | h₁ :: h₂ :: h₃ :: h₄ :: next :: rest =>
            match fourHexDigits? h₁ h₂ h₃ h₄ with
            | some n => readUnits start (next :: rest) (offset + 6) (.numbered n :: units)
            | none => .error (.defect .malformedUnicodeEscape (offset + 1))
          | _ => .error (.defect .malformedUnicodeEscape (offset + 1))
        else
          match letterEscape? e with
          | some d => readUnits start rest (offset + 2) (.plain d :: units)
          | none => .error (.defect .unknownEscape offset)
    else if c < 0x20 then .error (.defect .controlCharacter offset)
    else readUnits start rest (offset + 1) (.plain c :: units)

/-- Reads a string behind its opening quotation mark. -/
def readString : Reader Text := fun cursor => do
  let (units, cursor) ← readUnits (cursor.offset - 1) cursor.rest cursor.offset []
  return (textOfUnits units, cursor)

/-! ## Numbers -/

/-- The digits at the start of a text, and the text behind them. -/
def takeDigits (t : Text) : Text × Text :=
  (t.takeWhile Text.isAsciiDigit, t.dropWhile Text.isAsciiDigit)

/-- The digits of an integer part: a single zero, or digits that do not start with one. -/
def integerPart? (t : Text) : Option (Text × Text) :=
  match t with
  | [] => none
  | c :: rest =>
    if c == 0x30 then some ([c], rest)
    else if Text.isAsciiDigit c then some (takeDigits t)
    else none

/-- The digits behind a point, and what follows; without a digit there is no fraction. -/
def fractionPart? (t : Text) : Option (Text × Text) :=
  match t with
  | c :: rest =>
    let (digits, rest) := takeDigits rest
    if c == '.'.toNat && !digits.isEmpty then some (digits, rest) else none
  | [] => none

/-- The exponent behind its letter, and what follows; without a digit there is no exponent. -/
def exponentPart? (t : Text) : Option (Int × Text) :=
  match t with
  | c :: rest =>
    let negative := rest.head? == some '-'.toNat
    let signed := negative || rest.head? == some '+'.toNat
    let (digits, rest) := takeDigits (if signed then rest.tail else rest)
    if (c == 'e'.toNat || c == 'E'.toNat) && !digits.isEmpty then
      let magnitude : Int := Text.digitsValue digits
      some (if negative then -magnitude else magnitude, rest)
    else none
  | [] => none

/-- The value of a number with the given parts. -/
def numberValue (negative : Bool) (whole : Text) : Option Text → Option Int →
    Except Failure Value
  | none, none =>
    if maxIntegerDigits < whole.length then .error .integerTooLong
    else
      let magnitude : Int := Text.digitsValue whole
      .ok (.integer (if negative then -magnitude else magnitude))
  | fraction, exponent =>
    let digits := whole ++ fraction.getD []
    let places : Int := (fraction.getD []).length
    .ok (.real (Binary64.ofDecimal negative (Text.digitsValue digits)
      (exponent.getD 0 - places)))

/-- Reads a number. -/
def readNumber : Reader Value := fun cursor =>
  let negative := cursor.rest.head? == some '-'.toNat
  match integerPart? (if negative then cursor.rest.tail else cursor.rest) with
  | none => cursor.fail .expectedValue
  | some (whole, afterWhole) =>
    let (fraction, afterFraction) :=
      match fractionPart? afterWhole with
      | some (digits, rest) => (some digits, rest)
      | none => (none, afterWhole)
    let (exponent, rest) :=
      match exponentPart? afterFraction with
      | some (exponent, rest) => (some exponent, rest)
      | none => (none, afterFraction)
    (numberValue negative whole fraction exponent).map fun value =>
      (value, ⟨rest, cursor.offset + (cursor.rest.length - rest.length)⟩)

/-! ## Values -/

/-- The constants and their values. -/
def constants : List (Text × Value) :=
  [("null", .null), ("true", .boolean true), ("false", .boolean false),
    ("NaN", .real .notANumber), ("Infinity", .real (.infinite false)),
    ("-Infinity", .real (.infinite true))]

/-- Reads a constant or a number. -/
def readScalar : Reader Value := fun cursor =>
  match constants.find? fun constant => constant.1.isPrefixOf cursor.rest with
  | some (name, value) => .ok (value, cursor.advance name.length)
  | none => readNumber cursor

/-- Reads the values of a list that has at least one, up to the closing bracket.  `fuel` bounds
their number, and `items` holds the values read so far, the last one first. -/
def readItems (item : Reader Value) : Nat → List Value → Reader (List Value)
  | 0, _, cursor => cursor.fail .expectedValue
  | fuel + 1, items, cursor => do
    let (value, cursor) ← item cursor
    let cursor := cursor.skipBlanks
    match cursor.rest with
    | [] => cursor.fail .expectedComma
    | c :: _ =>
      if c == ']'.toNat then return ((value :: items).reverse, cursor.advance 1)
      else if c == ','.toNat then
        readItems item fuel (value :: items) (cursor.advance 1).skipBlanks
      else cursor.fail .expectedComma

/-- Reads a list behind its opening bracket. -/
def readList (item : Reader Value) (fuel : Nat) : Reader Value := fun cursor =>
  let cursor := cursor.skipBlanks
  if cursor.rest.head? == some ']'.toNat then .ok (.list [], cursor.advance 1)
  else (readItems item fuel [] cursor).map fun (items, cursor) => (.list items, cursor)

/-- Reads the entries of an object that has at least one, up to the closing brace.  `fuel` bounds
their number, and `entries` holds the entries read so far, the last one first. -/
def readEntries (item : Reader Value) : Nat → Entries → Reader Entries
  | 0, _, cursor => cursor.fail .expectedName
  | fuel + 1, entries, cursor => do
    if cursor.rest.head? != some 0x22 then cursor.fail .expectedName
    else
      let (key, cursor) ← readString (cursor.advance 1)
      let cursor := cursor.skipBlanks
      if cursor.rest.head? != some ':'.toNat then cursor.fail .expectedColon
      else
        let (value, cursor) ← item (cursor.advance 1).skipBlanks
        let cursor := cursor.skipBlanks
        match cursor.rest with
        | [] => cursor.fail .expectedComma
        | c :: _ =>
          if c == 0x7D then return (((key, value) :: entries).reverse, cursor.advance 1)
          else if c == ','.toNat then
            readEntries item fuel ((key, value) :: entries) (cursor.advance 1).skipBlanks
          else cursor.fail .expectedComma

/-- Reads an object behind its opening brace. -/
def readObject (item : Reader Value) (fuel : Nat) : Reader Value := fun cursor =>
  let cursor := cursor.skipBlanks
  if cursor.rest.head? == some 0x7D then .ok (.object [], cursor.advance 1)
  else (readEntries item fuel [] cursor).map fun (entries, cursor) =>
    (.object (Entries.ofList entries), cursor)

/-- Reads a value, with the given readers for what follows an opening bracket or brace. -/
def readTerm (list object : Reader Value) : Reader Value := fun cursor =>
  match cursor.rest.head? with
  | none => cursor.fail .expectedValue
  | some c =>
    if c == 0x22 then
      (readString (cursor.advance 1)).map fun (t, cursor) => (.text t, cursor)
    else if c == 0x7B then object (cursor.advance 1)
    else if c == '['.toNat then list (cursor.advance 1)
    else readScalar cursor

/-- Reads a value in which at most `depth` containers are open at one place.  `fuel` bounds the
number of values in each of them. -/
def readValue (fuel : Nat) : Nat → Reader Value
  | 0 => readTerm (fun _ => .error .nestedTooDeep) (fun _ => .error .nestedTooDeep)
  | depth + 1 =>
    readTerm (readList (readValue fuel depth) fuel) (readObject (readValue fuel depth) fuel)

/-- Reads a document: one value with blanks around it.  Every value in it takes at least one code
point, which bounds their number. -/
def read (t : Text) : Except Failure Value := do
  if t.head? == some 0xFEFF then .error (.defect .byteOrderMark 0)
  else
    let (value, cursor) ← readValue (t.length + 1) maxDepth (afterBlanks t 0)
    let cursor := cursor.skipBlanks
    if cursor.rest.isEmpty then return value else cursor.fail .extraData

/-! ## Messages -/

/-- The wording of a defect. -/
def Defect.message : Defect → Text
  | byteOrderMark => "Unexpected UTF-8 BOM (decode using utf-8-sig)"
  | expectedValue => "Expecting value"
  | expectedName => "Expecting property name enclosed in double quotes"
  | expectedColon => "Expecting ':' delimiter"
  | expectedComma => "Expecting ',' delimiter"
  | unterminatedString => "Unterminated string starting at"
  | controlCharacter => "Invalid control character at"
  | unknownEscape => "Invalid \\escape"
  | malformedUnicodeEscape => "Invalid \\uXXXX escape"
  | extraData => "Extra data"

/-- The wording of a defect with the line and column of its offset in `t`, both counted from
one. -/
def locate (t : Text) (defect : Defect) (offset : Nat) : Text :=
  let before := t.take offset
  let line := before.count 0x0A + 1
  let column := (before.reverse.takeWhile (· != 0x0A)).length + 1
  defect.message ++ ": line " ++ Text.ofNat line ++ " column " ++ Text.ofNat column ++ " (char " ++
    Text.ofNat offset ++ ")"

end RecordSmith.Json
