import RecordSmith.Text.Alphanumeric
import RecordSmith.Text.Blank

/-!
# Integers in arguments

An integer may be written with a sign, with white space around it, with single underscores between
its digits, and with the decimal digits of any script.
-/

namespace RecordSmith.CommandLine

/-- White space around a number.  The information separators do not count. -/
def surroundsNumber (c : CodePoint) : Bool := Text.isBlank c && !(0x1C ≤ c && c ≤ 0x1F)

/-- The number that a decimal digit of any script stands for. -/
def decimalValue? (c : CodePoint) : Option Nat :=
  (Text.decimalRanges.find? fun range => range.1 ≤ c && c ≤ range.2).map fun range =>
    (c - range.1) % 10

/-- The digits of a number whose last character so far is a digit if `afterDigit`. -/
def digitValues? (afterDigit : Bool) : Text → Option (List Nat)
  | [] => if afterDigit then some [] else none
  | c :: rest =>
    if c == '_'.toNat then if afterDigit then digitValues? false rest else none
    else do
      let digit ← decimalValue? c
      return digit :: (← digitValues? true rest)

/-- The most digits that a number may have. -/
def maxDigits : Nat := 4300

/-- The number with the given digits, unless there are too many. -/
def ofDigits? (digits : List Nat) : Option Nat :=
  if maxDigits < digits.length then none else some (digits.foldl (fun n d => n * 10 + d) 0)

/-- The natural number that a text writes. -/
def natural? (t : Text) : Option Nat := (digitValues? false t).bind ofDigits?

/-- The integer that a text writes. -/
def integer? (t : Text) : Option Int :=
  match ((t.dropWhile surroundsNumber).reverse.dropWhile surroundsNumber).reverse with
  | [] => none
  | c :: rest =>
    if c == '-'.toNat then (natural? rest).map fun n => -(n : Int)
    else if c == '+'.toNat then (natural? rest).map fun n => (n : Int)
    else (natural? (c :: rest)).map fun n => (n : Int)

end RecordSmith.CommandLine
