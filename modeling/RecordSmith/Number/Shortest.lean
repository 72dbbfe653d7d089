import RecordSmith.Number.Binary64

/-!
# Shortest decimal text

A floating point number is written with the fewest significant digits that read back as the same
number, and with the nearest such digits.  Numbers from `10 ^ -4` up to `10 ^ 16` are written
positionally, with at least one digit after the point; the others with an exponent of at least two
digits.
-/

namespace RecordSmith.Binary64

/-- The number of decimal places by which `num / den`, a positive fraction below one, starts with
zeros, the one before the point included. -/
def leadingZeros (den : Nat) : Nat → Nat → Nat
  | 0, _ => 0
  | fuel + 1, num => if den ≤ num then 0 else leadingZeros den fuel (num * 10) + 1

/-- The power of ten that the first digit of the positive fraction `num / den` counts. -/
def decimalExponent (num den : Nat) : Int :=
  if den ≤ num then ((Nat.toDigits 10 (num / den)).length : Int) - 1
  else -(leadingZeros den 400 num : Int)

/-- `num / den` in units of `10 ^ exponent`, as a fraction. -/
def scaleDecimal (num den : Nat) : Int → Nat × Nat
  | .ofNat exponent => (num, den * Nat.pow 10 exponent)
  | .negSucc exponent => (num * Nat.pow 10 (exponent + 1), den)

/-- The fractions between which every decimal reads back as the positive number
`significand * 2 ^ exponent`, and whether the ends do so too.  The three numerators, lower end,
number and upper end, share one denominator. -/
structure Interval where
  low : Nat
  center : Nat
  high : Nat
  den : Nat
  closed : Bool

/-- The interval of a positive number.  Below a power of two the numbers lie twice as dense, so the
lower end is nearer there. -/
def interval (significand : Nat) (exponent : Int) : Interval :=
  let dense := significand == Nat.pow 2 52 && exponent > minExponent
  let below := if dense then 1 else 2
  let (unit, den) := scaleRatio 1 1 (2 - exponent)
  { low := (4 * significand - below) * unit
    center := 4 * significand * unit
    high := (4 * significand + 2) * unit
    den := den
    closed := significand % 2 == 0 }

/-- `digits` in units of `10 ^ exponent` lies in the interval. -/
def Interval.holds (i : Interval) (digits : Nat) (exponent : Int) : Bool :=
  let (low, unit) := scaleDecimal i.low i.den exponent
  let (high, _) := scaleDecimal i.high i.den exponent
  if i.closed then low ≤ digits * unit && digits * unit ≤ high
  else low < digits * unit && digits * unit < high

/-- The digits that are nearest to the center on the grid of multiples of `10 ^ exponent`, if one of
its two neighbours there lies in the interval. -/
def Interval.nearest? (i : Interval) (exponent : Int) : Option Nat :=
  let (n, d) := scaleDecimal i.center i.den exponent
  let nearer := roundRatio n d
  let farther := if nearer == n / d then nearer + 1 else n / d
  if i.holds nearer exponent then some nearer
  else if i.holds farther exponent then some farther
  else none

/-- The first grid, from the coarse to the fine, with a decimal in the interval. -/
def Interval.shortest (i : Interval) : Nat → Int → Nat × Int
  | 0, exponent => ((i.nearest? exponent).getD 0, exponent)
  | fuel + 1, exponent =>
    match i.nearest? exponent with
    | some digits => (digits, exponent)
    | none => i.shortest fuel (exponent - 1)

/-- The fewest significant digits of a positive number and the power of ten of its last digit. -/
def shortestDigits (significand : Nat) (exponent : Int) : Nat × Int :=
  let i := interval significand exponent
  i.shortest 20 (decimalExponent i.center i.den)

/-- The digits without the zeros at their end. -/
def dropZeros (digits : Text) : Text := (digits.reverse.dropWhile (· == 0x30)).reverse

/-- A row of zeros. -/
def zeros (count : Nat) : Text := List.replicate count 0x30

/-- Exponent notation: `first` counts `10 ^ exponent` and `rest` follows the point. -/
def scientific (first : CodePoint) (rest : Text) (exponent : Int) : Text :=
  let magnitude := Text.ofNat exponent.natAbs
  let mantissa : Text := if rest.isEmpty then [first] else [first] ++ "." ++ rest
  let sign : Text := if exponent < 0 then "e-" else "e+"
  mantissa ++ sign ++ zeros (2 - magnitude.length) ++ magnitude

/-- Positional notation: the first of the digits counts `10 ^ exponent`. -/
def positional (digits : Text) : Int → Text
  | .ofNat exponent =>
    let whole := digits.take (exponent + 1)
    let fraction := digits.drop (exponent + 1)
    whole ++ zeros (exponent + 1 - whole.length) ++ "." ++
      (if fraction.isEmpty then zeros 1 else fraction)
  | .negSucc exponent => "0." ++ zeros exponent ++ digits

/-- The text of a positive number. -/
def positiveText (significand : Nat) (exponent : Int) : Text :=
  let (digits, last) := shortestDigits significand exponent
  let all := Text.ofNat digits
  let leading := last + (all.length : Int) - 1
  match dropZeros all with
  | [] => "0.0"
  | first :: rest =>
    if -4 ≤ leading && leading < 16 then positional (first :: rest) leading
    else scientific first rest leading

/-- The text of a number. -/
def toText : Binary64 → Text
  | notANumber => "nan"
  | infinite negative => if negative then "-inf" else "inf"
  | finite negative significand exponent =>
    let magnitude : Text :=
      if significand == 0 then "0.0" else positiveText significand exponent
    if negative then "-" ++ magnitude else magnitude

end RecordSmith.Binary64
