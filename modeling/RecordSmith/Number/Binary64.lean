import RecordSmith.Text.Basic

/-!
# Binary floating point numbers

Numbers with a fraction or an exponent are kept as IEEE 754 numbers of 64 bits.  A finite one is an
integer multiple of a power of two, so that rounding a decimal to it is integer arithmetic.
-/

namespace RecordSmith

/-- A floating point number of 64 bits; `finite` is `significand * 2 ^ exponent` with a sign, where
the significand is below `2 ^ 53` and the exponent the least possible, at least `-1074`. -/
inductive Binary64 where
  | notANumber
  | infinite (negative : Bool)
  | finite (negative : Bool) (significand : Nat) (exponent : Int)
  deriving Repr, DecidableEq

namespace Binary64

/-- The least exponent of a finite number. -/
def minExponent : Int := -1074

/-- The greatest exponent of a finite number. -/
def maxExponent : Int := 971

/-- The quotient rounded to the nearest integer, to the even one of two equally near. -/
def roundRatio (num den : Nat) : Nat :=
  let quotient := num / den
  let twice := 2 * (num % den)
  if twice < den || (twice == den && quotient % 2 == 0) then quotient else quotient + 1

/-- `num / den` in units of `2 ^ exponent`, as a fraction. -/
def scaleRatio (num den : Nat) : Int → Nat × Nat
  | .ofNat exponent => (num, den * Nat.pow 2 exponent)
  | .negSucc exponent => (num * Nat.pow 2 (exponent + 1), den)

/-- The exponent at which the integer part of `num / den` has 53 binary digits. -/
def fittingExponent (num den : Nat) : Int :=
  let estimate : Int := (num.log2 : Int) - den.log2 - 53
  let (n, d) := scaleRatio num den estimate
  if n / d < Nat.pow 2 53 then estimate else estimate + 1

/-- The number nearest to the positive fraction `num / den`. -/
def ofRatio (negative : Bool) (num den : Nat) : Binary64 :=
  let exponent := max (fittingExponent num den) minExponent
  let (n, d) := scaleRatio num den exponent
  let significand := roundRatio n d
  if significand == Nat.pow 2 53 then
    if exponent == maxExponent then infinite negative
    else finite negative (Nat.pow 2 52) (exponent + 1)
  else if exponent > maxExponent then infinite negative
  else finite negative significand exponent

/-- The number nearest to `digits * 10 ^ exponent`.  Exponents far outside the range are decided
without computing the power. -/
def ofDecimal (negative : Bool) (digits : Nat) (exponent : Int) : Binary64 :=
  let magnitude : Int := (Nat.toDigits 10 digits).length + exponent
  if digits == 0 || magnitude < -330 then finite negative 0 minExponent
  else if magnitude > 310 then infinite negative
  else
    match exponent with
    | .ofNat e => ofRatio negative (digits * Nat.pow 10 e) 1
    | .negSucc e => ofRatio negative digits (Nat.pow 10 (e + 1))

/-- Zero of either sign. -/
def isZero : Binary64 → Bool
  | finite _ significand _ => significand == 0
  | _ => false

/-- The number as an integer, if it is one. -/
def toInt? : Binary64 → Option Int
  | finite negative significand exponent =>
    let magnitude : Option Nat :=
      match exponent with
      | .ofNat e => some (significand * Nat.pow 2 e)
      | .negSucc e =>
        let unit := Nat.pow 2 (e + 1)
        if significand % unit == 0 then some (significand / unit) else none
    magnitude.map fun n => if negative then -(n : Int) else (n : Int)
  | _ => none

/-- Equality of numbers: both zeros are equal, and what is not a number equals nothing. -/
def equal : Binary64 → Binary64 → Bool
  | notANumber, _ => false
  | _, notANumber => false
  | x, y => x == y || (x.isZero && y.isZero)

end Binary64

end RecordSmith
