import Splice.Number.Power

/-!
# Doubles as exact binary fractions

A finite double is a natural mantissa times a power of two. `Binary64.ofFloat` takes a double
apart into that form, and `Binary64.nearest` goes back from a quotient of natural numbers to the
double closest to it. Whatever must be exact about a number (its decimals, its integer part, a
quotient of two integers) is computed on the exact form, in natural numbers.
-/

namespace Splice

/-- The quotient of two natural numbers rounded to the nearest one; a tie goes to the even one. -/
def roundHalfEven (num den : Nat) : Nat :=
  let quotient := num / den
  let rest := num % den
  if 2 * rest < den then quotient
  else if den < 2 * rest then quotient + 1
  else quotient + quotient % 2

/-- What a double stands for: a signed binary fraction, an infinity, or no number at all. -/
inductive Binary64
  | finite (negative : Bool) (mantissa : Nat) (exponent : Int)
  | infinite (negative : Bool)
  | nan
  deriving DecidableEq, Repr

namespace Binary64

/-- The value that a double stands for; a finite one is `± mantissa · 2 ^ exponent`. -/
def ofFloat (x : Float) : Binary64 :=
  let bits := x.toBits.toNat
  let negative := bits / twoTo 63 == 1
  let biased : Nat := bits / twoTo 52 % 2048
  let fraction : Nat := bits % twoTo 52
  if biased == 2047 then
    if fraction == 0 then .infinite negative else .nan
  else if biased == 0 then .finite negative fraction (-1074)
  else .finite negative (twoTo 52 + fraction) ((biased : Int) - 1075)

/-- The numerator of `mantissa · 2 ^ exponent`, written over `denominator exponent`. -/
def numerator (mantissa : Nat) (exponent : Int) : Nat := mantissa * twoTo exponent.toNat

/-- The denominator of a binary fraction: a power of two, `1` for an exponent of at least `0`. -/
def denominator (exponent : Int) : Nat := twoTo (-exponent).toNat

/-! ## Rounding to a double -/

/-- The exponent that leaves 53 binary digits of a positive `num / den`, but never one below the
least exponent of a double. -/
def fittingExponent (num den : Nat) : Int :=
  let low : Int := (num.log2 : Int) - den.log2 - 53
  let whole := num * twoTo (-low).toNat / (den * twoTo low.toNat)
  max (if whole < twoTo 53 then low else low + 1) (-1074)

/-- The bits of the double nearest to `num / den`, a tie going to the even mantissa. Above the
largest finite double these bits exceed `infinityBits`. -/
def nearestBits (num den : Nat) : Nat :=
  if num = 0 then 0
  else
    let e := fittingExponent num den
    (e + 1074).toNat * twoTo 52 +
      roundHalfEven (num * twoTo (-e).toNat) (den * twoTo e.toNat)

/-- The bits of positive infinity: the first pattern above those of the finite doubles. -/
def infinityBits : Nat := 2047 * twoTo 52

/-- The double nearest to `± num / den`, or `none` if that quotient is too large for any. -/
def nearest? (negative : Bool) (num den : Nat) : Option Float :=
  let bits := nearestBits num den
  if bits < infinityBits then
    some (Float.ofBits (if negative then bits + twoTo 63 else bits).toUInt64)
  else none

/-- Positive infinity, or negative infinity. -/
def infinity (negative : Bool) : Float :=
  Float.ofBits (if negative then infinityBits + twoTo 63 else infinityBits).toUInt64

/-- The double that is no number. -/
def notANumber : Float := Float.ofBits 0x7FF8000000000000

/-- The double nearest to `± num / den`; a quotient too large for any becomes infinite. -/
def nearest (negative : Bool) (num den : Nat) : Float :=
  (nearest? negative num den).getD (infinity negative)

/-- The double nearest to an integer, or `none` if the integer is too large for any. -/
def ofInt? (n : Int) : Option Float := nearest? (n < 0) n.natAbs 1

/-- The number of decimal digits of a natural number. -/
def decimalLength (n : Nat) : Nat := (Nat.toDigits 10 n).length

/-- The double nearest to `± digits · 10 ^ exponent`. Far outside the range of doubles the answer
is known from the magnitude alone, so that no huge power is ever computed. -/
def ofDecimal (negative : Bool) (digits : Nat) (exponent : Int) : Float :=
  let magnitude := exponent + decimalLength digits
  if digits = 0 ∨ magnitude < -400 then nearest negative 0 1
  else if 400 < magnitude then infinity negative
  else nearest negative (digits * tenTo exponent.toNat) (tenTo (-exponent).toNat)

/-! ## The integer part -/

/-- Why a double has no integer part. -/
inductive NoInteger
  | infinite
  | nan
  deriving DecidableEq, Repr

/-- The integer part of a double, rounded toward zero. -/
def truncate (x : Float) : Except NoInteger Int :=
  match ofFloat x with
  | .nan => .error .nan
  | .infinite _ => .error .infinite
  | .finite negative m e =>
    let whole : Int := (numerator m e / denominator e : Nat)
    .ok (if negative then -whole else whole)

end Binary64

end Splice
