import Splice.Number.Binary64

/-!
# The shortest decimal that identifies a double

The numbers that round to a given double form an interval: from halfway to its lower neighbour to
halfway to its upper neighbour, the two ends included exactly when its mantissa is even.
`Shortest.decimal` finds the decimal with the fewest digits in that interval, and among those the
one nearest to the double. It tries one digit, then two, and so on; with `n` digits the only
candidates are the two neighbours of the value on the grid of `n`-digit decimals.

`Number.text` lays the digits out: positionally for magnitudes from `10⁻⁴` up to `10¹⁶`, always
with a fraction, otherwise with an exponent of a sign and at least two digits.
-/

namespace Splice

/-- The number `digits · 10 ^ exponent`. -/
structure Decimal where
  digits : Nat
  exponent : Int
  deriving DecidableEq, Repr

namespace Shortest

/-- A positive value with the interval of numbers that round to it, all over one denominator. -/
structure Interval where
  value : Nat
  low : Nat
  high : Nat
  denominator : Nat
  /-- Whether the two ends themselves round to the value. -/
  closed : Bool
  deriving Repr

/-- The rounding interval of `mantissa · 2 ^ exponent`, in quarters of the gap between doubles.
Below a power of two the gap is half as wide as above it, except at the smallest exponent. -/
def Interval.of (mantissa : Nat) (exponent : Int) : Interval :=
  let unit := twoTo (exponent - 2).toNat
  let below := if mantissa = twoTo 52 ∧ -1074 < exponent then 1 else 2
  { value := 4 * mantissa * unit
    low := (4 * mantissa - below) * unit
    high := (4 * mantissa + 2) * unit
    denominator := twoTo (2 - exponent).toNat
    closed := mantissa % 2 == 0 }

/-- The interval with everything multiplied by ten to the power of `-grid`, so that the decimals
with exponent `grid` become the natural numbers. -/
def Interval.onGrid (i : Interval) (grid : Int) : Interval :=
  let up := tenTo (-grid).toNat
  { value := i.value * up
    low := i.low * up
    high := i.high * up
    denominator := i.denominator * tenTo grid.toNat
    closed := i.closed }

/-- Whether a natural number lies in the interval. -/
def Interval.holds (i : Interval) (n : Nat) : Bool :=
  let scaled := n * i.denominator
  if i.closed then i.low ≤ scaled && scaled ≤ i.high else i.low < scaled && scaled < i.high

/-- The natural number in the interval that is nearest to the value, if one of the value's two
neighbours lies there; of two equally near ones the even one. -/
def Interval.nearest? (i : Interval) : Option Nat :=
  let below := i.value / i.denominator
  let rest := i.value % i.denominator
  match i.holds below, i.holds (below + 1) with
  | true, true =>
    if 2 * rest < i.denominator then some below
    else if i.denominator < 2 * rest then some (below + 1)
    else some (below + below % 2)
  | true, false => some below
  | false, true => some (below + 1)
  | false, false => none

/-- The least `k` with the value below `10 ^ k`. -/
def Interval.scale (i : Interval) : Int :=
  if i.denominator ≤ i.value then Binary64.decimalLength (i.value / i.denominator)
  else 1 - (Binary64.decimalLength ((i.denominator - 1) / i.value) : Int)

/-- The shortest decimal that rounds to `mantissa · 2 ^ exponent`, a positive double. Seventeen
digits suffice for every double; failing those the exact value is given. -/
def decimal (mantissa : Nat) (exponent : Int) : Decimal :=
  let interval := Interval.of mantissa exponent
  let scale := interval.scale
  let attempt (n : Nat) : Option Decimal :=
    let grid := scale - (n + 1)
    (interval.onGrid grid).nearest?.map (Decimal.mk · grid)
  ((List.range 17).findSome? attempt).getD
    ⟨mantissa * twoTo exponent.toNat * Nat.pow 5 (-exponent).toNat, min exponent 0⟩

end Shortest

/-! ## Layout -/

namespace Decimal

/-- The digits of a decimal without trailing zeros, and the number of places from the decimal
point to the right of its first digit: `123.4` has digits `1234` and point `3`. -/
def pointed (d : Decimal) : List Char × Int :=
  let digits := Nat.toDigits 10 d.digits
  let trimmed := (digits.reverse.dropWhile (· == '0')).reverse
  (trimmed, digits.length + d.exponent)

/-- A decimal written out: positionally from `10⁻⁴` up to `10¹⁶`, else with an exponent. -/
def layout (d : Decimal) : String :=
  let (digits, point) := d.pointed
  let length : Int := digits.length
  if -4 < point ∧ point ≤ 16 then
    if point ≤ 0 then "0." ++ String.ofList (List.replicate (-point).toNat '0' ++ digits)
    else if length ≤ point then
      String.ofList (digits ++ List.replicate (point - length).toNat '0') ++ ".0"
    else
      String.ofList (digits.take point.toNat) ++ "." ++ String.ofList (digits.drop point.toNat)
  else
    let power := point - 1
    let sign := if power < 0 then "-" else "+"
    let magnitude := toString power.natAbs
    let padded := if magnitude.length < 2 then "0" ++ magnitude else magnitude
    let fraction := digits.drop 1
    String.ofList (digits.take 1) ++ (if fraction.isEmpty then "" else "." ++ String.ofList fraction)
      ++ "e" ++ sign ++ padded

end Decimal

/-- The text of a number in messages and answers: the fewest digits that identify it. -/
def Number.text (x : Float) : String :=
  match Binary64.ofFloat x with
  | .nan => "nan"
  | .infinite negative => if negative then "-inf" else "inf"
  | .finite negative mantissa exponent =>
    (if negative then "-" else "") ++
      if mantissa = 0 then "0.0" else (Shortest.decimal mantissa exponent).layout

end Splice
