import Splice.Number.Binary64

/-!
# Numbers in three decimals

The engine reads numbers in at most three decimals. A double is rounded to the nearest multiple of
one thousandth of its exact binary value, a tie going to the even multiple, and written without
superfluous zeros: `5`, `2.5`, `0.001`. A number that rounds to nothing is `0`, never `-0`.
-/

namespace Splice.Thousandths

/-- `mantissa · 2 ^ exponent` in thousandths, rounded to the nearest, a tie to the even one. -/
def round (mantissa : Nat) (exponent : Int) : Nat :=
  roundHalfEven (1000 * Binary64.numerator mantissa exponent) (Binary64.denominator exponent)

/-- The multiple of one thousandth that is nearest to a double, as a double again. -/
def nearest (x : Float) : Float :=
  match Binary64.ofFloat x with
  | .finite negative mantissa exponent => Binary64.nearest negative (round mantissa exponent) 1000
  | _ => x

/-- The three digits of a number below a thousand. -/
def threeDigits (n : Nat) : List Char :=
  [Nat.digitChar (n / 100 % 10), Nat.digitChar (n / 10 % 10), Nat.digitChar (n % 10)]

/-- The fraction of a count of thousandths, with its point and without trailing zeros. -/
def fraction (thousandths : Nat) : List Char :=
  match ((threeDigits (thousandths % 1000)).reverse.dropWhile (· == '0')).reverse with
  | [] => []
  | digits => '.' :: digits

/-- A count of thousandths as a decimal numeral. -/
def numeral (thousandths : Nat) : List Char :=
  Nat.toDigits 10 (thousandths / 1000) ++ fraction thousandths

/-- A signed count of thousandths as a decimal numeral; nothing has no sign. -/
def signed (negative : Bool) (thousandths : Nat) : List Char :=
  if negative ∧ thousandths ≠ 0 then '-' :: numeral thousandths else numeral thousandths

/-- The text of a number for the engine. -/
def text (x : Float) : String :=
  match Binary64.ofFloat x with
  | .nan => "nan"
  | .infinite negative => if negative then "-inf" else "inf"
  | .finite negative mantissa exponent => String.ofList (signed negative (round mantissa exponent))

end Splice.Thousandths
