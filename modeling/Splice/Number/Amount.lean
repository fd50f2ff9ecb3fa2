import Splice.Json.Value
import Splice.Number.Shortest

/-!
# Amounts

An amount is a number that keeps the way in which it was given, since that is how it is shown again:
a whole number without a point, any other with one. To calculate with it, `Amount.value` is the
nearest double.
-/

namespace Splice

/-- A number as it was given. -/
inductive Amount
  | whole (n : Int)
  | real (x : Float)
  deriving Repr

namespace Amount

/-- The amount that a JSON value is. -/
def ofJson? : Json → Option Amount
  | .int n => some (whole n)
  | .float x => some (real x)
  | _ => none

/-- The JSON value of an amount. -/
def toJson : Amount → Json
  | whole n => .int n
  | real x => .float x

/-- The double of an amount. -/
def value : Amount → Float
  | whole n => Binary64.nearest (n < 0) n.natAbs 1
  | real x => x

/-- How an amount is shown. -/
def text : Amount → String
  | whole n => toString n
  | real x => Number.text x

/-- Whether an amount is zero. -/
def isZero : Amount → Bool
  | whole n => n = 0
  | real x => x == 0.0

/-- An amount, or another in the place of none or zero. -/
def orElse (amount : Option Amount) (default : Amount) : Amount :=
  (amount.filter (! ·.isZero)).getD default

/-- So many times a power of two as an amount says. -/
def scale (factor : Nat) : Amount → Amount
  | whole n => whole (n * factor)
  | real x => real (x * Binary64.nearest false factor 1)

/-- Whether a number of things is above an amount. -/
def isBelow (amount : Amount) (count : Nat) : Bool :=
  match amount with
  | whole n => n < count
  | real x => x < Binary64.nearest false count 1

end Amount

end Splice
