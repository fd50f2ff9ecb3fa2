import Splice.Number.Binary64

/-!
# Timestamps

A disk keeps the times of its files in whole nanoseconds. A number of seconds becomes a timestamp by
rounding its fraction down, and a timestamp becomes the number of its whole seconds and nanoseconds,
each step rounded as numbers are.
-/

namespace Splice

/-- A time on a disk. -/
structure Timestamp where
  nanoseconds : Int
  deriving DecidableEq, Repr

namespace Timestamp

/-- The nanoseconds of a second. -/
def perSecond : Int := 1000000000

/-- The greatest integer that a double is not below, if it is finite, and otherwise zero. -/
def floorOrZero (x : Float) : Int :=
  match Binary64.ofFloat x with
  | .finite negative m e =>
    let signed : Int := Binary64.numerator m e
    (if negative then -signed else signed) / (Binary64.denominator e : Int)
  | _ => 0

/-- The timestamp of a number of seconds. -/
def ofSeconds (x : Float) : Timestamp :=
  let whole := (Binary64.truncate x).toOption.getD 0
  let fraction := x - Binary64.nearest (whole < 0) whole.natAbs 1
  ⟨whole * perSecond + floorOrZero (fraction * 1000000000.0)⟩

/-- The number of seconds that a timestamp stands for. -/
def seconds (t : Timestamp) : Float :=
  let whole := t.nanoseconds / perSecond
  let rest := (t.nanoseconds % perSecond).toNat
  Binary64.nearest (whole < 0) whole.natAbs 1 + 1e-9 * Binary64.nearest false rest 1

end Timestamp

end Splice
