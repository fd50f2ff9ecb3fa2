import Splice.Number.Power
import Splice.Text.Units

/-!
# Reading UTF-7

Most characters stand for themselves. A plus sign opens a stretch in which six bits at a time are
written by a letter, a digit, a plus sign or a slash, and every sixteen bits are a unit; a plus sign
with a hyphen behind it is the sign itself. The stretch ends at any other character, which belongs
to what follows unless it is a hyphen. Bits that are left over must be fewer than six, and zero.
-/

namespace Splice.Utf7

/-- The six bits that an octet writes. -/
def sixBits? (b : UInt8) : Option Nat :=
  let n := b.toNat
  if 0x41 ≤ n ∧ n ≤ 0x5A then some (n - 0x41)
  else if 0x61 ≤ n ∧ n ≤ 0x7A then some (n - 0x61 + 26)
  else if 0x30 ≤ n ∧ n ≤ 0x39 then some (n - 0x30 + 52)
  else if n = 0x2B then some 62
  else if n = 0x2F then some 63
  else none

/-- A stretch of bits: how many are left and their number, and the first half of a pair if one waits
for the second. -/
structure Stretch where
  count : Nat
  bits : Nat
  half : Option Nat
  deriving DecidableEq, Repr

/-- Where a reader is. -/
inductive Place
  /-- Among characters that stand for themselves. -/
  | outside
  /-- Behind a plus sign. -/
  | opened
  /-- Among characters that write bits. -/
  | inside (s : Stretch)
  deriving DecidableEq, Repr

/-- A reader between two octets, its pieces last first. -/
structure Reader where
  pieces : List Piece
  place : Place
  deriving DecidableEq, Repr

/-- A piece that is malformed. -/
def bad (octets : Bytes) : Piece := .malformed octets .illegal

/-- Reads an octet among characters that stand for themselves. -/
def Reader.plain (pieces : List Piece) (b : UInt8) : Reader :=
  if b = 0x2B then ⟨pieces, .opened⟩
  else if b.toNat < 0x80 then ⟨.char (Char.ofNat b.toNat) 1 :: pieces, .outside⟩
  else ⟨bad [b] :: pieces, .outside⟩

/-- The pieces with a unit behind them, and the first half of a pair that then waits. -/
def addUnit (pieces : List Piece) (half : Option Nat) (unit : Nat) : List Piece × Option Nat :=
  let fresh (pieces : List Piece) :=
    if isHighUnit unit then (pieces, some unit)
    else if isLowUnit unit then (bad [] :: pieces, none)
    else (.char (Char.ofNat unit) 2 :: pieces, none)
  match half with
  | none => fresh pieces
  | some high =>
    if isLowUnit unit then (.char (pairedUnits high unit) 4 :: pieces, none)
    else fresh (bad [] :: pieces)

/-- Reads six bits. -/
def Reader.write (pieces : List Piece) (s : Stretch) (six : Nat) : Reader :=
  let count := s.count + 6
  let bits := s.bits * 64 + six
  if 16 ≤ count then
    let rest := twoTo (count - 16)
    let (pieces, half) := addUnit pieces s.half (bits / rest)
    ⟨pieces, .inside ⟨count - 16, bits % rest, half⟩⟩
  else ⟨pieces, .inside ⟨count, bits, s.half⟩⟩

/-- Whether nothing but padding is left of the bits. -/
def Stretch.isPadded (s : Stretch) : Bool := s.count < 6 && s.bits == 0

/-- Reads the octet that ends a stretch. -/
def Reader.close (pieces : List Piece) (s : Stretch) (b : UInt8) : Reader :=
  if !s.isPadded then ⟨bad [b] :: pieces, .outside⟩
  else
    let pieces := if s.half.isSome && b.toNat < 0x80 then bad [] :: pieces else pieces
    if b = 0x2D then ⟨pieces, .outside⟩ else .plain pieces b

/-- Reads the next octet. -/
def Reader.step (r : Reader) (b : UInt8) : Reader :=
  match r.place with
  | .outside => .plain r.pieces b
  | .opened =>
    if b = 0x2D then ⟨.char '+' 2 :: r.pieces, .outside⟩
    else
      match sixBits? b with
      | some six => .write r.pieces ⟨0, 0, none⟩ six
      | none => ⟨bad [b] :: r.pieces, .outside⟩
  | .inside s =>
    match sixBits? b with
    | some six => .write r.pieces s six
    | none => .close r.pieces s b

/-- The pieces read, at the end of the octets. -/
def Reader.finish (r : Reader) : List Piece :=
  match r.place with
  | .outside => r.pieces.reverse
  | .opened => r.pieces.reverse
  | .inside s =>
    (if s.half.isSome || !s.isPadded then bad [] :: r.pieces else r.pieces).reverse

/-- The pieces of a sequence of octets. -/
def pieces (octets : Bytes) : List Piece :=
  (octets.foldl Reader.step ⟨[], .outside⟩).finish

end Splice.Utf7
