import Splice.Text.Octets

/-!
# Reading units of several octets

In UTF-16 a unit has two octets and a character one or two units; in UTF-32 both a unit and a
character have four octets. The octets of a unit come in one of two orders, and a mark at the front
may say in which.
-/

namespace Splice

/-- The order in which the octets of a unit come. -/
inductive OctetOrder
  | big
  | little
  deriving DecidableEq, Repr

namespace OctetOrder

/-- The letters for an order in the name of a character set. -/
def letters : OctetOrder → String
  | big => "be"
  | little => "le"

/-- The number that a unit is, from its octets as they come. -/
def number (order : OctetOrder) (octets : Bytes) : Nat :=
  match order with
  | big => octets.foldl (fun n b => n * 256 + b.toNat) 0
  | little => octets.foldr (fun b n => n * 256 + b.toNat) 0

/-- The octets of the mark in an order, for units of two octets. -/
def mark : OctetOrder → Bytes
  | big => [0xFE, 0xFF]
  | little => [0xFF, 0xFE]

/-- The octets of the mark in an order, for units of four octets. -/
def wideMark : OctetOrder → Bytes
  | big => [0, 0, 0xFE, 0xFF]
  | little => [0xFF, 0xFE, 0, 0]

end OctetOrder

/-- The order that a mark at the front of octets says, and what stands behind it. -/
def Bytes.unmark? (mark : OctetOrder → Bytes) (octets : Bytes) : Option (OctetOrder × Bytes) :=
  [OctetOrder.big, .little].findSome? fun order =>
    if (mark order).isPrefixOf octets then some (order, octets.drop (mark order).length) else none

/-! ## Halves of a pair -/

/-- Whether a 16-bit unit is the first of a pair. -/
def isHighUnit (unit : Nat) : Bool := 0xD800 ≤ unit && unit < 0xDC00

/-- Whether a 16-bit unit is the second of a pair. -/
def isLowUnit (unit : Nat) : Bool := 0xDC00 ≤ unit && unit < 0xE000

/-- The character of a pair of units. -/
def pairedUnits (high low : Nat) : Char :=
  Char.ofNat (0x10000 + (high - 0xD800) * 0x400 + (low - 0xDC00))

/-! ## Units of two octets -/

namespace Utf16

/-- A reader between two octets: the pieces read (last first), the first half of a pair if one
waits for the second, and the first octet of a unit if one waits for the second. -/
structure Reader where
  pieces : List Piece
  half : Option Bytes
  octet : Option UInt8
  deriving DecidableEq, Repr

/-- Reads a unit where no pair is under way. -/
def Reader.open (order : OctetOrder) (pieces : List Piece) (octets : Bytes) : Reader :=
  let unit := order.number octets
  if isHighUnit unit then ⟨pieces, some octets, none⟩
  else if isLowUnit unit then ⟨.malformed octets .illegal :: pieces, none, none⟩
  else ⟨.char (Char.ofNat unit) 2 :: pieces, none, none⟩

/-- Reads the next octet. -/
def Reader.step (order : OctetOrder) (r : Reader) (b : UInt8) : Reader :=
  match r.octet, r.half with
  | none, _ => { r with octet := some b }
  | some first, none => .open order r.pieces [first, b]
  | some first, some half =>
    let unit := order.number [first, b]
    if isLowUnit unit then ⟨.char (pairedUnits (order.number half) unit) 4 :: r.pieces, none, none⟩
    else .open order (.malformed half .loneHalf :: r.pieces) [first, b]

/-- The pieces read, at the end of the octets. -/
def Reader.finish (r : Reader) : List Piece :=
  (match r.half, r.octet with
    | none, none => r.pieces
    | none, some b => .malformed [b] .truncated :: r.pieces
    | some half, octet => .malformed (half ++ octet.toList) .cutShort :: r.pieces).reverse

/-- The pieces of a sequence of octets. -/
def pieces (order : OctetOrder) (octets : Bytes) : List Piece :=
  (octets.foldl (Reader.step order) ⟨[], none, none⟩).finish

end Utf16

/-! ## Units of four octets -/

namespace Utf32

/-- A reader between two octets: the pieces read and the octets of the unit under way, both last
first. -/
structure Reader where
  pieces : List Piece
  octets : Bytes
  deriving DecidableEq, Repr

/-- The piece that the octets of a unit are. -/
def piece (order : OctetOrder) (octets : Bytes) : Piece :=
  let unit := order.number octets
  if isHighUnit unit || isLowUnit unit then .malformed octets .half
  else if 0x10FFFF < unit then .malformed octets .outOfRange
  else .char (Char.ofNat unit) 4

/-- Reads the next octet. -/
def Reader.step (order : OctetOrder) (r : Reader) (b : UInt8) : Reader :=
  if r.octets.length = 3 then ⟨piece order (b :: r.octets).reverse :: r.pieces, []⟩
  else { r with octets := b :: r.octets }

/-- The pieces read, at the end of the octets. -/
def Reader.finish (r : Reader) : List Piece :=
  (if r.octets.isEmpty then r.pieces
    else .malformed r.octets.reverse .truncated :: r.pieces).reverse

/-- The pieces of a sequence of octets. -/
def pieces (order : OctetOrder) (octets : Bytes) : List Piece :=
  (octets.foldl (Reader.step order) ⟨[], []⟩).finish

end Utf32

end Splice
