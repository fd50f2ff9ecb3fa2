import Splice.Text.Octets

/-!
# Reading UTF-8

Octets are read one at a time. A well-formed sequence gives a character; where the octets are not
well formed, the longest start of a sequence that could still have become one gives a single
malformed piece, and reading goes on behind it.
-/

namespace Splice.Utf8

/-- A sequence under way: its octets so far (last first) and their bits, how many octets are still
to come, and the range in which the next one must lie. -/
structure Pending where
  octets : Bytes
  bits : Nat
  missing : Nat
  low : Nat
  high : Nat
  deriving DecidableEq, Repr

/-- The sequence that an octet opens. The bounds of the second octet keep out overlong forms,
surrogates and everything beyond the last code point. -/
def opening? (b : UInt8) : Option Pending :=
  let n := b.toNat
  if 0xC2 ≤ n ∧ n ≤ 0xDF then some ⟨[b], n - 0xC0, 1, 0x80, 0xBF⟩
  else if 0xE0 ≤ n ∧ n ≤ 0xEF then
    some ⟨[b], n - 0xE0, 2, if n = 0xE0 then 0xA0 else 0x80, if n = 0xED then 0x9F else 0xBF⟩
  else if 0xF0 ≤ n ∧ n ≤ 0xF4 then
    some ⟨[b], n - 0xF0, 3, if n = 0xF0 then 0x90 else 0x80, if n = 0xF4 then 0x8F else 0xBF⟩
  else none

/-- A reader between two octets: the pieces read (last first) and the sequence under way. -/
structure Reader where
  pieces : List Piece
  pending : Option Pending
  deriving DecidableEq, Repr

/-- Reads an octet at the start of a sequence. -/
def Reader.open (pieces : List Piece) (b : UInt8) : Reader :=
  if b.toNat < 0x80 then ⟨.char (Char.ofNat b.toNat) 1 :: pieces, none⟩
  else
    match opening? b with
    | some pending => ⟨pieces, some pending⟩
    | none => ⟨.malformed [b] .badStart :: pieces, none⟩

/-- Reads the next octet. -/
def Reader.step (r : Reader) (b : UInt8) : Reader :=
  match r.pending with
  | none => .open r.pieces b
  | some p =>
    if p.low ≤ b.toNat ∧ b.toNat ≤ p.high then
      let bits := p.bits * 64 + (b.toNat - 0x80)
      if p.missing = 1 then ⟨.char (Char.ofNat bits) (p.octets.length + 1) :: r.pieces, none⟩
      else ⟨r.pieces, some ⟨b :: p.octets, bits, p.missing - 1, 0x80, 0xBF⟩⟩
    else .open (.malformed p.octets.reverse .badContinuation :: r.pieces) b

/-- The pieces read, at the end of the octets. -/
def Reader.finish (r : Reader) : List Piece :=
  match r.pending with
  | none => r.pieces.reverse
  | some p => (.malformed p.octets.reverse .cutShort :: r.pieces).reverse

/-- The pieces of a sequence of octets. -/
def pieces (octets : Bytes) : List Piece :=
  (octets.foldl Reader.step ⟨[], none⟩).finish

/-- The text of octets, with the replacement character for each malformed piece. -/
def lossy (octets : Bytes) : String := Pieces.lossy (pieces octets)

/-- The text of well-formed octets, or else where they first are not well formed. -/
def strict (octets : Bytes) : Except Malformation String := Pieces.strict "utf-8" 0 (pieces octets)

end Splice.Utf8
