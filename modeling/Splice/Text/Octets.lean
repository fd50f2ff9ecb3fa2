import Splice.Text.Quoted

/-!
# Octets and what they stand for

A character set says which characters octets stand for. Reading by it cuts the octets into pieces:
each is a character, or a stretch that is malformed. `lossy` puts the replacement character in the
place of each malformed piece, `strict` stops at the first.
-/

namespace Splice

/-- The content of a file or a stream. -/
abbrev Bytes := List UInt8

namespace Bytes

/-- The octets of a text. -/
def ofString (s : String) : Bytes := s.toUTF8.data.toList

/-- The text whose characters have the numbers of the octets. -/
def byNumber (octets : Bytes) : String :=
  String.ofList (octets.map fun b => Char.ofNat b.toNat)

/-- The octets that are the numbers of the characters of a text. -/
def ofNumbers (s : String) : Bytes := s.toList.map fun c => c.toNat.toUInt8

end Bytes

/-! ## Pieces -/

/-- Why a piece is malformed. -/
inductive Defect
  | badStart
  | badContinuation
  | cutShort
  /-- Octets are missing at the end. -/
  | truncated
  /-- The second half of a pair stands alone. -/
  | illegal
  /-- The first half of a pair is not followed by the second. -/
  | loneHalf
  | outOfRange
  /-- Half of a pair stands in the place of a character. -/
  | half
  | undefined
  /-- Octets that are no character together. -/
  | illegalSequence
  /-- The end comes before that of a character of several octets. -/
  | incomplete
  deriving DecidableEq, Repr

/-- The words for a defect. -/
def Defect.words : Defect → String
  | badStart => "invalid start byte"
  | badContinuation => "invalid continuation byte"
  | cutShort => "unexpected end of data"
  | truncated => "truncated data"
  | illegal => "illegal encoding"
  | loneHalf => "illegal UTF-16 surrogate"
  | outOfRange => "code point not in range(0x110000)"
  | half => "code point in surrogate code point range(0xd800-0xe000)"
  | undefined => "character maps to <undefined>"
  | illegalSequence => "illegal multibyte sequence"
  | incomplete => "incomplete multibyte sequence"

/-- What a stretch of octets stands for. -/
inductive Piece
  | char (c : Char) (size : Nat)
  | malformed (octets : Bytes) (defect : Defect)
  deriving DecidableEq, Repr

/-- Whether a piece is a character. -/
def Piece.isChar : Piece → Bool
  | char _ _ => true
  | malformed _ _ => false

/-- The number of octets of a piece. -/
def Piece.size : Piece → Nat
  | char _ size => size
  | malformed octets _ => octets.length

/-- The character of a piece, or the one that stands in its place. -/
def Piece.toChar : Piece → Char
  | char c _ => c
  | malformed _ _ => '\uFFFD'

namespace Pieces

/-- The text of pieces, with the replacement character for each that is malformed. -/
def lossy (pieces : List Piece) : String := String.ofList (pieces.map Piece.toChar)

end Pieces

/-! ## Malformations -/

/-- Where and why octets are malformed in a character set. -/
structure Malformation where
  charset : String
  octets : Bytes
  /-- How many octets stand before the malformed ones. -/
  position : Nat
  defect : Defect
  deriving DecidableEq, Repr

/-- The words for a malformation: where it is, and what is wrong. -/
def Malformation.message (m : Malformation) : String :=
  let place := match m.octets with
    | [b] => s!"byte 0x{String.ofList (Text.hexDigits 2 b.toNat)} in position {m.position}"
    | octets => s!"bytes in position {m.position}-{m.position + octets.length - 1}"
  s!"'{m.charset}' codec can't decode {place}: {m.defect.words}"

/-- The text of pieces that are all characters, or else where and why the first one is not, with so
many octets in front of the pieces. -/
def Pieces.strict (charset : String) (before : Nat) (pieces : List Piece) :
    Except Malformation String :=
  match pieces.dropWhile Piece.isChar with
  | .malformed bad defect :: _ =>
    let position := (pieces.takeWhile Piece.isChar).foldl (fun n p => n + p.size) before
    .error ⟨charset, bad, position, defect⟩
  | _ => .ok (Pieces.lossy pieces)

end Splice
