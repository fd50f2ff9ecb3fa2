import Splice.Json.Reader
import Splice.Text.Charset

/-!
# JSON in octets

JSON that comes as octets is in one of the forms of Unicode. A mark at the front says in which, or
else where the zeros among the first octets are, since JSON starts with a character of ASCII.
-/

namespace Splice.Json

/-- The character set of octets that are JSON. -/
def charsetOf (octets : Bytes) : Charset :=
  if (octets.unmark? OctetOrder.wideMark).isSome then .utf32 none
  else if (octets.unmark? OctetOrder.mark).isSome then .utf16 none
  else if [0xEF, 0xBB, 0xBF].isPrefixOf octets then .markedUtf8
  else
    match octets with
    | 0 :: 0 :: _ :: _ :: _ => .utf32 (some .big)
    | 0 :: _ :: _ :: _ :: _ => .utf16 (some .big)
    | _ :: 0 :: 0 :: 0 :: _ => .utf32 (some .little)
    | _ :: 0 :: _ :: _ :: _ => .utf16 (some .little)
    | [0, _] => .utf16 (some .big)
    | [_, 0] => .utf16 (some .little)
    | _ => .utf8

/-! ## Halves of a pair -/

/-- The pieces that a piece of UTF-16 or UTF-32 is if halves of a pair pass. -/
def passHalf : Piece → List Piece
  | .malformed octets .cutShort =>
    .char '\uFFFD' 2 :: (octets.drop 2).map fun b => .malformed [b] .truncated
  | .malformed octets .loneHalf | .malformed octets .illegal | .malformed octets .half =>
    [.char '\uFFFD' octets.length]
  | p => [p]

/-- The octets of UTF-8 behind others, which stand last first, with the replacement character in the
place of each half of a pair. -/
def passHalves (passed : Bytes) : Bytes → Bytes
  | 0xED :: b :: c :: rest =>
    if 0xA0 ≤ b.toNat ∧ b.toNat ≤ 0xBF ∧ 0x80 ≤ c.toNat ∧ c.toNat ≤ 0xBF then
      passHalves (0xBD :: 0xBF :: 0xEF :: passed) rest
    else passHalves (0xED :: passed) (b :: c :: rest)
  | b :: rest => passHalves (b :: passed) rest
  | [] => passed.reverse

/-- The text of octets in a character set, where halves of a pair pass. -/
def textOf (charset : Charset) (octets : Bytes) : Except Malformation String :=
  match charset with
  | .utf8 | .markedUtf8 => charset.strict (passHalves [] octets)
  | _ =>
    let (name, before, pieces) := charset.reading octets
    Pieces.strict name before (pieces.flatMap passHalf)

/-! ## Reading -/

/-- Why octets are no JSON. -/
inductive OctetRefusal
  | encoding (m : Malformation)
  | text (refusal : Refusal)
  deriving DecidableEq, Repr

/-- The value that octets write. -/
def readOctets (room : Nat) (octets : Bytes) : Except OctetRefusal Json :=
  match textOf (charsetOf octets) octets with
  | .error m => .error (.encoding m)
  | .ok s => (readUnmarked room s).mapError .text

end Splice.Json
