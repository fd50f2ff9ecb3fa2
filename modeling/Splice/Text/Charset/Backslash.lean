import Splice.Text.Charset.Ahead
import Splice.Text.Digit

/-!
# Characters behind a backslash

In these sets each octet is the character of its number, but for a backslash: with some octets
behind it, it stands for a character that is given by its number or by a letter. A character can
also be given by a name, but no name is known here.
-/

namespace Splice.Backslash

/-- The letters for characters, and the characters. -/
def letters : List (Char × Char) :=
  [('\\', '\\'), ('\'', '\''), ('"', '"'), ('b', '\x08'), ('f', '\x0C'), ('t', '\t'), ('n', '\n'),
    ('r', '\r'), ('v', '\x0B'), ('a', '\x07')]

/-- How many hexadecimal digits a letter asks for. -/
def digitCount? : Char → Option Nat
  | 'x' => some 2
  | 'u' => some 4
  | 'U' => some 8
  | _ => none

/-- The character of an octet. -/
def charOf (b : UInt8) : Char := Char.ofNat b.toNat

/-- What the octets ahead are, where so many hexadecimal digits are to follow a backslash and a
letter. -/
def lookNumber (count : Nat) (octets : Bytes) : Ahead Unit :=
  let digits := ((octets.drop 2).take count).takeWhile fun b => (Text.hexValue? (charOf b)).isSome
  if digits.length < count then
    if (octets.drop (digits.length + 2)).isEmpty then .short else .bad octets (digits.length + 2) ()
  else
    let number := digits.foldl (fun n b => n * 16 + (Text.hexValue? (charOf b)).getD 0) 0
    if number.isValidChar then .char (Char.ofNat number) (count + 2) ()
    else .bad octets (count + 2) ()

/-- What the octets ahead are, where a name in braces is to follow a backslash and a letter. -/
def lookName (octets : Bytes) : Ahead Unit :=
  match octets.drop 2 with
  | [] => .short
  | 0x7B :: rest =>
    let name := rest.takeWhile (· != 0x7D)
    if name.length = rest.length then .short
    else if name.isEmpty then .bad octets 3 ()
    else .bad octets (name.length + 4) ()
  | _ => .bad octets 2 ()

/-- What the octets ahead are, where octal digits follow a backslash. -/
def lookOctal (digits : Bytes) : Ahead Unit :=
  let digits := (digits.take 3).takeWhile fun b => 0x30 ≤ b.toNat && b.toNat ≤ 0x37
  .char (Char.ofNat (digits.foldl (fun n b => n * 8 + (b.toNat - 0x30)) 0)) (digits.length + 1) ()

/-- What the octets ahead are where a backslash can stand in front of any letter. A backslash in
front of a line end goes with it, and in front of another character it stands for itself. -/
def look (octets : Bytes) : Ahead Unit :=
  match octets with
  | 0x5C :: rest =>
    match rest with
    | [] => .short
    | 0x0A :: _ => .sign 2 ()
    | b :: _ =>
      match letters.lookup (charOf b), digitCount? (charOf b) with
      | some c, _ => .char c 2 ()
      | none, some count => lookNumber count octets
      | none, none =>
        if b = 0x4E then lookName octets
        else if 0x30 ≤ b.toNat ∧ b.toNat ≤ 0x37 then lookOctal rest
        else .char '\\' 1 ()
  | b :: _ => .char (charOf b) 1 ()
  | [] => .short

/-- What the octets ahead are where a backslash can stand in front of the number of a character
only. The state is whether the octet ahead is behind a backslash that stands for itself. -/
def lookRaw (escaped : Bool) (octets : Bytes) : Ahead Bool :=
  match octets with
  | [] => .short
  | 0x5C :: b :: _ =>
    if !escaped ∧ (b = 0x75 ∨ b = 0x55) then
      match lookNumber (if b = 0x75 then 4 else 8) octets with
      | .piece p _ => .piece p false
      | .sign size _ => .sign size false
      | .short => .short
    else .char '\\' 1 (!escaped)
  | b :: _ => .char (charOf b) 1 false

end Splice.Backslash
