import Splice.Text.Charset.Several
import Splice.Text.Charset.Tables
import Splice.Text.Separated
import Splice.Text.Utf7
import Splice.Text.Utf8

/-!
# Character sets

A character set is known by several names; in a name neither the case of the letters matters nor
which signs stand between its parts. The sets of single octets are tabulated, those of several
octets have rules of their own, and the others are the forms of Unicode. In UTF-16 and UTF-32 a mark
at the front says the order of the octets where the name of the set does not. Some names of the same
kind stand for something else that text or octets can be turned into.

* `Charset.named?` finds a set by a name, `Transformation.named?` what else a name stands for.
* `Charset.strict` and `Charset.lossy` read octets.
-/

namespace Splice

/-- A character set. -/
inductive Charset
  | utf8
  /-- UTF-8 behind a mark that does not count. -/
  | markedUtf8
  | utf16 (order : Option OctetOrder)
  | utf32 (order : Option OctetOrder)
  | utf7
  /-- Each octet is the character of its number. -/
  | numbers
  /-- Each octet is the character at its place in a table, if there is one. -/
  | table (chars : Array Char)
  | several (set : SeveralOctets)
  deriving DecidableEq, Repr

namespace Charset

/-! ## Names -/

/-- A name in its usual form: small letters and digits, with underscores between the parts. -/
def usualName (name : String) : String :=
  let parts := stretches (fun c => !(c.isAlphanum || c == '.')) name.toList
  "_".intercalate ((parts.filter (! ·.isEmpty)).map fun part => String.ofList (part.map Char.toLower))

/-- The names of the sets that need no table. -/
def untabulated : List (List String × Charset) :=
  [(["utf_8", "utf8", "u8", "utf", "utf8_ucs2", "utf8_ucs4", "cp65001"], utf8),
   (["utf_8_sig"], markedUtf8),
   (["iso8859_1", "iso_8859_1", "iso8859", "8859", "latin_1", "latin1", "latin", "l1", "cp819",
      "ibm819", "csisolatin1", "iso_8859_1_1987", "iso_ir_100", "charmap"], numbers),
   (["utf_16", "utf16", "u16"], utf16 none),
   (["utf_16_be", "utf_16be", "unicodebigunmarked"], utf16 (some .big)),
   (["utf_16_le", "utf_16le", "unicodelittleunmarked"], utf16 (some .little)),
   (["utf_32", "utf32", "u32"], utf32 none),
   (["utf_32_be", "utf_32be"], utf32 (some .big)),
   (["utf_32_le", "utf_32le"], utf32 (some .little)),
   (["utf_7", "utf7", "u7", "unicode_1_1_utf_7"], utf7)]

/-- The characters of ASCII. -/
def asciiChars : List Char := (List.range 0x80).map Char.ofNat

/-- The set of a name in its usual form. -/
def ofUsualName? (name : String) : Option Charset :=
  let rowOf {α : Type} (rows : List (List String × α)) : Option α :=
    (rows.find? fun row => row.1.contains name).map (·.2)
  (rowOf untabulated).or <|
    ((rowOf SingleOctets.extensions).map fun chars => table (asciiChars ++ chars.toList).toArray).or <|
      ((rowOf SingleOctets.others).map fun chars => table chars.toList.toArray).or <|
        (SeveralOctets.ofName? name).map several

/-- The set of a name. -/
def named? (name : String) : Option Charset := ofUsualName? (usualName name)

/-! ## Reading -/

/-- The piece that an octet is by a table. -/
def tablePiece (chars : Array Char) (b : UInt8) : Piece :=
  match chars[b.toNat]? with
  | some '\uFFFE' => .malformed [b] .undefined
  | some c => .char c 1
  | none => .malformed [b] .undefined

/-- Octets without the mark of UTF-8 at the front. -/
def dropMark (octets : Bytes) : Bytes :=
  if [0xEF, 0xBB, 0xBF].isPrefixOf octets then octets.drop 3 else octets

/-- Octets with the order of their units: the one that is known, or that a mark says, or else the
little one. -/
def ordered (mark : OctetOrder → Bytes) (order : Option OctetOrder) (octets : Bytes) :
    OctetOrder × Bytes :=
  match order with
  | some order => (order, octets)
  | none => (octets.unmark? mark).getD (.little, octets)

/-- How octets are read: the name of the set in a complaint, the number of octets in front of the
pieces, and the pieces. -/
def reading (c : Charset) (octets : Bytes) : String × Nat × List Piece :=
  match c with
  | utf8 => ("utf-8", 0, Utf8.pieces octets)
  | markedUtf8 => ("utf-8", 0, Utf8.pieces (dropMark octets))
  | utf16 order =>
    let (order, rest) := ordered OctetOrder.mark order octets
    ("utf-16-" ++ order.letters, octets.length - rest.length, Utf16.pieces order rest)
  | utf32 order =>
    let (order, rest) := ordered OctetOrder.wideMark order octets
    ("utf-32-" ++ order.letters, octets.length - rest.length, Utf32.pieces order rest)
  | utf7 => ("utf7", 0, Utf7.pieces octets)
  | numbers => ("latin-1", 0, octets.map fun b => .char (Char.ofNat b.toNat) 1)
  | table chars => ("charmap", 0, octets.map (tablePiece chars))
  | several set => (set.name, 0, set.pieces octets)

/-- The text of octets, with the replacement character for each malformed piece. -/
def lossy (c : Charset) (octets : Bytes) : String := Pieces.lossy (c.reading octets).2.2

/-- The text of octets, or else where they first are malformed. -/
def strict (c : Charset) (octets : Bytes) : Except Malformation String :=
  let (name, before, pieces) := c.reading octets
  Pieces.strict name before pieces

end Charset

/-! ## Names for something else -/

/-- What a name stands for that is not a character set. -/
inductive Transformation
  /-- Octets are turned into octets. -/
  | ofOctets
  /-- A text is turned into a text. -/
  | ofText
  /-- The form of host names, which knows no replacement for what is malformed. -/
  | ofHosts
  /-- A set in which nothing is defined. -/
  | ofNothing
  deriving DecidableEq, Repr

namespace Transformation

/-- The names of transformations, in their usual form. -/
def names : List (List String × Transformation) :=
  [(["hex_codec", "hex", "base64_codec", "base64", "base_64", "quopri_codec", "quopri",
      "quoted_printable", "quotedprintable", "uu_codec", "uu", "zlib_codec", "zlib", "zip",
      "bz2_codec", "bz2"], ofOctets),
   (["rot_13", "rot13"], ofText),
   (["idna"], ofHosts),
   (["undefined"], ofNothing)]

/-- The transformation of a name. -/
def named? (name : String) : Option Transformation :=
  (names.find? fun row => row.1.contains (Charset.usualName name)).map (·.2)

end Transformation

end Splice
