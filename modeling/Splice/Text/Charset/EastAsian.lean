import Splice.Text.Charset.Ahead
import Splice.Text.Charset.Chinese
import Splice.Text.Charset.Grid
import Splice.Text.Charset.Japanese
import Splice.Text.Charset.Korean
import Splice.Text.Charset.Traditional

/-!
# Character sets of one and two octets

In these sets the octets of ASCII are its characters, and most other characters have two octets: the
row in a grid of characters, and the cell in that row. A few have three, four or eight. What is not
a character in its place makes its first octet malformed, and reading goes on behind that one.
-/

namespace Splice.EastAsian

/-! ## Two octets -/

/-- Whether an octet is one that counts rows or cells of 94. -/
def isHigh (n : Nat) : Bool := 0xA1 ≤ n && n ≤ 0xFE

/-- The character of two octets that count rows and cells of 94. -/
def highPair? (g : Grid) (lead trail : Nat) : Option Char :=
  if isHigh lead && isHigh trail then g.char? (lead - 0xA1) (trail - 0xA1) else none

/-- What the octets ahead are in a set with characters of one octet and of two. -/
def look (one : Nat → Option Char) (two : Nat → Nat → Option Char) (octets : Bytes) : Ahead Unit :=
  match octets with
  | [] => .short
  | first :: rest =>
    match one first.toNat, rest with
    | some c, _ => .char c 1 ()
    | none, [] => .short
    | none, second :: _ => .ofChar? (two first.toNat second.toNat) 2 octets ()

/-- The character that an octet is in ASCII. -/
def ascii? (n : Nat) : Option Char := if n < 0x80 then some (Char.ofNat n) else none

/-! ## Japanese -/

/-- The usual Japanese characters. -/
def kanji : Grid := .ofRows Japanese.common

/-- The further Japanese characters. -/
def rareKanji : Grid := .ofRows Japanese.rare

/-- The narrow syllable that an octet is. -/
def narrow? (n : Nat) : Option Char :=
  if 0xA1 ≤ n ∧ n ≤ 0xDF then some (Char.ofNat (0xFF61 + (n - 0xA1))) else none

/-- What the octets ahead are where rows and cells are counted from the end of the octets of ASCII,
and a first octet of its own announces a narrow syllable or a further character. -/
def lookExtended (octets : Bytes) : Ahead Unit :=
  match octets with
  | 0x8E :: b :: _ => .ofChar? (narrow? b.toNat) 2 octets ()
  | 0x8F :: b :: c :: _ => .ofChar? (highPair? rareKanji b.toNat c.toNat) 3 octets ()
  | [0x8F, _] => .short
  | _ => look ascii? (highPair? kanji) octets

/-- The row and the cell of two octets where a first octet stands for two rows. -/
def shifted? (lead trail : Nat) : Option (Nat × Nat) :=
  if ((0x81 ≤ lead && lead ≤ 0x9F) || (0xE0 ≤ lead && lead ≤ 0xFC))
      && 0x40 ≤ trail && trail ≤ 0xFC && trail != 0x7F then
    let half := if lead < 0xE0 then lead - 0x81 else lead - 0xC1
    let number := trailNumber trail - 0x40
    some (2 * half + number / 94, number % 94)
  else none

/-- The character of two octets where a first octet stands for two rows. -/
def shiftedPair? (lead trail : Nat) : Option Char :=
  (shifted? lead trail).bind fun (row, cell) => kanji.char? row cell

/-- The character of an octet where narrow syllables have one. -/
def shiftedOctet? (n : Nat) : Option Char := (ascii? n).or (narrow? n)

/-- The signs that vendors read differently, by row and cell. -/
def vendorSigns : List ((Nat × Nat) × Char) :=
  [((0, 32), '～'), ((0, 33), '∥'), ((0, 60), '－'), ((0, 80), '￠'), ((0, 81), '￡'), ((1, 43), '￢')]

/-- The rows of vendors, by number. -/
def vendorRows : List (Nat × Array Char) :=
  Japanese.vendor.map fun (number, row) => (number, row.toList.toArray)

/-- The character of a row and a cell for vendors. The rows from the 95th to the 114th are for
private use. -/
def vendorChar? (row cell : Nat) : Option Char :=
  (vendorSigns.lookup (row, cell)).or <|
    ((vendorRows.lookup (row + 1)).bind (·[cell]?)).or <|
      if 94 ≤ row ∧ row < 114 then some (Char.ofNat (0xE000 + (row - 94) * 94 + cell))
      else kanji.char? row cell

/-- The character of two octets for vendors. -/
def vendorPair? (lead trail : Nat) : Option Char :=
  (shifted? lead trail).bind fun (row, cell) => vendorChar? row cell

/-- The character of an octet for vendors, for whom every octet is one that opens no pair. -/
def vendorOctet? (n : Nat) : Option Char :=
  if n ≤ 0x80 then some (Char.ofNat n)
  else if n = 0xA0 then some '\uF8F0'
  else if 0xFD ≤ n then some (Char.ofNat (0xF8F1 + (n - 0xFD)))
  else narrow? n

/-! ## Chinese in simple forms -/

/-- The simple Chinese characters. -/
def simple : Grid := .ofRows Chinese.simple

/-- The first stretch of ideographs of Unicode without those that are in the grid. -/
def otherIdeographs : Array Char := simple.others 0x4E00 20902

/-- The character of two octets in the set as it was first. Two of its signs were read differently
later. -/
def firstPair? (lead trail : Nat) : Option Char :=
  if lead = 0xA1 ∧ trail = 0xA4 then some '・'
  else if lead = 0xA1 ∧ trail = 0xAA then some '―'
  else highPair? simple lead trail

/-- Whether an octet can be the second of two in the extensions of the set. -/
def isTrail (n : Nat) : Bool := 0x40 ≤ n && n ≤ 0xFE && n != 0x7F

/-- The place of two octets among the ideographs that the extension added: first in whole rows, then
in front of the rows of the grid. -/
def ideographNumber? (lead trail : Nat) : Option Nat :=
  let number := trailNumber trail - 0x40
  if 0x81 ≤ lead && lead ≤ 0xA0 && isTrail trail then some ((lead - 0x81) * 190 + number)
  else if 0xAA ≤ lead && lead ≤ 0xFE && isTrail trail && trail ≤ 0xA0 then
    some (32 * 190 + (lead - 0xAA) * 96 + number)
  else none

/-- The character of two octets in the extended set. -/
def extendedPair? (lead trail : Nat) : Option Char :=
  (highPair? simple lead trail).or <|
    ((ideographNumber? lead trail).bind (otherIdeographs[·]?)).or <|
      addedChar? Chinese.additions lead trail

/-- The character for private use that two octets are. -/
def privatePair? (lead trail : Nat) : Option Char :=
  let cell := trail - 0xA1
  if 0xAA ≤ lead && lead ≤ 0xAF && isHigh trail then
    some (Char.ofNat (0xE000 + (lead - 0xAA) * 94 + cell))
  else if 0xF8 ≤ lead && isHigh lead && isHigh trail then
    some (Char.ofNat (0xE234 + (lead - 0xF8) * 94 + cell))
  else if 0xA1 ≤ lead && lead ≤ 0xA7 && isTrail trail && trail ≤ 0xA0 then
    some (Char.ofNat (0xE4C6 + (lead - 0xA1) * 96 + (trailNumber trail - 0x40)))
  else none

/-- The character of two octets in the set that has all of Unicode. -/
def completePair? (lead trail : Nat) : Option Char :=
  (extendedPair? lead trail).or <|
    (privatePair? lead trail).or (addedChar? Chinese.laterAdditions lead trail)

/-- The characters of the first plane of Unicode beyond ASCII that have no two octets. -/
def unpaired : Array Char :=
  let row (i : Nat) : Array Char :=
    (Array.range 191).filterMap fun j => completePair? (0x81 + i) (0x40 + j)
  let pairs : Grid := (Array.range 126).map row
  pairs.others 0x80 (0xD800 - 0x80) ++ pairs.others 0xE000 0x2000

/-- The character of four octets, which count the characters without two octets, first those of the
first plane. -/
def fourOctets? (a b c d : Nat) : Option Char :=
  if 0x81 ≤ a && a ≤ 0xFE && 0x81 ≤ c && c ≤ 0xFE && 0x30 ≤ d && d ≤ 0x39 then
    let number := (((a - 0x81) * 10 + (b - 0x30)) * 126 + (c - 0x81)) * 10 + (d - 0x30)
    let beyond := (0x90 - 0x81) * 12600
    if number < beyond then unpaired[number]?
    else if number - beyond < 0x100000 then some (Char.ofNat (0x10000 + (number - beyond)))
    else none
  else none

/-- What the octets ahead are in the set that has all of Unicode. A digit in the second place
announces four octets. -/
def lookComplete (octets : Bytes) : Ahead Unit :=
  match octets with
  | a :: b :: rest =>
    if 0x80 ≤ a.toNat && 0x30 ≤ b.toNat && b.toNat ≤ 0x39 then
      match rest with
      | c :: d :: _ => .ofChar? (fourOctets? a.toNat b.toNat c.toNat d.toNat) 4 octets ()
      | _ => .short
    else look ascii? completePair? octets
  | _ => look ascii? completePair? octets

/-! ## Chinese in traditional forms -/

/-- The traditional Chinese characters. -/
def traditional : Grid := .ofRows Traditional.rows

/-- The cell of a second octet in rows of 157. -/
def longCell? (trail : Nat) : Option Nat :=
  if 0x40 ≤ trail ∧ trail ≤ 0x7E then some (trail - 0x40)
  else if isHigh trail then some (trail - 0xA1 + 63)
  else none

/-- The character of two octets. -/
def traditionalPair? (lead trail : Nat) : Option Char :=
  if isHigh lead then (longCell? trail).bind (traditional.char? (lead - 0xA1)) else none

/-- The character of two octets for a vendor. -/
def vendorTraditionalPair? (lead trail : Nat) : Option Char :=
  (addedChar? Traditional.vendor lead trail).or (traditionalPair? lead trail)

/-! ## Korean -/

/-- The Korean characters. -/
def korean : Grid := .ofRows Korean.rows

/-- The syllables of Unicode without those that are in the grid. -/
def otherSyllables : Array Char := korean.others 0xAC00 11172

/-- The number of a second octet among those that the extension of the set uses. -/
def syllableTrail? (trail : Nat) : Option Nat :=
  if 0x41 ≤ trail ∧ trail ≤ 0x5A then some (trail - 0x41)
  else if 0x61 ≤ trail ∧ trail ≤ 0x7A then some (trail - 0x61 + 26)
  else if 0x81 ≤ trail ∧ trail ≤ 0xFE then some (trail - 0x81 + 52)
  else none

/-- The place of two octets among the syllables that the extension added: first in whole rows, then
in front of the rows of the grid. -/
def syllableNumber? (lead trail : Nat) : Option Nat :=
  (syllableTrail? trail).bind fun number =>
    if 0x81 ≤ lead ∧ lead ≤ 0xA0 then some ((lead - 0x81) * 178 + number)
    else if 0xA1 ≤ lead ∧ lead ≤ 0xC6 ∧ number < 84 then
      some (32 * 178 + (lead - 0xA1) * 84 + number)
    else none

/-- The character of two octets in the extended set. -/
def extendedKoreanPair? (lead trail : Nat) : Option Char :=
  (highPair? korean lead trail).or ((syllableNumber? lead trail).bind (otherSyllables[·]?))

/-- The sounds that open a syllable, in order. -/
def openingSounds : List Char := "ㄱㄲㄴㄷㄸㄹㅁㅂㅃㅅㅆㅇㅈㅉㅊㅋㅌㅍㅎ".toList

/-- The sounds that close a syllable, in order, behind the sign for none. -/
def closingSounds : List Char := "\u3164ㄱㄲㄳㄴㄵㄶㄷㄹㄺㄻㄼㄽㄾㄿㅀㅁㅂㅄㅅㅆㅇㅈㅊㅋㅌㅍㅎ".toList

/-- The syllable of three sounds. -/
def syllable? (first middle last : Char) : Option Char := do
  let first ← openingSounds.idxOf? first
  let last ← closingSounds.idxOf? last
  if 'ㅏ' ≤ middle ∧ middle ≤ 'ㅣ' then
    return Char.ofNat (0xAC00 + first * 588 + (middle.toNat - 'ㅏ'.toNat) * 28 + last)
  else none

/-- What the octets ahead are. A filler in the row of sounds opens a syllable whose sounds are
written out, each with two octets of its own. -/
def lookKorean (octets : Bytes) : Ahead Unit :=
  match octets with
  | 0xA4 :: 0xD4 :: rest =>
    match rest with
    | a :: b :: c :: d :: e :: f :: _ =>
      let sound (lead trail : UInt8) : Option Char :=
        if lead = 0xA4 then highPair? korean lead.toNat trail.toNat else none
      let c? := do syllable? (← sound a b) (← sound c d) (← sound e f)
      .ofChar? c? 8 octets ()
    | _ => .short
  | _ => look ascii? (highPair? korean) octets

end Splice.EastAsian
