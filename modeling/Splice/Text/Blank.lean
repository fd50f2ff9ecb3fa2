import Splice.Text.CodeRange

/-!
# Blanks, words and lines

Two sets of blank characters occur. White space is the Unicode property; blanks are white space
with the four information separators `U+001C` to `U+001F`. Texts are trimmed and cut into words at
blanks, and cut into lines at the vertical ones.
-/

namespace Splice.Text

/-- The code points with the property White_Space. -/
def whiteSpace : CodeRanges :=
  [(0x09, 0x0D), (0x20, 0x20), (0x85, 0x85), (0xA0, 0xA0), (0x1680, 0x1680), (0x2000, 0x200A),
   (0x2028, 0x2029), (0x202F, 0x202F), (0x205F, 0x205F), (0x3000, 0x3000)]

/-- Whether a character is white space. -/
def isWhite (c : Char) : Bool := whiteSpace.holds c.toNat

/-- Whether a character is a blank: white space or an information separator. -/
def isBlank (c : Char) : Bool := isWhite c || (0x1C ≤ c.toNat && c.toNat ≤ 0x1F)

/-! ## Trimming -/

/-- The characters without those at the end that satisfy `p`. -/
def dropEndWhile (p : Char → Bool) (cs : List Char) : List Char :=
  (cs.reverse.dropWhile p).reverse

/-- The characters without those at either end that satisfy `p`. -/
def trimWhile (p : Char → Bool) (cs : List Char) : List Char :=
  dropEndWhile p (cs.dropWhile p)

/-- A text without blanks at its ends. -/
def trim (s : String) : String := String.ofList (trimWhile isBlank s.toList)

/-- A text without blanks at its end. -/
def trimEnd (s : String) : String := String.ofList (dropEndWhile isBlank s.toList)

/-- Whether a text consists of blanks alone. -/
def allBlank (s : String) : Bool := s.toList.all isBlank

/-- A text, or another in the place of an empty one. -/
def orIfEmpty (text default : String) : String := if text == "" then default else text

/-! ## Words and lines -/

/-- The words of a text: its longest runs of characters that are no blanks. -/
def words (s : String) : List String :=
  ((s.toList.splitBy fun a b => isBlank a == isBlank b).filter fun run =>
    run.any fun c => !isBlank c).map String.ofList

/-- Whether a character ends a line. -/
def endsLine (c : Char) : Bool :=
  (0x0A ≤ c.toNat && c.toNat ≤ 0x0D) || (0x1C ≤ c.toNat && c.toNat ≤ 0x1E) ||
    c.toNat == 0x85 || c.toNat == 0x2028 || c.toNat == 0x2029

/-- One step of cutting into lines, from the end of the text to its start: the lines so far, the
first of them still open. A carriage return before a line feed belongs to the same line end. -/
def addToLines (c : Char) (lines : List (List Char) × Option Char) :
    List (List Char) × Option Char :=
  match lines with
  | (done, next) =>
    if endsLine c then
      if c == '\r' && next == some '\n' then (done, some c) else ([] :: done, some c)
    else
      match done with
      | [] => ([[c]], some c)
      | open_ :: others => ((c :: open_) :: others, some c)

/-- The lines of a text without their ends. A line end at the end of the text opens no line. -/
def lines (s : String) : List String :=
  (s.toList.foldr addToLines ([], none)).1.map String.ofList

end Splice.Text
