/-!
# Patterns for texts

A pattern says which texts as a whole belong to it. It is written with the usual signs: a dot for
any character but a line feed, a star for any number of what stands before it, a backslash before a
character that stands for itself, and `^` and `$` for the ends of the text. All other characters
stand for themselves.
-/

namespace Splice

/-- What a place of a pattern admits. -/
inductive Pattern.Admitted
  | any
  | only (c : Char)
  deriving DecidableEq, Repr

/-- One piece of a pattern, perhaps with a star. -/
structure Pattern.Piece where
  admitted : Pattern.Admitted
  starred : Bool
  deriving DecidableEq, Repr

/-- A pattern, piece by piece. -/
abbrev Pattern := List Pattern.Piece

namespace Pattern

/-- Whether a place admits a character. -/
def Admitted.holds : Admitted → Char → Bool
  | any, c => c != '\n'
  | only a, c => a == c

/-- Puts a piece in front of what was read behind it; a star there belongs to it. -/
def read : List Char → Pattern
  | [] => []
  | '^' :: rest => read rest
  | ['$'] => []
  | '\\' :: c :: '*' :: rest => ⟨.only c, true⟩ :: read rest
  | '\\' :: c :: rest => ⟨.only c, false⟩ :: read rest
  | '.' :: '*' :: rest => ⟨.any, true⟩ :: read rest
  | '.' :: rest => ⟨.any, false⟩ :: read rest
  | c :: '*' :: rest => ⟨.only c, true⟩ :: read rest
  | c :: rest => ⟨.only c, false⟩ :: read rest

/-- Whether the characters of a text belong to a pattern. -/
def holds : Pattern → List Char → Bool
  | [], cs => cs.isEmpty
  | piece :: rest, [] => piece.starred && holds rest []
  | piece :: rest, c :: cs =>
    if piece.starred then
      holds rest (c :: cs) || (piece.admitted.holds c && holds (piece :: rest) cs)
    else piece.admitted.holds c && holds rest cs
termination_by pattern cs => pattern.length + cs.length

/-- The pattern that a text writes. -/
def ofText (text : String) : Pattern := read text.toList

/-- Whether a text belongs to a pattern. -/
def accepts (p : Pattern) (text : String) : Bool := p.holds text.toList

end Pattern

end Splice
