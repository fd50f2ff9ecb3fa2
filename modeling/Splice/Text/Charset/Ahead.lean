import Splice.Text.Octets

/-!
# Reading octets by looking ahead

In some character sets the next few octets decide together what they are: a character, something
malformed, or a sign that stands for no character but changes what follows. A reader looks at all
the octets ahead, takes what they say, and goes on behind it.
-/

namespace Splice

/-- What the octets ahead are, for a reader that keeps a state. -/
inductive Ahead (σ : Type)
  /-- A piece, and the state behind it. -/
  | piece (p : Piece) (state : σ)
  /-- So many octets that stand for nothing, and the state behind them. -/
  | sign (size : Nat) (state : σ)
  /-- The start of something that goes on beyond the end. -/
  | short
  deriving Repr

namespace Ahead

variable {σ : Type}

/-- A character of so many octets. -/
def char (c : Char) (size : Nat) (state : σ) : Ahead σ := .piece (.char c size) state

/-- So many octets that are malformed. -/
def bad (octets : Bytes) (size : Nat) (state : σ) : Ahead σ :=
  .piece (.malformed (octets.take size) .illegalSequence) state

/-- A character of so many octets, or else one octet that is malformed. -/
def ofChar? (c : Option Char) (size : Nat) (octets : Bytes) (state : σ) : Ahead σ :=
  match c with
  | some c => char c size state
  | none => bad octets 1 state

/-- The pieces of octets behind other pieces, which stand last first. The fuel is enough if there is
some for each octet, since nothing takes fewer than one. -/
def readPieces (look : σ → Bytes → Ahead σ) : Nat → σ → Bytes → List Piece → List Piece
  | 0, _, _, pieces => pieces.reverse
  | _ + 1, _, [], pieces => pieces.reverse
  | fuel + 1, state, octets, pieces =>
    match look state octets with
    | .piece p state => readPieces look fuel state (octets.drop p.size) (p :: pieces)
    | .sign size state => readPieces look fuel state (octets.drop size) pieces
    | .short => (.malformed octets .incomplete :: pieces).reverse

/-- The pieces of octets. -/
def pieces (look : σ → Bytes → Ahead σ) (state : σ) (octets : Bytes) : List Piece :=
  readPieces look octets.length state octets []

end Ahead

end Splice
