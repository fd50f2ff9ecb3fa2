import Splice.Text.Charset.EastAsian

/-!
# Character sets that shift

These sets use the octets of ASCII alone. Signs among them say which set of characters the octets
that follow are in, until the next such sign.

* `Tilde.pieces` reads a set whose signs are a tilde with one more character.
* `Escape.pieces` reads sets whose signs open with an escape character.
-/

namespace Splice

/-- The character of two octets that count rows and cells of 94 from the end of the control
characters. -/
def lowPair? (pair : Nat → Nat → Option Char) (lead trail : Nat) : Option Char :=
  if lead < 0x80 ∧ trail < 0x80 then pair (lead + 0x80) (trail + 0x80) else none

/-! ## Signs with a tilde -/

namespace Tilde

/-- What the octets ahead are. The state is whether characters have two octets. -/
def look (wide : Bool) (octets : Bytes) : Ahead Bool :=
  match octets with
  | [] => .short
  | [b] => if b = 0x7E ∨ (wide ∧ b.toNat < 0x80) then .short else narrow b
  | 0x7E :: b :: _ =>
    if wide then if b = 0x7D then .sign 2 false else .bad octets 1 wide
    else if b = 0x7E then .char '~' 2 wide
    else if b = 0x7B then .sign 2 true
    else if b = 0x0A then .sign 2 wide
    else .bad octets 1 wide
  | a :: b :: _ =>
    if wide && a.toNat < 0x80 then
      .ofChar? (lowPair? EastAsian.firstPair? a.toNat b.toNat) 2 octets wide
    else narrow a
where
  narrow (b : UInt8) : Ahead Bool := .ofChar? (EastAsian.ascii? b.toNat) 1 [b] wide

/-- The pieces of octets. -/
def pieces (octets : Bytes) : List Piece := Ahead.pieces look false octets

end Tilde

/-! ## Signs with an escape character -/

namespace Escape

/-- A set of characters that a sign can call for. -/
inductive Called
  | ascii
  /-- ASCII with two signs of its own. -/
  | roman
  /-- Narrow syllables. -/
  | narrow
  | kanji
  | rareKanji
  | korean
  deriving DecidableEq, Repr

/-- How many octets a character of a set has. -/
def Called.width : Called → Nat
  | ascii | roman | narrow => 1
  | kanji | rareKanji | korean => 2

/-- The character of the octets at the front, as many as its set says. -/
def Called.char? (called : Called) (octets : Bytes) : Option Char :=
  match called, octets with
  | ascii, a :: _ => EastAsian.ascii? a.toNat
  | roman, 0x5C :: _ => some '¥'
  | roman, 0x7E :: _ => some '‾'
  | roman, a :: _ => EastAsian.ascii? a.toNat
  | narrow, a :: _ => EastAsian.narrow? (a.toNat + 0x80)
  | kanji, a :: b :: _ => lowPair? (EastAsian.highPair? EastAsian.kanji) a.toNat b.toNat
  | rareKanji, a :: b :: _ => lowPair? (EastAsian.highPair? EastAsian.rareKanji) a.toNat b.toNat
  | korean, a :: b :: _ => lowPair? (EastAsian.highPair? EastAsian.korean) a.toNat b.toNat
  | _, _ => none

/-- A way to write characters: the sets that signs call for, by the letters of the sign, whether
control characters shift between the two sets in use, and whether a sign can announce a revision. -/
structure Scheme where
  sets : List (String × Called)
  shifts : Bool
  revises : Bool
  deriving DecidableEq, Repr

/-- The sets of usual Japanese characters and of ASCII with two signs of its own. -/
def japanese : Scheme := ⟨[("$B", .kanji), ("J", .roman), ("$@", .kanji)], false, true⟩

/-- The Japanese sets with the further characters. -/
def moreJapanese : Scheme := { japanese with sets := ("$D", .rareKanji) :: japanese.sets }

/-- The Japanese sets with the further characters and the narrow syllables. -/
def allJapanese : Scheme := { moreJapanese with sets := ("I", .narrow) :: moreJapanese.sets }

/-- The set of Korean characters, which one shifts to. -/
def korean : Scheme := ⟨[("$C", .korean)], true, false⟩

/-- The sets in use, and whether the second is shifted to. -/
structure State where
  first : Called
  second : Called
  shifted : Bool
  /-- Whether a sign of some other kind is under way. -/
  foreign : Bool
  deriving DecidableEq, Repr

/-- Whether an octet ends a sign. -/
def isLast (b : UInt8) : Bool := (0x41 ≤ b.toNat && b.toNat ≤ 0x5A) || b == 0x40

/-- The number of octets of a sign whose first ones have been looked at, or none if the octets end
before the sign does. A sign that does not end among its first sixteen octets has the number
zero. -/
def signLength? (revises : Bool) (octets : Bytes) : Nat → Nat → Option Nat
  | 0, _ => some 0
  | fuel + 1, seen =>
    if seen < 16 then
      (octets[seen]?).bind fun b =>
        if isLast b then some (seen + 1)
        else if revises && b == 0x26 && octets[seen + 1]? == some 0x40 then
          signLength? revises octets fuel (seen + 3)
        else signLength? revises octets fuel (seen + 1)
    else some 0

/-- The set that a sign calls for, and whether it becomes the second in use. -/
def calledSet? (s : Scheme) (sign : String) : Option (Called × Bool) :=
  let find (letters : String) : Option Called :=
    if letters == "B" then some .ascii else s.sets.lookup letters
  match sign.toList with
  | ['(', c] => (find c.toString).map (·, false)
  | [')', c] => (find c.toString).map (·, true)
  | ['$', '(', c] => (find ("$" ++ c.toString)).map (·, false)
  | ['$', ')', c] => (find ("$" ++ c.toString)).map (·, true)
  | ['$', c] => (find ("$" ++ c.toString)).map (·, false)
  | [_, _, '\x1B', '$', 'B'] => if s.revises then (find "$B").map (·, false) else none
  | _ => none

/-- What a sign at the front is. -/
def lookSign (s : Scheme) (state : State) (octets : Bytes) : Ahead State :=
  match signLength? s.revises octets 16 1 with
  | none => .short
  | some 0 => .bad octets 1 state
  | some n =>
    match calledSet? s (Bytes.byNumber ((octets.take n).drop 1)) with
    | none => .bad octets n state
    | some (called, true) => .sign n { state with second := called }
    | some (called, false) => .sign n { state with first := called }

/-- What the octets ahead are. -/
def look (s : Scheme) (state : State) (octets : Bytes) : Ahead State :=
  match octets with
  | [] => .short
  | a :: rest =>
    let itself (state : State) := Ahead.char (Char.ofNat a.toNat) 1 state
    if state.foreign then itself { state with foreign := !isLast a }
    else if a = 0x1B then
      match rest with
      | [] => .short
      | b :: _ =>
        if b ∈ [0x28, 0x29, 0x24, 0x2E, 0x26] then lookSign s state octets
        else itself { state with foreign := true }
    else if s.shifts && a = 0x0F then .sign 1 { state with shifted := false }
    else if s.shifts && a = 0x0E then .sign 1 { state with shifted := true }
    else if a = 0x0A then itself { state with shifted := false }
    else if a.toNat < 0x20 then itself state
    else if 0x80 ≤ a.toNat then .bad octets 1 state
    else
      let called := if state.shifted then state.second else state.first
      if (octets.take called.width).length < called.width then .short
      else
        match called.char? octets with
        | some c => .char c called.width state
        | none => .bad octets called.width state

/-- The pieces of octets. -/
def pieces (s : Scheme) (octets : Bytes) : List Piece :=
  Ahead.pieces (look s) ⟨.ascii, .ascii, false, false⟩ octets

end Escape

end Splice
