/-!
# Rows of characters

A large character set lays its characters out in rows. What is added to a set later fills stretches
of places that were empty; such a stretch is known by the two octets of its first place.
-/

namespace Splice

/-! ## Rows -/

/-- Rows of characters, in which a full stop is a place without one. -/
abbrev Grid := Array (Array Char)

namespace Grid

/-- The grid of rows. -/
def ofRows (rows : List String) : Grid := (rows.map fun row => row.toList.toArray).toArray

/-- The character in a row and a cell, both counted from zero. -/
def char? (g : Grid) (row cell : Nat) : Option Char :=
  (g[row]?.bind (·[cell]?)).filter (· != '.')

/-- For each of so many characters from some code point on, whether it is in a grid. -/
def marks (g : Grid) (first count : Nat) : Array Bool :=
  g.foldl (fun marks row => row.foldl (fun marks c =>
    if first ≤ c.toNat then marks.setIfInBounds (c.toNat - first) true else marks) marks)
    (Array.replicate count false)

/-- Of so many characters from some code point on, those that are not in a grid. -/
def others (g : Grid) (first count : Nat) : Array Char :=
  let marks := g.marks first count
  (Array.range count).filterMap fun i =>
    if marks[i]?.getD true then none else some (Char.ofNat (first + i))

end Grid

/-! ## Stretches of places -/

/-- The number of a second octet among all that can be one: a delete sign is none. -/
def trailNumber (trail : Nat) : Nat := if trail < 0x7F then trail else trail - 1

/-- The character that stretches give two octets. -/
def addedChar? (stretches : List (Nat × String)) (lead trail : Nat) : Option Char :=
  stretches.findSome? fun (code, chars) =>
    let first := trailNumber (code % 0x100)
    if lead = code / 0x100 ∧ first ≤ trailNumber trail then
      (chars.toList[trailNumber trail - first]?).filter (· != '.')
    else none

end Splice
