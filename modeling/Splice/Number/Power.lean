/-!
# Powers

The powers of natural numbers that doubles and numerals are made of.
-/

namespace Splice

/-- A power of two. -/
abbrev twoTo (n : Nat) : Nat := Nat.pow 2 n

/-- A power of ten. -/
abbrev tenTo (n : Nat) : Nat := Nat.pow 10 n

end Splice
