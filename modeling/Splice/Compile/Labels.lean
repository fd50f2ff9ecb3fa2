/-!
# Labels

Streams in the graph are told apart by labels. A fresh label is a stem and the least number that
makes a label not yet in use; the labels of the result are in use from the start. Numbers below the
one tried next are never free again, which is why the search for a stem goes on where it last
stopped.
-/

namespace Splice

/-- The labels in use, and for each stem the number to be tried next. -/
structure Labels where
  used : List String
  next : List (String × Nat)
  deriving DecidableEq, Repr

namespace Labels

/-- The label of the finished picture. -/
def video : String := "vout"

/-- The label of the finished sound. -/
def audio : String := "aout"

/-- The state in which only the reserved labels are in use. -/
def reserving (reserved : List String) : Labels := ⟨reserved, []⟩

/-- The state at the start of a graph. -/
def start : Labels := reserving [video, audio]

/-- A stem with a number. -/
def label (stem : String) (n : Nat) : String := stem ++ toString n

/-- The number to be tried next for a stem. -/
def nextNumber (l : Labels) (stem : String) : Nat :=
  ((l.next.find? fun row => row.1 == stem).map (·.2)).getD 0

/-- The least number from `n` on whose label is not in use. Of any `used.length + 1` labels of one
stem, one is free. -/
def leastFree (l : Labels) (stem : String) (n : Nat) : Nat :=
  ((List.range' n (l.used.length + 1)).find? fun i => label stem i ∉ l.used).getD n

/-- A fresh label, and the state in which it is in use. -/
def allocate (l : Labels) (stem : String) : String × Labels :=
  let n := l.leastFree stem (l.nextNumber stem)
  let fresh := label stem n
  (fresh, ⟨fresh :: l.used, (stem, n + 1) :: l.next.filter fun row => row.1 != stem⟩)

/-- Fresh labels for several stems in order. -/
def allocateAll (l : Labels) : List String → List String × Labels
  | [] => ([], l)
  | stem :: rest =>
    let (fresh, l) := l.allocate stem
    let (others, l) := l.allocateAll rest
    (fresh :: others, l)

end Labels

end Splice
