import Splice.Json.Value
import Splice.Payload.Issue

/-!
# Readings that collect issues

A reading of a payload gives a value or the list of all its issues. Two readings side by side give
the issues of both, first those of the first: this is what the applicative structure says. So a
record reports its issues in the order of its fields, and a list in the order of its items.
-/

namespace Splice

/-- A value, or everything that is wrong with it. -/
inductive Checked (α : Type) where
  | valid (a : α)
  | invalid (issues : List Issue)
  deriving Repr

namespace Checked

variable {α β : Type}

/-- A single issue at the place that is being read. -/
def complain (complaint : Complaint) : Checked α := invalid [⟨[], complaint⟩]

/-- The value changed by a function. -/
def map (f : α → β) : Checked α → Checked β
  | valid a => valid (f a)
  | invalid issues => invalid issues

/-- A function and its argument read side by side. -/
def apply (f : Checked (α → β)) (x : Checked α) : Checked β :=
  match f, x with
  | valid f, valid a => valid (f a)
  | valid _, invalid issues => invalid issues
  | invalid issues, valid _ => invalid issues
  | invalid issues, invalid more => invalid (issues ++ more)

instance : Applicative Checked where
  pure := valid
  seq f x := apply f (x ())
  map := map

/-- A reading one step further from the root. -/
def under (step : PlaceStep) : Checked α → Checked α
  | valid a => valid a
  | invalid issues => invalid (issues.map (Issue.under step))

/-- Readings side by side, in order. -/
def all : List (Checked α) → Checked (List α)
  | [] => valid []
  | x :: rest => apply (x.map List.cons) (all rest)

/-- The value, or a failure made of the issues. -/
def toExcept {ε : Type} (fail : List Issue → ε) : Checked α → Except ε α
  | valid a => .ok a
  | invalid issues => .error (fail issues)

end Checked

end Splice
