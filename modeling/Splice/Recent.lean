/-!
# The last of what came

Of items that come one after the other only the last ones are kept, as many as there is room for.
-/

namespace Splice

/-- The last of the items that came, in their order. -/
structure Recent (α : Type) (room : Nat) where
  items : List α
  length_le : items.length ≤ room
  deriving DecidableEq, Repr

namespace Recent

variable {α : Type} {room : Nat}

/-- Nothing has come yet. -/
def empty : Recent α room := ⟨[], Nat.zero_le room⟩

/-- One more item; if there is no room for it, the first one goes. -/
def push (r : Recent α room) (a : α) : Recent α room :=
  if more : r.items.length < room then ⟨r.items ++ [a], by simpa using Nat.succ_le_of_lt more⟩
  else ⟨(r.items ++ [a]).tail, by simpa using r.length_le⟩

theorem items_push (r : Recent α room) (a : α) :
    (r.push a).items =
      if r.items.length < room then r.items ++ [a] else (r.items ++ [a]).tail := by
  unfold push
  split <;> rfl

end Recent

end Splice
