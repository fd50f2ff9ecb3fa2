/-!
# Tables

A table holds values under keys, in the order in which the keys were first put into it.
-/

namespace Splice

/-- Values under keys. -/
abbrev Table (κ α : Type) := List (κ × α)

namespace Table

variable {κ α : Type} [DecidableEq κ]

/-- The value under a key. -/
def get? (t : Table κ α) (key : κ) : Option α :=
  (t.find? fun row => row.1 == key).map (·.2)

/-- The table with a value under a key. A key that is there already keeps its place. -/
def put (t : Table κ α) (key : κ) (value : α) : Table κ α :=
  if t.any fun row => row.1 == key then
    t.map fun row => if row.1 == key then (key, value) else row
  else t ++ [(key, value)]

/-- The table without a key. -/
def erase (t : Table κ α) (key : κ) : Table κ α := t.filter fun row => row.1 != key

/-! ## Looking up after a change -/

@[simp] theorem get?_nil (key : κ) : get? ([] : Table κ α) key = none := rfl

theorem get?_cons (row : κ × α) (t : Table κ α) (key : κ) :
    get? (row :: t) key = if row.1 = key then some row.2 else get? t key := by
  by_cases h : row.1 = key <;> simp [get?, h]

theorem get?_append (t u : Table κ α) (key : κ) :
    get? (t ++ u) key = (get? t key).or (get? u key) := by
  simp [get?, List.find?_append, Option.map_or]

theorem get?_eq_none_iff (t : Table κ α) (key : κ) :
    get? t key = none ↔ ∀ row ∈ t, row.1 ≠ key := by
  simp [get?]

/-- Overwriting the rows of a key changes what is found under it, if anything was. -/
theorem get?_overwrite (t : Table κ α) (key other : κ) (value : α) :
    get? (t.map fun row => if row.1 == key then (key, value) else row) other =
      if key = other then (get? t other).map fun _ => value else get? t other := by
  induction t with
  | nil => simp
  | cons row rest ih =>
    rw [List.map_cons, get?_cons, get?_cons, ih]
    by_cases here : row.1 = key <;> by_cases same : key = other <;> grind

/-- What was put is found, and whatever stands under another key stays. -/
theorem get?_put (t : Table κ α) (key other : κ) (value : α) :
    get? (t.put key value) other = if key = other then some value else get? t other := by
  unfold put
  split
  case isTrue present =>
    have found : get? t key ≠ none := by simpa [get?_eq_none_iff] using present
    rw [get?_overwrite]
    by_cases same : key = other
    · subst same
      obtain ⟨old, h⟩ := Option.ne_none_iff_exists'.1 found
      simp [h]
    · simp [same]
  case isFalse absent =>
    have missing : get? t key = none := by
      rw [get?_eq_none_iff]
      intro row mem same
      exact absent (List.any_eq_true.2 ⟨row, mem, by simp [same]⟩)
    rw [get?_append, get?_cons]
    by_cases same : key = other
    · subst same
      simp [missing]
    · simp [same]

/-- What was erased is not found, and whatever stands under another key stays. -/
theorem get?_erase (t : Table κ α) (key other : κ) :
    get? (t.erase key) other = if key = other then none else get? t other := by
  induction t with
  | nil => simp [erase]
  | cons row rest ih =>
    have step : erase (row :: rest) key =
        if row.1 = key then erase rest key else row :: erase rest key := by
      by_cases here : row.1 = key <;> simp [erase, here]
    rw [step, get?_cons]
    split <;> grind [get?_cons]

end Table

end Splice
