/-!
# Cutting at separators

A list is cut into the stretches between its separators. There is always one stretch more than
there are separators, so that nothing is lost.
-/

namespace Splice

variable {α : Type}

/-- One more element in front of the stretches found so far. -/
def addToStretches (separates : α → Bool) (a : α) (stretches : List (List α)) : List (List α) :=
  if separates a then [] :: stretches
  else
    match stretches with
    | [] => [[a]]
    | first :: others => (a :: first) :: others

/-- The stretches of a list between its separators. -/
def stretches (separates : α → Bool) (items : List α) : List (List α) :=
  items.foldr (addToStretches separates) [[]]

theorem stretches_cons (separates : α → Bool) (a : α) (items : List α) :
    stretches separates (a :: items) = addToStretches separates a (stretches separates items) := rfl

/-- There is one stretch more than there are separators. -/
theorem length_stretches (separates : α → Bool) (items : List α) :
    (stretches separates items).length = items.countP separates + 1 := by
  induction items with
  | nil => rfl
  | cons a rest ih =>
    rw [stretches_cons]
    unfold addToStretches
    split
    case isTrue h => simp [h, ih]
    case isFalse h =>
      split
      case h_1 empty => simp [empty] at ih
      case h_2 first others found => simpa [found, h] using ih

/-- A text cut at the first occurrence of a character, which belongs to neither part. -/
def Text.cutAt (separator : Char) (text : String) : String × String :=
  let before := text.toList.takeWhile (· != separator)
  (String.ofList before, String.ofList (text.toList.drop (before.length + 1)))

/-- The parts of a text between the occurrences of a character. -/
def Text.partsAt (separator : Char) (text : String) : List String :=
  (stretches (· == separator) text.toList).map String.ofList

end Splice
