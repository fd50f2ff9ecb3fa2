import Mathlib.Data.List.TakeWhile
import Splice.Text.Separated

/-!
# Texts put together with separators

A text that is made of parts with a separator between them is cut into the same parts again, if no
part has the separator in it (`Text.partsAt_intercalate`). A text that is cut at the first separator
gives what stands before and behind it (`Text.cutAt_append`).
-/

namespace Splice

theorem stretches_eq_splitOnP {α : Type} (separates : α → Bool) (items : List α) :
    stretches separates items = items.splitOnP separates := by
  induction items with
  | nil => rfl
  | cons a rest ih =>
    obtain ⟨first, others, found⟩ := List.exists_cons_of_ne_nil (List.splitOnP_ne_nil separates rest)
    rw [stretches_cons, ih, List.splitOnP_cons_eq_if_modifyHead, found]
    rfl

/-- There is always a stretch. -/
theorem exists_stretches_eq_cons {α : Type} (separates : α → Bool) (items : List α) :
    ∃ first others, stretches separates items = first :: others := by
  refine List.exists_cons_of_ne_nil fun none => ?_
  simpa [none] using length_stretches separates items

/-- No separator is in a stretch. -/
theorem separates_of_mem_stretches {α : Type} {separates : α → Bool} {items stretch : List α}
    (listed : stretch ∈ stretches separates items) {a : α} (mem : a ∈ stretch) :
    separates a = false := by
  induction items generalizing stretch with
  | nil =>
    rw [List.mem_singleton.1 listed] at mem
    cases mem
  | cons b rest ih =>
    rw [stretches_cons] at listed
    unfold addToStretches at listed
    split at listed
    case isTrue =>
      rcases List.mem_cons.1 listed with rfl | listed
      · cases mem
      · exact ih listed mem
    case isFalse plain =>
      split at listed
      case h_1 empty =>
        rw [List.mem_singleton.1 listed, List.mem_singleton] at mem
        rwa [mem, ← Bool.not_eq_true]
      case h_2 first others found =>
        rw [found] at ih
        rcases List.mem_cons.1 listed with rfl | listed
        · rcases List.mem_cons.1 mem with rfl | mem
          · rwa [← Bool.not_eq_true]
          · exact ih List.mem_cons_self mem
        · exact ih (List.mem_cons_of_mem _ listed) mem

namespace Text

theorem partsAt_of_not_mem {c : Char} {text : String} (apart : c ∉ text.toList) :
    partsAt c text = [text] := by
  have whole : ∀ a ∈ text.toList, (a == c) = false := fun a mem =>
    beq_eq_false_iff_ne.2 fun same => apart (same ▸ mem)
  rw [partsAt, stretches_eq_splitOnP, List.splitOnP_eq_singleton whole, List.map_singleton,
    String.ofList_toList]

theorem partsAt_append {c : Char} {separator before after : String} (one : separator.toList = [c])
    (apart : c ∉ before.toList) :
    partsAt c (before ++ separator ++ after) = before :: partsAt c after := by
  have whole : ∀ a ∈ before.toList, (a == c) = false := fun a mem =>
    beq_eq_false_iff_ne.2 fun same => apart (same ▸ mem)
  have text : (before ++ separator ++ after).toList = before.toList ++ c :: after.toList := by
    simp [one]
  rw [partsAt, partsAt, stretches_eq_splitOnP, stretches_eq_splitOnP, text,
    List.splitOnP_append_cons_of_forall_mem whole c (beq_self_eq_true c), List.map_cons,
    String.ofList_toList]

/-- Parts with a separator between them are read back, if none of them has the separator in it. -/
theorem partsAt_intercalate {c : Char} {separator : String} {parts : List String}
    (one : separator.toList = [c]) (filled : parts ≠ []) (apart : ∀ part ∈ parts, c ∉ part.toList) :
    partsAt c (separator.intercalate parts) = parts := by
  induction parts with
  | nil => exact absurd rfl filled
  | cons part rest ih =>
    rw [List.forall_mem_cons] at apart
    cases rest with
    | nil => rw [String.intercalate_singleton, partsAt_of_not_mem apart.1]
    | cons next rest =>
      rw [String.intercalate_cons_cons, partsAt_append one apart.1,
        ih (List.cons_ne_nil _ _) apart.2]

/-- What stands in parts with a separator between them is the separator's or one of the parts'. -/
theorem mem_of_mem_intercalate {c : Char} {separator : String} {parts : List String}
    (mem : c ∈ (separator.intercalate parts).toList) :
    c ∈ separator.toList ∨ ∃ part ∈ parts, c ∈ part.toList := by
  induction parts with
  | nil => simp at mem
  | cons part rest ih =>
    cases rest with
    | nil =>
      rw [String.intercalate_singleton] at mem
      exact .inr ⟨part, List.mem_singleton_self part, mem⟩
    | cons next rest =>
      rw [String.intercalate_cons_cons, String.toList_append, String.toList_append,
        List.mem_append, List.mem_append] at mem
      rcases mem with (here | between) | later
      · exact .inr ⟨part, List.mem_cons_self, here⟩
      · exact .inl between
      · exact (ih later).imp_right fun ⟨other, inside, mem⟩ =>
          ⟨other, List.mem_cons_of_mem _ inside, mem⟩

/-! ## Cutting once -/

theorem cutAt_of_not_mem {c : Char} {text : String} (apart : c ∉ text.toList) :
    cutAt c text = (text, "") := by
  have whole : text.toList.takeWhile (· != c) = text.toList := by
    refine List.takeWhile_eq_self_iff.2 fun a mem => ?_
    rw [bne_iff_ne]
    rintro rfl
    exact apart mem
  rw [cutAt, whole, String.ofList_toList, List.drop_of_length_le (Nat.le_succ _)]

theorem cutAt_append {c : Char} {separator before after : String} (one : separator.toList = [c])
    (apart : c ∉ before.toList) : cutAt c (before ++ separator ++ after) = (before, after) := by
  have text : (before ++ separator ++ after).toList = before.toList ++ c :: after.toList := by
    simp [one]
  have first : (before.toList ++ c :: after.toList).takeWhile (· != c) = before.toList := by
    rw [List.takeWhile_append_of_pos, List.takeWhile_cons_of_neg (by simp), List.append_nil]
    intro a mem
    rw [bne_iff_ne]
    rintro rfl
    exact apart mem
  rw [cutAt, text, first, String.ofList_toList, List.drop_append, Nat.add_sub_cancel_left]
  simp

end Text

end Splice
