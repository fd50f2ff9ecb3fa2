import Mathlib.Data.List.Nodup
import Mathlib.Data.List.Perm.Subperm
import Mathlib.Order.Bounds.Basic
import Splice.Compile.Labels
import Splice.Plan.Basic

/-!
# Labels that are handed out

A label that is handed out is new, and from then on in use (`allocate_fst_not_mem`,
`allocate_used`). No such label has a colon (`Labels.Sound.allocate`), and the labels of inputs'
streams have one, so the two sorts never meet.
-/

namespace Splice

theorem toDigits_ten_injective {m n : Nat} (h : Nat.toDigits 10 m = Nat.toDigits 10 n) : m = n := by
  simpa using congrArg (Nat.ofDigitChars 10 · 0) h

namespace Labels

/-! ## Fresh labels -/

theorem label_injective (stem : String) : Function.Injective (label stem) := by
  intro m n same
  have lists : stem.toList ++ Nat.toDigits 10 m = stem.toList ++ Nat.toDigits 10 n := by
    simpa [label, Nat.toString_eq_ofList_toDigits] using congrArg String.toList same
  exact toDigits_ten_injective (List.append_cancel_left lists)

/-- Among one label more than there are in use, one is free. -/
theorem exists_free (l : Labels) (stem : String) (n : Nat) :
    ∃ i ∈ List.range' n (l.used.length + 1), label stem i ∉ l.used := by
  by_contra none
  have all : (List.range' n (l.used.length + 1)).map (label stem) ⊆ l.used := by
    intro taken mem
    obtain ⟨i, inside, rfl⟩ := List.mem_map.1 mem
    by_contra free
    exact none ⟨i, inside, free⟩
  have distinct : ((List.range' n (l.used.length + 1)).map (label stem)).Nodup :=
    List.Nodup.map (label_injective stem) (List.nodup_range' ..)
  have few := (List.subperm_of_subset distinct all).length_le
  rw [List.length_map, List.length_range'] at few
  omega

/-- What is found is the least number from a number on whose label is not in use. -/
theorem isLeast_leastFree (l : Labels) (stem : String) (n : Nat) :
    IsLeast {i | n ≤ i ∧ label stem i ∉ l.used} (l.leastFree stem n) := by
  obtain ⟨i, inside, free⟩ := l.exists_free stem n
  have found : ((List.range' n (l.used.length + 1)).find? fun i => label stem i ∉ l.used).isSome :=
    List.find?_isSome.2 ⟨i, inside, by simpa using free⟩
  obtain ⟨first, hit⟩ := Option.isSome_iff_exists.1 found
  rw [leastFree, hit, Option.getD_some]
  obtain ⟨unused, place, below⟩ := List.find?_range'_eq_some.1 hit
  refine ⟨⟨(List.mem_range'_1.1 place).1, by simpa using unused⟩, fun j hj => ?_⟩
  by_contra less
  exact hj.2 (by simpa using below j hj.1 (Nat.lt_of_not_le less))

theorem label_leastFree_not_mem (l : Labels) (stem : String) (n : Nat) :
    label stem (l.leastFree stem n) ∉ l.used :=
  (l.isLeast_leastFree stem n).1.2

theorem allocate_fst_not_mem (l : Labels) (stem : String) : (l.allocate stem).1 ∉ l.used :=
  l.label_leastFree_not_mem stem _

theorem allocate_used (l : Labels) (stem : String) :
    (l.allocate stem).2.used = (l.allocate stem).1 :: l.used := rfl

/-! ## Labels without a colon -/

/-- A label without a colon; the labels of inputs' streams have one. -/
def Plain (label : String) : Prop := ':' ∉ label.toList

instance (label : String) : Decidable (Plain label) :=
  inferInstanceAs (Decidable (':' ∉ label.toList))

theorem plain_label {stem : String} (h : Plain stem) (n : Nat) : Plain (label stem n) := by
  intro mem
  rw [label, String.toList_append, List.mem_append] at mem
  rcases mem with mem | mem
  · exact h mem
  · rw [Nat.toString_eq_ofList_toDigits, String.toList_ofList] at mem
    exact absurd (Nat.isDigit_of_mem_toDigits (by decide) (by decide) mem) (by decide)

/-- The labels in use are all different, and none of them has a colon. -/
structure Sound (l : Labels) : Prop where
  nodup : l.used.Nodup
  plain : ∀ label ∈ l.used, Plain label

theorem sound_start : start.Sound :=
  ⟨by decide, by simp [start, reserving, video, audio, Plain]⟩

theorem Sound.allocate {l : Labels} (h : l.Sound) {stem : String} (plain : Plain stem) :
    (l.allocate stem).2.Sound := by
  refine ⟨?_, ?_⟩
  · rw [allocate_used]
    exact List.nodup_cons.2 ⟨l.allocate_fst_not_mem stem, h.nodup⟩
  · rw [allocate_used]
    intro label mem
    rcases List.mem_cons.1 mem with rfl | mem
    · exact plain_label plain _
    · exact h.plain label mem

end Labels

/-! ## The labels of inputs' streams -/

/-- The label of the picture of the input with a number. -/
def picturePad (k : Nat) : String := toString k ++ ":v"

/-- The label of the sound of the input with a number. -/
def soundPad (k : Nat) : String := toString k ++ ":a"

namespace InputDeclaration

theorem videoPad_eq {d : InputDeclaration} {k : Nat} (h : d.index = k) :
    d.videoPad = picturePad k := by
  rw [videoPad, h]
  rfl

theorem audioPad_eq {d : InputDeclaration} {k : Nat} (h : d.index = k) :
    d.audioPad = soundPad k := by
  rw [audioPad, h]
  rfl

end InputDeclaration

theorem toList_picturePad (k : Nat) : (picturePad k).toList = Nat.toDigits 10 k ++ [':', 'v'] := by
  simp [picturePad]

theorem toList_soundPad (k : Nat) : (soundPad k).toList = Nat.toDigits 10 k ++ [':', 'a'] := by
  simp [soundPad]

theorem picturePad_injective : Function.Injective picturePad := by
  intro m n same
  have lists := congrArg String.toList same
  rw [toList_picturePad, toList_picturePad] at lists
  exact toDigits_ten_injective (List.append_cancel_right lists)

theorem soundPad_injective : Function.Injective soundPad := by
  intro m n same
  have lists := congrArg String.toList same
  rw [toList_soundPad, toList_soundPad] at lists
  exact toDigits_ten_injective (List.append_cancel_right lists)

theorem picturePad_ne_soundPad (m n : Nat) : picturePad m ≠ soundPad n := by
  intro same
  have last := congrArg (fun label : String => label.toList.getLast?) same
  rw [toList_picturePad, toList_soundPad] at last
  simp at last

theorem not_plain_picturePad (k : Nat) : ¬ Labels.Plain (picturePad k) := by
  simp [Labels.Plain, toList_picturePad]

theorem not_plain_soundPad (k : Nat) : ¬ Labels.Plain (soundPad k) := by
  simp [Labels.Plain, toList_soundPad]

end Splice
