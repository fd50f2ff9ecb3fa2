import Splice.Proofs.Number.Numeral
import Splice.Proofs.Surroundings.Run
import Splice.Storage.Basic

/-!
# Names that were never used before

A unique name starts with a front: a label, the time and twelve digits of an id. As long as ids have
no more than eight digits, names with the same label and time have the same id if they are the same
(`Storage.front_append_inj`).

In a *fresh* world no name on the disk starts with a front of one of the next ids (`World.Fresh`).
-/

namespace Splice

/-! ## Extensions -/

namespace Text

theorem slash_lt_of_mem_capitals {row : Nat × Nat × Nat × Int} (mem : row ∈ capitals) :
    0x2F < row.1 + row.2.2.2 := by
  have all : ∀ row ∈ capitals, 0x2F < row.1 + row.2.2.2 := by decide +kernel
  exact all row mem

theorem smallLetter_eq_slash {c : Char} (h : smallLetter c = '/') : c = '/' := by
  unfold smallLetter at h
  split at h
  case isTrue =>
    unfold Char.toLower at h
    split at h
    case isTrue capital =>
      have code := congrArg (fun c => c.val.toNat) h
      have := UInt32.le_iff_toNat_le.1 capital.1
      have := UInt32.le_iff_toNat_le.1 capital.2
      simp at *
      omega
    case isFalse => exact h
  case isFalse large =>
    split at h
    case h_1 first last step shift found =>
      have above := slash_lt_of_mem_capitals (List.mem_of_find?_eq_some found)
      have within := List.find?_some found
      simp only [Bool.and_eq_true, decide_eq_true_eq] at within
      by_cases valid : (c.toNat + shift).toNat.isValidChar
      · rw [Char.ofNat, dif_pos valid] at h
        have code : (c.toNat + shift).toNat = 0x2F := congrArg Char.toNat h
        dsimp only at above
        omega
      · rw [Char.ofNat, dif_neg valid] at h
        cases h
    case h_2 => exact h

theorem slash_not_mem_lowerAfter {before rest : List Char} (whole : '/' ∉ rest) :
    '/' ∉ lowerAfter before rest := by
  induction rest generalizing before with
  | nil => exact List.not_mem_nil
  | cons c rest ih =>
    rw [List.mem_cons, not_or] at whole
    unfold lowerAfter
    dsimp only
    rw [List.mem_append, not_or]
    refine ⟨?_, ih whole.2⟩
    split
    · split <;> decide
    · split
      · decide
      · rw [List.mem_singleton]
        exact fun small => whole.1 (smallLetter_eq_slash small.symm).symm

theorem slash_not_mem_lower {s : String} (whole : '/' ∉ s.toList) : '/' ∉ (lower s).toList := by
  rw [lower, String.toList_ofList]
  exact slash_not_mem_lowerAfter whole

/-! ## Digits of ids -/

theorem length_hexDigits (width n : Nat) : (hexDigits width n).length = width := by
  simp [hexDigits]

theorem digitChar_inj {a b : Nat} (small : a < 16) (small' : b < 16)
    (same : Nat.digitChar a = Nat.digitChar b) : a = b := by
  have finite : ∀ i j : Fin 16, Nat.digitChar i = Nat.digitChar j → i = j := by decide
  exact congrArg Fin.val (finite ⟨a, small⟩ ⟨b, small'⟩ same)

/-- Numbers with the same last digits agree up to them. -/
theorem mod_eq_of_digits {m n width : Nat}
    (same : ∀ i < width, m / 16 ^ i % 16 = n / 16 ^ i % 16) : m % 16 ^ width = n % 16 ^ width := by
  induction width with
  | zero => rw [Nat.pow_zero, Nat.mod_one, Nat.mod_one]
  | succ width ih =>
    rw [Nat.mod_pow_succ, Nat.mod_pow_succ, same width (Nat.lt_succ_self width),
      ih fun i below => same i (Nat.lt_succ_of_lt below)]

theorem hexDigits_inj {width m n : Nat} (few : m < 16 ^ width) (few' : n < 16 ^ width)
    (same : hexDigits width m = hexDigits width n) : m = n := by
  have digits : ∀ i < width, m / 16 ^ i % 16 = n / 16 ^ i % 16 := by
    intro i below
    have power : twoTo (4 * i) = 16 ^ i := Nat.pow_mul 2 4 i
    have digit := List.map_inj_left.1 same i (by simpa using below)
    rw [power] at digit
    exact digitChar_inj (Nat.mod_lt _ (by decide)) (Nat.mod_lt _ (by decide)) digit
  have := mod_eq_of_digits digits
  rwa [Nat.mod_eq_of_lt few, Nat.mod_eq_of_lt few'] at this

theorem slash_not_mem_hexDigits (width n : Nat) : '/' ∉ hexDigits width n := by
  have finite : ∀ i : Fin 16, Nat.digitChar i ≠ '/' := by decide
  intro mem
  obtain ⟨i, -, same⟩ := List.mem_map.1 mem
  exact finite ⟨_, Nat.mod_lt _ (by decide)⟩ same

end Text

/-- The digits of an id that go into names. -/
theorem World.take_idText (n : Nat) :
    (World.idText n).toList.take 12 = Text.hexDigits 8 n ++ (Text.hexDigits 8 n).take 4 := by
  rw [World.idText, String.toList_ofList, List.append_assoc, List.append_assoc,
    List.take_append, Text.length_hexDigits, List.take_of_length_le (by
      rw [Text.length_hexDigits]; decide), List.take_append, Text.length_hexDigits]
  simp

/-! ## Fronts -/

namespace Storage

/-- What stands in front of the extension in a unique name. -/
def front (label : String) (time : Int) (n : Nat) : String :=
  label ++ "-" ++ toString time ++ "-" ++ String.ofList ((World.idText n).toList.take 12)

theorem front_append_inj {label : String} {time : Int} {m n : Nat} (few : m < 16 ^ 8)
    (few' : n < 16 ^ 8) {rest rest' : List Char}
    (same : (front label time m).toList ++ rest = (front label time n).toList ++ rest') :
    m = n := by
  simp only [front, World.take_idText, String.toList_append, String.toList_ofList,
    List.append_assoc, List.append_cancel_left_eq] at same
  exact Text.hexDigits_inj few few' (List.append_inj_left same (by
    rw [Text.length_hexDigits, Text.length_hexDigits]))

/-- A front and an extension make a name. -/
theorem isName_front_append {label extension : String} (plain : '/' ∉ label.toList)
    (whole : '/' ∉ extension.toList) (time : Int) (n : Nat) :
    Path.IsName (front label time n ++ extension) := by
  have dash : '-' ∈ (front label time n ++ extension).toList := by simp [front]
  have other (name : String) (without : '-' ∉ name.toList) :
      front label time n ++ extension ≠ name := fun same => without (same ▸ dash)
  refine ⟨other "" (by decide), other "." (by decide), other ".." (by decide), ?_⟩
  have number : '/' ∉ (toString time).toList := fun mem => by
    rcases mem_toString_int mem with digit | minus
    · exact absurd digit (by decide)
    · exact absurd minus (by decide)
  have digits := Text.slash_not_mem_hexDigits 8 n
  have first : '/' ∉ (Text.hexDigits 8 n).take 4 := fun mem => digits (List.mem_of_mem_take mem)
  have dash : '/' ∉ "-".toList := by decide
  simp only [front, World.take_idText, String.toList_append, String.toList_ofList, List.mem_append,
    plain, number, digits, first, whole, dash, or_false, not_false_iff]

end Storage

/-! ## Fresh worlds -/

/-- Whether the names with some labels and the next ids were never used: there are ids enough, and
no name on the disk starts with a front of them. -/
structure World.Fresh (labels : List String) (count : Nat) (w : World) : Prop where
  few : w.shared.idsGiven + count < 16 ^ 8
  unused : ∀ place name, w.shared.disk.at? place ≠ none → place.getLast? = some name →
    ∀ label ∈ labels, ∀ time n, w.shared.idsGiven < n → n ≤ w.shared.idsGiven + count →
      ¬ (Storage.front label time n).toList <+: name.toList

theorem World.Fresh.mono {labels : List String} {count less : Nat} {w : World}
    (fresh : w.Fresh labels count) (le : less ≤ count) : w.Fresh labels less where
  few := Nat.lt_of_le_of_lt (Nat.add_le_add_left le _) fresh.few
  unused place name there last label mem time n above below :=
    fresh.unused place name there last label mem time n above
      (Nat.le_trans below (Nat.add_le_add_left le _))

/-- A world is fresh if no name on its disk starts with one of the labels. -/
theorem World.fresh_of_unlabelled {labels : List String} {count : Nat} {w : World}
    (few : w.shared.idsGiven + count < 16 ^ 8)
    (unlabelled : ∀ row ∈ (Disk.root, Node.directory) :: w.shared.disk.nodes,
      ∀ name ∈ row.1.getLast?, ∀ label ∈ labels, ¬ label.toList <+: name.toList) :
    w.Fresh labels count where
  few
  unused place name there last label mem time n _ _ starts := by
    have front : label.toList <+: name.toList := by
      refine List.IsPrefix.trans ?_ starts
      simp only [Storage.front, String.toList_append, List.append_assoc]
      exact List.prefix_append _ _
    unfold Disk.at? at there
    split at there
    case isTrue start =>
      rcases start with rfl | rfl
      · cases last
      · exact unlabelled _ List.mem_cons_self name last label mem front
    case isFalse =>
      have listed := (Table.get?_eq_none_iff _ _).not.1 there
      simp only [ne_eq, not_forall, not_not] at listed
      obtain ⟨row, inside, rfl⟩ := listed
      exact unlabelled row (List.mem_cons_of_mem _ inside) name last label mem front

/-! ## Giving names out -/

/-- The time in whole milliseconds, if it is a number. -/
def World.time (w : World) : Except Failure Int :=
  match Binary64.truncate (w.shared.clock * 1000.0) with
  | .ok n => .ok n
  | .error why => .error (.fault (.noInteger why))

theorem World.isCancellation_of_time {w : World} {failure : Failure} (h : w.time = .error failure) :
    failure.isCancellation = false := by
  unfold World.time at h
  split at h
  case h_1 => cases h
  case h_2 => cases h; rfl

theorem World.exists_fault_of_time {w : World} {failure : Failure} (h : w.time = .error failure) :
    ∃ fault, failure = .fault fault := by
  unfold World.time at h
  split at h
  case h_1 => cases h
  case h_2 =>
    cases h
    exact ⟨_, rfl⟩

/-- The world with one more id given out. -/
def World.afterId (w : World) : World :=
  { w with shared := { w.shared with idsGiven := w.shared.idsGiven + 1 } }

namespace Storage

open Act

theorem run_milliseconds (w : World) : w.run milliseconds.run = (w.time, w) := by
  unfold milliseconds World.time
  rw [ExceptT.run_bind, World.run_bind]
  show w.run (ExceptT.run (match Binary64.truncate (w.shared.clock * 1000.0) with
    | .ok n => (pure n : Act Int)
    | .error why => throw (.fault (.noInteger why)))) = _
  cases Binary64.truncate (w.shared.clock * 1000.0) <;> rfl

theorem ensures_milliseconds {w : World} {post : Except Failure Int → World → Prop} :
    milliseconds.Ensures w post ↔ post w.time w := by
  unfold Ensures
  rw [run_milliseconds]

theorem ensures_uniqueName {w : World} {label extension : String}
    {post : Except Failure String → World → Prop} :
    (uniqueName label extension).Ensures w post ↔
      match w.time with
      | .ok time => post (.ok (front label time (w.shared.idsGiven + 1) ++ extension)) w.afterId
      | .error e => post (.error e) w := by
  unfold uniqueName
  rw [ensures_bind, ensures_milliseconds]
  cases w.time <;> rfl

end Storage

end Splice
