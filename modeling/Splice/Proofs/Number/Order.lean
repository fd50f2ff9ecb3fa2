import Splice.Proofs.Number.Sum

/-!
# The order of doubles is that of their values

`Binary64.level` places a double among the rational numbers: a finite one at its exact value, the
infinities at the first powers of two that no finite double reaches. What is no number has no place.
The three comparisons of doubles are then the comparisons of their places (`Binary64.float_le_level`,
`float_lt_level`, `float_beq_level`), and whatever holds of rational numbers can be used of them.
-/

open Float.Model (UnpackedFloat Format)
open Float.Model.UnpackedFloat (Sign unpack)

namespace Splice

namespace Binary64

/-! ## Places -/

/-- The first power of two above the finite doubles. -/
@[irreducible]
def beyond : ℚ := 2 ^ (1024 : ℤ)

theorem beyond_pos : 0 < beyond := by
  unfold beyond
  exact two_zpow_pos 1024

/-- The place of what a double stands for. -/
def place : Binary64 → Option ℚ
  | .nan => none
  | .infinite negative => some (if negative then -beyond else beyond)
  | .finite negative m e => some (if negative then -(m * 2 ^ e) else m * 2 ^ e)

/-- The place of a double among the rational numbers. -/
def level (x : Float) : Option ℚ := place (ofFloat x)

theorem level_of_value? {x : Float} {v : ℚ} (h : value? x = some v) : level x = some v := by
  unfold value? at h
  unfold level
  cases parts : ofFloat x <;> simp_all [place]

theorem level_of_unpack {x : Float} {u : UnpackedFloat} (h : x.toModel.unpack = u) :
    level x = place (ofUnpacked u) := by
  rw [level, ofFloat_eq_ofUnpacked, h]

/-! ## Finite doubles -/

theorem exponent_le_of_unpack {x : Float} {sign : Sign} {m : Nat} {e : Int} {positive : 0 < m}
    (h : x.toModel.unpack = .finite sign m e positive) : e ≤ 971 := by
  have parts := ofFloat_eq_ofUnpacked x
  rw [h, ofUnpacked_finite] at parts
  unfold ofFloat at parts
  have biased : x.toBits.toNat / twoTo 52 % 2048 < 2048 := Nat.mod_lt _ (by decide)
  dsimp only at parts
  split at parts
  · split at parts <;> cases parts
  · rename_i ordinary
    rw [beq_iff_eq] at ordinary
    split at parts <;> obtain ⟨-, -, rfl⟩ := Binary64.finite.inj parts <;> omega

/-- The parts of a finite double, zeros included. -/
theorem bounds_of_ofFloat {x : Float} {negative : Bool} {m : Nat} {e : Int}
    (h : ofFloat x = .finite negative m e) : m < 2 ^ 53 ∧ e ≤ 971 := by
  rw [ofFloat_eq_ofUnpacked] at h
  cases unpacked : x.toModel.unpack with
  | notANumber | infinity =>
    rw [unpacked] at h
    cases h
  | zero =>
    rw [unpacked] at h
    cases h
    decide
  | finite =>
    have exponent := exponent_le_of_unpack unpacked
    have mantissa := (canonical_of_unpack unpacked).bound
    rw [unpacked] at h
    cases h
    exact ⟨mantissa, exponent⟩

theorem Canonical.value_pos {m : Nat} {e : Int} (c : Canonical m e) : (0 : ℚ) < m * 2 ^ e :=
  mul_pos (Nat.cast_pos.2 c.positive) (two_zpow_pos e)

theorem Canonical.value_lt {m : Nat} {e : Int} (c : Canonical m e) :
    (m * 2 ^ e : ℚ) < 2 ^ (e + 53) := by
  rw [add_comm, two_zpow_add]
  exact mul_lt_mul_of_pos_right (by exact_mod_cast c.bound) (two_zpow_pos e)

theorem Canonical.two_zpow_le_mantissa {m : Nat} {e : Int} (c : Canonical m e) (more : -1074 < e) :
    (2 : ℚ) ^ (52 : ℤ) ≤ m := by
  have full := c.full.resolve_left more.ne'
  exact_mod_cast full

/-- A mantissa and an exponent are those of a double exactly if their value is not beyond. -/
theorem Canonical.value_lt_beyond_iff {m : Nat} {e : Int} (c : Canonical m e) :
    (m * 2 ^ e : ℚ) < beyond ↔ e ≤ 971 := by
  constructor
  · intro less
    by_contra! more
    have full := c.two_zpow_le_mantissa (by omega)
    refine absurd less (not_lt.2 ?_)
    have whole : (1024 : ℤ) = 52 + 972 := by norm_num
    calc beyond = 2 ^ (52 : ℤ) * 2 ^ (972 : ℤ) := by rw [beyond, whole, two_zpow_add]
      _ ≤ m * 2 ^ e :=
          mul_le_mul full (two_zpow_le (by omega)) (two_zpow_pos _).le (Nat.cast_nonneg m)
  · intro fits
    unfold beyond
    exact c.value_lt.trans_le (two_zpow_le (by omega))

/-- Of two doubles the one with the greater exponent is greater, whatever the mantissas. -/
theorem Canonical.value_lt_of_exponent_lt {m m' : Nat} {e e' : Int} (c : Canonical m e)
    (c' : Canonical m' e') (less : e < e') : (m * 2 ^ e : ℚ) < m' * 2 ^ e' := by
  have least := c.least
  have full := c'.two_zpow_le_mantissa (by omega)
  calc (m * 2 ^ e : ℚ) < 2 ^ (e + 53) := c.value_lt
    _ ≤ 2 ^ ((52 : ℤ) + e') := two_zpow_le (by omega)
    _ = 2 ^ (52 : ℤ) * 2 ^ e' := two_zpow_add _ _
    _ ≤ m' * 2 ^ e' := mul_le_mul_of_nonneg_right full (two_zpow_pos _).le

/-- Exponents, and mantissas after them, are ordered as the values are. -/
theorem Canonical.compare_eq {m m' : Nat} {e e' : Int} (c : Canonical m e) (c' : Canonical m' e') :
    (compare e e').then (compare m m') = compare (m * 2 ^ e : ℚ) (m' * 2 ^ e') := by
  rcases lt_trichotomy e e' with less | rfl | more
  · rw [compare_lt_iff_lt.2 less, compare_lt_iff_lt.2 (c.value_lt_of_exponent_lt c' less)]
    rfl
  · have scaled {a b : Nat} (less : a < b) : (a * 2 ^ e : ℚ) < b * 2 ^ e :=
      mul_lt_mul_of_pos_right (Nat.cast_lt.2 less) (two_zpow_pos e)
    rw [compare_eq_iff_eq.2 rfl, Ordering.eq_then]
    rcases lt_trichotomy m m' with less | rfl | more
    · rw [compare_lt_iff_lt.2 less, compare_lt_iff_lt.2 (scaled less)]
    · rw [compare_eq_iff_eq.2 rfl, compare_eq_iff_eq.2 rfl]
    · rw [compare_gt_iff_gt.2 more, compare_gt_iff_gt.2 (scaled more)]
  · rw [compare_gt_iff_gt.2 more, compare_gt_iff_gt.2 (c'.value_lt_of_exponent_lt c more)]
    rfl

/-- No value of a double is beyond them all. -/
theorem abs_value_lt {x : Float} {v : ℚ} (h : value? x = some v) : |v| < beyond := by
  unfold value? at h
  rw [ofFloat_eq_ofUnpacked] at h
  cases unpacked : x.toModel.unpack with
  | notANumber | infinity =>
    rw [unpacked] at h
    cases h
  | zero s =>
    rw [unpacked] at h
    cases s <;> cases h <;> simpa using beyond_pos
  | finite s m e =>
    have c := canonical_of_unpack unpacked
    have inside := c.value_lt_beyond_iff.2 (exponent_le_of_unpack unpacked)
    rw [unpacked] at h
    cases s <;> cases h
    · show |-(m * 2 ^ e : ℚ)| < beyond
      rwa [abs_neg, abs_of_pos c.value_pos]
    · show |(m * 2 ^ e : ℚ)| < beyond
      rwa [abs_of_pos c.value_pos]

/-! ## Comparisons -/

theorem compare_neg_neg (a b : ℚ) : compare (-a) (-b) = (compare a b).swap := by
  rcases lt_trichotomy a b with less | rfl | more
  · rw [compare_lt_iff_lt.2 less, compare_gt_iff_gt.2 (neg_lt_neg less)]
    rfl
  · rw [compare_eq_iff_eq.2 rfl, compare_eq_iff_eq.2 rfl]
    rfl
  · rw [compare_gt_iff_gt.2 more, compare_lt_iff_lt.2 (neg_lt_neg more)]
    rfl

/-- An unpacked number is one that a double unpacks to. -/
def Fits : UnpackedFloat → Prop
  | .finite _ m e _ => Canonical m e ∧ e ≤ 971
  | _ => True

theorem fits_unpack (x : Float) : Fits x.toModel.unpack := by
  cases unpacked : x.toModel.unpack with
  | finite => exact ⟨canonical_of_unpack unpacked, exponent_le_of_unpack unpacked⟩
  | _ => trivial

theorem place_zero (s : Sign) : place (ofUnpacked (.zero s)) = some 0 := by
  cases s <;> simp [ofUnpacked, place]

theorem some_lt_eq_compare {a b : ℚ} (h : a < b) : some Ordering.lt = some (compare a b) :=
  congrArg some (compare_lt_iff_lt.2 h).symm

theorem some_gt_eq_compare {a b : ℚ} (h : b < a) : some Ordering.gt = some (compare a b) :=
  congrArg some (compare_gt_iff_gt.2 h).symm

theorem some_eq_eq_compare (a : ℚ) : some Ordering.eq = some (compare a a) :=
  congrArg some (compare_eq_iff_eq.2 rfl).symm

/-- How the places of two unpacked numbers compare, if both have one. -/
def comparison (u u' : UnpackedFloat) : Option Ordering :=
  (place (ofUnpacked u)).bind fun a => (place (ofUnpacked u')).map (compare a)

theorem compare_infinity (s : Sign) {u : UnpackedFloat} (h : Fits u) :
    (UnpackedFloat.infinity s).compare u = comparison (.infinity s) u := by
  have above := beyond_pos
  cases u with
  | notANumber => cases s <;> rfl
  | infinity s' =>
    cases s <;> cases s'
    · exact some_eq_eq_compare (-beyond)
    · exact some_lt_eq_compare (neg_lt_self above)
    · exact some_gt_eq_compare (neg_lt_self above)
    · exact some_eq_eq_compare beyond
  | zero s' =>
    rw [comparison, place_zero]
    cases s
    · exact some_lt_eq_compare (neg_lt_zero.2 above)
    · exact some_gt_eq_compare above
  | finite s' m e =>
    have below := h.1.value_lt_beyond_iff.2 h.2
    have positive := h.1.value_pos
    cases s <;> cases s'
    · exact some_lt_eq_compare (neg_lt_neg below)
    · exact some_lt_eq_compare (show -beyond < m * 2 ^ e by linarith)
    · exact some_gt_eq_compare (show -(m * 2 ^ e : ℚ) < beyond by linarith)
    · exact some_gt_eq_compare below

theorem compare_zero (s : Sign) {u : UnpackedFloat} (h : Fits u) :
    (UnpackedFloat.zero s).compare u = comparison (.zero s) u := by
  have above := beyond_pos
  rw [comparison, place_zero]
  cases u with
  | notANumber => rfl
  | infinity s' =>
    cases s'
    · exact some_gt_eq_compare (neg_lt_zero.2 above)
    · exact some_lt_eq_compare above
  | zero s' =>
    rw [place_zero]
    exact some_eq_eq_compare 0
  | finite s' m e =>
    have positive := h.1.value_pos
    cases s'
    · exact some_gt_eq_compare (neg_lt_zero.2 positive)
    · exact some_lt_eq_compare positive

theorem compare_finite (s : Sign) {m : Nat} {e : Int} (c : Canonical m e) (low : e ≤ 971)
    {u : UnpackedFloat} (h : Fits u) :
    (UnpackedFloat.finite s m e c.positive).compare u = comparison (.finite s m e c.positive) u := by
  have below := c.value_lt_beyond_iff.2 low
  have positive := c.value_pos
  cases u with
  | notANumber => cases s <;> rfl
  | infinity s' =>
    cases s <;> cases s'
    · exact some_gt_eq_compare (neg_lt_neg below)
    · exact some_lt_eq_compare (show -(m * 2 ^ e : ℚ) < beyond by linarith)
    · exact some_gt_eq_compare (show -beyond < m * 2 ^ e by linarith)
    · exact some_lt_eq_compare below
  | zero s' =>
    rw [comparison, place_zero]
    cases s
    · exact some_lt_eq_compare (neg_lt_zero.2 positive)
    · exact some_gt_eq_compare positive
  | finite s' m' e' =>
    have positive' := h.1.value_pos
    cases s <;> cases s'
    · exact congrArg some ((congrArg _ (c.compare_eq h.1)).trans (compare_neg_neg _ _).symm)
    · exact some_lt_eq_compare (show -(m * 2 ^ e : ℚ) < m' * 2 ^ e' by linarith)
    · exact some_gt_eq_compare (show -(m' * 2 ^ e' : ℚ) < m * 2 ^ e by linarith)
    · exact congrArg some (c.compare_eq h.1)

/-- Two unpacked numbers are compared as their places are, if they have one. -/
theorem compare_ofUnpacked {u u' : UnpackedFloat} (h : Fits u) (h' : Fits u') :
    u.compare u' = comparison u u' := by
  cases u with
  | notANumber => rfl
  | infinity s => exact compare_infinity s h'
  | zero s => exact compare_zero s h'
  | finite s m e => exact compare_finite s h.1 h.2 h'

/-- Two doubles are compared as their places are, unless one of them is no number. -/
theorem compare_unpack (x y : Float) :
    x.toModel.unpack.compare y.toModel.unpack =
      (level x).bind fun a => (level y).map (compare a) := by
  rw [level_of_unpack rfl, level_of_unpack rfl]
  exact compare_ofUnpacked (fits_unpack x) (fits_unpack y)

/-- **A double is at most another exactly if both have a place, and the one is at most the other.** -/
theorem float_le_level {x y : Float} :
    x ≤ y ↔ ∃ a ∈ level x, ∃ b ∈ level y, a ≤ b := by
  rw [float_le_iff, UnpackedFloat.le, compare_unpack]
  cases level x with
  | none => simp
  | some a => cases level y <;> simp [Ordering.isLE_iff_ne_gt, compare_gt_iff_gt]

theorem float_lt_level {x y : Float} :
    x < y ↔ ∃ a ∈ level x, ∃ b ∈ level y, a < b := by
  rw [float_lt_iff, UnpackedFloat.lt, compare_unpack]
  cases level x with
  | none => simp
  | some a => cases level y <;> simp [compare_lt_iff_lt]

theorem float_beq_level {x y : Float} :
    (x == y) = true ↔ ∃ a ∈ level x, a ∈ level y := by
  have same : (x == y) = x.toModel.unpack.beq y.toModel.unpack := rfl
  rw [same, UnpackedFloat.beq, compare_unpack]
  cases level x with
  | none => simp
  | some a =>
    cases level y with
    | none => simp
    | some b => simpa using eq_comm

theorem float_lt_of_le_of_lt {x y z : Float} (h : x ≤ y) (h' : y < z) : x < z := by
  obtain ⟨a, first, b, second, le⟩ := float_le_level.1 h
  obtain ⟨b', second', c, third, less⟩ := float_lt_level.1 h'
  obtain rfl : b = b' := Option.some_inj.1 (second.symm.trans second')
  exact float_lt_level.2 ⟨a, first, c, third, le.trans_lt less⟩

theorem float_not_lt_of_le {x y : Float} (h : x ≤ y) : ¬ y < x := by
  intro h'
  obtain ⟨a, first, a', second, less⟩ := float_lt_level.1 (float_lt_of_le_of_lt h h')
  obtain rfl : a = a' := Option.some_inj.1 (first.symm.trans second)
  exact lt_irrefl a less

theorem float_lt_trans {x y z : Float} (h : x < y) (h' : y < z) : x < z :=
  float_lt_of_le_of_lt (float_le_of_lt h) h'

section

variable {x y : Float} {a b : ℚ} (first : level x = some a) (second : level y = some b)
include first second

theorem float_le_iff_of_level : x ≤ y ↔ a ≤ b := by
  rw [float_le_level, first, second]
  simp

theorem float_lt_iff_of_level : x < y ↔ a < b := by
  rw [float_lt_level, first, second]
  simp

theorem float_beq_iff_of_level : (x == y) = true ↔ a = b := by
  rw [float_beq_level, first, second]
  simpa using eq_comm

end

end Binary64

end Splice
