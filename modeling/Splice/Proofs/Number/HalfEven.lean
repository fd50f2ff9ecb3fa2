import Mathlib.Algebra.Order.Round
import Mathlib.Data.Rat.Floor
import Mathlib.Tactic.Linarith
import Mathlib.Tactic.Ring
import Splice.Proofs.Number.Rounding

/-!
# Rounding to the nearest integer

`RoundsEven u k` says that the integer `k` is nearest to the rational number `u`, and that it is even
if two integers are equally near. There is exactly one such integer, it grows with the number
(`RoundsEven.mono`), and it changes its sign with it (`RoundsEven.neg`). `roundHalfEven` computes it
for a quotient of natural numbers (`roundsEven_roundHalfEven`).
-/

namespace Splice

/-- An integer is nearest to a number, and even if it is half a unit away. -/
structure RoundsEven (u : ℚ) (k : ℤ) : Prop where
  near : |u - k| ≤ 1 / 2
  even : |u - k| = 1 / 2 → Even k

namespace RoundsEven

variable {u v : ℚ} {j k : ℤ}

theorem bounds (h : RoundsEven u k) : u - 1 / 2 ≤ k ∧ k ≤ u + 1 / 2 := by
  obtain ⟨below, above⟩ := abs_le.1 h.near
  constructor <;> linarith

theorem of_lt_half (h : |u - k| < 1 / 2) : RoundsEven u k := ⟨h.le, fun tie => absurd tie h.ne⟩

protected theorem intCast (k : ℤ) : RoundsEven k k := of_lt_half (by norm_num)

protected theorem neg (h : RoundsEven u k) : RoundsEven (-u) (-k) := by
  have mirrored : |-u - ((-k : ℤ) : ℚ)| = |u - k| := by
    rw [Int.cast_neg, ← abs_neg]
    ring_nf
  exact ⟨mirrored.trans_le h.near, fun tie => (h.even (mirrored.symm.trans tie)).neg⟩

/-- The greater of two numbers is rounded to the greater integer. Were it rounded to a smaller one,
the two numbers would be one and the same tie, and both integers around it even. -/
protected theorem mono (h : RoundsEven u j) (h' : RoundsEven v k) (le : u ≤ v) : j ≤ k := by
  by_contra! less
  have step : (k : ℚ) + 1 ≤ j := by exact_mod_cast less
  have low := h.bounds.2
  have high := h'.bounds.1
  have left : u - j = -(1 / 2) := by linarith
  have right : v - k = 1 / 2 := by linarith
  have evens : Even j ∧ Even k :=
    ⟨h.even (by rw [left, abs_neg, abs_of_pos one_half_pos]),
      h'.even (by rw [right, abs_of_pos one_half_pos])⟩
  have next : j = k + 1 := by
    have : (j : ℚ) = k + 1 := by linarith
    exact_mod_cast this
  rw [next, Int.even_add_one] at evens
  exact evens.1 evens.2

protected theorem unique (h : RoundsEven u j) (h' : RoundsEven u k) : j = k :=
  le_antisymm (h.mono h' le_rfl) (h'.mono h le_rfl)

/-- No integer is nearer than the one that a number is rounded to. -/
theorem nearest (h : RoundsEven u k) (j : ℤ) : |u - k| ≤ |u - j| := by
  rcases eq_or_ne j k with rfl | other
  · rfl
  have apart : (1 : ℚ) ≤ |(j : ℚ) - k| := by exact_mod_cast Int.one_le_abs (sub_ne_zero.2 other)
  have triangle : |(j : ℚ) - k| ≤ |j - u| + |u - k| := abs_sub_le _ _ _
  rw [abs_sub_comm (j : ℚ) u] at triangle
  linarith [h.near]

/-- What is nearer to the rounded integer than the number itself is rounded to it as well. -/
theorem of_abs_sub_le (h : RoundsEven u k) (le : |v - k| ≤ |u - k|) : RoundsEven v k :=
  ⟨le.trans h.near, fun tie => h.even (le_antisymm h.near (tie.symm.trans_le le))⟩

theorem nonneg (h : RoundsEven u k) (above : 0 ≤ u) : 0 ≤ k :=
  RoundsEven.mono (by simpa using RoundsEven.intCast 0) h above

theorem nonpos (h : RoundsEven u k) (below : u ≤ 0) : k ≤ 0 :=
  h.mono (by simpa using RoundsEven.intCast 0) below

theorem le_of_le_intCast (h : RoundsEven u k) (le : u ≤ j) : k ≤ j := h.mono (.intCast j) le

theorem le_of_intCast_le (h : RoundsEven u k) (le : j ≤ u) : j ≤ k := (RoundsEven.intCast j).mono h le

/-! The three cases of a fraction: below a half, at a half, and above it. -/

section

variable {m : Nat}

theorem of_lt (least : m ≤ u) (less : u < m + 1 / 2) : RoundsEven u m := by
  refine .of_lt_half (abs_lt.2 ⟨?_, ?_⟩) <;> push_cast <;> linarith

theorem of_gt (more : m + 1 / 2 < u) (most : u < m + 1) : RoundsEven u (m + 1 : Nat) := by
  refine .of_lt_half (abs_lt.2 ⟨?_, ?_⟩) <;> push_cast <;> linarith

theorem of_eq (tie : u = m + 1 / 2) : RoundsEven u (m + m % 2 : Nat) := by
  subst tie
  rcases Nat.mod_two_eq_zero_or_one m with even | odd
  · rw [even, Nat.add_zero]
    refine ⟨?_, fun _ => (Int.even_coe_nat _).2 (Nat.even_iff.2 even)⟩
    rw [abs_le]
    constructor <;> push_cast <;> linarith
  · rw [odd]
    refine ⟨?_, fun _ => (Int.even_coe_nat _).2 (Nat.even_iff.2 (by omega))⟩
    rw [abs_le]
    constructor <;> push_cast <;> linarith

end

end RoundsEven

/-! ## Quotients of natural numbers -/

section

variable {num den : Nat}

theorem div_eq_add_fraction (num : Nat) (above : 0 < den) :
    (num / den : ℚ) = (num / den : Nat) + (num % den : Nat) / den := by
  have positive : (0 : ℚ) < den := Nat.cast_pos.2 above
  rw [div_eq_iff positive.ne', add_mul, div_mul_cancel₀ _ positive.ne', mul_comm]
  exact_mod_cast (Nat.div_add_mod num den).symm

theorem div_lt_half_iff (above : 0 < den) : (num / den : ℚ) < 1 / 2 ↔ 2 * num < den := by
  rw [div_lt_div_iff₀ (Nat.cast_pos.2 above) two_pos]
  norm_cast
  omega

theorem half_lt_div_iff (above : 0 < den) : (1 / 2 : ℚ) < num / den ↔ den < 2 * num := by
  rw [div_lt_div_iff₀ two_pos (Nat.cast_pos.2 above)]
  norm_cast
  omega

/-- **The quotient of two natural numbers is rounded to the nearest one, a tie to the even one.** -/
theorem roundsEven_roundHalfEven (num : Nat) (above : 0 < den) :
    RoundsEven (num / den) (roundHalfEven num den : Nat) := by
  have positive : (0 : ℚ) < den := Nat.cast_pos.2 above
  have bound : num % den < den := Nat.mod_lt num above
  rw [div_eq_add_fraction num above, roundHalfEven]
  generalize num / den = whole
  generalize num % den = rest at bound
  have nonneg : (0 : ℚ) ≤ rest / den := div_nonneg (Nat.cast_nonneg _) positive.le
  have less : (rest / den : ℚ) < 1 := (div_lt_one positive).2 (Nat.cast_lt.2 bound)
  split
  case isTrue below =>
    have fraction := (div_lt_half_iff above).2 below
    exact .of_lt (by linarith) (by linarith)
  case isFalse enough =>
    split
    case isTrue beyond =>
      have fraction := (half_lt_div_iff above).2 beyond
      exact .of_gt (by linarith) (by linarith)
    case isFalse most =>
      have atLeast := mt (div_lt_half_iff above).1 enough
      have atMost := mt (half_lt_div_iff above).1 most
      exact .of_eq (by linarith)

end

end Splice
