import Mathlib.Algebra.Order.Field.Power
import Mathlib.Algebra.Order.Field.Rat
import Splice.Number.Binary64

/-!
# Rounding and powers of two

What `roundHalfEven` gives, compared with a natural number, and the powers of two as rational
numbers.
-/

namespace Splice

/-! ## Rounding to a natural number -/

section

variable {num den k : Nat}

theorem le_roundHalfEven (above : 0 < den) (h : k * den ≤ num) : k ≤ roundHalfEven num den := by
  have whole : k ≤ num / den := (Nat.le_div_iff_mul_le above).2 h
  unfold roundHalfEven
  dsimp only
  split
  · exact whole
  · split <;> omega

/-- Below the half behind `k` nothing is rounded above `k`. -/
theorem roundHalfEven_le_of_half (above : 0 < den) (h : 2 * num < 2 * (den * k) + den) :
    roundHalfEven num den ≤ k := by
  have parts := Nat.div_add_mod num den
  unfold roundHalfEven
  dsimp only
  rcases Nat.lt_trichotomy (num / den) k with less | same | more
  · split
    · omega
    · split <;> omega
  · rw [same] at parts ⊢
    rw [if_pos (by omega)]
  · have beyond : den * (k + 1) ≤ den * (num / den) := Nat.mul_le_mul_left den more
    rw [Nat.mul_add, Nat.mul_one] at beyond
    omega

/-- From the half before an even `k` on nothing is rounded below `k`. -/
theorem le_roundHalfEven_of_half (above : 0 < den) (even : k % 2 = 0)
    (h : 2 * (den * k) ≤ 2 * num + den) : k ≤ roundHalfEven num den := by
  have parts := Nat.div_add_mod num den
  have rest := Nat.mod_lt num above
  rcases Nat.lt_or_ge (num / den) k with less | enough
  · have near : num / den + 1 = k := by
      by_contra far
      have short : den * (num / den + 2) ≤ den * k := Nat.mul_le_mul_left den (by omega)
      rw [Nat.mul_add] at short
      omega
    have product : den * k = den * (num / den) + den := by rw [← near, Nat.mul_add, Nat.mul_one]
    unfold roundHalfEven
    dsimp only
    split
    · omega
    · split <;> omega
  · exact le_roundHalfEven above ((Nat.le_div_iff_mul_le above).1 enough)

theorem roundHalfEven_pos_iff (above : 0 < den) :
    0 < roundHalfEven num den ↔ den < 2 * num := by
  unfold roundHalfEven
  dsimp only
  by_cases small : num < den
  · rw [Nat.div_eq_of_lt small, Nat.mod_eq_of_lt small]
    split
    · omega
    · split <;> omega
  · have whole : 0 < num / den := Nat.div_pos (Nat.le_of_not_lt small) above
    split
    · omega
    · split <;> omega

end

/-! ## Powers of two -/

theorem cast_twoTo (n : Nat) : ((twoTo n : Nat) : ℚ) = 2 ^ (n : Int) := by
  rw [zpow_natCast]
  exact Nat.cast_pow 2 n

theorem twoTo_pos (n : Nat) : 0 < twoTo n := Nat.pow_pos (by decide)

theorem twoTo_succ (n : Nat) : twoTo (n + 1) = twoTo n * 2 := Nat.pow_succ 2 n

theorem two_zpow_pos (e : Int) : (0 : ℚ) < 2 ^ e := zpow_pos (by norm_num) e

theorem two_zpow_add (a b : Int) : (2 : ℚ) ^ (a + b) = 2 ^ a * 2 ^ b := zpow_add₀ (by norm_num) a b

theorem two_zpow_le {a b : Int} (h : a ≤ b) : (2 : ℚ) ^ a ≤ 2 ^ b :=
  zpow_le_zpow_right₀ (by norm_num) h

end Splice
