import Mathlib.Tactic.Linarith
import Mathlib.Tactic.NormNum
import Mathlib.Tactic.Ring
import Splice.Proofs.Number.Rounding

/-!
# When a quotient is too large for a double

`Binary64.nearest?` gives no double exactly for quotients that reach halfway from the largest finite
double to the next power of two (`Binary64.nearest?_eq_none_iff`).
-/

namespace Splice

/-! ## The exponent of a quotient -/

namespace Binary64

/-- A quotient in units of a power of two. -/
theorem scaled_div (num den : Nat) (e : Int) :
    (num * twoTo (-e).toNat : ℚ) / (den * twoTo e.toNat) = num / den / 2 ^ e := by
  have parts : e = (e.toNat : Int) - (-e).toNat := by omega
  rw [cast_twoTo, cast_twoTo]
  conv_rhs => rw [parts, zpow_sub₀ (by norm_num)]
  rw [div_div_eq_mul_div, mul_div_mul_comm, mul_div_assoc]

/-- Whole units of a power of two are compared without fractions. -/
theorem scaled_lt_iff {num den : Nat} (above : 0 < den) (k : Nat) (e : Int) :
    num * twoTo (-e).toNat < k * (den * twoTo e.toNat) ↔ (num / den : ℚ) < k * 2 ^ e := by
  have units : (0 : ℚ) < den * twoTo e.toNat := by
    rw [cast_twoTo]
    exact mul_pos (Nat.cast_pos.2 above) (two_zpow_pos _)
  rw [← div_lt_iff₀ (two_zpow_pos e), ← scaled_div, div_lt_iff₀ units]
  norm_cast

theorem le_scaled_iff {num den : Nat} (above : 0 < den) (k : Nat) (e : Int) :
    k * (den * twoTo e.toNat) ≤ num * twoTo (-e).toNat ↔ (k * 2 ^ e : ℚ) ≤ num / den := by
  rw [← not_lt, scaled_lt_iff above, not_lt]

theorem two_zpow_log2_le {n : Nat} (some : 0 < n) : (2 : ℚ) ^ (n.log2 : Int) ≤ n := by
  rw [← cast_twoTo]
  exact_mod_cast Nat.log2_self_le some.ne'

theorem lt_two_zpow_log2 (n : Nat) : (n : ℚ) < 2 ^ ((n.log2 : Int) + 1) := by
  have bound := Nat.lt_log2_self (n := n)
  rw [show (n.log2 : Int) + 1 = ((n.log2 + 1 : Nat) : Int) by push_cast; rfl, ← cast_twoTo]
  exact_mod_cast bound

/-- The binade of a quotient: its exponent is the fitting one, unless it is too small. -/
theorem exists_fittingExponent_eq {num den : Nat} (some : 0 < num) (above : 0 < den) :
    ∃ e, fittingExponent num den = max e (-1074) ∧
      (2 : ℚ) ^ (e + 52) ≤ num / den ∧ (num / den : ℚ) < 2 ^ (e + 53) := by
  have positive : (0 : ℚ) < den := Nat.cast_pos.2 above
  -- The numbers of binary digits leave two exponents; the quotient itself decides between them.
  let low : Int := (num.log2 : Int) - den.log2 - 53
  have lower : (2 : ℚ) ^ (low + 52) ≤ num / den := by
    rw [le_div_iff₀ positive]
    calc (2 : ℚ) ^ (low + 52) * den
        ≤ 2 ^ (low + 52) * 2 ^ ((den.log2 : Int) + 1) :=
          mul_le_mul_of_nonneg_left (lt_two_zpow_log2 den).le (two_zpow_pos _).le
      _ = 2 ^ (num.log2 : Int) := by rw [← two_zpow_add]; congr 1; omega
      _ ≤ num := two_zpow_log2_le some
  have upper : (num / den : ℚ) < 2 ^ (low + 54) := by
    rw [div_lt_iff₀ positive]
    calc (num : ℚ)
        < 2 ^ ((num.log2 : Int) + 1) := lt_two_zpow_log2 num
      _ = 2 ^ (low + 54) * 2 ^ (den.log2 : Int) := by rw [← two_zpow_add]; congr 1; omega
      _ ≤ 2 ^ (low + 54) * den :=
          mul_le_mul_of_nonneg_left (two_zpow_log2_le above) (two_zpow_pos _).le
  have fits : num * twoTo (-low).toNat / (den * twoTo low.toNat) < twoTo 53 ↔
      (num / den : ℚ) < 2 ^ (low + 53) := by
    have units : 0 < den * twoTo low.toNat := Nat.mul_pos above (twoTo_pos _)
    rw [Nat.div_lt_iff_lt_mul units, scaled_lt_iff above, cast_twoTo, ← two_zpow_add, add_comm]
    rfl
  unfold fittingExponent
  dsimp only
  split
  case isTrue narrow => exact ⟨low, rfl, lower, fits.1 narrow⟩
  case isFalse wide =>
    refine ⟨low + 1, rfl, ?_, ?_⟩
    · rw [show low + 1 + 52 = low + 53 by ring]
      exact not_lt.1 (mt fits.2 wide)
    · rw [show low + 1 + 53 = low + 54 by ring]
      exact upper

/-- Half a unit above the largest finite double. -/
def tooLarge : Nat := (twoTo 54 - 1) * twoTo 970

theorem lt_tooLarge_mul_iff {num den : Nat} (above : 0 < den) :
    num < tooLarge * den ↔ (num / den : ℚ) < (twoTo 54 - 1 : Nat) * 2 ^ (970 : Int) := by
  have up : (970 : Int).toNat = 970 := rfl
  have down : twoTo (-(970 : Int)).toNat = 1 := rfl
  rw [← scaled_lt_iff above, tooLarge, up, down, Nat.mul_one, Nat.mul_assoc, Nat.mul_comm den]

/-- The quotients of the last binade are rounded to a mantissa in it exactly below the limit. -/
theorem roundHalfEven_last_lt_iff {num den : Nat} (above : 0 < den) :
    roundHalfEven num (den * twoTo 971) < twoTo 53 ↔ num < tooLarge * den := by
  have unit : 0 < den * twoTo 970 := Nat.mul_pos above (twoTo_pos 970)
  have limit : tooLarge * den = (twoTo 54 - 1) * (den * twoTo 970) := by
    rw [tooLarge, Nat.mul_assoc, Nat.mul_comm den]
  have double : den * twoTo 971 = 2 * (den * twoTo 970) := by
    rw [twoTo_succ, ← Nat.mul_assoc, Nat.mul_comm]
  rw [limit, double]
  generalize den * twoTo 970 = d at unit
  have mantissas : twoTo 54 - 1 = 2 * (twoTo 53 - 1) + 1 := by decide
  have even : twoTo 53 % 2 = 0 := by decide
  have some : 0 < twoTo 53 := twoTo_pos 53
  rw [mantissas]
  generalize twoTo 53 = top at even some
  obtain ⟨last, rfl⟩ : ∃ last, top = last + 1 := ⟨top - 1, by omega⟩
  rw [Nat.add_sub_cancel]
  have product : (2 * last + 1) * d = 2 * (d * last) + d := by ring
  constructor
  · intro rounded
    by_contra reached
    refine absurd (le_roundHalfEven_of_half (k := last + 1) (by omega) even ?_) (Nat.not_le.2 rounded)
    rw [Nat.mul_add, Nat.mul_assoc]
    omega
  · intro below
    refine Nat.lt_succ_of_le (roundHalfEven_le_of_half (by omega) ?_)
    rw [Nat.mul_assoc]
    omega

/-- Bits are those of a finite double exactly below the limit. In the last binade of the doubles it
is the rounding that decides; in the others the exponent alone does. -/
theorem nearestBits_lt_iff {num den : Nat} (above : 0 < den) :
    nearestBits num den < infinityBits ↔ num < tooLarge * den := by
  rcases Nat.eq_zero_or_pos num with rfl | some
  · have limit : 0 < tooLarge := by
      unfold tooLarge
      exact Nat.mul_pos (by decide) (twoTo_pos 970)
    have nothing : nearestBits 0 den = 0 := if_pos rfl
    rw [nothing]
    exact iff_of_true (by decide) (Nat.mul_pos limit above)
  obtain ⟨e, fitting, lower, upper⟩ := exists_fittingExponent_eq some above
  have units : ∀ n, 0 < den * twoTo n := fun n => Nat.mul_pos above (twoTo_pos n)
  have double : twoTo 53 = 2 * twoTo 52 := rfl
  have unit := twoTo_pos 52
  rw [nearestBits, if_neg some.ne', fitting, infinityBits]
  dsimp only
  -- 971 is the exponent of the last binade. Below it the bits are too small even if the mantissa is
  -- rounded up to the next binade, above it they are too large even if it is rounded down.
  rcases lt_trichotomy e 971 with less | rfl | more
  · have rounded : roundHalfEven (num * twoTo (-max e (-1074)).toNat)
        (den * twoTo (max e (-1074)).toNat) ≤ twoTo 53 := by
      refine roundHalfEven_le_of_half (units _) ?_
      have below := (scaled_lt_iff above (twoTo 53) (max e (-1074))).2 (upper.trans_le ?_)
      · rw [Nat.mul_comm (twoTo 53)] at below
        omega
      · rw [cast_twoTo, ← two_zpow_add]
        exact two_zpow_le (by omega)
    refine iff_of_true ?_ ((lt_tooLarge_mul_iff above).2 (upper.trans_le ?_))
    · have scaled := Nat.mul_le_mul_right (twoTo 52)
        (show (max e (-1074) + 1074).toNat ≤ 2044 by omega)
      generalize twoTo 52 = u at *
      omega
    · calc (2 : ℚ) ^ (e + 53)
          ≤ 2 ^ ((53 : Nat) + 970 : Int) := two_zpow_le (by omega)
        _ = twoTo 53 * 2 ^ (970 : Int) := by rw [two_zpow_add, cast_twoTo]
        _ ≤ (twoTo 54 - 1 : Nat) * 2 ^ (970 : Int) :=
            mul_le_mul_of_nonneg_right (Nat.cast_le.2 (by decide)) (two_zpow_pos _).le
  · have exponent : (max (971 : Int) (-1074) + 1074).toNat = 2045 := rfl
    have down : (-max (971 : Int) (-1074)).toNat = 0 := rfl
    have up : (max (971 : Int) (-1074)).toNat = 971 := rfl
    have none : num * twoTo 0 = num := Nat.mul_one num
    rw [exponent, down, up, none, ← roundHalfEven_last_lt_iff above]
    omega
  · have rounded : twoTo 52 ≤ roundHalfEven (num * twoTo (-max e (-1074)).toNat)
        (den * twoTo (max e (-1074)).toNat) := by
      refine le_roundHalfEven (units _) ((le_scaled_iff above (twoTo 52) _).2 ?_)
      rw [cast_twoTo, ← two_zpow_add]
      exact (two_zpow_le (by omega)).trans lower
    refine iff_of_false ?_ (mt (lt_tooLarge_mul_iff above).1 (not_lt.2 (le_trans ?_ lower)))
    · have scaled := Nat.mul_le_mul_right (twoTo 52)
        (show 2046 ≤ (max e (-1074) + 1074).toNat by omega)
      generalize twoTo 52 = u at *
      omega
    · calc ((twoTo 54 - 1 : Nat) : ℚ) * 2 ^ (970 : Int)
          ≤ twoTo 54 * 2 ^ (970 : Int) :=
            mul_le_mul_of_nonneg_right (Nat.cast_le.2 (Nat.sub_le _ _)) (two_zpow_pos _).le
        _ = 2 ^ ((54 : Nat) + 970 : Int) := by rw [two_zpow_add, cast_twoTo]
        _ ≤ 2 ^ (e + 52) := two_zpow_le (by omega)

/-- **There is no double near a quotient exactly from half a unit above the largest one on.** -/
theorem nearest?_eq_none_iff {negative : Bool} {num den : Nat} (above : 0 < den) :
    nearest? negative num den = none ↔ tooLarge * den ≤ num := by
  rw [← Nat.not_lt, ← nearestBits_lt_iff above]
  unfold nearest?
  dsimp only
  split <;> simp [*]

end Binary64

end Splice
