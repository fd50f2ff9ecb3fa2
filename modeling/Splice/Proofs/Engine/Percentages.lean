import Splice.Proofs.Engine.Progress
import Splice.Proofs.Number.Bits

/-!
# Percentages grow with positions

A position is divided three times and multiplied once before it is a percentage: to seconds, by the
length of the result, and to a hundredth. Every one of these steps rounds, and every one keeps the
order of numbers, as does the clamping at the end. So of two positions the later one never has the
smaller percentage (`Progress.percentage_mono`).
-/

namespace Splice

namespace Progress

open Binary64

/-! ## Places of percentages -/

theorem value?_hundred : value? 100.0 = some 100 := by
  have parts : ofFloat 100.0 = .finite false 7036874417766400 (-46) := by decide +kernel
  rw [value?, parts]
  norm_num

theorem value?_zero : value? 0.0 = some 0 := by
  have parts : ofFloat 0.0 = .finite false 0 (-1074) := by decide +kernel
  rw [value?, parts]
  norm_num

theorem value?_minusOne : value? (-1.0) = some (-1) := by
  have parts : ofFloat (-1.0) = .finite true 4503599627370496 (-52) := by decide +kernel
  rw [value?, parts]
  norm_num

/-- What has a place has it between 0 and 100 when it is clamped. -/
theorem level_clamp {x : Float} {a : ℚ} (place : level x = some a) :
    level (clamp x) = some (max 0 (min a 100)) := by
  have hundred := level_of_value? value?_hundred
  have zero := level_of_value? value?_zero
  have capped : level (if x < 100.0 then x else 100.0) = some (min a 100) := by
    split
    case isTrue less =>
      rw [float_lt_iff_of_level place hundred] at less
      rw [place, min_eq_left less.le]
    case isFalse more =>
      rw [float_lt_iff_of_level place hundred, not_lt] at more
      rw [hundred, min_eq_right more]
  unfold clamp
  dsimp only
  generalize (if x < 100.0 then x else 100.0) = y at capped
  split
  case isTrue above =>
    rw [float_lt_iff_of_level zero capped] at above
    rw [capped, max_eq_right above.le]
  case isFalse below =>
    rw [float_lt_iff_of_level zero capped, not_lt] at below
    rw [zero, max_eq_left below]

/-- Where the percentage of a position stands if lengths are multiplied by `c`: the seconds, the share
of the length and its hundredfold are rounded one after the other. -/
def StandsAt (c : ℚ) (microseconds : Int) (a : ℚ) : Prop :=
  ∃ seconds share times, Rounds (microseconds / 1000000) seconds ∧ Scales c seconds share ∧
    Scales 100 share times ∧ a = max 0 (min times 100)

theorem StandsAt.mono {c a b : ℚ} {μ ν : Int} (h : StandsAt c μ a) (h' : StandsAt c ν b)
    (nonneg : 0 ≤ c) (le : μ ≤ ν) : a ≤ b := by
  obtain ⟨seconds, share, times, rounds, shares, hundredfold, rfl⟩ := h
  obtain ⟨seconds', share', times', rounds', shares', hundredfold', rfl⟩ := h'
  have less : seconds ≤ seconds' :=
    rounds.mono rounds' (div_le_div_of_nonneg_right (Int.cast_le.2 le) (by norm_num))
  have result := hundredfold.mono hundredfold' (by norm_num) (shares.mono shares' nonneg less)
  exact max_le_max le_rfl (min_le_min_right _ result)

/-- Every percentage of a length has a place. -/
theorem exists_standsAt {total : Float} (positive : 0 < total) :
    ∃ c, 0 ≤ c ∧ ∀ μ p, percentage μ total = .ok p → ∃ a, level p = some a ∧ StandsAt c μ a := by
  obtain ⟨c, nonneg, divides⟩ := exists_rate positive
  refine ⟨c, nonneg, fun μ p h => ?_⟩
  unfold percentage at h
  split at h
  case h_2 => cases h
  case h_1 seconds near =>
    cases h
    obtain ⟨w, rounds, value⟩ := rounds_of_nearest? (by decide) near
    obtain ⟨share, place, shares⟩ := divides seconds _ value
    obtain ⟨times, product, hundredfold⟩ := exists_level_mul place value?_hundred (by norm_num)
    refine ⟨_, level_clamp product, _, share, times, ?_, shares, hundredfold, rfl⟩
    rcases lt_or_ge μ 0 with negative | above
    · have magnitude : (μ.natAbs : ℚ) = -μ := by rw [Nat.cast_natAbs, abs_of_neg negative, Int.cast_neg]
      rw [magnitude] at rounds
      rw [if_pos (by simpa using negative)]
      simpa [neg_div] using rounds.neg
    · have magnitude : (μ.natAbs : ℚ) = μ := by rw [Nat.cast_natAbs, abs_of_nonneg above]
      rw [magnitude] at rounds
      rw [if_neg (by simpa using above)]
      simpa using rounds

/-- **The later of two positions has no smaller percentage.** -/
theorem percentage_mono {total : Float} (positive : 0 < total) {μ ν : Int} {p q : Float}
    (h : percentage μ total = .ok p) (h' : percentage ν total = .ok q) (le : μ ≤ ν) : p ≤ q := by
  obtain ⟨c, nonneg, stands⟩ := exists_standsAt positive
  obtain ⟨a, place, at_⟩ := stands μ p h
  obtain ⟨b, place', at'⟩ := stands ν q h'
  exact (float_le_iff_of_level place place').2 (at_.mono at' nonneg le)

end Progress

end Splice
