import Splice.Proofs.Number.HalfEven
import Splice.Proofs.Number.Order

/-!
# Rounding to 53 binary digits

`Binary64.Rounds v w` says that the rational number `w` is `v` rounded as doubles are: to a whole
number of units, a tie to the even one, where the unit leaves 53 binary digits of `v` but is never
smaller than the least positive double. Rounding keeps the order of numbers (`Rounds.mono`) and
changes its sign with them (`Rounds.neg`), and no value of a double is nearer to `v` than `w` is
(`Rounds.nearest`). Whether `w` is too large for a double is another matter; `Binary64.clip` puts
such a number where the infinities are.
-/

namespace Splice

namespace Binary64

/-! ## Units -/

/-- The exponent of the unit that a number is rounded in. -/
structure UnitOf (v : ℚ) (e : ℤ) : Prop where
  least : -1074 ≤ e
  below : |v| < 2 ^ (e + 53)
  full : e = -1074 ∨ 2 ^ (e + 52) ≤ |v|

/-- A number rounded to a whole number of its units. -/
def Rounds (v w : ℚ) : Prop :=
  ∃ (e : ℤ) (k : ℤ), UnitOf v e ∧ RoundsEven (v / 2 ^ e) k ∧ w = k * 2 ^ e

theorem UnitOf.neg {v : ℚ} {e : ℤ} (h : UnitOf v e) : UnitOf (-v) e :=
  ⟨h.least, by rw [abs_neg]; exact h.below, by rw [abs_neg]; exact h.full⟩

/-- The greater of two numbers has the greater unit. -/
theorem UnitOf.mono {v v' : ℚ} {e e' : ℤ} (h : UnitOf v e) (h' : UnitOf v' e') (le : |v| ≤ |v'|) :
    e ≤ e' := by
  rcases h.full with least | full
  · exact least.trans_le h'.least
  · have less : (2 : ℚ) ^ (e + 52) < 2 ^ (e' + 53) := full.trans_lt (le.trans_lt h'.below)
    have := (zpow_lt_zpow_iff_right₀ one_lt_two).1 less
    omega

/-- No number has more than 53 binary digits of units, and a large one has no fewer. -/
theorem UnitOf.rounded_le {v : ℚ} {e k : ℤ} (h : UnitOf v e) (rounded : RoundsEven (v / 2 ^ e) k) :
    k ≤ 2 ^ 53 := by
  refine rounded.le_of_le_intCast ((div_le_iff₀ (two_zpow_pos e)).2 ?_)
  have below := (le_abs_self v).trans h.below.le
  rw [add_comm, two_zpow_add] at below
  exact_mod_cast below

theorem UnitOf.le_rounded {v : ℚ} {e k : ℤ} (h : UnitOf v e) (rounded : RoundsEven (v / 2 ^ e) k)
    (above : 0 ≤ v) (higher : e ≠ -1074) : 2 ^ 52 ≤ k := by
  refine rounded.le_of_intCast_le ((le_div_iff₀ (two_zpow_pos e)).2 ?_)
  have full := h.full.resolve_left higher
  rw [abs_of_nonneg above, add_comm, two_zpow_add] at full
  exact_mod_cast full

/-- What is as large in units of one power of two is as large in units of another. -/
theorem two_zpow_scaled (a b e : ℤ) (h : a + e = b) : ((2 : ℚ) ^ a) * 2 ^ e = 2 ^ b := by
  rw [← two_zpow_add, h]

namespace Rounds

variable {v v' w w' : ℚ}

protected theorem neg (h : Rounds v w) : Rounds (-v) (-w) := by
  obtain ⟨e, k, unit, rounded, rfl⟩ := h
  refine ⟨e, -k, unit.neg, ?_, ?_⟩
  · rw [neg_div]
    exact rounded.neg
  · push_cast
    ring

theorem nonneg (h : Rounds v w) (above : 0 ≤ v) : 0 ≤ w := by
  obtain ⟨e, k, -, rounded, rfl⟩ := h
  have := rounded.nonneg (div_nonneg above (two_zpow_pos e).le)
  exact mul_nonneg (by exact_mod_cast this) (two_zpow_pos e).le

theorem nonpos (h : Rounds v w) (below : v ≤ 0) : w ≤ 0 :=
  neg_nonneg.1 (h.neg.nonneg (neg_nonneg.2 below))

protected theorem zero : Rounds 0 0 := by
  refine ⟨-1074, 0, ⟨le_rfl, ?_, .inl rfl⟩, ?_, by simp⟩
  · rw [abs_zero]
    exact two_zpow_pos _
  · rw [zero_div]
    simpa using RoundsEven.intCast 0

/-- Among numbers of at least zero the greater one is rounded to the greater one. In one unit that is
the rounding to integers; from one unit to a greater one a power of two lies between them. -/
theorem mono_of_nonneg (h : Rounds v w) (h' : Rounds v' w') (above : 0 ≤ v) (le : v ≤ v') :
    w ≤ w' := by
  obtain ⟨e, k, unit, rounded, rfl⟩ := h
  obtain ⟨e', k', unit', rounded', rfl⟩ := h'
  have same : |v| = v := abs_of_nonneg above
  have same' : |v'| = v' := abs_of_nonneg (above.trans le)
  rcases (unit.mono unit' (by rwa [same, same'])).lt_or_eq with less | rfl
  · have top := unit.rounded_le rounded
    have bottom := unit'.le_rounded rounded' (above.trans le) (unit.least.trans_lt less).ne'
    calc (k * 2 ^ e : ℚ) ≤ 2 ^ (53 : ℤ) * 2 ^ e :=
          mul_le_mul_of_nonneg_right (by exact_mod_cast top) (two_zpow_pos e).le
      _ = 2 ^ ((53 : ℤ) + e) := (two_zpow_add _ _).symm
      _ ≤ 2 ^ ((52 : ℤ) + e') := two_zpow_le (by omega)
      _ = 2 ^ (52 : ℤ) * 2 ^ e' := two_zpow_add _ _
      _ ≤ k' * 2 ^ e' := mul_le_mul_of_nonneg_right (by exact_mod_cast bottom) (two_zpow_pos e').le
  · have := rounded.mono rounded' (div_le_div_of_nonneg_right le (two_zpow_pos e).le)
    exact mul_le_mul_of_nonneg_right (by exact_mod_cast this) (two_zpow_pos e).le

/-- **The greater of two numbers is rounded to the greater one.** -/
protected theorem mono (h : Rounds v w) (h' : Rounds v' w') (le : v ≤ v') : w ≤ w' := by
  rcases le_total 0 v with above | below
  · exact mono_of_nonneg h h' above le
  · rcases le_total 0 v' with above' | below'
    · exact (h.nonpos below).trans (h'.nonneg above')
    · exact neg_le_neg_iff.1 (mono_of_nonneg h'.neg h.neg (neg_nonneg.2 below') (neg_le_neg le))

end Rounds

/-! ## Nearest values -/

/-- A number of no more than 53 binary digits that is a multiple of the least positive double. -/
def Short (u : ℚ) : Prop := ∃ k e : ℤ, |k| < 2 ^ 53 ∧ -1074 ≤ e ∧ u = k * 2 ^ e

theorem Short.neg {u : ℚ} (h : Short u) : Short (-u) := by
  obtain ⟨k, e, bound, least, rfl⟩ := h
  exact ⟨-k, e, by rwa [abs_neg], least, by push_cast; ring⟩

theorem Canonical.short {m : Nat} {e : Int} (c : Canonical m e) : Short (m * 2 ^ e) := by
  have bound := c.bound
  exact ⟨m, e, by rw [Nat.abs_cast]; exact_mod_cast bound, c.least, by push_cast; rfl⟩

/-- The value of a double is short. -/
theorem short_of_value? {x : Float} {v : ℚ} (h : value? x = some v) : Short v := by
  unfold value? at h
  rw [ofFloat_eq_ofUnpacked] at h
  cases unpacked : x.toModel.unpack with
  | notANumber | infinity =>
    rw [unpacked] at h
    cases h
  | zero sign =>
    rw [unpacked] at h
    refine ⟨0, 0, by norm_num, by norm_num, ?_⟩
    cases sign <;> simpa [ofUnpacked] using h.symm
  | finite sign m e =>
    have short := (canonical_of_unpack unpacked).short
    rw [unpacked] at h
    cases sign <;> cases h
    · exact short.neg
    · exact short

namespace Rounds

variable {v w : ℚ}

/-- No whole number of units is nearer to a number than the one that it is rounded to. -/
theorem nearest_of_multiple {e k : ℤ} (rounded : RoundsEven (v / 2 ^ e) k) (j : ℤ) :
    |v - k * 2 ^ e| ≤ |v - j * 2 ^ e| := by
  have unit := two_zpow_pos e
  have scaled (i : ℤ) : |v - i * 2 ^ e| = |v / 2 ^ e - i| * 2 ^ e := by
    rw [← abs_of_pos unit, ← abs_mul, abs_of_pos unit, sub_mul, div_mul_cancel₀ _ unit.ne']
  rw [scaled, scaled]
  exact mul_le_mul_of_nonneg_right (rounded.nearest j) unit.le

/-- **No value of a double is nearer to a number than the one that it is rounded to.** A double
between the multiples of the unit is below the power of two that the units of the number begin with,
and that power is such a multiple. -/
theorem nearest (h : Rounds v w) {u : ℚ} (short : Short u) : |v - w| ≤ |v - u| := by
  obtain ⟨e, k, unit, rounded, rfl⟩ := h
  obtain ⟨k', e', bound, least, rfl⟩ := short
  rcases le_or_gt e e' with coarse | fine
  · have whole : (k' * 2 ^ e' : ℚ) = ((k' * 2 ^ (e' - e).toNat : ℤ) : ℚ) * 2 ^ e := by
      push_cast
      rw [mul_assoc, ← zpow_natCast, two_zpow_scaled _ e' e (by omega)]
    rw [whole]
    exact nearest_of_multiple rounded _
  · have full := unit.full.resolve_left (least.trans_lt fine).ne'
    have small : |(k' * 2 ^ e' : ℚ)| ≤ 2 ^ (e + 52) := by
      rw [abs_mul, abs_of_pos (two_zpow_pos e')]
      calc |(k' : ℚ)| * 2 ^ e' ≤ 2 ^ (53 : ℤ) * 2 ^ e' :=
            mul_le_mul_of_nonneg_right (by exact_mod_cast bound.le) (two_zpow_pos e').le
        _ = 2 ^ ((53 : ℤ) + e') := (two_zpow_add _ _).symm
        _ ≤ 2 ^ (e + 52) := two_zpow_le (by omega)
    have first : ((2 ^ 52 : ℤ) : ℚ) * 2 ^ e = 2 ^ (e + 52) := by
      rw [add_comm, two_zpow_add]
      norm_cast
    have triangle := abs_sub_abs_le_abs_sub v (k' * 2 ^ e')
    -- The power of two on the side of the number is no farther from it than the double is.
    rcases le_total 0 v with above | below
    · refine (nearest_of_multiple rounded (2 ^ 52)).trans ?_
      rw [first]
      rw [abs_of_nonneg above] at full triangle
      rw [abs_of_nonneg (sub_nonneg.2 full)]
      linarith
    · refine (nearest_of_multiple rounded (-2 ^ 52)).trans ?_
      rw [Int.cast_neg, neg_mul, first]
      rw [abs_of_nonpos below] at full triangle
      rw [abs_of_nonpos (by linarith)]
      linarith

end Rounds

/-! ## Numbers too large for a double -/

/-- The place of a rounded number. -/
def clip (w : ℚ) : ℚ := max (-beyond) (min w beyond)

theorem clip_mono {w w' : ℚ} (le : w ≤ w') : clip w ≤ clip w' :=
  max_le_max le_rfl (min_le_min_right _ le)

theorem clip_neg (w : ℚ) : clip (-w) = -clip w := by
  have above := beyond_pos
  unfold clip
  grind

theorem clip_of_abs_lt {w : ℚ} (h : |w| < beyond) : clip w = w := by
  obtain ⟨below, above⟩ := abs_lt.1 h
  rw [clip, min_eq_left above.le, max_eq_right below.le]

theorem clip_of_le {w : ℚ} (h : beyond ≤ w) : clip w = beyond := by
  have above := beyond_pos
  rw [clip, min_eq_right h, max_eq_right (by linarith)]

end Binary64

end Splice
