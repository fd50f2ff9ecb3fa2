import Splice.Proofs.Number.Rounded

/-!
# Products and quotients of doubles

A product or a quotient is computed as a mantissa with two bits about the fraction behind it
(`Binary64.Describes`), is shifted to the place where a double of that size ends, and is rounded
there. So the result is the exact one rounded to a double, or lies beyond all doubles
(`Binary64.exists_roundWithAccuracy`).

For a fixed factor above zero this makes both operations monotone in the other argument, infinities
included: what `Binary64.Scales` says of a pair of levels holds of an argument and its product
(`Binary64.exists_level_mul`) or its quotient (`Binary64.exists_level_div`), and it keeps their order
(`Binary64.Scales.mono`).
-/

open Float.Model (UnpackedFloat Format totalExponent)
open Float.Model.UnpackedFloat

namespace Splice

namespace Binary64

/-! ## Shifted mantissas -/

/-- A mantissa is the integer part of a number, and its two bits say how the fraction behind it
compares with nothing and with a half. -/
def Describes (em : ExtendedMantissa) (q : ℚ) : Prop :=
  match em.roundBit, em.stickyBit with
  | false, false => q = em.mantissa
  | false, true => em.mantissa < q ∧ q < em.mantissa + 1 / 2
  | true, false => q = em.mantissa + 1 / 2
  | true, true => em.mantissa + 1 / 2 < q ∧ q < em.mantissa + 1

theorem describes_exact (m : Nat) :
    Describes (ExtendedMantissa.ofMantissaAndAccuracy m .exact) m := rfl

/-- The accuracy of a quotient says how its rest compares with nothing and with half the divisor. -/
theorem describes_quotient (n : Nat) {d : Nat} (above : 0 < d) :
    Describes (ExtendedMantissa.ofMantissaAndAccuracy (n / d) (accuracyOfFraction (n % d) d))
      (n / d) := by
  have positive : (0 : ℚ) < d := Nat.cast_pos.2 above
  have bound : n % d < d := Nat.mod_lt n above
  rw [div_eq_add_fraction n above]
  generalize n / d = whole
  generalize n % d = rest at bound
  have less : (rest / d : ℚ) < 1 := (div_lt_one positive).2 (Nat.cast_lt.2 bound)
  unfold accuracyOfFraction
  split
  case isTrue nothing =>
    rw [nothing, Nat.cast_zero, zero_div, add_zero]
    exact describes_exact whole
  case isFalse something =>
    have some : (0 : ℚ) < rest / d := div_pos (Nat.cast_pos.2 (Nat.pos_of_ne_zero something)) positive
    rcases lt_trichotomy (2 * rest) d with below | same | beyond
    · have fraction := (div_lt_half_iff above).2 below
      rw [compare_lt_iff_lt.2 below]
      exact ⟨by simpa [ExtendedMantissa.ofMantissaAndAccuracy] using some, by
        simpa [ExtendedMantissa.ofMantissaAndAccuracy] using fraction⟩
    · have fraction : (rest / d : ℚ) = 1 / 2 :=
        le_antisymm (not_lt.1 (mt (half_lt_div_iff above).1 same.not_gt))
          (not_lt.1 (mt (div_lt_half_iff above).1 same.not_lt))
      rw [compare_eq_iff_eq.2 same, fraction]
      rfl
    · have fraction := (half_lt_div_iff above).2 beyond
      rw [compare_gt_iff_gt.2 beyond]
      exact ⟨add_lt_add_right fraction _, add_lt_add_right less _⟩

namespace Describes

variable {em : ExtendedMantissa} {q : ℚ}

theorem bounds (h : Describes em q) : (em.mantissa : ℚ) ≤ q ∧ q < em.mantissa + 1 := by
  obtain ⟨m, half, more⟩ := em
  cases half <;> cases more <;> simp only [Describes] at h <;> constructor <;> linarith

/-- The two bits decide which of the integers around a number it is rounded to. -/
theorem roundsEven (h : Describes em q) : RoundsEven q (em.roundedMantissa : Nat) := by
  obtain ⟨m, half, more⟩ := em
  cases half <;> cases more <;> simp only [Describes] at h
  case false.false =>
    rw [h]
    exact .intCast m
  case false.true => exact .of_lt h.1.le h.2
  case true.false => exact .of_eq h
  case true.true => exact .of_gt h.1 h.2

theorem shiftRightOne (h : Describes em q) : Describes em.shiftRightOne (q / 2) := by
  obtain ⟨m, half, more⟩ := em
  have parts : (m : ℚ) = 2 * (m / 2 : Nat) + (m % 2 : Nat) := by
    exact_mod_cast (Nat.div_add_mod m 2).symm
  rcases Nat.mod_two_eq_zero_or_one m with even | odd
  · rw [even] at parts
    have bit : (m % 2 != 0) = false := by rw [even]; rfl
    cases half <;> cases more <;>
      simp only [Describes, ExtendedMantissa.shiftRightOne, bit, Bool.or_false, Bool.or_true] at h ⊢ <;>
      push_cast at parts <;>
      (try constructor) <;> linarith
  · rw [odd] at parts
    have bit : (m % 2 != 0) = true := by rw [odd]; rfl
    cases half <;> cases more <;>
      simp only [Describes, ExtendedMantissa.shiftRightOne, bit, Bool.or_false, Bool.or_true] at h ⊢ <;>
      push_cast at parts <;>
      (try constructor) <;> linarith

theorem shiftRight (h : Describes em q) (n : Nat) : Describes (em >>> n) (q / 2 ^ n) := by
  induction n with
  | zero => simpa [HShiftRight.hShiftRight, Nat.repeat] using h
  | succ n ih =>
    rw [pow_succ, ← div_div]
    exact ih.shiftRightOne

end Describes

/-! ## Rounding -/

/-- A magnitude with a sign. -/
def withSign (s : Sign) (v : ℚ) : ℚ :=
  match s with
  | .negative => -v
  | .positive => v

theorem place_finite (s : Sign) (m : Nat) (e : Int) (positive : 0 < m) :
    place (ofUnpacked (.finite s m e positive)) = some (withSign s (m * 2 ^ e)) := by
  cases s <;> rfl

theorem place_infinity (s : Sign) : place (ofUnpacked (.infinity s)) = some (withSign s beyond) := by
  cases s <;> rfl

theorem Rounds.withSign {v w : ℚ} (h : Rounds v w) (s : Sign) :
    Rounds (withSign s v) (withSign s w) := by
  cases s
  · exact h.neg
  · exact h

theorem clip_withSign (s : Sign) (w : ℚ) : clip (withSign s w) = withSign s (clip w) := by
  cases s
  · exact clip_neg w
  · rfl

theorem mantissa_ofMantissaAndAccuracy (m : Nat) (accuracy : Accuracy) :
    (ExtendedMantissa.ofMantissaAndAccuracy m accuracy).mantissa = m := by
  unfold ExtendedMantissa.ofMantissaAndAccuracy
  split <;> rfl

/-- The unit that a mantissa is shifted to is the one that the number has. -/
theorem unitOf_targetExponent {M : Nat} {E : Int} {q : ℚ} (least : M ≤ q) (less : q < M + 1)
    (enough : 2 ^ 52 ≤ M ∨ E ≤ -1074) :
    UnitOf (q * 2 ^ E) (max ((M.log2 : Int) + E - 52) (-1074)) := by
  have magnitude : |q * 2 ^ E| = q * 2 ^ E :=
    abs_of_nonneg (mul_nonneg ((Nat.cast_nonneg M).trans least) (two_zpow_pos E).le)
  refine ⟨le_max_right _ _, ?_, ?_⟩
  · have digits : q < 2 ^ ((M.log2 : ℤ) + 1) := by
      refine less.trans_le ?_
      have bound := Nat.lt_log2_self (n := M)
      exact_mod_cast bound
    calc |q * 2 ^ E| = q * 2 ^ E := magnitude
      _ < 2 ^ ((M.log2 : ℤ) + 1) * 2 ^ E := mul_lt_mul_of_pos_right digits (two_zpow_pos E)
      _ = 2 ^ ((M.log2 : ℤ) + 1 + E) := (two_zpow_add _ _).symm
      _ ≤ 2 ^ (max ((M.log2 : ℤ) + E - 52) (-1074) + 53) := two_zpow_le (by omega)
  · refine or_iff_not_imp_left.2 fun higher => ?_
    have some : 0 < M := by
      refine Nat.pos_of_ne_zero fun nothing => ?_
      subst nothing
      have none : Nat.log2 0 = 0 := by decide
      omega
    calc (2 : ℚ) ^ (max ((M.log2 : ℤ) + E - 52) (-1074) + 52) = 2 ^ ((M.log2 : ℤ) + E) := by
          congr 1
          omega
      _ = 2 ^ (M.log2 : ℤ) * 2 ^ E := two_zpow_add _ _
      _ ≤ q * 2 ^ E :=
          mul_le_mul_of_nonneg_right ((two_zpow_log2_le some).trans least) (two_zpow_pos E).le
      _ = |q * 2 ^ E| := magnitude.symm

/-- An unpacked number has a sign and a magnitude, which may be too large for a double. -/
def HasValue (u : UnpackedFloat) (s : Sign) (w : ℚ) : Prop :=
  u = .zero s ∧ w = 0 ∨ ∃ m e, ∃ c : Canonical m e, u = .finite s m e c.positive ∧ w = m * 2 ^ e

/-- A number is rounded to units of a power of two by shifting its mantissa to where they are. -/
theorem Describes.roundsEven_shift {em : ExtendedMantissa} {q : ℚ} (h : Describes em q) {E t : ℤ}
    (later : E ≤ t) :
    RoundsEven (q * 2 ^ E / 2 ^ t) ((em >>> (t - E).toNat).roundedMantissa : Nat) := by
  have same : q * 2 ^ E / 2 ^ t = q / 2 ^ (t - E).toNat := by
    have parts := two_zpow_scaled ((t - E).toNat) t E (by omega)
    rw [← parts, mul_div_mul_right _ _ (two_zpow_pos E).ne', zpow_natCast]
  rw [same]
  exact (h.shiftRight _).roundsEven

/-- The rounding of doubles is the rounding to 53 binary digits. -/
theorem exists_roundWithAccuracy (s : Sign) {M : Nat} {E : Int} {accuracy : Accuracy} {q : ℚ}
    (described : Describes (ExtendedMantissa.ofMantissaAndAccuracy M accuracy) q)
    (enough : 2 ^ 52 ≤ M ∨ E ≤ -1074) :
    ∃ w, Rounds (q * 2 ^ E) w ∧
      HasValue (roundWithAccuracy Format.binary64 s M E accuracy) s w := by
  set t := Format.binary64.targetExponent (totalExponent M E) with target
  have bounds := described.bounds
  rw [mantissa_ofMantissaAndAccuracy] at bounds
  have unit := unitOf_targetExponent bounds.1 bounds.2 enough
  rw [targetExponent_eq] at target
  rw [← target] at unit
  have later : E ≤ t := by
    rcases enough with full | low
    · have := (Nat.le_log2 (by omega)).2 full
      omega
    · omega
  set em := ExtendedMantissa.ofMantissaAndAccuracy M accuracy >>> (t - E).toNat with shift
  have rounded : RoundsEven (q * 2 ^ E / 2 ^ t) (em.roundedMantissa : Nat) :=
    described.roundsEven_shift later
  refine ⟨_, ⟨t, _, unit, rounded, rfl⟩, ?_⟩
  have first : shiftToTargetExponent Format.binary64 M E accuracy = (em, t) := by
    refine Prod.ext rfl ?_
    show E + ((Format.binary64.targetExponent (totalExponent M E) - E).toNat : Int) = t
    rw [targetExponent_eq]
    omega
  have bound : em.roundedMantissa ≤ 2 ^ 53 := by exact_mod_cast unit.rounded_le rounded
  have nonneg : 0 ≤ q * 2 ^ E :=
    mul_nonneg ((Nat.cast_nonneg M).trans bounds.1) (two_zpow_pos E).le
  have full : t = -1074 ∨ 2 ^ 52 ≤ em.roundedMantissa :=
    or_iff_not_imp_left.2 fun higher => by exact_mod_cast unit.le_rounded rounded nonneg higher
  rcases Nat.eq_zero_or_pos em.roundedMantissa with nothing | positive
  · refine .inl ⟨?_, by simp [nothing]⟩
    unfold roundWithAccuracy
    simp only [first, nothing, shiftToTargetExponent_of_lt (by decide : 0 < 2 ^ 53) unit.least]
    rfl
  · obtain ⟨m, e, c, result, same⟩ :=
      exists_roundWithAccuracy_eq (s := s) first unit.least positive bound full
    refine .inr ⟨m, e, c, result, ?_⟩
    rcases same with ⟨rfl, rfl⟩ | ⟨rfl, twice⟩
    · push_cast
      rfl
    · rw [← twice, two_zpow_add]
      push_cast
      ring

/-! ## Places of results -/

theorem unpack_packedZero (s : Sign) :
    unpack Format.binary64 (packedZero Format.binary64 s) = .zero s := by
  cases s <;> rfl

theorem level_of_hasValue {y : Float} {u : UnpackedFloat} {s : Sign} {w : ℚ}
    (h : y.toModel.unpack = (Float.Model.pack u).unpack) (value : HasValue u s w) :
    level y = some (clip (withSign s w)) := by
  rw [clip_withSign]
  rcases value with ⟨rfl, rfl⟩ | ⟨m, e, c, rfl, rfl⟩
  · have zero : (Float.Model.pack (.zero s)).unpack = .zero s := unpack_packedZero s
    rw [level_of_unpack (h.trans zero), place_zero, clip_of_abs_lt (by simpa using beyond_pos)]
    cases s <;> simp [withSign]
  · have positive := c.value_pos
    rw [unpack_pack c] at h
    split at h
    case isTrue fits =>
      rw [level_of_unpack h, place_finite, clip_of_abs_lt]
      rw [abs_of_pos positive]
      exact c.value_lt_beyond_iff.2 fits
    case isFalse large =>
      rw [level_of_unpack h, clip_of_le (not_lt.1 (mt c.value_lt_beyond_iff.1 large))]
      cases s <;> rfl

/-! ## Multiples -/

/-- A place is a multiple of another one, rounded; an infinity is its own multiple. -/
def Scales (c a b : ℚ) : Prop :=
  if beyond ≤ a then b = beyond
  else if a ≤ -beyond then b = -beyond
  else ∃ w, Rounds (a * c) w ∧ b = clip w

theorem abs_clip_le (w : ℚ) : -beyond ≤ clip w ∧ clip w ≤ beyond := by
  have above := beyond_pos
  exact ⟨le_max_left _ _, max_le (by linarith) (min_le_right _ _)⟩

theorem Scales.bounds {c a b : ℚ} (h : Scales c a b) : -beyond ≤ b ∧ b ≤ beyond := by
  have above := beyond_pos
  unfold Scales at h
  split at h
  · subst h
    constructor <;> linarith
  · split at h
    · subst h
      constructor <;> linarith
    · obtain ⟨w, -, rfl⟩ := h
      exact abs_clip_le w

/-- The multiples of greater numbers are greater. -/
theorem Scales.mono {c a a' b b' : ℚ} (h : Scales c a b) (h' : Scales c a' b') (nonneg : 0 ≤ c)
    (le : a ≤ a') : b ≤ b' := by
  have bounds := h.bounds
  have bounds' := h'.bounds
  unfold Scales at h h'
  split at h'
  case isTrue => linarith
  case isFalse less' =>
    rw [if_neg (by linarith)] at h
    split at h
    case isTrue => linarith
    case isFalse more =>
      rw [if_neg (by linarith)] at h'
      obtain ⟨w, rounded, rfl⟩ := h
      obtain ⟨w', rounded', rfl⟩ := h'
      exact clip_mono (rounded.mono rounded' (mul_le_mul_of_nonneg_right le nonneg))

theorem scales_zero (c : ℚ) : Scales c 0 0 := by
  have above := beyond_pos
  unfold Scales
  rw [if_neg (by linarith), if_neg (by linarith)]
  exact ⟨0, by rw [zero_mul]; exact .zero, by rw [clip_of_abs_lt (by simpa using above)]⟩

theorem withSign_mul (s : Sign) (v c : ℚ) : withSign s v * c = withSign s (v * c) := by
  cases s <;> simp [withSign]

/-- An operation that keeps signs, zeros and infinities, and multiplies and rounds what else there
is, gives multiples of places. -/
theorem exists_scales {x y : Float} {c a : ℚ} (op : UnpackedFloat → UnpackedFloat)
    (place : level x = some a)
    (result : y.toModel.unpack = (Float.Model.pack (op x.toModel.unpack)).unpack)
    (infinite : ∀ s, op (.infinity s) = .infinity s) (zero : ∀ s, op (.zero s) = .zero s)
    (finite : ∀ s m e, ∀ k : Canonical m e, ∃ w, Rounds (m * 2 ^ e * c) w ∧
      HasValue (op (.finite s m e k.positive)) s w) :
    ∃ b, level y = some b ∧ Scales c a b := by
  have above := beyond_pos
  cases unpacked : x.toModel.unpack with
  | notANumber =>
    rw [level_of_unpack unpacked] at place
    cases place
  | infinity s =>
    have same : y.toModel.unpack = .infinity s := by
      rw [result, unpacked, infinite]
      exact unpack_packedInfinity s
    rw [level_of_unpack unpacked, place_infinity] at place
    refine ⟨a, by rw [level_of_unpack same, place_infinity, place], ?_⟩
    cases place
    cases s <;> simp only [withSign] <;> unfold Scales
    · rw [if_neg (by linarith), if_pos le_rfl]
    · rw [if_pos le_rfl]
  | zero s =>
    have same : y.toModel.unpack = .zero s := by
      rw [result, unpacked, zero]
      exact unpack_packedZero s
    rw [level_of_unpack unpacked, place_zero] at place
    cases place
    exact ⟨0, by rw [level_of_unpack same, place_zero], scales_zero c⟩
  | finite s m e =>
    have k := canonical_of_unpack unpacked
    have inside := k.value_lt_beyond_iff.2 (exponent_le_of_unpack unpacked)
    have positive := k.value_pos
    obtain ⟨w, rounds, value⟩ := finite s m e k
    rw [unpacked] at result
    rw [level_of_unpack unpacked, place_finite] at place
    cases place
    refine ⟨_, level_of_hasValue result value, ?_⟩
    have within : ¬ beyond ≤ withSign s (m * 2 ^ e) ∧ ¬ withSign s (m * 2 ^ e) ≤ -beyond := by
      cases s <;> simp only [withSign] <;> constructor <;> linarith
    rw [Scales, if_neg within.1, if_neg within.2, withSign_mul]
    exact ⟨_, rounds.withSign s, rfl⟩

/-- A positive value is that of a mantissa and an exponent. -/
theorem unpack_of_value_pos {y : Float} {c : ℚ} (value : value? y = some c) (positive : 0 < c) :
    ∃ m e, ∃ k : Canonical m e, y.toModel.unpack = .finite .positive m e k.positive ∧
      c = m * 2 ^ e := by
  have place := level_of_value? value
  unfold value? at value
  rw [ofFloat_eq_ofUnpacked] at value
  cases unpacked : y.toModel.unpack with
  | notANumber | infinity =>
    rw [unpacked] at value
    cases value
  | zero s =>
    rw [level_of_unpack unpacked, place_zero] at place
    cases place
    exact absurd positive (lt_irrefl 0)
  | finite s m e =>
    have k := canonical_of_unpack unpacked
    rw [level_of_unpack unpacked, place_finite] at place
    cases place
    cases s
    · exact absurd k.value_pos (by simpa [withSign] using positive.le)
    · exact ⟨m, e, k, rfl, rfl⟩

/-- **The product of a double with a positive one is the product of their values, rounded.** -/
theorem exists_level_mul {x y : Float} {a c : ℚ} (place : level x = some a)
    (value : value? y = some c) (positive : 0 < c) :
    ∃ b, level (x * y) = some b ∧ Scales c a b := by
  obtain ⟨m', e', k', unpacked, rfl⟩ := unpack_of_value_pos value positive
  have product : (x * y).toModel.unpack =
      (Float.Model.pack (mul Format.binary64 x.toModel.unpack y.toModel.unpack)).unpack := rfl
  rw [unpacked] at product
  refine exists_scales (fun u => mul Format.binary64 u (.finite .positive m' e' k'.positive)) place
    product ?_ ?_ ?_
  · intro s
    cases s <;> rfl
  · intro s
    cases s <;> rfl
  · intro s m e k
    have enough : 2 ^ 52 ≤ m * m' ∨ e + e' ≤ -1074 := by
      rcases k.full with least | full
      · rcases k'.full with least' | full'
        · exact .inr (by omega)
        · exact .inl (full'.trans (Nat.le_mul_of_pos_left m' k.positive))
      · exact .inl (full.trans (Nat.le_mul_of_pos_right m k'.positive))
    obtain ⟨w, rounds, value⟩ := exists_roundWithAccuracy s (describes_exact (m * m')) enough
    refine ⟨w, ?_, ?_⟩
    · rw [two_zpow_add] at rounds
      push_cast at rounds
      rwa [mul_mul_mul_comm] at rounds
    · have sign : s * .positive = s := by cases s <;> rfl
      show HasValue (roundWithAccuracy Format.binary64 (s * .positive) _ _ _) s w
      rwa [sign]

/-- A quotient is computed to enough binary digits for a mantissa. -/
theorem le_quotient {m m' n : Nat} {d t : Int} (positive : 0 < m) (positive' : 0 < m')
    (shift : n = (d - t).toNat) (target : t ≤ (m.log2 : Int) - m'.log2 + d - 53) :
    2 ^ 52 ≤ m * 2 ^ n / m' := by
  rw [Nat.le_div_iff_mul_le positive']
  calc 2 ^ 52 * m' ≤ 2 ^ 52 * 2 ^ (m'.log2 + 1) :=
        Nat.mul_le_mul_left _ Nat.lt_log2_self.le
    _ = 2 ^ (52 + (m'.log2 + 1)) := (Nat.pow_add 2 _ _).symm
    _ ≤ 2 ^ (m.log2 + n) := Nat.pow_le_pow_right two_pos (by omega)
    _ = 2 ^ m.log2 * 2 ^ n := Nat.pow_add 2 _ _
    _ ≤ m * 2 ^ n := Nat.mul_le_mul_right _ (Nat.log2_self_le positive.ne')

/-- **The quotient of a double by a positive one is the quotient of their values, rounded.** -/
theorem exists_level_div {x y : Float} {a c : ℚ} (place : level x = some a)
    (value : value? y = some c) (positive : 0 < c) :
    ∃ b, level (x / y) = some b ∧ Scales c⁻¹ a b := by
  obtain ⟨m', e', k', unpacked, rfl⟩ := unpack_of_value_pos value positive
  have quotient : (x / y).toModel.unpack =
      (Float.Model.pack (div Format.binary64 x.toModel.unpack y.toModel.unpack)).unpack := rfl
  rw [unpacked] at quotient
  refine exists_scales (fun u => div Format.binary64 u (.finite .positive m' e' k'.positive)) place
    quotient ?_ ?_ ?_
  · intro s
    cases s <;> rfl
  · intro s
    cases s <;> rfl
  · intro s m e k
    set t := min (e - e') (Format.binary64.targetExponent
      (totalExponent m e - totalExponent m' e')) with target
    set n := (e - e' - t).toNat with shift
    have later : t ≤ e - e' := min_le_left _ _
    have enough : 2 ^ 52 ≤ m * 2 ^ n / m' ∨ t ≤ -1074 := by
      refine or_iff_not_imp_right.2 fun higher => le_quotient k.positive k'.positive shift ?_
      have most : t ≤ max (totalExponent m e - totalExponent m' e' - 53) (-1074) := min_le_right _ _
      unfold totalExponent at most
      omega
    have described := describes_quotient (m * 2 ^ n) k'.positive
    obtain ⟨w, rounds, value⟩ := exists_roundWithAccuracy s described enough
    refine ⟨w, ?_, ?_⟩
    · have parts : (2 : ℚ) ^ (n : ℤ) * 2 ^ t = 2 ^ e * (2 ^ e')⁻¹ := by
        rw [two_zpow_scaled n (e - e') t (by omega), zpow_sub₀ two_ne_zero, div_eq_mul_inv]
      have same : ((m * 2 ^ n : Nat) : ℚ) / m' * 2 ^ t = m * 2 ^ e * ((m' : ℚ) * 2 ^ e')⁻¹ := by
        push_cast
        rw [mul_inv, div_mul_eq_mul_div, mul_assoc, ← zpow_natCast, parts]
        ring
      rwa [same] at rounds
    · have sign : s / .positive = s := by cases s <;> rfl
      show HasValue (roundWithAccuracy Format.binary64 (s / .positive) (m <<< n / m') t
        (accuracyOfFraction (m <<< n % m') m')) s w
      rwa [sign, Nat.shiftLeft_eq]

/-- By an infinite number every finite one is divided to nothing. -/
theorem level_div_infinity {x y : Float} {a : ℚ} (value : value? x = some a)
    (infinite : y.toModel.unpack = .infinity .positive) : level (x / y) = some 0 := by
  have quotient : (x / y).toModel.unpack =
      (Float.Model.pack (div Format.binary64 x.toModel.unpack y.toModel.unpack)).unpack := rfl
  rw [infinite] at quotient
  unfold value? at value
  rw [ofFloat_eq_ofUnpacked] at value
  cases unpacked : x.toModel.unpack with
  | notANumber | infinity =>
    rw [unpacked] at value
    cases value
  | zero s | finite s =>
    rw [unpacked] at quotient
    rw [level_of_unpack (quotient.trans (unpack_packedZero _)), place_zero]

/-- Division by a positive number multiplies by one and the same number of at least zero, whatever
is divided. -/
theorem exists_rate {y : Float} (positive : 0 < y) :
    ∃ c, 0 ≤ c ∧ ∀ x a, value? x = some a → ∃ b, level (x / y) = some b ∧ Scales c a b := by
  rcases zero_lt_iff.1 positive with infinite | ⟨m, e, k, finite⟩
  · refine ⟨0, le_rfl, fun x a value => ⟨0, level_div_infinity value infinite, ?_⟩⟩
    have inside := abs_lt.1 (abs_value_lt value)
    rw [Scales, if_neg (by linarith), if_neg (by linarith), mul_zero]
    exact ⟨0, .zero, by rw [clip_of_abs_lt (by simpa using beyond_pos)]⟩
  · have value : value? y = some ((m : ℚ) * 2 ^ e) := by
      rw [value?, ofFloat_eq_ofUnpacked, finite]
      rfl
    exact ⟨((m : ℚ) * 2 ^ e)⁻¹, inv_nonneg.2 k.value_pos.le, fun x a place =>
      exists_level_div (level_of_value? place) value k.value_pos⟩

end Binary64

end Splice
