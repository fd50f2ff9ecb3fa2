import Mathlib
import Splice.Proofs.Number.Nearest
import Splice.Proofs.Number.Numeral

/-!
# Sums of doubles

The sum of two doubles is computed exactly, rounded to a mantissa of 53 binary digits, and packed.
The rounding may go down, but never below a double that is at most the exact sum: so a positive
number that is added to one of at least zero makes it no smaller (`Binary64.float_le_add`). What is
no number stays so whatever is added to it.
-/

open Float.Model (UnpackedFloat Format totalExponent)
open Float.Model.UnpackedFloat

namespace Splice

namespace Binary64

/-! ## The parts of a double -/

/-- The mantissa and the exponent of a finite double that is not zero, or that is too large for a
double: the mantissa has 53 binary digits, or fewer at the least exponent. -/
structure Canonical (m : Nat) (e : Int) : Prop where
  positive : 0 < m
  bound : m < 2 ^ 53
  least : -1074 ≤ e
  full : e = -1074 ∨ 2 ^ 52 ≤ m

theorem canonical_of_unpack {x : Float} {sign : Sign} {m : Nat} {e : Int} {positive : 0 < m}
    (h : x.toModel.unpack = .finite sign m e positive) : Canonical m e := by
  have parts := ofFloat_eq_ofUnpacked x
  rw [h, ofUnpacked_finite] at parts
  unfold ofFloat at parts
  have fraction : x.toBits.toNat % twoTo 52 < 2 ^ 52 := Nat.mod_lt _ (Nat.pow_pos (by decide))
  have leading : twoTo 52 = 2 ^ 52 := rfl
  dsimp only at parts
  split at parts
  · split at parts <;> cases parts
  · rename_i ordinary
    rw [beq_iff_eq] at ordinary
    split at parts
    · obtain ⟨-, rfl, rfl⟩ := Binary64.finite.inj parts
      exact ⟨positive, by omega, by omega, .inl rfl⟩
    · rename_i normal
      rw [beq_iff_eq] at normal
      obtain ⟨-, rfl, rfl⟩ := Binary64.finite.inj parts
      exact ⟨positive, by omega, by omega, .inr (by omega)⟩

theorem Canonical.log2_eq {m : Nat} {e : Int} (c : Canonical m e) (full : 2 ^ 52 ≤ m) :
    m.log2 = 52 :=
  (Nat.log2_eq_iff c.positive.ne').2 ⟨full, c.bound⟩

theorem unpack_packedInfinity (sign : Sign) :
    unpack Format.binary64 (packedInfinity Format.binary64 sign) = .infinity sign := by
  simp [unpack, packedInfinity]

theorem unpack_subnormal {sign : Sign} {m : Nat} (positive : 0 < m) (small : m < 2 ^ 52) :
    unpack Format.binary64 (packComponents Format.binary64 sign 0#11 (BitVec.ofNat 52 m)) =
      .finite sign m (-1074) positive := by
  have same : (BitVec.ofNat 52 m).toNat = m := by rw [BitVec.toNat_ofNat, Nat.mod_eq_of_lt small]
  have nonzero : BitVec.ofNat 52 m ≠ 0#52 := by
    intro none
    rw [none] at same
    exact positive.ne same
  have least : ((0 : Nat) : Int) - (Format.binary64.exponentBias +
      Format.binary64.mantissaBitsWithoutImplicit) + 1 = -1074 := rfl
  simp [unpack, nonzero, same, ← least]

theorem unpack_normal {sign : Sign} {m biased : Nat} (positive : 0 < m) (above : 2 ^ 52 ≤ m)
    (below : m < 2 ^ 53) (some : 0 < biased) (ordinary : biased < 2047) :
    unpack Format.binary64
        (packComponents Format.binary64 sign (BitVec.ofNat 11 biased) (BitVec.ofNat 52 m)) =
      .finite sign m (biased - 1075) positive := by
  have same : (BitVec.ofNat 11 biased).toNat = biased := by
    rw [BitVec.toNat_ofNat, Nat.mod_eq_of_lt (by omega)]
  have nonzero : BitVec.ofNat 11 biased ≠ 0#11 := by
    intro none
    rw [none] at same
    exact some.ne same
  have less : BitVec.ofNat 11 biased ≠ 2047#11 := by
    intro full
    rw [full] at same
    exact ordinary.ne same.symm
  have whole : (1#1 ++ BitVec.ofNat 52 m).toNat = m := by
    have leading : twoTo 52 = 2 ^ 52 := rfl
    rw [toNat_one_append, BitVec.toNat_ofNat]
    omega
  have bias : Format.binary64.exponentBias = 1023 := rfl
  simp [unpack, nonzero, less, same, whole, bias]

/-- What is packed comes out again, unless it is too large for a double. -/
theorem unpack_pack {sign : Sign} {m : Nat} {e : Int} (c : Canonical m e) :
    (Float.Model.pack (.finite sign m e c.positive)).unpack =
      if e ≤ 971 then .finite sign m e c.positive else .infinity sign := by
  show unpack Format.binary64 (pack Format.binary64 (.finite sign m e c.positive)) = _
  have biased : e + Format.binary64.exponentBias + Format.binary64.mantissaBitsWithoutImplicit =
      e + 1075 := by
    show e + 1023 + 52 = _
    omega
  have digits : Format.binary64.mantissaBits = 53 := rfl
  have least := c.least
  have bound := c.bound
  unfold pack
  simp only [biased, digits]
  split
  case isTrue large =>
    rw [if_neg (show ¬ e ≤ 971 by omega), unpack_packedInfinity]
  case isFalse fits =>
    rw [if_pos (show e ≤ 971 by omega)]
    by_cases full : 2 ^ 52 ≤ m
    · rw [if_pos (by rw [c.log2_eq full]),
        unpack_normal c.positive full bound (by omega) (by omega)]
      congr
      omega
    · have exponent : e = -1074 := c.full.resolve_right full
      have short : m.log2 < 52 := (Nat.log2_lt c.positive.ne').2 (by omega)
      subst exponent
      rw [if_neg (by omega), unpack_subnormal c.positive (by omega)]

/-! ## Rounding -/

theorem targetExponent_eq (m : Nat) (e : Int) :
    Format.binary64.targetExponent (totalExponent m e) = max ((m.log2 : Int) + e - 52) (-1074) := by
  show max ((m.log2 : Int) + 1 + e - 53) (-1074) = _
  omega

theorem mantissa_shiftRight (em : ExtendedMantissa) (n : Nat) :
    (em >>> n).mantissa = em.mantissa / 2 ^ n := by
  induction n with
  | zero => simp [HShiftRight.hShiftRight, Nat.repeat]
  | succ n ih =>
    show (em >>> n).mantissa / 2 = _
    rw [ih, Nat.div_div_eq_div_mul, Nat.pow_succ]

theorem roundedMantissa_bounds (em : ExtendedMantissa) :
    em.mantissa ≤ em.roundedMantissa ∧ em.roundedMantissa ≤ em.mantissa + 1 := by
  obtain ⟨m, half, more⟩ := em
  cases half <;> cases more <;>
    simp [ExtendedMantissa.roundedMantissa, ExtendedMantissa.accuracy, Accuracy.roundToNearestEven]
  omega

/-- A mantissa that is short enough is left alone. -/
theorem shiftToTargetExponent_of_lt {m : Nat} {e : Int} (bound : m < 2 ^ 53) (least : -1074 ≤ e) :
    shiftToTargetExponent Format.binary64 m e .exact = (⟨m, false, false⟩, e) := by
  have digits : m.log2 ≤ 52 := by
    rcases Nat.eq_zero_or_pos m with rfl | positive
    · decide
    · have := (Nat.log2_lt positive.ne').2 bound
      omega
  have stay : (Format.binary64.targetExponent (totalExponent m e) - e).toNat = 0 := by
    rw [targetExponent_eq]
    omega
  unfold shiftToTargetExponent shiftToExponent
  dsimp only
  rw [stay]
  exact Prod.ext rfl (Int.add_zero e)

/-- A mantissa that rounding has made one digit longer loses it again. -/
theorem shiftToTargetExponent_carry {e : Int} (least : -1074 ≤ e) :
    shiftToTargetExponent Format.binary64 (2 ^ 53) e .exact = (⟨2 ^ 52, false, false⟩, e + 1) := by
  have step : (Format.binary64.targetExponent (totalExponent (2 ^ 53) e) - e).toNat = 1 := by
    rw [targetExponent_eq, Nat.log2_two_pow]
    omega
  unfold shiftToTargetExponent shiftToExponent
  dsimp only
  rw [step]
  rfl

/-- Behind the first shift the mantissa is rounded, and shifted once more if it has become too long.
-/
theorem exists_roundWithAccuracy_eq {s : Sign} {M : Nat} {E t : Int} {accuracy : Accuracy}
    {em : ExtendedMantissa}
    (first : shiftToTargetExponent Format.binary64 M E accuracy = (em, t)) (least : -1074 ≤ t)
    (positive : 0 < em.roundedMantissa) (bound : em.roundedMantissa ≤ 2 ^ 53)
    (full : t = -1074 ∨ 2 ^ 52 ≤ em.roundedMantissa) :
    ∃ m e, ∃ c : Canonical m e, roundWithAccuracy Format.binary64 s M E accuracy =
        .finite s m e c.positive ∧
      (e = t ∧ m = em.roundedMantissa ∨ e = t + 1 ∧ 2 * m = em.roundedMantissa) := by
  unfold roundWithAccuracy
  rw [first]
  rcases bound.lt_or_eq with short | long
  · refine ⟨_, _, ⟨positive, short, least, full⟩, ?_, .inl ⟨rfl, rfl⟩⟩
    simp only [shiftToTargetExponent_of_lt short least, positive.ne', dif_neg, not_false_eq_true]
  · have carried : Canonical (2 ^ 52) (t + 1) := ⟨by decide, by decide, by omega, .inr le_rfl⟩
    refine ⟨_, _, carried, ?_, .inr ⟨rfl, long.symm⟩⟩
    simp only [long, shiftToTargetExponent_carry least]
    rfl

/-- What is at least as much as a double is rounded to parts that are at least as much. -/
theorem exists_round_eq {m₁ M : Nat} {e₁ E : Int} (c : Canonical m₁ e₁) (least : -1074 ≤ E)
    (below : E ≤ e₁) (part : m₁ * 2 ^ (e₁ - E).toNat ≤ M) :
    ∃ m e, ∃ c' : Canonical m e,
      UnpackedFloat.round Format.binary64 .positive M E = .finite .positive m e c'.positive ∧
        (e₁ < e ∨ e₁ = e ∧ m₁ ≤ m) := by
  have first := c.least
  have some : 0 < M := (Nat.mul_pos c.positive (Nat.two_pow_pos _)).trans_le part
  set t := Format.binary64.targetExponent (totalExponent M E) with target
  rw [targetExponent_eq] at target
  have enough : e₁ ≤ t := by
    rcases c.full with low | full
    · omega
    · have digits : 52 + (e₁ - E).toNat ≤ M.log2 := by
        rw [Nat.le_log2 some.ne', Nat.pow_add]
        exact (Nat.mul_le_mul_right _ full).trans part
      omega
  have reached : E + (t - E).toNat = t := by omega
  set em := ExtendedMantissa.ofMantissaAndAccuracy M .exact >>> (t - E).toNat with shift
  have quotient : em.mantissa = M / 2 ^ (t - E).toNat := mantissa_shiftRight _ _
  have short : em.mantissa < 2 ^ 53 := by
    rw [quotient, Nat.div_lt_iff_lt_mul (Nat.two_pow_pos _), ← Nat.pow_add,
      ← Nat.log2_lt some.ne']
    omega
  have bounds := roundedMantissa_bounds em
  have atLeast : t = e₁ → m₁ ≤ em.roundedMantissa := by
    intro same
    refine le_trans ?_ bounds.1
    rw [quotient, same]
    exact (Nat.le_div_iff_mul_le (Nat.two_pow_pos _)).2 part
  have full : t = -1074 ∨ 2 ^ 52 ≤ em.roundedMantissa := by
    refine or_iff_not_imp_left.2 fun higher => le_trans ?_ bounds.1
    rw [quotient, Nat.le_div_iff_mul_le (Nat.two_pow_pos _), ← Nat.pow_add]
    refine (Nat.pow_le_pow_right (by decide) ?_).trans (Nat.log2_self_le some.ne')
    omega
  have positive : 0 < em.roundedMantissa := by
    rcases full with low | full
    · exact c.positive.trans_le (atLeast (by omega))
    · omega
  obtain ⟨m, e, c', rounded, placed⟩ := exists_roundWithAccuracy_eq
    (show shiftToTargetExponent Format.binary64 M E .exact = (em, t) from Prod.ext rfl reached)
    (by omega) positive (by omega) full
  refine ⟨m, e, c', ?_, ?_⟩
  · rw [← rounded]
    have stay : (E - t).toNat = 0 := by omega
    unfold UnpackedFloat.round decreaseExponent
    dsimp only
    rw [stay, Nat.shiftLeft_zero, Nat.cast_zero, Int.sub_zero]
  · rcases placed with ⟨rfl, rfl⟩ | ⟨rfl, -⟩
    · rcases enough.lt_or_eq with less | same
      · exact .inl less
      · exact .inr ⟨same, atLeast same.symm⟩
    · exact .inl (by omega)

/-! ## Numbers of at least zero -/

theorem le_finite_iff {m m' : Nat} {e e' : Int} {positive : 0 < m} {positive' : 0 < m'} :
    (UnpackedFloat.finite .positive m e positive).le (.finite .positive m' e' positive') ↔
      e < e' ∨ e = e' ∧ m ≤ m' := by
  rcases lt_trichotomy e e' with less | rfl | more
  · simp [UnpackedFloat.le, UnpackedFloat.compare, Int.compare_eq_lt.2 less, less]
  · simp [UnpackedFloat.le, UnpackedFloat.compare, Nat.isLE_compare]
  · simp [UnpackedFloat.le, UnpackedFloat.compare, Int.compare_eq_gt.2 more, more.not_gt, more.ne']

/-- A positive number is the infinity, or has a mantissa and an exponent. -/
theorem zero_lt_iff {x : Float} :
    0 < x ↔ x.toModel.unpack = .infinity .positive ∨
      ∃ m e, ∃ c : Canonical m e, x.toModel.unpack = .finite .positive m e c.positive := by
  have zero : (0 : Float).toModel.unpack = .zero .positive := rfl
  rw [float_lt_iff, zero]
  cases unpacked : x.toModel.unpack with
  | notANumber => simp [UnpackedFloat.lt, UnpackedFloat.compare]
  | infinity sign => cases sign <;> simp [UnpackedFloat.lt, UnpackedFloat.compare]
  | zero sign => simp [UnpackedFloat.lt, UnpackedFloat.compare]
  | finite sign m e positive =>
    have c := canonical_of_unpack unpacked
    cases sign with
    | negative => simp [UnpackedFloat.lt, UnpackedFloat.compare]
    | positive => simp [UnpackedFloat.lt, UnpackedFloat.compare, c]

theorem zero_le_iff {x : Float} : 0 ≤ x ↔ 0 < x ∨ ∃ sign, x.toModel.unpack = .zero sign := by
  have zero : (0 : Float).toModel.unpack = .zero .positive := rfl
  rw [float_le_iff, float_lt_iff, zero]
  cases x.toModel.unpack with
  | notANumber => simp [UnpackedFloat.le, UnpackedFloat.lt, UnpackedFloat.compare]
  | infinity sign => cases sign <;> simp [UnpackedFloat.le, UnpackedFloat.lt, UnpackedFloat.compare]
  | zero sign => simp [UnpackedFloat.le, UnpackedFloat.lt, UnpackedFloat.compare]
  | finite sign m e positive =>
    cases sign <;> simp [UnpackedFloat.le, UnpackedFloat.lt, UnpackedFloat.compare]

theorem float_le_refl {x : Float} (above : 0 ≤ x) : x ≤ x := by
  rw [float_le_iff]
  rcases zero_le_iff.1 above with positive | ⟨sign, zero⟩
  · rcases zero_lt_iff.1 positive with infinite | ⟨m, e, c, finite⟩
    · rw [infinite]
      rfl
    · rw [finite]
      exact le_finite_iff.2 (.inr ⟨rfl, le_rfl⟩)
  · rw [zero]
    rfl

/-! ## Sums -/

theorem unpack_add (x y : Float) :
    (x + y).toModel.unpack =
      (Float.Model.pack (add Format.binary64 x.toModel.unpack y.toModel.unpack)).unpack := rfl

theorem add_finite {m₁ m₂ : Nat} {e₁ e₂ : Int} {positive₁ : 0 < m₁} {positive₂ : 0 < m₂} :
    add Format.binary64 (.finite .positive m₁ e₁ positive₁) (.finite .positive m₂ e₂ positive₂) =
      UnpackedFloat.round Format.binary64 .positive
        (m₁ * 2 ^ (e₁ - min e₁ e₂).toNat + m₂ * 2 ^ (e₂ - min e₁ e₂).toNat) (min e₁ e₂) := by
  have some : (0 : Int) <
      (m₁ * 2 ^ (e₁ - min e₁ e₂).toNat + m₂ * 2 ^ (e₂ - min e₁ e₂).toNat : Nat) :=
    Int.natCast_pos.2 (Nat.add_pos_left (Nat.mul_pos positive₁ (Nat.two_pow_pos _)) _)
  simp only [add, decreaseExponent, Sign.apply, UnpackedFloat.normalize, Nat.shiftLeft_eq]
  rw [← Int.natCast_add, Int.compare_eq_gt.2 some]
  rfl

theorem le_of_unpack_infinity {x y : Float} (above : 0 ≤ x)
    (h : y.toModel.unpack = .infinity .positive) : 0 < y ∧ x ≤ y := by
  refine ⟨zero_lt_iff.2 (.inl h), ?_⟩
  rw [float_le_iff, h]
  rcases zero_le_iff.1 above with positive | ⟨sign, zero⟩
  · rcases zero_lt_iff.1 positive with infinite | ⟨m, e, c, finite⟩
    · rw [infinite]
      rfl
    · rw [finite]
      rfl
  · rw [zero]
    rfl

/-- What was finite when it was packed is at least what it was, or infinite. -/
theorem le_of_unpack_pack {x y : Float} {m : Nat} {e : Int} (c : Canonical m e) (above : 0 ≤ x)
    (less : x.toModel.unpack.le (.finite .positive m e c.positive))
    (h : y.toModel.unpack = (Float.Model.pack (.finite .positive m e c.positive)).unpack) :
    0 < y ∧ x ≤ y := by
  rw [unpack_pack c] at h
  split at h
  · refine ⟨zero_lt_iff.2 (.inr ⟨m, e, c, h⟩), ?_⟩
    rwa [float_le_iff, h]
  · exact le_of_unpack_infinity above h

/-- **Adding a positive number makes no number of at least zero smaller**, however it is rounded. -/
theorem float_le_add {x d : Float} (above : 0 ≤ x) (positive : 0 < d) : 0 < x + d ∧ x ≤ x + d := by
  have sum := unpack_add x d
  rcases zero_lt_iff.1 positive with infinite | ⟨m₂, e₂, c₂, finite⟩
  · -- What is added is infinite, and so is the sum.
    refine le_of_unpack_infinity above ?_
    rw [sum, infinite]
    rcases zero_le_iff.1 above with positive | ⟨sign, zero⟩
    · rcases zero_lt_iff.1 positive with infinite | ⟨m₁, e₁, c₁, finite⟩
      · rw [infinite]
        exact unpack_packedInfinity .positive
      · rw [finite]
        exact unpack_packedInfinity .positive
    · rw [zero]
      exact unpack_packedInfinity .positive
  · rw [finite] at sum
    rcases zero_le_iff.1 above with positive | ⟨sign, zero⟩
    · rcases zero_lt_iff.1 positive with infinite | ⟨m₁, e₁, c₁, finite⟩
      · refine le_of_unpack_infinity above ?_
        rw [sum, infinite]
        exact unpack_packedInfinity .positive
      · rw [finite, add_finite] at sum
        obtain ⟨m, e, c, rounded, more⟩ := exists_round_eq c₁ (le_min c₁.least c₂.least)
          (min_le_left e₁ e₂) (Nat.le_add_right _ _)
        rw [rounded] at sum
        refine le_of_unpack_pack c above ?_ sum
        rw [finite]
        exact le_finite_iff.2 more
    · rw [zero] at sum
      refine le_of_unpack_pack c₂ above ?_ sum
      rw [zero]
      rfl

/-- A number of at least zero that is at most another is at most any positive number above that. -/
theorem float_le_trans {x y z : Float} (above : 0 ≤ x) (h : x ≤ y) (h' : y ≤ z) (positive : 0 < z) :
    x ≤ z := by
  rcases zero_lt_iff.1 positive with infinite | ⟨m₃, e₃, c₃, finite₃⟩
  · exact (le_of_unpack_infinity above infinite).2
  rw [float_le_iff] at h h' ⊢
  rw [finite₃] at h' ⊢
  rcases zero_le_iff.1 above with positive | ⟨sign, zero⟩
  · -- Between a positive number and a finite one there are only finite ones.
    have ⟨m₂, e₂, positive₂, between⟩ : ∃ m e positive,
        y.toModel.unpack = .finite .positive m e positive := by
      rcases zero_lt_iff.1 positive with unpacked | ⟨m₁, e₁, c₁, unpacked⟩ <;>
        rw [unpacked] at h <;> cases between : y.toModel.unpack with
        | finite sign m e positive =>
          cases sign with
          | negative => rw [between] at h; cases h
          | positive => exact ⟨m, e, positive, rfl⟩
        | infinity sign =>
          rw [between] at h h'
          cases sign with
          | negative => cases h
          | positive => cases h'
        | _ => rw [between] at h; cases h
    rw [between] at h h'
    rcases zero_lt_iff.1 positive with infinite | ⟨m₁, e₁, c₁, finite₁⟩
    · rw [infinite] at h
      cases h
    · rw [finite₁] at h ⊢
      rw [le_finite_iff] at h h' ⊢
      omega
  · rw [zero]
    rfl

/-! ## No number -/

theorem ofFloat_eq_nan_iff {x : Float} : ofFloat x = .nan ↔ x.toModel.unpack = .notANumber := by
  rw [ofFloat_eq_ofUnpacked]
  cases x.toModel.unpack <;> simp [ofUnpacked]

/-- A number plus what is no number is none, and conversely. -/
theorem ofFloat_add_eq_nan {x y : Float} (h : ofFloat x = .nan ∨ ofFloat y = .nan) :
    ofFloat (x + y) = .nan := by
  rw [ofFloat_eq_nan_iff, ofFloat_eq_nan_iff] at h
  have none : add Format.binary64 x.toModel.unpack y.toModel.unpack = .notANumber := by
    rcases h with h | h
    · rw [h]
      rfl
    · rw [h]
      cases x.toModel.unpack <;> rfl
  rw [ofFloat_eq_nan_iff, unpack_add, none]
  exact unpack_packedNaN

/-- What is no number is not compared with any. -/
theorem not_le_of_ofFloat_eq_nan {x y : Float} (h : ofFloat x = .nan ∨ ofFloat y = .nan) :
    ¬ x ≤ y := by
  rw [ofFloat_eq_nan_iff, ofFloat_eq_nan_iff] at h
  rw [float_le_iff]
  rcases h with h | h
  · rw [h]
    simp [UnpackedFloat.le, UnpackedFloat.compare]
  · rw [h]
    cases x.toModel.unpack <;> simp [UnpackedFloat.le, UnpackedFloat.compare]

/-- A number that is not at most zero is positive, or is no number. -/
theorem zero_lt_or_nan_of_not_le {x : Float} (h : ¬ x ≤ 0) : 0 < x ∨ ofFloat x = .nan := by
  rw [float_le_iff] at h
  rw [float_lt_iff, ofFloat_eq_nan_iff]
  have zero : (0 : Float).toModel.unpack = .zero .positive := rfl
  rw [zero] at h ⊢
  cases unpacked : x.toModel.unpack with
  | notANumber => exact .inr rfl
  | zero sign => exact absurd (by rw [unpacked]; rfl) h
  | infinity sign | finite sign =>
    cases sign with
    | negative => exact absurd (by rw [unpacked]; rfl) h
    | positive => exact .inl rfl

/-! ## The integer part -/

theorem floor_mul_zpow (m : Nat) (e : Int) :
    ⌊(m * 2 ^ e : ℚ)⌋ = (numerator m e / denominator e : Nat) := by
  have same : (m * 2 ^ e : ℚ) = (numerator m e : ℚ) / (denominator e : ℚ) := by
    have scaled := scaled_div m 1 (-e)
    simp only [neg_neg, Nat.cast_one, one_mul, div_one] at scaled
    rw [numerator, denominator, Nat.cast_mul, scaled, zpow_neg, div_inv_eq_mul]
  rw [same, Rat.floor_natCast_div_natCast, Int.natCast_ediv]

theorem value?_nonneg {x : Float} (above : 0 ≤ x) : ∀ v ∈ value? x, 0 ≤ v := by
  unfold value?
  rw [ofFloat_eq_ofUnpacked]
  rcases zero_le_iff.1 above with positive | ⟨sign, zero⟩
  · rcases zero_lt_iff.1 positive with infinite | ⟨m, e, c, finite⟩
    · rw [infinite]
      exact nofun
    · rw [finite]
      rintro v ⟨⟩
      exact mul_nonneg (Nat.cast_nonneg m) (two_zpow_pos e).le
  · rw [zero]
    rintro v ⟨⟩
    cases sign <;> simp

/-- The integer part of a number of at least zero is there unless the number is infinite. -/
theorem truncate_of_zero_le {x : Float} (above : 0 ≤ x) :
    truncate x =
      match value? x with
      | some v => .ok ⌊v⌋
      | none => .error .infinite := by
  unfold truncate value?
  rw [ofFloat_eq_ofUnpacked]
  rcases zero_le_iff.1 above with positive | ⟨sign, zero⟩
  · rcases zero_lt_iff.1 positive with infinite | ⟨m, e, c, finite⟩
    · rw [infinite]
      rfl
    · have plain : (Sign.positive == .negative) = false := rfl
      rw [finite, ofUnpacked_finite, plain]
      dsimp only
      rw [if_neg Bool.false_ne_true, if_neg Bool.false_ne_true, floor_mul_zpow]
  · rw [zero]
    cases sign <;> simp [ofUnpacked, numerator]

end Binary64

end Splice
