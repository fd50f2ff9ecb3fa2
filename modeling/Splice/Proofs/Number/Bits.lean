import Splice.Proofs.Number.Arithmetic

/-!
# Doubles from their bits

The opposite of a double has the opposite value (`Binary64.value?_neg`), and a double that is put
together from its bits has the value that they write (`Binary64.value?_ofBits`). So the double that
`Binary64.nearest?` finds for a fraction is one of those nearest to it among all finite doubles
(`Binary64.nearest_of_nearest?`).
-/

open Float.Model (UnpackedFloat Format)
open Float.Model.UnpackedFloat

namespace Splice

namespace Binary64

/-- What a double unpacks to is packed to the same again. -/
theorem unpack_pack_unpack (x : Float) :
    (Float.Model.pack x.toModel.unpack).unpack = x.toModel.unpack := by
  cases unpacked : x.toModel.unpack with
  | notANumber => exact unpack_packedNaN
  | infinity s => exact unpack_packedInfinity s
  | zero s => exact unpack_packedZero s
  | finite s m e =>
    rw [unpack_pack (canonical_of_unpack unpacked), if_pos (exponent_le_of_unpack unpacked)]

/-! ## Negation -/

theorem unpack_neg (x : Float) : (-x).toModel.unpack = x.toModel.unpack.neg := by
  have result : (-x).toModel.unpack = (Float.Model.pack x.toModel.unpack.neg).unpack := rfl
  rw [result]
  cases unpacked : x.toModel.unpack with
  | notANumber => exact unpack_packedNaN
  | infinity s => exact unpack_packedInfinity (-s)
  | zero s => exact unpack_packedZero (-s)
  | finite s m e =>
    have c := canonical_of_unpack unpacked
    exact (unpack_pack c).trans (if_pos (exponent_le_of_unpack unpacked))

/-- The negation of a number stands for the same with the other sign. -/
theorem ofFloat_neg {x : Float} {negative : Bool} {m : Nat} {e : Int}
    (h : ofFloat x = .finite negative m e) : ofFloat (-x) = .finite (!negative) m e := by
  rw [ofFloat_eq_ofUnpacked] at h ⊢
  rw [unpack_neg]
  cases unpacked : x.toModel.unpack with
  | notANumber | infinity =>
    rw [unpacked] at h
    cases h
  | zero s | finite s =>
    rw [unpacked] at h
    cases h
    cases s <;> rfl

theorem value?_neg {x : Float} {v : ℚ} (h : value? x = some v) : value? (-x) = some (-v) := by
  unfold value? at h ⊢
  split at h
  case h_1 negative m e parts =>
    rw [ofFloat_neg parts]
    cases h
    cases negative <;> simp
  case h_2 => cases h

/-! ## Bits -/

/-- Bits whose exponent is not the greatest are those of a finite double. -/
theorem ofFloat_ofBits {a : UInt64} (ordinary : a.toNat / twoTo 52 % 2048 ≠ 2047) :
    ofFloat (Float.ofBits a) =
      if a.toNat / twoTo 52 % 2048 = 0 then
        .finite (a.toNat / twoTo 63 == 1) (a.toNat % twoTo 52) (-1074)
      else
        .finite (a.toNat / twoTo 63 == 1) (twoTo 52 + a.toNat % twoTo 52)
          ((a.toNat / twoTo 52 % 2048 : Nat) - 1075) := by
  have valid : Format.binary64.Valid a.toBitVec := by
    refine ⟨fun full => absurd ?_ ordinary⟩
    have same : a.toNat = a.toBitVec.toNat := rfl
    rw [same, ← toNat_unpackExponent, full]
    rfl
  have canonical : ofFloat (Float.ofBits a) = ofFloat ⟨⟨a, valid⟩⟩ := by
    rw [ofFloat_eq_ofUnpacked, ofFloat_eq_ofUnpacked]
    exact congrArg ofUnpacked (unpack_pack_unpack ⟨⟨a, valid⟩⟩)
  have bits : (⟨⟨a, valid⟩⟩ : Float).toBits.toNat = a.toNat := rfl
  rw [canonical]
  unfold ofFloat
  rw [bits]
  simp [ordinary]

/-- Bits below those of infinity, with a sign in front of them. -/
theorem ofFloat_ofBits_sign (negative : Bool) {k : Nat} (fits : k < infinityBits) :
    ofFloat (Float.ofBits (if negative then k + twoTo 63 else k).toUInt64) =
      if k / twoTo 52 = 0 then .finite negative (k % twoTo 52) (-1074)
      else .finite negative (twoTo 52 + k % twoTo 52) ((k / twoTo 52 : Nat) - 1075) := by
  set bits := if negative then k + twoTo 63 else k with pattern
  have p52 : twoTo 52 = 4503599627370496 := rfl
  have p63 : twoTo 63 = 9223372036854775808 := rfl
  have limit : infinityBits = 9218868437227405312 := rfl
  rw [p63] at pattern
  rw [limit] at fits
  have same : bits.toUInt64.toNat = bits := by
    rw [Nat.toUInt64_eq, UInt64.toNat_ofNat']
    split at pattern <;> omega
  have sign : (bits / twoTo 63 == 1) = negative := by
    rw [p63]
    cases negative <;> simp at pattern ⊢ <;> omega
  have exponent : bits / twoTo 52 % 2048 = k / twoTo 52 := by
    rw [p52]
    cases negative <;> simp at pattern <;> omega
  have fraction : bits % twoTo 52 = k % twoTo 52 := by
    rw [p52]
    cases negative <;> simp at pattern <;> omega
  have ordinary : bits / twoTo 52 % 2048 ≠ 2047 := by
    rw [exponent, p52]
    omega
  have parts := ofFloat_ofBits (a := bits.toUInt64) (by rwa [same])
  rwa [same, sign, exponent, fraction] at parts

/-- The value of bits: a number of units `2 ^ n` above the least positive double. A mantissa that
rounding has made one digit too long gives the bits of the next power of two. -/
theorem value?_ofBits {negative : Bool} {n r : Nat} (long : r ≤ 2 ^ 53) (full : n = 0 ∨ 2 ^ 52 ≤ r)
    (fits : n * twoTo 52 + r < infinityBits) :
    value? (Float.ofBits (if negative then n * twoTo 52 + r + twoTo 63
      else n * twoTo 52 + r).toUInt64) =
      some (if negative then -((r : ℚ) * 2 ^ ((n : ℤ) - 1074)) else r * 2 ^ ((n : ℤ) - 1074)) := by
  have p52 : twoTo 52 = 4503599627370496 := rfl
  have parts := ofFloat_ofBits_sign negative fits
  have shape : ∃ m e, (if (n * twoTo 52 + r) / twoTo 52 = 0 then
        Binary64.finite negative ((n * twoTo 52 + r) % twoTo 52) (-1074)
      else .finite negative (twoTo 52 + (n * twoTo 52 + r) % twoTo 52)
        (((n * twoTo 52 + r) / twoTo 52 : Nat) - 1075)) = .finite negative m e ∧
      (m * 2 ^ e : ℚ) = r * 2 ^ ((n : ℤ) - 1074) := by
    rw [p52]
    rcases Nat.lt_or_ge r 4503599627370496 with small | large
    · obtain rfl : n = 0 := by omega
      rw [if_pos (by omega)]
      refine ⟨_, _, rfl, ?_⟩
      rw [Nat.zero_mul, Nat.zero_add, Nat.mod_eq_of_lt small]
      rfl
    · rw [if_neg (by omega)]
      refine ⟨_, _, rfl, ?_⟩
      rcases long.lt_or_eq with short | rfl
      · have mantissa : 4503599627370496 + (n * 4503599627370496 + r) % 4503599627370496 = r := by
          omega
        have unit : (((n * 4503599627370496 + r) / 4503599627370496 : Nat) : ℤ) - 1075 =
            n - 1074 := by omega
        rw [mantissa, unit]
      · have mantissa : 4503599627370496 + (n * 4503599627370496 + 2 ^ 53) % 4503599627370496 =
            2 ^ 52 := by omega
        have unit : (((n * 4503599627370496 + 2 ^ 53) / 4503599627370496 : Nat) : ℤ) - 1075 =
            1 + (n - 1074) := by omega
        rw [mantissa, unit, two_zpow_add]
        push_cast
        ring
  obtain ⟨m, e, decoded, value⟩ := shape
  rw [value?, parts.trans decoded]
  simp only [value]

/-- The unit of a quotient is that of its fitting exponent. -/
theorem unitOf_fittingExponent {num den : Nat} (some : 0 < num) (above : 0 < den) :
    UnitOf (num / den) (fittingExponent num den) := by
  obtain ⟨e, fitting, lower, upper⟩ := exists_fittingExponent_eq some above
  have magnitude : |(num / den : ℚ)| = num / den :=
    abs_of_nonneg (div_nonneg (Nat.cast_nonneg _) (Nat.cast_nonneg _))
  rw [fitting]
  refine ⟨le_max_right _ _, ?_, or_iff_not_imp_left.2 fun higher => ?_⟩
  · rw [magnitude]
    exact upper.trans_le (two_zpow_le (by omega))
  · have same : max e (-1074) = e := by omega
    rwa [magnitude, same]

/-- **The double nearest to a quotient is the quotient rounded.** -/
theorem rounds_of_nearest? {negative : Bool} {num den : Nat} {y : Float} (above : 0 < den)
    (h : nearest? negative num den = some y) :
    ∃ w, Rounds (num / den) w ∧ value? y = some (if negative then -w else w) := by
  unfold nearest? at h
  dsimp only at h
  split at h
  case isFalse => cases h
  case isTrue fits =>
    cases h
    rcases Nat.eq_zero_or_pos num with rfl | some
    · have nothing : nearestBits 0 den = 0 * twoTo 52 + 0 := if_pos rfl
      rw [nothing] at fits ⊢
      refine ⟨0, by simpa using Rounds.zero, ?_⟩
      rw [value?_ofBits (Nat.zero_le _) (.inl rfl) fits]
      simp
    · have unit := unitOf_fittingExponent some above
      have bits : nearestBits num den = (fittingExponent num den + 1074).toNat * twoTo 52 +
          roundHalfEven (num * twoTo (-fittingExponent num den).toNat)
            (den * twoTo (fittingExponent num den).toNat) := if_neg some.ne'
      rw [bits] at fits ⊢
      generalize fittingExponent num den = t at *
      have rounded := roundsEven_roundHalfEven (num * twoTo (-t).toNat)
        (Nat.mul_pos above (twoTo_pos t.toNat))
      rw [Nat.cast_mul, Nat.cast_mul, scaled_div] at rounded
      set r := roundHalfEven (num * twoTo (-t).toNat) (den * twoTo t.toNat)
      have least := unit.least
      have long : r ≤ 2 ^ 53 := by exact_mod_cast unit.rounded_le rounded
      have full : (t + 1074).toNat = 0 ∨ 2 ^ 52 ≤ r := by
        refine or_iff_not_imp_left.2 fun higher => ?_
        exact_mod_cast unit.le_rounded rounded
          (div_nonneg (Nat.cast_nonneg _) (Nat.cast_nonneg _)) (by omega)
      refine ⟨_, ⟨t, _, unit, rounded, rfl⟩, ?_⟩
      rw [value?_ofBits long full fits]
      have back : (((t + 1074).toNat : Nat) : ℤ) - 1074 = t := by omega
      rw [back]
      rfl

/-- No double is nearer to a number than this one. -/
def Nearest (y : Float) (q : ℚ) : Prop :=
  ∃ w ∈ value? y, ∀ z, ∀ u ∈ value? z, |w - q| ≤ |u - q|

/-- What `nearest?` gives is nearest, whatever the sign. -/
theorem nearest_of_nearest? {negative : Bool} {num den : Nat} {y : Float} (above : 0 < den)
    (h : nearest? negative num den = some y) :
    Nearest y (if negative then -(num / den) else num / den) := by
  obtain ⟨w, rounds, value⟩ := rounds_of_nearest? above h
  refine ⟨_, value, fun z u finite => ?_⟩
  have short := short_of_value? finite
  rw [abs_sub_comm _ (ite _ _ _), abs_sub_comm u]
  cases negative with
  | true => exact rounds.neg.nearest short
  | false => exact rounds.nearest short

end Binary64

end Splice
