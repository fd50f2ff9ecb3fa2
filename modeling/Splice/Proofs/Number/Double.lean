import Splice.Number.Binary64

/-!
# Doubles and their order

A double is compared by its sign, mantissa and exponent; `Binary64.ofFloat` takes it apart into the
same three (`ofFloat_eq_ofUnpacked`). What is said here of the order is what the checks of numbers
rest on: what is less is also at most, and a number that is not at most zero is a positive one, the
positive infinity, or no number.
-/

open Float.Model (UnpackedFloat Format)
open Float.Model.UnpackedFloat (Sign unpackMantissa unpackExponent unpackSign)

namespace Splice

namespace Binary64

/-! ## Parts of a double -/

/-- What an unpacked double stands for. -/
def ofUnpacked : UnpackedFloat → Binary64
  | .infinity sign => .infinite (sign == .negative)
  | .notANumber => .nan
  | .zero sign => .finite (sign == .negative) 0 (-1074)
  | .finite sign mantissa exponent _ => .finite (sign == .negative) mantissa exponent

theorem ofUnpacked_finite (sign : Sign) (mantissa : Nat) (exponent : Int) (above : 0 < mantissa) :
    ofUnpacked (.finite sign mantissa exponent above) =
      .finite (sign == .negative) mantissa exponent := rfl

theorem toNat_unpackExponent (b : BitVec 64) :
    (@unpackExponent Format.binary64 b).toNat = b.toNat / twoTo 52 % 2048 := by
  simp [unpackExponent, BitVec.extractLsb_toNat, Nat.shiftRight_eq_div_pow]

theorem toNat_unpackMantissa (b : BitVec 64) :
    (@unpackMantissa Format.binary64 b).toNat = b.toNat % twoTo 52 := by
  simp [unpackMantissa, BitVec.extractLsb_toNat]

theorem toNat_unpackSign (b : BitVec 64) :
    (@unpackSign Format.binary64 b).toNat = b.toNat / twoTo 63 := by
  have bound : b.toNat / 2 ^ 63 < 2 := by
    have := b.isLt
    omega
  show (BitVec.cast _ (BitVec.extractLsb 63 63 b)).toNat = _
  simp only [BitVec.toNat_cast, BitVec.extractLsb_toNat, Nat.shiftRight_eq_div_pow]
  exact Nat.mod_eq_of_lt bound

theorem ofBitVec_unpackSign (b : BitVec 64) :
    (Sign.ofBitVec (@unpackSign Format.binary64 b) == .negative) =
      (b.toNat / twoTo 63 == 1) := by
  rw [← toNat_unpackSign]
  generalize @unpackSign Format.binary64 b = sign
  revert sign
  decide

/-- The mantissa of a normal double has one more binary digit in front. -/
theorem toNat_one_append (mantissa : BitVec 52) :
    (1#1 ++ mantissa).toNat = twoTo 52 + mantissa.toNat := by
  rw [BitVec.toNat_append, ← Nat.shiftLeft_add_eq_or_of_lt mantissa.isLt]
  rfl

/-- `ofFloat` takes a double apart as the comparisons of doubles do. -/
theorem ofFloat_eq_ofUnpacked (x : Float) : ofFloat x = ofUnpacked x.toModel.unpack := by
  let b := x.toModel.toBits.toBitVec
  have bits : x.toBits.toNat = b.toNat := rfl
  show _ = ofUnpacked (UnpackedFloat.unpack Format.binary64 b)
  unfold ofFloat UnpackedFloat.unpack
  dsimp only
  rw [bits, ← toNat_unpackExponent, ← toNat_unpackMantissa, ← ofBitVec_unpackSign]
  -- Both sides go by the exponent first, and by the mantissa where the exponent is extreme.
  by_cases full : @unpackExponent Format.binary64 b = -1#_
  · have ones : ((@unpackExponent Format.binary64 b).toNat == 2047) = true := by rw [full]; rfl
    rw [if_pos ones, if_pos full]
    by_cases none : @unpackMantissa Format.binary64 b = 0#_
    · have nothing : ((@unpackMantissa Format.binary64 b).toNat == 0) = true := by rw [none]; rfl
      rw [if_pos nothing, if_pos none]
      rfl
    · have filled : ((@unpackMantissa Format.binary64 b).toNat == 0) ≠ true := fun zero =>
        none (BitVec.eq_of_toNat_eq (eq_of_beq zero))
      rw [if_neg filled, if_neg none]
      rfl
  · have less : ((@unpackExponent Format.binary64 b).toNat == 2047) ≠ true := fun ones =>
      full (BitVec.eq_of_toNat_eq (eq_of_beq ones))
    rw [if_neg less, if_neg full]
    by_cases low : @unpackExponent Format.binary64 b = 0#_
    · have zero : ((@unpackExponent Format.binary64 b).toNat == 0) = true := by rw [low]; rfl
      rw [if_pos zero, if_pos low]
      by_cases none : @unpackMantissa Format.binary64 b = 0#_
      · have nothing : (@unpackMantissa Format.binary64 b).toNat = 0 := by rw [none]; rfl
        rw [dif_pos none, nothing]
        rfl
      · have least : ((@unpackExponent Format.binary64 b).toNat : Int) -
            (Format.binary64.exponentBias + Format.binary64.mantissaBitsWithoutImplicit) + 1 =
              -1074 := by rw [low]; rfl
        rw [dif_neg none, ofUnpacked_finite, least]
    · have normal : ((@unpackExponent Format.binary64 b).toNat == 0) ≠ true := fun zero =>
        low (BitVec.eq_of_toNat_eq (eq_of_beq zero))
      rw [if_neg normal, if_neg low, ofUnpacked_finite, ← toNat_one_append]
      rfl

/-! ## The order -/

theorem float_le_iff {x y : Float} : x ≤ y ↔ x.toModel.unpack.le y.toModel.unpack :=
  decide_eq_true_iff

theorem float_lt_iff {x y : Float} : x < y ↔ x.toModel.unpack.lt y.toModel.unpack :=
  decide_eq_true_iff

theorem float_le_of_lt {x y : Float} (h : x < y) : x ≤ y := by
  rw [float_lt_iff, UnpackedFloat.lt, beq_iff_eq] at h
  rw [float_le_iff, UnpackedFloat.le, h]
  rfl

/-- What is not at most zero is above it, or no number. -/
theorem ofFloat_of_not_le_zero {x : Float} (h : ¬ x ≤ 0) :
    ofFloat x = .nan ∨ ofFloat x = .infinite false ∨
      ∃ mantissa exponent, 0 < mantissa ∧ ofFloat x = .finite false mantissa exponent := by
  have zero : (0 : Float).toModel.unpack = .zero .positive := rfl
  rw [float_le_iff, zero] at h
  rw [ofFloat_eq_ofUnpacked]
  cases unpacked : x.toModel.unpack with
  | notANumber => exact .inl rfl
  | infinity sign =>
    cases sign with
    | negative => exact absurd (by rw [unpacked]; rfl) h
    | positive => exact .inr (.inl rfl)
  | zero sign => exact absurd (by rw [unpacked]; rfl) h
  | finite sign mantissa exponent positive =>
    cases sign with
    | negative => exact absurd (by rw [unpacked]; rfl) h
    | positive => exact .inr (.inr ⟨mantissa, exponent, positive, rfl⟩)

end Binary64

end Splice
