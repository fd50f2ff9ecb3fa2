import Splice.Proofs.Number.Bits

/-!
# Finite numbers are written canonically

The text of a finite number is a canonical numeral: it has no digit, sign or point that could be left
out. Its value is the exact value of the number rounded to thousandths, a tie going to the even one.
So the text is a function of that count of thousandths (`Thousandths.text_eq`), and what is known
about rounding to integers gives the rest: greater numbers have texts of greater values, the opposite
number has the opposite text, and a number that is nearest to the value of a text has that same text
(`Thousandths.text_exact`).
-/

namespace Splice

/-! ## Canonical numerals -/

namespace Numeral

/-- The parts of a decimal numeral with at most three digits behind the point, none of them
superfluous. -/
structure Parts where
  negative : Bool
  whole : List Char
  places : List Char
  filled : whole ≠ []
  digits : ∀ c ∈ whole, c.isDigit
  leading : whole.head? = some '0' → whole = ['0']
  decimals : ∀ c ∈ places, c.isDigit
  few : places.length ≤ 3
  trailing : places.getLast? ≠ some '0'
  signed : negative → ¬ (whole = ['0'] ∧ places = [])

/-- The numeral that its parts make; there is a point only where something stands behind it. -/
def Parts.text (p : Parts) : String :=
  String.ofList ((if p.negative then ['-'] else []) ++ p.whole ++
    if p.places = [] then [] else '.' :: p.places)

/-- A text is a numeral with nothing superfluous in it. -/
def Canonical (text : String) : Prop := ∃ p : Parts, p.text = text

/-- The numeral of the opposite number. -/
def negated (text : String) : String :=
  match text.toList with
  | ['0'] => text
  | '-' :: cs => String.ofList cs
  | cs => String.ofList ('-' :: cs)

end Numeral

namespace Thousandths

/-! ## The digits of a numeral -/

/-- A number above zero does not begin with the digit zero. -/
theorem head?_toDigits_ne {n : Nat} (some : 0 < n) : (Nat.toDigits 10 n).head? ≠ Option.some '0' := by
  induction n using Nat.strong_induction_on with
  | _ n ih =>
    rcases Nat.lt_or_ge n 10 with short | long
    · rw [Nat.toDigits_of_lt_base short]
      interval_cases n <;> decide
    · rw [Nat.toDigits_of_base_le (by decide) long, List.head?_append_of_ne_nil _ Nat.toDigits_ne_nil]
      exact ih (n / 10) (by omega) (by omega)

theorem toDigits_of_head? {n : Nat} (zero : (Nat.toDigits 10 n).head? = some '0') :
    Nat.toDigits 10 n = ['0'] := by
  rcases Nat.eq_zero_or_pos n with rfl | some
  · rfl
  · exact absurd zero (head?_toDigits_ne some)

theorem length_places_le (n : Nat) : (places n).length ≤ 3 :=
  (List.rdropWhile_prefix _ _).length_le

theorem getLast?_places_ne (n : Nat) : (places n).getLast? ≠ some '0' := by
  intro zero
  obtain ⟨filled, last⟩ := List.mem_getLast?_eq_getLast zero
  have kept := List.rdropWhile_last_not (· == '0') (threeDigits (n % 1000)) filled
  exact kept (by simpa [places] using last.symm)

/-- Only nothing is written as a single zero. -/
theorem eq_zero_of_numeral {n : Nat} (h : numeral n = ['0']) : n = 0 := by
  have value := unsigned?_numeral n
  have zero : numeral 0 = ['0'] := by decide
  rw [h, ← zero, unsigned?_numeral 0] at value
  simpa using value.symm

theorem exists_numeral_eq_cons (n : Nat) : ∃ c cs, numeral n = c :: cs ∧ c.isDigit := by
  obtain ⟨c, rest, first⟩ :=
    List.exists_cons_of_ne_nil (Nat.toDigits_ne_nil (b := 10) (n := n / 1000))
  have inside : c ∈ Nat.toDigits 10 (n / 1000) := by simp [first]
  exact ⟨c, rest ++ fraction n, by rw [numeral, first, List.cons_append],
    Nat.isDigit_of_mem_toDigits (by decide) (by decide) inside⟩

/-! ## Integer numbers of thousandths -/

/-- The text of an integer number of thousandths. -/
def ofInt (k : ℤ) : String := String.ofList (signed (k < 0) k.natAbs)

theorem canonical_ofInt (k : ℤ) : Numeral.Canonical (ofInt k) := by
  refine ⟨{
    negative := k < 0
    whole := Nat.toDigits 10 (k.natAbs / 1000)
    places := places k.natAbs
    filled := Nat.toDigits_ne_nil
    digits := fun c mem => Nat.isDigit_of_mem_toDigits (by decide) (by decide) mem
    leading := toDigits_of_head?
    decimals := fun c mem => isDigit_of_mem_places mem
    few := length_places_le _
    trailing := getLast?_places_ne _
    signed := ?_ }, ?_⟩
  · rintro negative ⟨whole, none⟩
    have zero : numeral k.natAbs = ['0'] := by rw [numeral, fraction_eq, none, whole]; rfl
    have nothing := eq_zero_of_numeral zero
    rw [decide_eq_true_eq] at negative
    omega
  · by_cases negative : k < 0
    · have some : k ≠ 0 := negative.ne
      simp [Numeral.Parts.text, ofInt, signed, numeral, fraction_eq, negative, some]
    · simp [Numeral.Parts.text, ofInt, signed, numeral, fraction_eq, negative]

theorem value?_ofInt (k : ℤ) : Numeral.value? (ofInt k) = some (k / 1000 : ℚ) := by
  rw [ofInt, value?_signed]
  rcases lt_or_ge k 0 with negative | above
  · rw [if_pos (by simpa using negative), Nat.cast_natAbs, abs_of_neg negative, Int.cast_neg,
      neg_div, neg_neg]
  · rw [if_neg (by simpa using above), Nat.cast_natAbs, abs_of_nonneg above]

theorem ofInt_of_pos {k : ℤ} (positive : 0 < k) : ofInt k = String.ofList (numeral k.natAbs) := by
  rw [ofInt, signed, if_neg (by simp [positive.le])]

theorem ofInt_of_neg {k : ℤ} (negative : k < 0) :
    ofInt k = String.ofList ('-' :: numeral k.natAbs) := by
  rw [ofInt, signed, if_pos (by simp [negative, negative.ne])]

theorem negated_minus {cs : List Char} :
    Numeral.negated (String.ofList ('-' :: cs)) = String.ofList cs := by
  simp [Numeral.negated]

theorem negated_digit {c : Char} {cs : List Char} (digit : c.isDigit) (other : c :: cs ≠ ['0']) :
    Numeral.negated (String.ofList (c :: cs)) = String.ofList ('-' :: c :: cs) := by
  unfold Numeral.negated
  rw [String.toList_ofList]
  split
  case h_1 zero => exact absurd zero other
  case h_2 sign =>
    cases sign
    exact absurd digit (by decide)
  case h_3 => rfl

/-- The text of the opposite number is the opposite text. -/
theorem ofInt_neg (k : ℤ) : ofInt (-k) = Numeral.negated (ofInt k) := by
  rcases lt_trichotomy k 0 with negative | rfl | positive
  · rw [ofInt_of_neg negative, negated_minus, ofInt_of_pos (by omega), Int.natAbs_neg]
  · decide
  · obtain ⟨c, cs, first, digit⟩ := exists_numeral_eq_cons k.natAbs
    have other : c :: cs ≠ ['0'] := by
      rw [← first]
      intro zero
      have := eq_zero_of_numeral zero
      omega
    rw [ofInt_of_pos positive, ofInt_of_neg (by omega), Int.natAbs_neg, first,
      negated_digit digit other]

/-! ## The text of a finite number -/

theorem signed_eq_ofInt (negative : Bool) (n : Nat) :
    String.ofList (signed negative n) = ofInt (if negative then -(n : ℤ) else n) := by
  rcases Nat.eq_zero_or_pos n with rfl | some
  · cases negative <;> decide
  · cases negative with
    | true =>
      rw [if_pos rfl, ofInt_of_neg (by omega), Int.natAbs_neg, Int.natAbs_natCast, signed,
        if_pos ⟨rfl, some.ne'⟩]
    | false => simp [ofInt_of_pos (Int.natCast_pos.2 some), signed]

/-- The count of thousandths of a double is its exact value in thousandths, rounded. -/
theorem roundsEven_round (m : Nat) (e : Int) : RoundsEven (1000 * (m * 2 ^ e)) (round m e : Nat) := by
  have rounded := roundsEven_roundHalfEven (1000 * Binary64.numerator m e)
    (twoTo_pos (-e).toNat)
  rw [← numerator_div_denominator, ← mul_div_assoc]
  exact_mod_cast rounded

/-- A finite number has a count of thousandths, to which its exact value is rounded. -/
theorem exists_count {x : Float} {v : ℚ} (finite : Binary64.value? x = some v) :
    ∃ negative m e, Binary64.ofFloat x = .finite negative m e ∧
      RoundsEven (1000 * v) (if negative then -(round m e : ℤ) else round m e) := by
  unfold Binary64.value? at finite
  split at finite
  case h_1 negative m e parts =>
    cases finite
    refine ⟨negative, m, e, parts, ?_⟩
    cases negative with
    | true =>
      rw [if_pos rfl, if_pos rfl, mul_neg]
      exact (roundsEven_round m e).neg
    | false => exact roundsEven_round m e
  case h_2 => cases finite

/-- The text of a finite number is that of the number of thousandths nearest to its exact value. -/
theorem text_eq {x : Float} {v : ℚ} (finite : Binary64.value? x = some v) {k : ℤ}
    (rounded : RoundsEven (1000 * v) k) : text x = ofInt k := by
  obtain ⟨negative, m, e, parts, count⟩ := exists_count finite
  rw [rounded.unique count, ← signed_eq_ofInt, text, parts]

/-- No rounding to thousandths makes a double too large for one. -/
theorem round_lt_tooLarge {m : Nat} {e : Int} (mantissa : m < 2 ^ 53) (exponent : e ≤ 971) :
    round m e < Binary64.tooLarge * 1000 := by
  rw [Binary64.lt_tooLarge_mul_iff (by decide)]
  have digits : (m : ℚ) ≤ 2 ^ 53 - 1 := by
    have : m + 1 ≤ 2 ^ 53 := mantissa
    rw [le_sub_iff_add_le]
    exact_mod_cast this
  have unit : (1 : ℚ) ≤ 2 ^ (970 : ℤ) := one_le_zpow₀ (by norm_num) (by norm_num)
  have twice : (2 : ℚ) ^ (971 : ℤ) = 2 * 2 ^ (970 : ℤ) := by
    have whole : (971 : ℤ) = 1 + 970 := by norm_num
    rw [whole, two_zpow_add, zpow_one]
  have value : (m * 2 ^ e : ℚ) ≤ (2 ^ 53 - 1) * (2 * 2 ^ (970 : ℤ)) := by
    rw [← twice]
    exact mul_le_mul digits (two_zpow_le exponent) (two_zpow_pos e).le (by norm_num)
  have limit : ((twoTo 54 - 1 : Nat) : ℚ) = 2 * 2 ^ 53 - 1 := by
    have same : twoTo 54 - 1 = 18014398509481983 := rfl
    rw [same]
    norm_num
  have rounded := (roundsEven_round m e).bounds.2
  push_cast at rounded
  rw [limit, div_lt_iff₀ (by norm_num)]
  generalize (2 : ℚ) ^ (970 : ℤ) = u at unit value ⊢
  generalize (m * 2 ^ e : ℚ) = exact at rounded value
  push_cast
  linarith

/-- There is a double nearest to the rounded value. -/
theorem nearest_nearest {x : Float} {v : ℚ} (finite : Binary64.value? x = some v) {k : ℤ}
    (rounded : RoundsEven (1000 * v) k) : Binary64.Nearest (nearest x) (k / 1000) := by
  obtain ⟨negative, m, e, parts, count⟩ := exists_count finite
  obtain ⟨mantissa, exponent⟩ := Binary64.bounds_of_ofFloat parts
  obtain ⟨y, found⟩ : ∃ y, Binary64.nearest? negative (round m e) 1000 = some y := by
    rw [← Option.isSome_iff_exists, Option.isSome_iff_ne_none, ne_eq,
      Binary64.nearest?_eq_none_iff (by decide), Nat.not_le]
    exact round_lt_tooLarge mantissa exponent
  have same : nearest x = y := by
    simp only [nearest, parts, Binary64.nearest, found, Option.getD_some]
  have closest := Binary64.nearest_of_nearest? (by decide) found
  rw [same, rounded.unique count]
  cases negative with
  | true => simpa [neg_div] using closest
  | false => simpa using closest

/-- What is nearest to the value of a text has the same text. The number of the text is a double
itself, so what is nearest is no farther from the value than that number, and is rounded to it as the
number was. -/
theorem text_of_nearest {x y : Float} {v : ℚ} (finite : Binary64.value? x = some v) {k : ℤ}
    (rounded : RoundsEven (1000 * v) k) (near : Binary64.Nearest y (k / 1000)) :
    text y = text x := by
  obtain ⟨w, value, closest⟩ := near
  have scaled (u : ℚ) : |1000 * u - k| = 1000 * |u - k / 1000| := by
    have parts : 1000 * u - k = 1000 * (u - k / 1000) := by ring
    rw [parts, abs_mul, abs_of_pos (by norm_num)]
  rw [text_eq finite rounded]
  refine text_eq value (rounded.of_abs_sub_le ?_)
  rw [scaled, scaled]
  exact mul_le_mul_of_nonneg_left (closest x v finite) (by norm_num)

/-- **The text of a finite number is canonical, and its value is the exact value of the number
rounded to thousandths, a tie going to the even one.** Greater numbers are written with greater
values, the opposite number is written as the opposite, and a double nearest to what a text says has
the same text; there is such a double. -/
theorem text_exact {x : Float} {v : ℚ} (finite : Binary64.value? x = some v) :
    ∃ k : ℤ, RoundsEven (1000 * v) k ∧
      Numeral.Canonical (text x) ∧ Numeral.value? (text x) = some (k / 1000 : ℚ) ∧
      (∀ y, x ≤ y → ∀ w, Binary64.value? y = some w →
        ∃ b ∈ Numeral.value? (text y), (k / 1000 : ℚ) ≤ b) ∧
      text (-x) = Numeral.negated (text x) ∧
      (∀ y, Binary64.Nearest y (k / 1000) → text y = text x) ∧
      Binary64.Nearest (nearest x) (k / 1000) := by
  obtain ⟨k, rounded⟩ : ∃ k, RoundsEven (1000 * v) k :=
    let ⟨_, _, _, _, count⟩ := exists_count finite
    ⟨_, count⟩
  have written := text_eq finite rounded
  refine ⟨k, rounded, ?_, ?_, ?_, ?_, ?_, nearest_nearest finite rounded⟩
  · rw [written]
    exact canonical_ofInt k
  · rw [written, value?_ofInt]
  · intro y le w finite'
    obtain ⟨_, _, _, -, rounded'⟩ := exists_count finite'
    have more := (Binary64.float_le_iff_of_level (Binary64.level_of_value? finite)
      (Binary64.level_of_value? finite')).1 le
    have counts := rounded.mono rounded' (mul_le_mul_of_nonneg_left more (by norm_num))
    rw [text_eq finite' rounded', value?_ofInt]
    exact ⟨_, rfl, div_le_div_of_nonneg_right (Int.cast_le.2 counts) (by norm_num)⟩
  · rw [text_eq (Binary64.value?_neg finite) (by rw [mul_neg]; exact rounded.neg), ofInt_neg,
      written]
  · exact fun y near => text_of_nearest finite rounded near

/-- A sixteenth is 62 thousandths and a half, and the even neighbour is the lower one. -/
theorem text_exact_sixteenth :
    Binary64.value? 0.0625 = some (1 / 16) ∧ Numeral.Canonical (text 0.0625) ∧
      Numeral.value? (text 0.0625) = some (62 / 1000) := by
  have finite : Binary64.value? 0.0625 = some (1 / 16) := by
    have parts : Binary64.ofFloat 0.0625 = .finite false (2 ^ 52) (-56) := by decide +kernel
    rw [Binary64.value?, parts]
    norm_num
  obtain ⟨k, rounded, canonical, value, -⟩ := text_exact finite
  have even : RoundsEven (1000 * (1 / 16)) 62 := ⟨by norm_num, fun _ => ⟨31, by norm_num⟩⟩
  refine ⟨finite, canonical, ?_⟩
  rw [value, rounded.unique even]
  norm_num

end Thousandths

end Splice
