import Mathlib.Data.Bool.AllAny
import Mathlib.Data.List.DropRight
import Mathlib.Tactic.NormNum
import Mathlib.Tactic.Ring
import Splice.Number.Thousandths
import Splice.Proofs.Number.Double
import Splice.Proofs.Number.Rounding

/-!
# Decimal numerals

`Numeral.value?` reads a decimal numeral: perhaps a minus sign, at least one digit, and perhaps a
point with at least one digit behind it. Nothing else is one, so infinities and what is no number
have no value.

The text of a number for the engine is a numeral exactly if the number is finite, and then its value
is that many thousandths as the number was rounded to (`Thousandths.value?_text`).
-/

namespace Splice

/-! ## The reader -/

namespace Numeral

/-- The number that digits write, perhaps with a point and more digits behind them. -/
def unsigned? (cs : List Char) : Option ℚ :=
  let whole := cs.takeWhile Char.isDigit
  if whole.isEmpty then none
  else
    match cs.drop whole.length with
    | [] => some (Nat.ofDigitChars 10 whole 0)
    | '.' :: places =>
      if places.isEmpty || !places.all Char.isDigit then none
      else some (Nat.ofDigitChars 10 (whole ++ places) 0 / 10 ^ places.length)
    | _ => none

/-- The number that a decimal numeral writes. -/
def value? (text : String) : Option ℚ :=
  match text.toList with
  | '-' :: cs => (unsigned? cs).map Neg.neg
  | cs => unsigned? cs

theorem unsigned?_digits {whole : List Char} (filled : whole ≠ [])
    (digits : ∀ c ∈ whole, c.isDigit) :
    unsigned? whole = some (Nat.ofDigitChars 10 whole 0 : ℚ) := by
  have all : whole.takeWhile Char.isDigit = whole := List.takeWhile_eq_self_iff.2 digits
  simp [unsigned?, all, filled]

theorem unsigned?_point {whole places : List Char} (filled : whole ≠ [])
    (digits : ∀ c ∈ whole, c.isDigit) (more : places ≠ []) (others : ∀ c ∈ places, c.isDigit) :
    unsigned? (whole ++ '.' :: places) =
      some (Nat.ofDigitChars 10 (whole ++ places) 0 / 10 ^ places.length : ℚ) := by
  have all : (whole ++ '.' :: places).takeWhile Char.isDigit = whole := by
    rw [List.takeWhile_append_of_pos digits, List.takeWhile_cons_of_neg (by decide),
      List.append_nil]
  have places_digits : places.all Char.isDigit = true := List.all_eq_true.2 others
  simp [unsigned?, all, filled, more, places_digits]

end Numeral

/-! ## The characters of a number -/

/-- The text of an integer has no other characters than digits and a minus sign. -/
theorem mem_toString_int {n : Int} {c : Char} (mem : c ∈ (toString n).toList) :
    c.isDigit ∨ c = '-' := by
  have digits : ∀ {m : Nat}, c ∈ (toString m).toList → c.isDigit := by
    intro m inside
    rw [Nat.toString_eq_ofList_toDigits, String.toList_ofList] at inside
    exact Nat.isDigit_of_mem_toDigits (by decide) (by decide) inside
  cases n with
  | ofNat m => exact .inl (digits mem)
  | negSucc m =>
    have parts : c ∈ ("-" ++ toString (m + 1)).toList := mem
    rw [String.toList_append, List.mem_append] at parts
    exact parts.elim (fun sign => .inr (by simpa using sign)) fun inside => .inl (digits inside)

namespace Thousandths

theorem isDigit_of_mem_threeDigits {n : Nat} {c : Char} (mem : c ∈ threeDigits n) : c.isDigit := by
  have digit : ∀ m, (Nat.digitChar (m % 10)).isDigit := fun m => by
    rw [Nat.isDigit_digitChar, decide_eq_true_eq]
    exact Nat.mod_lt m (by decide)
  simp only [threeDigits, List.mem_cons, List.not_mem_nil, or_false] at mem
  rcases mem with rfl | rfl | rfl <;> exact digit _

/-- The digits behind the point. -/
def places (thousandths : Nat) : List Char :=
  (threeDigits (thousandths % 1000)).rdropWhile (· == '0')

theorem fraction_eq (thousandths : Nat) :
    fraction thousandths =
      if places thousandths = [] then [] else '.' :: places thousandths := by
  have same : ((threeDigits (thousandths % 1000)).reverse.dropWhile (· == '0')).reverse =
      places thousandths := rfl
  rw [fraction, same]
  cases places thousandths <;> rfl

theorem isDigit_of_mem_places {n : Nat} {c : Char} (mem : c ∈ places n) : c.isDigit :=
  isDigit_of_mem_threeDigits ((List.rdropWhile_prefix _ _).subset mem)

/-- What a text of a number has besides digits: a minus sign, a point, and the letters of `inf` and
`nan`. -/
def otherChars : List Char := ['-', '.', 'i', 'n', 'f', 'a']

theorem mem_text {x : Float} {c : Char} (mem : c ∈ (text x).toList) :
    c.isDigit ∨ c ∈ otherChars := by
  have numeral_chars : ∀ {n : Nat}, c ∈ numeral n → c.isDigit ∨ c = '.' := by
    intro n inside
    rw [numeral, fraction_eq, List.mem_append] at inside
    rcases inside with whole | behind
    · exact .inl (Nat.isDigit_of_mem_toDigits (by decide) (by decide) whole)
    · split at behind
      · cases behind
      · exact (List.mem_cons.1 behind).elim .inr fun place => .inl (isDigit_of_mem_places place)
  unfold text at mem
  split at mem
  case h_1 =>
    have letters : ∀ c ∈ "nan".toList, c ∈ otherChars := List.all_iff_forall_prop.1 (by decide)
    exact .inr (letters c mem)
  case h_2 =>
    have letters (negative : Bool) : ∀ c ∈ (if negative then "-inf" else "inf").toList,
        c ∈ otherChars := List.all_iff_forall_prop.1 (by cases negative <;> decide)
    exact .inr (letters _ c mem)
  case h_3 =>
    rw [String.toList_ofList] at mem
    unfold signed at mem
    split at mem
    · rcases List.mem_cons.1 mem with rfl | inside
      · exact .inr (by decide)
      · exact (numeral_chars inside).imp_right fun same => by rw [same]; decide
    · exact (numeral_chars mem).imp_right fun same => by rw [same]; decide

/-! ## The value of a number's text -/

theorem ofDigitChars_numeral (n : Nat) :
    Nat.ofDigitChars 10 (Nat.toDigits 10 (n / 1000) ++ threeDigits (n % 1000)) 0 = n := by
  have digit : ∀ m, m % 10 < 10 := fun m => Nat.mod_lt m (by decide)
  rw [Nat.ofDigitChars_append, Nat.ofDigitChars_ten_toDigits, threeDigits,
    Nat.ofDigitChars_cons_digitChar_of_lt_ten (digit _),
    Nat.ofDigitChars_cons_digitChar_of_lt_ten (digit _),
    Nat.ofDigitChars_cons_digitChar_of_lt_ten (digit _), Nat.ofDigitChars_nil]
  omega

/-- The zeros that are left out at the end. -/
theorem exists_threeDigits_eq (n : Nat) :
    ∃ zeros, threeDigits (n % 1000) = places n ++ List.replicate zeros '0' := by
  refine ⟨((threeDigits (n % 1000)).rtakeWhile (· == '0')).length, ?_⟩
  have zeros : (threeDigits (n % 1000)).rtakeWhile (· == '0') =
      List.replicate ((threeDigits (n % 1000)).rtakeWhile (· == '0')).length '0' :=
    List.eq_replicate_of_mem fun c mem => by simpa using List.mem_rtakeWhile_imp mem
  rw [← zeros]
  exact (List.rdropWhile_append_rtakeWhile).symm

/-- Leaving out zeros at the end changes no value. -/
theorem ofDigitChars_places (n : Nat) :
    (Nat.ofDigitChars 10 (Nat.toDigits 10 (n / 1000) ++ places n) 0 : ℚ) / 10 ^ (places n).length =
      n / 1000 := by
  obtain ⟨zeros, split⟩ := exists_threeDigits_eq n
  have whole := ofDigitChars_numeral n
  rw [split, ← List.append_assoc, Nat.ofDigitChars_append, Nat.ofDigitChars_replicate_zero] at whole
  have three : (places n).length + zeros = 3 := by
    simpa [threeDigits] using (congrArg List.length split).symm
  have scale : (10 : ℚ) ^ (places n).length * 10 ^ zeros = 1000 := by
    rw [← pow_add, three]
    norm_num
  have shifted : (10 : ℚ) ^ zeros *
      Nat.ofDigitChars 10 (Nat.toDigits 10 (n / 1000) ++ places n) 0 = n := by exact_mod_cast whole
  rw [div_eq_div_iff (pow_ne_zero _ (by norm_num)) (by norm_num), ← scale, ← shifted]
  ring

theorem unsigned?_numeral (n : Nat) : Numeral.unsigned? (numeral n) = some (n / 1000 : ℚ) := by
  have filled : Nat.toDigits 10 (n / 1000) ≠ [] := Nat.toDigits_ne_nil
  have digits : ∀ c ∈ Nat.toDigits 10 (n / 1000), c.isDigit := fun c mem =>
    Nat.isDigit_of_mem_toDigits (by decide) (by decide) mem
  have value := ofDigitChars_places n
  rw [numeral, fraction_eq]
  split
  case isTrue none =>
    rw [none] at value
    rw [List.append_nil, Numeral.unsigned?_digits filled digits]
    simpa using value
  case isFalse some =>
    rw [Numeral.unsigned?_point filled digits some fun c mem => isDigit_of_mem_places mem, value]

theorem value?_signed (negative : Bool) (n : Nat) :
    Numeral.value? (String.ofList (signed negative n)) =
      some (if negative then -(n / 1000 : ℚ) else n / 1000) := by
  have plain : Numeral.value? (String.ofList (numeral n)) = some (n / 1000 : ℚ) := by
    have filled : Nat.toDigits 10 (n / 1000) ≠ [] := Nat.toDigits_ne_nil
    obtain ⟨c, rest, first⟩ := List.exists_cons_of_ne_nil filled
    have inside : c ∈ Nat.toDigits 10 (n / 1000) := by simp [first]
    have digit : c.isDigit := Nat.isDigit_of_mem_toDigits (by decide) (by decide) inside
    have unsigned := unsigned?_numeral n
    rw [numeral, first, List.cons_append] at unsigned ⊢
    unfold Numeral.value?
    rw [String.toList_ofList]
    split
    case h_1 cs same =>
      cases same
      exact absurd digit (by decide)
    case h_2 => exact unsigned
  unfold signed
  split
  case isTrue both =>
    rw [if_pos both.1, Numeral.value?, String.toList_ofList]
    simp [unsigned?_numeral]
  case isFalse either =>
    rw [plain]
    cases negative with
    | false => rfl
    | true =>
      obtain rfl : n = 0 := by simpa using either
      simp

/-- **The text of a number is a numeral exactly if the number is finite**, and then its value is
the count of thousandths that the number was rounded to. -/
theorem value?_text (x : Float) :
    Numeral.value? (text x) =
      match Binary64.ofFloat x with
      | .finite negative m e =>
        some (if negative then -(round m e / 1000 : ℚ) else round m e / 1000)
      | _ => none := by
  unfold text
  cases Binary64.ofFloat x with
  | nan => decide +kernel
  | infinite negative => cases negative <;> decide +kernel
  | finite negative m e => exact value?_signed negative (round m e)

/-! ## Numbers above zero -/

theorem numerator_div_denominator (m : Nat) (e : Int) :
    (Binary64.numerator m e / Binary64.denominator e : ℚ) = m * 2 ^ e := by
  have split : e = (e.toNat : Int) - (-e).toNat := by omega
  rw [Binary64.numerator, Binary64.denominator, Nat.cast_mul, cast_twoTo, cast_twoTo, mul_div_assoc,
    ← zpow_sub₀ (by norm_num), ← split]

/-- What is above half a thousandth is not rounded to nothing. -/
theorem round_pos_iff {m : Nat} {e : Int} : 0 < round m e ↔ (1 / 2000 : ℚ) < m * 2 ^ e := by
  have above : 0 < Binary64.denominator e := twoTo_pos _
  have cast : (0 : ℚ) < Binary64.denominator e := by exact_mod_cast above
  rw [round, roundHalfEven_pos_iff above, ← numerator_div_denominator,
    div_lt_div_iff₀ (by norm_num) cast]
  norm_cast
  omega

end Thousandths

/-- A text that writes a number above zero. -/
def Numeral.Positive (text : String) : Prop := ∃ v ∈ Numeral.value? text, 0 < v

instance (text : String) : Decidable (Numeral.Positive text) :=
  inferInstanceAs (Decidable (∃ v ∈ Numeral.value? text, 0 < v))

/-- The exact value of a double, if it is finite. -/
def Binary64.value? (x : Float) : Option ℚ :=
  match ofFloat x with
  | .finite negative m e => some (if negative then -(m * 2 ^ e) else m * 2 ^ e)
  | _ => none

namespace Thousandths

/-- **The text of a number writes one above zero exactly if the number is finite and above half a
thousandth.** -/
theorem positive_text_iff {x : Float} :
    Numeral.Positive (text x) ↔ ∃ v ∈ Binary64.value? x, 1 / 2000 < v := by
  rw [Numeral.Positive, value?_text, Binary64.value?]
  cases Binary64.ofFloat x with
  | nan => simp
  | infinite negative => simp
  | finite negative m e =>
    have scale : (0 : ℚ) < 1000 := by norm_num
    simp only [Option.mem_def, Option.some.injEq, exists_eq_left']
    cases negative with
    | true =>
      have rounded : 0 ≤ (round m e / 1000 : ℚ) := div_nonneg (Nat.cast_nonneg _) scale.le
      have exact : (0 : ℚ) ≤ m * 2 ^ e :=
        mul_nonneg (Nat.cast_nonneg _) (zpow_nonneg (by norm_num) _)
      have half : (0 : ℚ) < 1 / 2000 := by norm_num
      exact iff_of_false (not_lt_of_ge (neg_nonpos.2 rounded))
        (not_lt_of_ge ((neg_nonpos.2 exact).trans half.le))
    | false =>
      have above : 0 < (round m e / 1000 : ℚ) ↔ 0 < round m e := by
        rw [lt_div_iff₀ scale, zero_mul, Nat.cast_pos]
      exact above.trans round_pos_iff

/-- A number that is not at most zero is written as one above zero, or as an exception. -/
theorem text_of_not_le_zero {x : Float} (h : ¬ x ≤ 0) :
    Numeral.Positive (text x) ∨ text x ∈ ["nan", "inf", "0"] := by
  rw [positive_text_iff]
  rcases Binary64.ofFloat_of_not_le_zero h with nan | infinite | ⟨m, e, -, finite⟩
  · exact .inr (by simp [text, nan])
  · exact .inr (by simp [text, infinite])
  · rcases Nat.eq_zero_or_pos (round m e) with nothing | above
    · refine .inr ?_
      rw [text, finite]
      show String.ofList (signed false (round m e)) ∈ _
      rw [nothing]
      decide +kernel
    · exact .inl (by simpa [Binary64.value?, finite] using round_pos_iff.1 above)

end Thousandths

end Splice
