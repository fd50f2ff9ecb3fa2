import Mathlib.Data.List.TakeWhile
import Splice.Number.Reading

/-!
# Reading what was written

An integer of no more than `Json.mostDigits` digits is read from its own text
(`Number.integerOfSetting_toString`). Nothing in such a text is a blank, so trimming leaves it as it
is (`Text.trim_of_forall`).
-/

namespace Splice

namespace Text

theorem trimWhile_of_forall {p : Char → Bool} {cs : List Char} (h : ∀ c ∈ cs, p c = false) :
    trimWhile p cs = cs := by
  have kept : ∀ {l : List Char}, (∀ c ∈ l, p c = false) → l.dropWhile p = l := fun none =>
    List.dropWhile_eq_self_iff.2 fun _ => by simp [none _ (List.getElem_mem _)]
  rw [trimWhile, dropEndWhile, kept h, kept (by simpa using h), List.reverse_reverse]

theorem trim_of_forall {text : String} (h : ∀ c ∈ text.toList, isBlank c = false) :
    trim text = text := by
  rw [trim, trimWhile_of_forall h, String.ofList_toList]

theorem isWhite_of_lt {c : Char} (above : 0x20 < c.toNat) (below : c.toNat < 0x80) :
    isWhite c = false := by
  have narrow : ∀ n < 0x80, 0x20 < n → whiteSpace.holds n = false := by decide
  exact narrow c.toNat below above

theorem isBlank_of_lt {c : Char} (above : 0x20 < c.toNat) (below : c.toNat < 0x80) :
    isBlank c = false := by
  have control : ¬ c.toNat ≤ 0x1F := by omega
  simp [isBlank, isWhite_of_lt above below, control]

end Text

namespace Number

/-! ## Digits -/

theorem toNat_of_isDigit {c : Char} (digit : c.isDigit) : 0x30 ≤ c.toNat ∧ c.toNat ≤ 0x39 :=
  Char.isDigit_iff_toNat.1 digit

theorem ne_of_isDigit {c other : Char} (digit : c.isDigit) (plain : other.isDigit = false) :
    c ≠ other := by
  rintro rfl
  rw [digit] at plain
  cases plain

theorem scanSign_of_digits {cs : List Char} (digits : ∀ c ∈ cs, c.isDigit) :
    scanSign cs = (false, cs) := by
  unfold scanSign
  split
  case h_1 rest => exact absurd (digits '+' List.mem_cons_self) (by decide)
  case h_2 rest => exact absurd (digits '-' List.mem_cons_self) (by decide)
  case h_3 => rfl

theorem joinDigits?_of_digits {cs : List Char} (digits : ∀ c ∈ cs, c.isDigit) {previous : Char}
    (start : previous ≠ '_') : joinDigits? previous cs = some cs := by
  induction cs generalizing previous with
  | nil => simp [joinDigits?, start]
  | cons c rest ih =>
    rw [List.forall_mem_cons] at digits
    have plain : c ≠ '_' := ne_of_isDigit digits.1 (by decide)
    rw [joinDigits?, ih digits.2 plain]
    simp [plain, start]

theorem settingChars_of_digits {text : String} (digits : ∀ c ∈ text.toList, c.isDigit) :
    settingChars text = text.toList := by
  have white : ∀ c ∈ text.toList, Text.isWhite c = false := by
    intro c mem
    have range := toNat_of_isDigit (digits c mem)
    exact Text.isWhite_of_lt (by omega) (by omega)
  rw [settingChars, Text.trimWhile_of_forall white]
  refine (List.map_congr_left fun c mem => ?_).trans (List.map_id _)
  have range := toNat_of_isDigit (digits c mem)
  exact if_pos (show c.toNat < 0x80 by omega)

theorem decimalValue_eq (digits : List Char) :
    Json.decimalValue digits = Nat.ofDigitChars 10 digits 0 := by
  rw [Json.decimalValue, Nat.ofDigitChars_eq_foldl]
  simp only [Nat.mul_comm]

/-- **An integer is read from its own text**, unless it has too many digits. -/
theorem integerOfSetting_toString {n : Nat} (short : (Nat.toDigits 10 n).length ≤ Json.mostDigits) :
    integerOfSetting (toString n) = .ok n := by
  have text : (toString n).toList = Nat.toDigits 10 n := by simp
  have digits : ∀ c ∈ Nat.toDigits 10 n, c.isDigit := fun c mem =>
    Nat.isDigit_of_mem_toDigits (by decide) (by decide) mem
  have numeral : (Nat.toDigits 10 n).takeWhile (fun c => c.isDigit || c == '_') =
      Nat.toDigits 10 n :=
    List.takeWhile_eq_self_iff.2 fun c mem => by rw [digits c mem, Bool.true_or]
  unfold integerOfSetting
  rw [settingChars_of_digits (by rwa [text]), text, scanSign_of_digits digits]
  dsimp only
  rw [numeral, joinDigits?_of_digits digits (by decide)]
  simp [Nat.not_lt.2 short, decimalValue_eq, Nat.toDigits_ne_nil]

end Number

end Splice
