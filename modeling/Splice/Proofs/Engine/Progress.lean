import Mathlib.Data.Bool.AllAny
import Mathlib.Data.Nat.Digits.Defs
import Splice.Engine.Progress
import Splice.Proofs.Engine.Lines
import Splice.Proofs.Number.Double
import Splice.Proofs.Number.Nearest
import Splice.Proofs.Number.Reading
import Splice.Proofs.Text.Utf8

/-!
# What progress can be

Every percentage that is reported lies between 0 and 100 (`Progress.mem_reports`), whatever the
engine writes. Two things can stop the reading of progress: a line that is too long, and a position
so large that no double is near it (`Progress.reports_snd_eq_none_iff`). Such a position is a number
of more than 300 digits (`Progress.oversized_iff`), and one that has no more than 4300 does stop the
reading (`Progress.reports_position`).
-/

namespace Splice

namespace Progress

open Binary64 (float_le_of_lt)

/-! ## Percentages -/

/-- A percentage. -/
def InRange (x : Float) : Prop := 0.0 ≤ x ∧ x ≤ 100.0

theorem inRange_hundred : InRange 100.0 := by
  constructor <;> decide

/-- Whatever is clamped becomes a percentage, what is no number included. -/
theorem inRange_clamp (x : Float) : InRange (clamp x) := by
  have most : (if x < 100.0 then x else 100.0) ≤ 100.0 := by
    split
    case isTrue below => exact float_le_of_lt below
    case isFalse => exact inRange_hundred.2
  unfold clamp
  dsimp only
  generalize (if x < 100.0 then x else 100.0) = capped at most
  split
  case isTrue above => exact ⟨float_le_of_lt above, most⟩
  case isFalse => constructor <;> decide

theorem inRange_of_ofLine {total : Float} {line : String} {percent : Float}
    (h : ofLine total line = .ok (some percent)) : InRange percent := by
  unfold ofLine at h
  dsimp only at h
  split at h
  case isTrue =>
    cases h
    exact inRange_hundred
  case isFalse =>
    split at h
    case isTrue => cases h
    case isFalse =>
      split at h
      case h_1 microseconds _ =>
        unfold percentage at h
        split at h
        case h_1 seconds _ =>
          cases h
          exact inRange_clamp _
        case h_2 => cases h
      case h_2 => cases h

theorem mem_reportsAfter {total last : Float} {lines : List String} {percent : Float}
    (mem : percent ∈ (reportsAfter total last lines).1) : InRange percent := by
  fun_induction reportsAfter total last lines with
  | case1 => cases mem
  | case2 => cases mem
  | case3 last line rest _ ih => exact ih mem
  | case4 last line rest percent _ _ ih => exact ih mem
  | case5 last line rest first found _ later fault taken ih =>
    rcases List.mem_cons.1 mem with rfl | behind
    · exact inRange_of_ofLine found
    · exact ih (by rw [taken]; exact behind)

/-- All that is reported is a percentage. -/
theorem mem_reports {total : Float} {stdout : Bytes} {percent : Float}
    (mem : percent ∈ (reports total stdout).1) : InRange percent := mem_reportsAfter mem

/-! ## What stops the reading -/

/-- A position that no double is near to. -/
def Oversized (microseconds : Int) : Prop :=
  Binary64.nearest? (microseconds < 0) microseconds.natAbs 1000000 = none

instance (microseconds : Int) : Decidable (Oversized microseconds) :=
  inferInstanceAs (Decidable (_ = none))

/-- Positions are oversized from a fixed one on. -/
theorem oversized_iff {microseconds : Int} :
    Oversized microseconds ↔ Binary64.tooLarge * 1000000 ≤ microseconds.natAbs :=
  Binary64.nearest?_eq_none_iff (by decide)

/-- A line tells a position. -/
def Tells (line : String) (microseconds : Int) : Prop :=
  (Text.cutAt '=' (Text.trim line)).1 = "out_time_ms" ∧
    Number.integerOfSetting (Text.cutAt '=' (Text.trim line)).2 = .ok microseconds

/-- A line cannot be read exactly if it tells an oversized position, and there is a length to
compare it with. -/
theorem ofLine_eq_error_iff {total : Float} {line : String} {fault : Fault} :
    ofLine total line = .error fault ↔
      fault = .oversizedQuotient ∧ ¬ total ≤ 0.0 ∧
        ∃ microseconds, Tells line microseconds ∧ Oversized microseconds := by
  unfold ofLine Tells Oversized
  dsimp only
  generalize Text.cutAt '=' (Text.trim line) = pair
  obtain ⟨key, value⟩ := pair
  by_cases timed : key = "out_time_ms"
  -- No other key tells a position, the end of the progress included.
  case neg =>
    have other : (key != "out_time_ms" || decide (total ≤ 0.0)) = true := by simp [timed]
    rw [other]
    split <;> simp [timed]
  case pos =>
    have marker : (key == "progress" && value == "end") = false := by simp [timed]
    have position : (key != "out_time_ms" || decide (total ≤ 0.0)) = decide (total ≤ 0.0) := by
      simp [timed]
    rw [marker, position]
    by_cases none : total ≤ 0.0
    · simp [none]
    · cases read : Number.integerOfSetting value with
      | error refusal => simp [none]
      | ok microseconds =>
        unfold percentage
        cases near : Binary64.nearest? (microseconds < 0) microseconds.natAbs 1000000 <;>
          simp [none, timed, near, Except.map, eq_comm]

/-- A line gives no percentage or one in range, unless it cannot be read. -/
theorem ofLine_cases (total : Float) (line : String) :
    ofLine total line = .ok none ∨
      (∃ percent, ofLine total line = .ok (some percent) ∧ InRange percent) ∨
      (ofLine total line = .error .oversizedQuotient ∧
        ∃ microseconds, Tells line microseconds ∧ Oversized microseconds) := by
  cases found : ofLine total line with
  | error fault =>
    obtain ⟨rfl, -, position⟩ := ofLine_eq_error_iff.1 found
    exact .inr (.inr ⟨rfl, position⟩)
  | ok outcome =>
    cases outcome with
    | none => exact .inl rfl
    | some percent => exact .inr (.inl ⟨percent, rfl, inRange_of_ofLine found⟩)

/-- What the engine writes can be read to its end: no line is too long, and no line tells an
oversized position of a result that has a length. -/
structure Readable (total : Float) (stdout : Bytes) : Prop where
  short : ∀ line ∈ stretches (· == 0x0A) stdout, line.length ≤ Engine.lineLimit
  near : ∀ line ∈ (Engine.linesOf stdout).1, ∀ microseconds,
    Tells (Utf8.lossy line) microseconds → Oversized microseconds → total ≤ 0.0

theorem reportsAfter_snd_eq_none_iff {total last : Float} {lines : List String} :
    (reportsAfter total last lines).2 = none ↔
      ∀ line ∈ lines, ∀ fault, ofLine total line ≠ .error fault := by
  fun_induction reportsAfter total last lines with
  | case1 => simp
  | case2 last line rest fault found => simp [found]
  | case3 last line rest found ih => simp [found, ih]
  | case4 last line rest percent found _ ih => simp [found, ih]
  | case5 last line rest first found _ later fault taken ih =>
    rw [taken] at ih
    simp [found, ih]

/-- The reading of progress goes on to the end exactly if no line is too long and none tells an
oversized position. -/
theorem reports_snd_eq_none_iff {total : Float} {stdout : Bytes} :
    (reports total stdout).2 = none ↔ Readable total stdout := by
  unfold reports
  dsimp only
  rw [Option.or_eq_none_iff, reportsAfter_snd_eq_none_iff, List.forall_mem_map, and_comm,
    Engine.linesOf, Engine.takeLines_snd_eq_none_iff]
  simp only [ne_eq, ofLine_eq_error_iff]
  constructor
  · rintro ⟨short, near⟩
    refine ⟨short, fun line mem microseconds told oversized => ?_⟩
    by_contra positive
    exact near line mem .oversizedQuotient ⟨rfl, positive, microseconds, told, oversized⟩
  · rintro ⟨short, near⟩
    refine ⟨short, ?_⟩
    rintro line mem fault ⟨-, positive, microseconds, told, oversized⟩
    exact positive (near line mem microseconds told oversized)

/-! ## Positions -/

/-- The line that tells a position. -/
def position (microseconds : Nat) : String := "out_time_ms" ++ "=" ++ toString microseconds

theorem toNat_of_mem_position {microseconds : Nat} {c : Char}
    (mem : c ∈ (position microseconds).toList) : 0x20 < c.toNat ∧ c.toNat < 0x80 := by
  have key : ∀ c ∈ ("out_time_ms" ++ "=").toList, 0x20 < c.toNat ∧ c.toNat < 0x80 :=
    List.all_iff_forall_prop.1 (by decide)
  rw [position, String.toList_append, List.mem_append] at mem
  rcases mem with inKey | inDigits
  · exact key c inKey
  · have digit := Nat.isDigit_of_mem_toDigits (b := 10) (by decide) (by decide)
      (show c ∈ Nat.toDigits 10 microseconds by simpa using inDigits)
    have range := Number.toNat_of_isDigit digit
    omega

/-- The line of a position gives its percentage. -/
theorem ofLine_position {total : Float} (positive : ¬ total ≤ 0.0) {microseconds : Nat}
    (short : microseconds < 10 ^ Json.mostDigits) :
    ofLine total (position microseconds) = (percentage microseconds total).map some := by
  have trimmed : Text.trim (position microseconds) = position microseconds :=
    Text.trim_of_forall fun c mem =>
      Text.isBlank_of_lt (toNat_of_mem_position mem).1 (toNat_of_mem_position mem).2
  have cut : Text.cutAt '=' (position microseconds) = ("out_time_ms", toString microseconds) :=
    Text.cutAt_append rfl (by decide)
  have digits := Nat.toDigits_length 10 microseconds Json.mostDigits (by decide) short
  unfold ofLine
  rw [trimmed, cut]
  dsimp only
  rw [Number.integerOfSetting_toString digits]
  simp [positive]

/-- **An oversized position stops the reading of progress**, unless its digits are too many to be
read at all. -/
theorem reports_position {total : Float} (positive : ¬ total ≤ 0.0) {microseconds : Nat}
    (oversized : Oversized microseconds) (short : microseconds < 10 ^ Json.mostDigits) :
    (reports total (Bytes.ofNumbers (position microseconds))).2 = some .oversizedQuotient := by
  have low : ∀ c ∈ (position microseconds).toList, c.toNat < 0x80 := fun _ mem =>
    (toNat_of_mem_position mem).2
  have unended : ∀ b ∈ Bytes.ofNumbers (position microseconds), b ≠ 0x0A :=
    List.forall_mem_map.2 fun c mem => by
      have range := toNat_of_mem_position mem
      simp [← UInt8.toNat_inj]
      omega
  have length : (Bytes.ofNumbers (position microseconds)).length ≤ Engine.lineLimit := by
    have digits := Nat.toDigits_length 10 microseconds Json.mostDigits (by decide) short
    have limits : Json.mostDigits + 12 ≤ Engine.lineLimit := by decide
    simp [Bytes.ofNumbers, position]
    omega
  have filled : Bytes.ofNumbers (position microseconds) ≠ [] := by
    simp [Bytes.ofNumbers, position]
  have stopped : ofLine total (position microseconds) = .error .oversizedQuotient := by
    rw [ofLine_position positive short, percentage, oversized]
    rfl
  rw [reports, Engine.linesOf_of_forall_ne unended filled length]
  simp [Utf8.lossy_ofNumbers low, reportsAfter, stopped]

end Progress

end Splice
