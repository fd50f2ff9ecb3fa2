import Splice.Proofs.Number.Sum
import Splice.Proofs.Timeline.Runs

/-!
# The times on a timeline

A duration passes the check if it is not at most zero, which is not to say that it is positive: it
may be no number. The times of a schedule are sums of durations, rounded each time (`momentAfter`).
As long as all durations are positive they do not decrease; behind the first that is no number none
of them is a number (`Timeline.Timed`). The length of a timeline can be written as minutes and
seconds exactly if all durations are positive and their sum has not become infinite.

All this holds of every timeline, however it was edited (`Timeline.performAll_times`).
-/

namespace Splice

open Binary64

/-- Whether an entry is shown for a positive number of seconds. -/
def Entry.Lasts (e : Entry) : Prop := 0 < e.duration

instance (e : Entry) : Decidable e.Lasts := inferInstanceAs (Decidable (0 < e.duration))

/-! ## The moments of a schedule -/

/-- The moment at which entries end that begin at some moment. -/
def momentAfter (moment : Float) (entries : List Entry) : Float :=
  entries.foldl (fun moment e => moment + e.duration) moment

theorem momentAfter_append (moment : Float) (before after : List Entry) :
    momentAfter moment (before ++ after) = momentAfter (momentAfter moment before) after :=
  List.foldl_append

theorem getElem?_scheduleFrom (moment : Float) (entries : List Entry) (k : Nat) :
    (scheduleFrom moment entries)[k]? = entries[k]?.map fun e =>
      ⟨e, momentAfter moment (entries.take k), momentAfter moment (entries.take (k + 1))⟩ := by
  induction entries generalizing moment k with
  | nil => rfl
  | cons entry rest ih =>
    cases k with
    | zero => rfl
    | succ k => exact ih (moment + entry.duration) k

theorem scheduleEnd_schedule (entries : List Entry) :
    scheduleEnd (schedule entries) = momentAfter 0.0 entries := by
  unfold scheduleEnd schedule
  rw [List.getLast?_eq_getElem?, getElem?_scheduleFrom]
  cases entries with
  | nil => rfl
  | cons entry rest =>
    have last : (scheduleFrom 0.0 (entry :: rest)).length - 1 = rest.length := by
      have count := length_schedule (entry :: rest)
      rw [schedule, List.length_cons] at count
      omega
    rw [last, List.getElem?_eq_getElem (by simp)]
    simp

/-- Positive durations put moments off, or leave them where they are if they are too short. -/
theorem le_momentAfter {moment : Float} (real : 0 ≤ moment) {entries : List Entry}
    (lasting : ∀ e ∈ entries, e.Lasts) :
    0 ≤ momentAfter moment entries ∧ moment ≤ momentAfter moment entries := by
  induction entries using List.reverseRecOn with
  | nil => exact ⟨real, float_le_refl real⟩
  | append_singleton before e ih =>
    rw [List.forall_mem_append, List.forall_mem_singleton] at lasting
    obtain ⟨earlier, later⟩ := ih lasting.1
    obtain ⟨positive, onward⟩ := float_le_add earlier lasting.2
    rw [momentAfter_append]
    exact ⟨float_le_of_lt positive, float_le_trans real later onward positive⟩

theorem zero_le_total_layOut {entries : List Entry} (lasting : ∀ e ∈ entries, e.Lasts) :
    0 ≤ (Timeline.layOut entries).total := by
  rw [Timeline.total, Timeline.layOut, scheduleEnd_schedule]
  exact (le_momentAfter (by decide) lasting).1

/-- Behind a duration that is no number no moment is one. -/
theorem ofFloat_momentAfter_eq_nan {moment : Float} {entries : List Entry}
    (h : ofFloat moment = .nan ∨ ∃ e ∈ entries, ofFloat e.duration = .nan) :
    ofFloat (momentAfter moment entries) = .nan := by
  induction entries generalizing moment with
  | nil => exact h.resolve_right (by simp)
  | cons entry rest ih =>
    refine ih ?_
    rw [List.exists_mem_cons_iff, ← or_assoc] at h
    exact h.imp_left ofFloat_add_eq_nan

/-! ## Clock texts -/

/-- A number of minutes and seconds, the seconds in two digits. -/
def clock (minutes seconds : Nat) : String :=
  toString minutes ++ ":" ++ (toString (seconds / 10) ++ toString (seconds % 10))

theorem clockText_natCast (seconds : Nat) :
    Timeline.clockText seconds = clock (seconds / 60) (seconds % 60) := by
  have twoDigits : ∀ rest < 60, (if (toString rest).length < 2 then "0" ++ toString rest
      else toString rest) = toString (rest / 10) ++ toString (rest % 10) := by
    decide +kernel
  have minutes : (seconds : Int).fdiv 60 = (seconds / 60 : Nat) := by
    rw [Int.fdiv_eq_ediv_of_nonneg _ (by decide)]
    rfl
  have rest : (seconds : Int).fmod 60 = (seconds % 60 : Nat) := by
    rw [Int.fmod_eq_emod_of_nonneg _ (by decide)]
    rfl
  rw [clock, ← twoDigits _ (Nat.mod_lt seconds (by decide)), Timeline.clockText, minutes, rest]
  rfl

/-! ## Edited timelines -/

/-- What the times of a timeline are like, and the text of its length. The durations are positive,
or no numbers; a row has real times, in order, and begins behind the rows before it, exactly if the
durations up to there are positive. -/
structure Timeline.Timed (t : Timeline) : Prop where
  duration : ∀ e ∈ t.entries, e.Lasts ∨ ofFloat e.duration = .nan
  ordered : ∀ (k : Nat) (row : Row), t.rows[k]? = some row →
    (0 ≤ row.start ∧ row.start ≤ row.stop ↔ ∀ e ∈ t.entries.take (k + 1), e.Lasts)
  onward : ∀ (i j : Nat) (row later : Row), i ≤ j → t.rows[i]? = some row →
    t.rows[j]? = some later → (row.start ≤ later.start ↔ ∀ e ∈ t.entries.take j, e.Lasts)
  unreal : t.formatDuration = .error .nan ↔ ∃ e ∈ t.entries, ¬ e.Lasts
  endless : t.formatDuration = .error .infinite ↔
    (∀ e ∈ t.entries, e.Lasts) ∧ value? t.total = none
  written : ∀ text, t.formatDuration = .ok text → ∃ minutes seconds : Nat, seconds < 60 ∧
    (∃ v ∈ value? t.total, ⌊v⌋ = 60 * minutes + seconds) ∧ text = clock minutes seconds

/-- Whether all times of a timeline are real and in order, and its length can be written. -/
structure Timeline.Real (t : Timeline) : Prop where
  lasting : ∀ e ∈ t.entries, e.Lasts
  ordered : ∀ row ∈ t.rows, 0 ≤ row.start ∧ row.start ≤ row.stop
  sorted : t.rows.Pairwise fun row later => row.start ≤ later.start
  written : ∃ minutes seconds : Nat, seconds < 60 ∧
    (∃ v ∈ value? t.total, ⌊v⌋ = 60 * minutes + seconds) ∧
      t.formatDuration = .ok (clock minutes seconds)

/-- A duration that is no number is not positive. -/
theorem Entry.not_lasts_of_nan {e : Entry} (h : ofFloat e.duration = .nan) : ¬ e.Lasts :=
  fun lasts => not_le_of_ofFloat_eq_nan (.inr h) (float_le_of_lt lasts)

section

variable {entries : List Entry} (durations : ∀ e ∈ entries, e.Lasts ∨ ofFloat e.duration = .nan)
include durations

/-- The moments behind more and more entries are in order exactly as far as all of them last. -/
theorem momentAfter_take_le_iff {i j : Nat} (before : i ≤ j) :
    momentAfter 0.0 (entries.take i) ≤ momentAfter 0.0 (entries.take j) ↔
      ∀ e ∈ entries.take j, e.Lasts := by
  refine ⟨fun onward e mem => ?_, fun lasting => ?_⟩
  · refine (durations e (List.mem_of_mem_take mem)).resolve_right fun nan => ?_
    exact not_le_of_ofFloat_eq_nan (.inr (ofFloat_momentAfter_eq_nan (.inr ⟨e, mem, nan⟩))) onward
  · obtain ⟨rest, split⟩ := List.take_prefix_take_left before (l := entries)
    rw [← split, List.forall_mem_append] at lasting
    rw [← split, momentAfter_append]
    have real := (le_momentAfter (show (0 : Float) ≤ 0.0 by decide) lasting.1).1
    exact (le_momentAfter real lasting.2).2

theorem formatDuration_layOut :
    (Timeline.layOut entries).formatDuration =
      if ∀ e ∈ entries, e.Lasts then
        match value? (Timeline.layOut entries).total with
        | some v => .ok (Timeline.clockText ⌊v⌋)
        | none => .error .infinite
      else .error .nan := by
  unfold Timeline.formatDuration
  split
  case isTrue lasting =>
    rw [truncate_of_zero_le (zero_le_total_layOut lasting)]
    cases value? (Timeline.layOut entries).total <;> rfl
  case isFalse broken =>
    push Not at broken
    obtain ⟨e, mem, short⟩ := broken
    have nan := (durations e mem).resolve_left short
    rw [Timeline.total, Timeline.layOut, scheduleEnd_schedule, truncate,
      ofFloat_momentAfter_eq_nan (.inr ⟨e, mem, nan⟩)]
    rfl

theorem formatDuration_layOut_eq_nan_iff :
    (Timeline.layOut entries).formatDuration = .error .nan ↔ ∃ e ∈ entries, ¬ e.Lasts := by
  rw [formatDuration_layOut durations]
  refine ⟨fun failed => ?_, fun ⟨e, mem, short⟩ => if_neg fun lasting => short (lasting e mem)⟩
  by_contra! lasting
  rw [if_pos lasting] at failed
  split at failed <;> cases failed

theorem formatDuration_layOut_eq_infinite_iff :
    (Timeline.layOut entries).formatDuration = .error .infinite ↔
      (∀ e ∈ entries, e.Lasts) ∧ value? (Timeline.layOut entries).total = none := by
  rw [formatDuration_layOut durations]
  refine ⟨fun failed => ?_, fun ⟨lasting, endless⟩ => by rw [if_pos lasting, endless]⟩
  split at failed
  case isFalse => cases failed
  case isTrue lasting =>
    refine ⟨lasting, ?_⟩
    split at failed
    case h_1 => cases failed
    case h_2 endless => exact endless

/-- A length that is written is written as minutes and two digits of seconds. -/
theorem exists_clock_of_formatDuration_layOut {text : String}
    (written : (Timeline.layOut entries).formatDuration = .ok text) :
    ∃ minutes seconds : Nat, seconds < 60 ∧
      (∃ v ∈ value? (Timeline.layOut entries).total, ⌊v⌋ = 60 * minutes + seconds) ∧
        text = clock minutes seconds := by
  rw [formatDuration_layOut durations] at written
  split at written
  case isFalse => cases written
  case isTrue lasting =>
    split at written
    case h_2 => cases written
    case h_1 v finite =>
      cases written
      have real := zero_le_total_layOut lasting
      obtain ⟨seconds, whole⟩ := Int.eq_ofNat_of_zero_le
        (Int.floor_nonneg.2 (value?_nonneg real v finite))
      refine ⟨seconds / 60, seconds % 60, Nat.mod_lt _ (by decide), ⟨v, finite, ?_⟩, ?_⟩
      · rw [whole]
        omega
      · rw [whole, clockText_natCast]

end

namespace Timeline

theorem timed_layOut {entries : List Entry} (acceptable : Acceptable entries) :
    (layOut entries).Timed := by
  have durations : ∀ e ∈ entries, e.Lasts ∨ ofFloat e.duration = .nan :=
    fun e mem => zero_lt_or_nan_of_not_le (acceptable.lasting e mem)
  refine ⟨durations, fun k row here => ?_, fun i j row later before here there => ?_,
    formatDuration_layOut_eq_nan_iff durations, formatDuration_layOut_eq_infinite_iff durations,
    fun text => exists_clock_of_formatDuration_layOut durations⟩
  · rw [layOut, schedule, getElem?_scheduleFrom, Option.map_eq_some_iff] at here
    obtain ⟨e, -, rfl⟩ := here
    refine ⟨fun order => (momentAfter_take_le_iff durations k.le_succ).1 order.2, fun lasting => ?_⟩
    have earlier : ∀ e ∈ entries.take k, e.Lasts := fun e mem =>
      lasting e ((List.take_prefix_take_left k.le_succ).subset mem)
    exact ⟨(le_momentAfter (by decide) earlier).1,
      (momentAfter_take_le_iff durations k.le_succ).2 lasting⟩
  · rw [layOut, schedule, getElem?_scheduleFrom, Option.map_eq_some_iff] at here there
    obtain ⟨e, -, rfl⟩ := here
    obtain ⟨e', -, rfl⟩ := there
    exact momentAfter_take_le_iff durations before

/-- With times as they are, all is well exactly if every duration is a number and the sum is finite.
-/
theorem Timed.real_iff {t : Timeline} (timed : t.Timed) :
    t.Real ↔ (∀ e ∈ t.entries, ofFloat e.duration ≠ .nan) ∧ value? t.total ≠ none := by
  constructor
  · intro real
    obtain ⟨minutes, seconds, -, ⟨v, finite, -⟩, -⟩ := real.written
    refine ⟨fun e mem nan => Entry.not_lasts_of_nan nan (real.lasting e mem), fun none => ?_⟩
    cases none.symm.trans finite
  · rintro ⟨numbers, finite⟩
    have lasting : ∀ e ∈ t.entries, e.Lasts := fun e mem =>
      (timed.duration e mem).resolve_right (numbers e mem)
    have first (k : Nat) : ∀ e ∈ t.entries.take k, e.Lasts := fun e mem =>
      lasting e (List.mem_of_mem_take mem)
    refine ⟨lasting, fun row mem => ?_, ?_, ?_⟩
    · obtain ⟨k, here⟩ := List.mem_iff_getElem?.1 mem
      exact (timed.ordered k row here).2 (first _)
    · rw [List.pairwise_iff_getElem]
      intro i j inside inside' before
      exact (timed.onward i j _ _ before.le (List.getElem?_eq_getElem inside)
        (List.getElem?_eq_getElem inside')).2 (first _)
    · cases format : t.formatDuration with
      | ok text =>
        obtain ⟨minutes, seconds, short, whole, rfl⟩ := timed.written text format
        exact ⟨minutes, seconds, short, whole, rfl⟩
      | error reason =>
        cases reason with
        | nan =>
          obtain ⟨e, mem, broken⟩ := timed.unreal.1 format
          exact absurd (lasting e mem) broken
        | infinite => exact absurd (timed.endless.1 format).2 finite

/-- **The times of a timeline, however it was edited.** Its durations are positive, but for those
that are no numbers, which the check lets through; up to the first of these all times are real and
in order, and none is behind it. All is well exactly if there is none and the sum of the durations
is finite. -/
theorem performAll_times {entries : List Entry} {start : Timeline}
    (made : ofEntries entries = .ok start) (edits : List Edit) :
    let t := start.performAll edits
    t.Timed ∧
      (t.Real ↔ (∀ e ∈ t.entries, ofFloat e.duration ≠ .nan) ∧ value? t.total ≠ none) := by
  intro t
  obtain ⟨rows_eq, acceptable⟩ := (sound_of_ofEntries made).performAll edits
  have same : t = layOut t.entries := by rw [layOut, ← rows_eq]
  have timed : t.Timed := by
    rw [same]
    exact timed_layOut acceptable
  exact ⟨timed, timed.real_iff⟩

/-- Two clips, of which one is made longer and moved. -/
theorem performAll_times_two_clips :
    let a : Entry := ⟨"a", "m", 2.5, .known .cut, .real 1.0⟩
    let b : Entry := ⟨"b", "m", 4.0, .known .cut, .real 1.0⟩
    let t := (layOut [a, b]).performAll [.setDuration "b" (some 62.75), .reorder ["b", "a"]]
    ofEntries [a, b] = .ok (layOut [a, b]) ∧ t.Real ∧ t.formatDuration = .ok "1:05" := by
  intro a b t
  have made : ofEntries [a, b] = .ok (layOut [a, b]) :=
    ofEntries_eq_ok_iff.2 ⟨rfl, by decide, by decide⟩
  have real := (performAll_times made [.setDuration "b" (some 62.75), .reorder ["b", "a"]]).2
  exact ⟨made, real.2 ⟨by decide +kernel, by decide +kernel⟩, by decide +kernel⟩

/-- A clip for a time that is no number is accepted, and two clips whose times are finite but add up
to infinity: in neither case is all well. -/
theorem not_real_of_accepted :
    let clip (id : String) (seconds : Float) : Entry := ⟨id, "m", seconds, .known .cut, .real 1.0⟩
    let unreal := [clip "a" notANumber]
    let endless := [clip "a" 1e308, clip "b" 1e308]
    (ofEntries unreal = .ok (layOut unreal) ∧ ¬ (layOut unreal).Real ∧
      (layOut unreal).formatDuration = .error .nan) ∧
    ofEntries endless = .ok (layOut endless) ∧ ¬ (layOut endless).Real ∧
      (layOut endless).formatDuration = .error .infinite := by
  intro clip unreal endless
  refine ⟨⟨ofEntries_eq_ok_iff.2 ⟨rfl, by decide +kernel, by decide +kernel⟩, fun real => ?_,
    by decide +kernel⟩, ofEntries_eq_ok_iff.2 ⟨rfl, by decide, by decide +kernel⟩, fun real => ?_,
    by decide +kernel⟩
  · exact absurd (real.lasting _ (List.mem_singleton_self _)) (by decide +kernel)
  · obtain ⟨minutes, seconds, -, -, written⟩ := real.written
    have failed : (layOut endless).formatDuration = .error .infinite := by decide +kernel
    cases failed.symm.trans written

end Timeline

end Splice
