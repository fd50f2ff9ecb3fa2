import Splice.Proofs.Timeline.Lookup
import Splice.Proofs.Timeline.Times

/-!
# What an edit leaves as it was

Every edit lays the whole timeline out anew, and yet it changes little. The rows in front of a place
depend on the entries in front of it alone (`take_schedule_around`), and the times depend on the
durations alone (`map_span_scheduleFrom`). So a new duration moves the rows behind its entry and no
others (`Lengthened`), a new transition moves none at all (`Rejoined`), and a new entry comes behind
the rows that are there (`schedule_append_singleton`).
-/

namespace Splice

/-! ## Parts of a schedule -/

/-- When a row begins and ends. -/
def Row.span (row : Row) : Float × Float := (row.start, row.stop)

/-- The times of clips that follow one another from a moment on: each begins at one sum of durations
and ends at the next. -/
def spansFrom (moment : Float) (durations : List Float) : List (Float × Float) :=
  let sums := durations.scanl (· + ·) moment
  sums.zip sums.tail

theorem map_span_scheduleFrom (moment : Float) (entries : List Entry) :
    (scheduleFrom moment entries).map Row.span = spansFrom moment (entries.map Entry.duration) := by
  induction entries generalizing moment with
  | nil => rfl
  | cons e rest ih =>
    rw [scheduleFrom, List.map_cons, ih]
    cases rest <;> simp [spansFrom, Row.span, List.scanl_cons]

theorem scheduleFrom_append (moment : Float) (front behind : List Entry) :
    scheduleFrom moment (front ++ behind) =
      scheduleFrom moment front ++ scheduleFrom (momentAfter moment front) behind := by
  induction front generalizing moment with
  | nil => rfl
  | cons e rest ih => exact congrArg (_ :: ·) (ih (moment + e.duration))

theorem schedule_append_singleton (entries : List Entry) (entry : Entry) :
    schedule (entries ++ [entry]) =
      schedule entries ++ [⟨entry, scheduleEnd (schedule entries),
        scheduleEnd (schedule entries) + entry.duration⟩] := by
  rw [scheduleEnd_schedule]
  exact scheduleFrom_append 0.0 entries [entry]

section

variable (front : List Entry) (e : Entry) (behind : List Entry)

/-- The schedule around one of the entries. -/
theorem schedule_around :
    schedule (front ++ e :: behind) =
      schedule front ++ ⟨e, momentAfter 0.0 front, momentAfter 0.0 front + e.duration⟩ ::
        scheduleFrom (momentAfter 0.0 front + e.duration) behind :=
  scheduleFrom_append 0.0 front (e :: behind)

theorem take_schedule_around :
    (schedule (front ++ e :: behind)).take front.length = schedule front := by
  rw [schedule_around, List.take_left' (length_schedule front)]

theorem getElem?_schedule_around :
    (schedule (front ++ e :: behind))[front.length]? =
      some ⟨e, momentAfter 0.0 front, momentAfter 0.0 front + e.duration⟩ := by
  rw [schedule_around, ← length_schedule front]
  simp

theorem drop_schedule_around :
    (schedule (front ++ e :: behind)).drop (front.length + 1) =
      scheduleFrom (momentAfter 0.0 front + e.duration) behind := by
  rw [schedule_around, ← length_schedule front]
  simp

end

namespace Timeline

/-! ## One entry changed -/

/-- What is left of a timeline when the entry of an id has got another duration: it has one place,
and nothing else about the entries, in whose order the rows are, has changed. The rows in front of
the place are the same, its own row begins where it began, and the rows behind it follow one another
from its new end on. -/
structure Lengthened (t after : Timeline) (id : String) (i : Nat) (seconds : Float) : Prop where
  place : ∀ k, t.ids[k]? = some id ↔ k = i
  entries : after.entries = t.entries.modify i fun e => { e with duration := seconds }
  order : after.rows.map Row.entry = after.entries
  front : after.rows.take i = t.rows.take i
  here : ∃ row, t.rows[i]? = some row ∧ after.rows[i]? =
    some ⟨{ row.entry with duration := seconds }, row.start, row.start + seconds⟩
  behind : ∀ row ∈ after.rows[i]?, (after.rows.drop (i + 1)).map Row.span =
    spansFrom row.stop ((t.entries.drop (i + 1)).map Entry.duration)

/-- What is left of a timeline when the entry of an id has got another transition, and perhaps
another duration of it: it has one place, nothing else about the entries, in whose order the rows
are, has changed, and no row begins or ends at another time. -/
structure Rejoined (t after : Timeline) (id : String) (i : Nat) (kind : TransitionKind)
    (seconds : Option Float) : Prop where
  place : ∀ k, t.ids[k]? = some id ↔ k = i
  entries : after.entries = t.entries.modify i fun e =>
    { e with
      transition := .known kind
      transitionDuration := (seconds.map .real).getD e.transitionDuration }
  order : after.rows.map Row.entry = after.entries
  spans : after.rows.map Row.span = t.rows.map Row.span

variable {t after : Timeline} {id : String}

theorem Sound.lengthened (h : t.Sound) {seconds : Float}
    (done : (t.replace id fun e => { e with duration := seconds }) = .ok after) :
    ∃ i, Lengthened t after id i seconds := by
  obtain ⟨i, found, rfl⟩ := replace_eq_ok_iff.1 done
  have inside : i < t.entries.length := (List.findIdx?_eq_some_iff_getElem.1 found).1
  -- The entries in front of the place and behind it are the same in both timelines.
  obtain ⟨front, e, behind, split, rfl, modified⟩ :=
    List.exists_of_modify (fun e : Entry => { e with duration := seconds }) inside
  refine ⟨front.length, fun k => h.getElem?_ids_eq_some_iff found, rfl, map_entry_schedule _,
    ?_, ?_, ?_⟩
  · rw [layOut, modified, h.rows_eq, split, take_schedule_around, take_schedule_around]
  · rw [layOut, modified, h.rows_eq, split, getElem?_schedule_around, getElem?_schedule_around]
    exact ⟨_, rfl, rfl⟩
  · rw [layOut, modified, getElem?_schedule_around, drop_schedule_around, map_span_scheduleFrom,
      split]
    rintro _ ⟨⟩
    simp

theorem Sound.rejoined (h : t.Sound) {kind : TransitionKind} {seconds : Option Float}
    (done : (t.replace id fun e =>
      { e with
        transition := .known kind
        transitionDuration := (seconds.map .real).getD e.transitionDuration }) = .ok after) :
    ∃ i, Rejoined t after id i kind seconds := by
  obtain ⟨i, found, rfl⟩ := replace_eq_ok_iff.1 done
  have inside : i < t.entries.length := (List.findIdx?_eq_some_iff_getElem.1 found).1
  obtain ⟨front, e, behind, split, -, modified⟩ :=
    List.exists_of_modify (fun e : Entry =>
      { e with
        transition := .known kind
        transitionDuration := (seconds.map .real).getD e.transitionDuration }) inside
  refine ⟨i, fun k => h.getElem?_ids_eq_some_iff found, rfl, map_entry_schedule _, ?_⟩
  rw [h.rows_eq, layOut, schedule, schedule, map_span_scheduleFrom, map_span_scheduleFrom, modified,
    split]
  simp

/-! ## Edits -/

theorem Sound.rows_append (h : t.Sound) {entry : Entry} (done : t.append entry = .ok after) :
    after.entries = t.entries ++ [entry] ∧
      after.rows = t.rows ++ [⟨entry, t.total, t.total + entry.duration⟩] := by
  obtain ⟨-, rfl⟩ := append_eq_ok_iff.1 done
  refine ⟨rfl, ?_⟩
  rw [layOut, schedule_append_singleton, total, h.rows_eq]

/-- **Edits are local.** However a timeline was edited before, a new duration of an entry leaves the
rows in front of it as they are and moves those behind it by adding up their durations from its new
end on; a new transition changes no time at all; and a new entry comes last, beginning when the
timeline ended, and all other rows are the same. In no case does anything else about the entries
change. -/
theorem performAll_local {entries : List Entry} {start : Timeline}
    (made : ofEntries entries = .ok start) (edits : List Edit) :
    let t := start.performAll edits
    (∀ id seconds answer after,
      (Edit.setDuration id seconds).work.run t = .ok answer after →
        ∃ i s, seconds = some s ∧ Lengthened t after id i s) ∧
    (∀ id text seconds answer after,
      (Edit.setTransition id text seconds).work.run t = .ok answer after →
        ∃ i kind, readTransition text = .ok kind ∧ Rejoined t after id i kind seconds) ∧
    ∀ entry answer after, (Edit.append entry).work.run t = .ok answer after →
      after.entries = t.entries ++ [entry] ∧
        after.rows = t.rows ++ [⟨entry, t.total, t.total + entry.duration⟩] := by
  intro t
  have h : t.Sound := (sound_of_ofEntries made).performAll edits
  refine ⟨fun id seconds answer after ran => ?_, fun id text seconds answer after ran => ?_,
    fun entry answer after ran => h.rows_append (h.edit_of_run_work ran)⟩
  · obtain ⟨s, given, -, done⟩ := setDuration_eq_ok_iff.1 (h.edit_of_run_work ran)
    obtain ⟨i, changed⟩ := h.lengthened done
    exact ⟨i, s, given, changed⟩
  · obtain ⟨kind, meant, -, done⟩ := setTransition_eq_ok_iff.1 (h.edit_of_run_work ran)
    obtain ⟨i, changed⟩ := h.rejoined done
    exact ⟨i, kind, meant, changed⟩

/-- Of three clips the second is made shorter and then to fade, and a fourth is put behind them. -/
theorem performAll_local_three_clips :
    let clip (id : String) (seconds : Float) : Entry := ⟨id, "m", seconds, .known .cut, .real 1.0⟩
    let entries := [clip "a" 5.0, clip "b" 4.0, clip "c" 3.0]
    let t := layOut entries
    let shorter := t.perform (.setDuration "b" (some 1.5))
    let fading := shorter.perform (.setTransition "b" (some "fade") (some 0.5))
    let longer := fading.perform (.append ⟨"d", "m", 2.0, .known .cut, .real 1.0⟩)
    ofEntries entries = .ok t ∧ Lengthened t shorter "b" 1 1.5 ∧
      Rejoined shorter fading "b" 1 .fade (some 0.5) ∧
      longer.rows = fading.rows ++ [⟨clip "d" 2.0, fading.total, fading.total + 2.0⟩] := by
  intro clip entries t shorter fading longer
  have made : ofEntries entries = .ok t := ofEntries_eq_ok_iff.2 ⟨rfl, by decide, by decide⟩
  let first : List Edit := [.setDuration "b" (some 1.5)]
  let second : List Edit := first ++ [.setTransition "b" (some "fade") (some 0.5)]
  obtain ⟨i, s, ⟨⟩, lengthened⟩ :=
    (performAll_local made []).1 "b" (some 1.5) _ shorter rfl
  obtain ⟨k, kind, meant, rejoined⟩ :=
    (performAll_local made first).2.1 "b" (some "fade") (some 0.5) _ fading rfl
  have appended :=
    (performAll_local made second).2.2 ⟨"d", "m", 2.0, .known .cut, .real 1.0⟩ _ longer rfl
  cases (lengthened.place 1).1 rfl
  cases (rejoined.place 1).1 rfl
  cases meant.symm.trans (show readTransition (some "fade") = .ok .fade from rfl)
  exact ⟨made, lengthened, rejoined, appended.2⟩

end Timeline

end Splice
