import Mathlib.Data.List.Nodup
import Splice.Proofs.Timeline.Runs

/-!
# What edits answer, and what refused ones leave

An edit writes first and looks its answer up afterwards, so that a look-up that failed would leave
a changed timeline behind. It never does: in a sound timeline every id has exactly one row
(`Sound.get_eq_ok_iff`), and an edit that is carried out keeps the id that it is about
(`Sound.run_answer`). So whatever is refused leaves the timeline as it was.

`Edit.objection?` is what an edit finds wrong with its own arguments, whatever timeline it is for.
An edit of an entry that is not there is refused for that, or else because the entry is not there
(`Sound.edit_of_not_mem`).
-/

namespace Splice

/-! ## What an edit is about -/

/-- The id of the entry that an edit changes in place. -/
def Edit.changed? : Edit → Option String
  | append _ => none
  | reorder _ => none
  | setDuration id _ => some id
  | setTransition id _ _ => some id

/-- The id of the entry whose row an edit gives back. -/
def Edit.subject? : Edit → Option String
  | append entry => some entry.id
  | e => e.changed?

/-- What is wrong with the arguments of a change in place: a duration that is missing, zero or
negative, or a transition that means nothing. -/
def Edit.objection? : Edit → Option Problem
  | append _ => none
  | reorder _ => none
  | setDuration id seconds =>
    if seconds.all (· ≤ 0) then some (.duration (.entry id) (seconds.map .real)) else none
  | setTransition id text seconds =>
    match Timeline.readTransition text with
    | .error cause => some (.transition cause)
    | .ok kind =>
      if kind.isBlending ∧ seconds.any (· ≤ 0) then
        some (.duration (.transition id) (seconds.map .real))
      else none

namespace Timeline

/-! ## Looking a row up -/

/-- The row of an id: the timeline holds this one under the id and no other. -/
structure IsRowOf (t : Timeline) (id : String) (row : Row) : Prop where
  mem : row ∈ t.rows
  id_eq : row.entry.id = id
  unique : ∀ other ∈ t.rows, other.entry.id = id → other = row

theorem Sound.map_id_rows {t : Timeline} (h : t.Sound) :
    t.rows.map (fun row => row.entry.id) = t.ids := by
  rw [ids, h.rows_eq]
  conv_rhs => rw [← map_entry_schedule t.entries, List.map_map]
  rfl

theorem Sound.isRowOf {t : Timeline} (h : t.Sound) {row : Row} (mem : row ∈ t.rows) :
    t.IsRowOf row.entry.id row := by
  refine ⟨mem, rfl, fun other mem' same => ?_⟩
  have distinct : (t.rows.map fun row => row.entry.id).Nodup := by
    rw [h.map_id_rows]
    exact h.acceptable.nodup
  exact List.inj_on_of_nodup_map distinct mem' mem same

theorem Sound.get_eq_ok_iff {t : Timeline} (h : t.Sound) {id : String} {row : Row} :
    t.get id = .ok row ↔ t.IsRowOf id row := by
  unfold get
  constructor
  · intro got
    split at got
    case h_2 => cases got
    case h_1 found hit =>
      cases got
      have same : row.entry.id = id := by simpa using List.find?_some hit
      exact same ▸ h.isRowOf (List.mem_of_find?_eq_some hit)
  · intro row_of
    split
    case h_1 found hit =>
      have same : found.entry.id = id := by simpa using List.find?_some hit
      rw [row_of.unique found (List.mem_of_find?_eq_some hit) same]
    case h_2 missing =>
      have absent := List.find?_eq_none.1 missing row row_of.mem
      simp [row_of.id_eq] at absent

theorem Sound.get_of_not_mem {t : Timeline} (h : t.Sound) {id : String} (absent : id ∉ t.ids) :
    t.get id = .error (.unknownEntry id) := by
  unfold get
  split
  case h_2 => rfl
  case h_1 row hit =>
    have same : row.entry.id = id := by simpa using List.find?_some hit
    rw [← h.map_id_rows, ← same] at absent
    exact absurd (List.mem_map_of_mem (List.mem_of_find?_eq_some hit)) absent

theorem Sound.exists_isRowOf {t : Timeline} (h : t.Sound) {id : String} (mem : id ∈ t.ids) :
    ∃ row, t.IsRowOf id row := by
  rw [← h.map_id_rows] at mem
  obtain ⟨row, inside, rfl⟩ := List.mem_map.1 mem
  exact ⟨row, h.isRowOf inside⟩

/-! ## The answer of an edit that is carried out -/

theorem run_row (t : Timeline) (id : String) :
    (Editing.row id).run t = match t.get id with
      | .ok row => .ok row t
      | .error problem => .error problem t := by
  change (Editing.check (t.get id)).run t = _
  cases t.get id <;> rfl

/-- A look-up leaves the timeline as it was. -/
theorem run_row_eq_error_iff {t after : Timeline} {id : String} {problem : Problem} :
    (Editing.row id).run t = .error problem after ↔ t.get id = .error problem ∧ after = t := by
  rw [run_row]
  cases t.get id <;> simp [eq_comm]

theorem run_row_eq_ok_iff {t after : Timeline} {id : String} {row : Row} :
    (Editing.row id).run t = .ok row after ↔ t.get id = .ok row ∧ after = t := by
  rw [run_row]
  cases t.get id <;> simp [eq_comm]

/-- A change in place keeps all ids, and was made for one of them. -/
theorem ids_of_replace {t changed : Timeline} {id : String} {change : Entry → Entry}
    (done : t.replace id change = .ok changed) (same : ∀ e, (change e).id = e.id) :
    changed.ids = t.ids ∧ id ∈ t.ids := by
  obtain ⟨i, found, rfl⟩ := replace_eq_ok_iff.1 done
  obtain ⟨inside, hit, -⟩ := List.findIdx?_eq_some_iff_getElem.1 found
  refine ⟨map_id_modify t.entries i same, ?_⟩
  rw [← show (t.entries[i]).id = id by simpa using hit]
  exact List.mem_map_of_mem (List.getElem_mem inside)

theorem mem_ids_of_changed {t changed : Timeline} {e : Edit} {id : String}
    (mem : id ∈ e.changed?) (done : t.edit e = .ok changed) : id ∈ changed.ids := by
  have kept : changed.ids = t.ids ∧ id ∈ t.ids := by
    cases e with
    | append entry => cases mem
    | reorder order => cases mem
    | setDuration id seconds =>
      cases mem
      obtain ⟨s, -, -, done⟩ := setDuration_eq_ok_iff.1 done
      exact ids_of_replace done fun _ => rfl
    | setTransition id text seconds =>
      cases mem
      obtain ⟨kind, -, -, done⟩ := setTransition_eq_ok_iff.1 done
      exact ids_of_replace done fun _ => rfl
  rw [kept.1]
  exact kept.2

theorem getLast?_schedule_append (entries : List Entry) (entry : Entry) :
    ∃ row, (schedule (entries ++ [entry])).getLast? = some row ∧ row.entry = entry := by
  have last := congrArg List.getLast? (map_entry_schedule (entries ++ [entry]))
  rw [List.getLast?_map, List.getLast?_append_of_ne_nil _ (List.cons_ne_nil _ _),
    List.getLast?_singleton, Option.map_eq_some_iff] at last
  exact last

/-- An edit that is carried out finds its answer, and that is the row that the timeline now holds
for the entry that the edit is about. -/
theorem Sound.run_answer {t changed : Timeline} {e : Edit} (h : t.Sound)
    (done : t.edit e = .ok changed) :
    ∃ answer, e.answer.run changed = .ok answer changed ∧
      ∀ id ∈ e.subject?, ∃ row, answer = some row ∧ changed.IsRowOf id row := by
  have sound := h.edit done
  -- The row of an entry changed in place is looked up by its id.
  have looked : ∀ {id : String}, id ∈ changed.ids →
      ∃ row, (some <$> Editing.row id).run changed = .ok (some row) changed ∧
        changed.IsRowOf id row := by
    intro id mem
    obtain ⟨row, row_of⟩ := sound.exists_isRowOf mem
    refine ⟨row, ?_, row_of⟩
    rw [Editing.run_map, run_row, sound.get_eq_ok_iff.2 row_of]
  cases e with
  | reorder order => exact ⟨none, rfl, nofun⟩
  | setDuration id seconds =>
    obtain ⟨row, ran, row_of⟩ := looked (mem_ids_of_changed rfl done)
    exact ⟨some row, ran, by rintro _ ⟨⟩; exact ⟨row, rfl, row_of⟩⟩
  | setTransition id text seconds =>
    obtain ⟨row, ran, row_of⟩ := looked (mem_ids_of_changed rfl done)
    exact ⟨some row, ran, by rintro _ ⟨⟩; exact ⟨row, rfl, row_of⟩⟩
  | append entry =>
    -- The row of an entry put at the end is the last one.
    have made : changed = layOut (t.entries ++ [entry]) := (append_eq_ok_iff.1 done).2
    obtain ⟨row, last, rfl⟩ := getLast?_schedule_append t.entries entry
    have last : changed.rows.getLast? = some row := by rw [made]; exact last
    refine ⟨some row, ?_, ?_⟩
    · rw [Edit.answer, Editing.run_map]
      simp only [Editing.lastRow, EStateM.run_bind, EStateM.run_get, last]
      rfl
    · rintro _ ⟨⟩
      exact ⟨row, rfl, sound.isRowOf (List.mem_of_getLast? last)⟩

/-- An edit in place succeeds exactly when it is carried out as a function. -/
theorem Sound.exists_run_work_iff {t : Timeline} (h : t.Sound) {e : Edit} :
    (∃ answer after, e.work.run t = .ok answer after) ↔ ∃ changed, t.edit e = .ok changed := by
  rw [Edit.run_work]
  cases done : t.edit e with
  | error problem => simp
  | ok changed =>
    obtain ⟨answer, ran, -⟩ := h.run_answer done
    simp [ran]

theorem Sound.edit_of_run_work {t after : Timeline} (h : t.Sound) {e : Edit} {answer : Option Row}
    (ran : e.work.run t = .ok answer after) : t.edit e = .ok after := by
  rw [Edit.run_work] at ran
  cases done : t.edit e with
  | error problem => simp [done] at ran
  | ok changed =>
    obtain ⟨given, looked, -⟩ := h.run_answer done
    simp only [done, looked] at ran
    cases ran
    rfl

/-! ## Refused edits -/

/-- An edit in place of a sound timeline fails exactly when it is refused as a function, before it
has written anything. -/
theorem Sound.run_work_eq_error_iff {t after : Timeline} {e : Edit} {problem : Problem}
    (h : t.Sound) :
    e.work.run t = .error problem after ↔ t.edit e = .error problem ∧ after = t := by
  rw [Edit.run_work]
  cases done : t.edit e with
  | error other =>
    simp only [EStateM.Result.error.injEq, Except.error.injEq]
    exact and_congr_right fun _ => eq_comm
  | ok changed =>
    obtain ⟨answer, ran, -⟩ := h.run_answer done
    simp [ran]

/-- What an edit of a sound timeline gives back is the row now held for its entry. -/
theorem Sound.isRowOf_of_run_work {t after : Timeline} {e : Edit} {answer : Option Row} {id : String}
    (h : t.Sound) (succeeded : e.work.run t = .ok answer after) (mem : id ∈ e.subject?) :
    ∃ row, answer = some row ∧ after.IsRowOf id row := by
  rw [Edit.run_work] at succeeded
  cases done : t.edit e with
  | error problem => simp [done] at succeeded
  | ok changed =>
    obtain ⟨given, ran, held⟩ := h.run_answer done
    simp only [done, ran] at succeeded
    cases succeeded
    exact held id mem

theorem exists_replace_of_mem {t : Timeline} {id : String} (mem : id ∈ t.ids)
    (change : Entry → Entry) : ∃ changed, t.replace id change = .ok changed := by
  unfold replace
  split
  case h_1 => exact ⟨_, rfl⟩
  case h_2 missing =>
    obtain ⟨entry, inside, same⟩ := List.mem_map.1 mem
    have other := List.findIdx?_eq_none_iff.1 missing entry inside
    simp [same] at other

theorem replace_of_not_mem {t : Timeline} {id : String} (absent : id ∉ t.ids)
    (change : Entry → Entry) : t.replace id change = .error (.unknownEntry id) := by
  have none : (t.entries.findIdx? fun entry => entry.id == id) = none := by
    rw [List.findIdx?_eq_none_iff]
    intro entry mem
    rw [beq_eq_false_iff_ne]
    rintro rfl
    exact absent (List.mem_map_of_mem mem)
  rw [replace, none]

/-- A change in place of an entry that is not there is refused: for its own arguments if there is
something wrong with them, and otherwise because the entry is not there. -/
theorem Sound.edit_of_not_mem {t : Timeline} (h : t.Sound) {e : Edit} {id : String}
    (mem : id ∈ e.changed?) (absent : id ∉ t.ids) :
    t.edit e = .error (e.objection?.getD (.unknownEntry id)) := by
  cases e with
  | append entry => cases mem
  | reorder order => cases mem
  | setDuration id seconds =>
    cases mem
    rw [Timeline.edit, Timeline.setDuration, Edit.objection?]
    cases seconds with
    | none => rfl
    | some s =>
      by_cases short : s ≤ 0
      · simp [checkDuration, Amount.value, short]
      · simp [checkDuration, Amount.value, short, replace_of_not_mem absent]
  | setTransition id text seconds =>
    cases mem
    rw [Timeline.edit, Timeline.setTransition, Edit.objection?]
    cases readTransition text with
    | error cause => rfl
    | ok kind =>
      cases blends : kind.isBlending with
      | false => simp [checkTransition, blends, replace_of_not_mem absent]
      | true =>
        cases seconds with
        | none => simp [checkTransition, blends, h.get_of_not_mem absent]
        | some s =>
          by_cases short : s ≤ 0
          · simp [checkTransition, blends, checkDuration, Amount.value, short, Except.map]
          · simp [checkTransition, blends, checkDuration, Amount.value, short, Except.map,
              replace_of_not_mem absent]

theorem append_of_mem {t : Timeline} {entry : Entry} (taken : entry.id ∈ t.ids) :
    t.append entry = .error (.duplicateEntry entry.id) := by
  have any : (t.entries.any fun other => other.id == entry.id) = true := by
    obtain ⟨other, mem, same⟩ := List.mem_map.1 taken
    exact List.any_eq_true.2 ⟨other, mem, by simp [same]⟩
  simp [Timeline.append, checkNew, any, Except.map]

/-- **A refused edit changes nothing.** Whatever was edited before, an edit or a look-up that fails
leaves the whole timeline as it was. A change of an entry that is not there always fails, and so
does a second entry under one id. What succeeds gives back the row that the timeline now holds for
the entry that was asked for. -/
theorem performAll_refuses_whole {entries : List Entry} {start : Timeline}
    (made : ofEntries entries = .ok start) (edits : List Edit) :
    let t := start.performAll edits
    ((∀ (e : Edit) problem after, e.work.run t = .error problem after → after = t) ∧
        ∀ id problem after, (Editing.row id).run t = .error problem after → after = t) ∧
      ((∀ (e : Edit), ∀ id ∈ e.changed?, id ∉ t.ids →
          e.work.run t = .error (e.objection?.getD (.unknownEntry id)) t) ∧
        ∀ entry, entry.id ∈ t.ids →
          (Edit.append entry).work.run t = .error (.duplicateEntry entry.id) t) ∧
      (∀ (e : Edit) answer after, e.work.run t = .ok answer after →
          ∀ id ∈ e.subject?, ∃ row, answer = some row ∧ after.IsRowOf id row) ∧
        ∀ id row after, (Editing.row id).run t = .ok row after → after = t ∧ t.IsRowOf id row := by
  intro t
  have h : t.Sound := (sound_of_ofEntries made).performAll edits
  refine ⟨⟨?_, ?_⟩, ⟨?_, ?_⟩, ?_, ?_⟩
  · intro e problem after failed
    exact (h.run_work_eq_error_iff.1 failed).2
  · intro id problem after failed
    exact (run_row_eq_error_iff.1 failed).2
  · intro e id mem absent
    exact h.run_work_eq_error_iff.2 ⟨h.edit_of_not_mem mem absent, rfl⟩
  · intro entry taken
    exact h.run_work_eq_error_iff.2 ⟨append_of_mem taken, rfl⟩
  · intro e answer after succeeded id mem
    exact h.isRowOf_of_run_work succeeded mem
  · intro id row after succeeded
    obtain ⟨got, rfl⟩ := run_row_eq_ok_iff.1 succeeded
    exact ⟨rfl, h.get_eq_ok_iff.1 got⟩

/-- Of two clips one is made longer. An edit of a third is refused, and so is the first once more. -/
theorem performAll_refuses_two_clips :
    let a : Entry := ⟨"a", "m", 2.5, .known .cut, .real 1.0⟩
    let b : Entry := ⟨"b", "m", 4.0, .known .cut, .real 1.0⟩
    let longer : Timeline := layOut [a, { b with duration := 5.0 }]
    let t := (layOut [a, b]).performAll [.setDuration "a" (some 0.0)]
    ofEntries [a, b] = .ok (layOut [a, b]) ∧
      ((Edit.setDuration "c" (some 2.0)).work.run t = .error (.unknownEntry "c") t ∧
        (Edit.append a).work.run t = .error (.duplicateEntry "a") t) ∧
      ∃ row, (Edit.setDuration "b" (some 5.0)).work.run t = .ok (some row) longer ∧
        longer.IsRowOf "b" row := by
  intro a b longer t
  have made : ofEntries [a, b] = .ok (layOut [a, b]) :=
    ofEntries_eq_ok_iff.2 ⟨rfl, by decide, by decide⟩
  have ids : t.ids = ["a", "b"] := by decide +kernel
  have lasting : ¬ (5.0 : Float) ≤ 0 := by decide
  have done : t.edit (.setDuration "b" (some 5.0)) = .ok longer := by
    rw [show t = layOut [a, b] from rfl]
    simp [Timeline.edit, Timeline.setDuration, checkDuration, Amount.value, lasting, replace,
      layOut, longer, a, b, List.findIdx?_cons]
  obtain ⟨answer, ran, -⟩ := (sound_of_ofEntries made).run_answer done
  have run : (Edit.setDuration "b" (some 5.0)).work.run t = .ok answer longer := by
    rw [Edit.run_work, done]
    exact ran
  obtain ⟨-, ⟨unknown, taken⟩, answers, -⟩ :=
    performAll_refuses_whole made [.setDuration "a" (some 0.0)]
  obtain ⟨row, rfl, held⟩ := answers _ answer longer run "b" rfl
  exact ⟨made, ⟨unknown (.setDuration "c" (some 2.0)) "c" rfl (by rw [ids]; decide),
    taken a (by rw [ids]; decide)⟩, row, run, held⟩

end Timeline

end Splice
