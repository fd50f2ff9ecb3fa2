import Splice.Compile.Basic
import Splice.Proofs.Timeline.Schedule
import Splice.Timeline.Edit

/-!
# Timelines after any number of edits

A timeline holds its entries and their schedule as two pieces of state, and every edit writes both.
`Timeline.Sound` is the invariant that ties them together. One edit keeps it (`Sound.perform`), be
it carried out or refused, and so does any run of edits (`Sound.performAll`). A sound timeline is
the one that the constructor makes of its entries (`Sound.ofEntries_entries`), so nothing that is
done with it can tell what was edited before.

The edits write in place; `Edit.run_work` says for each of them what it writes and when it fails,
through the same edit as a function on timelines. When that function gives a timeline, and which one,
is said once for each edit (`append_eq_ok_iff`, `reorder_eq_ok_iff`, `setDuration_eq_ok_iff`,
`setTransition_eq_ok_iff`).
-/

namespace Splice

/-! ## Edits in place and edits as functions -/

namespace Editing

theorem run_map {α β : Type} (f : α → β) (work : Editing α) (t : Timeline) :
    (f <$> work).run t = match work.run t with
      | .ok a t => .ok (f a) t
      | .error problem t => .error problem t := by
  simp only [EStateM.run, Functor.map, EStateM.map]
  cases work t <;> rfl

theorem leaves_map {α β : Type} (f : α → β) (work : Editing α) (t : Timeline) :
    (f <$> work).leaves t = work.leaves t := by
  rw [leaves, run_map, leaves]
  cases work.run t <;> rfl

theorem leaves_row (id : String) (t : Timeline) : (row id).leaves t = t := by
  change (check (t.get id)).leaves t = t
  cases t.get id <;> rfl

theorem leaves_lastRow (id : String) (t : Timeline) : (lastRow id).leaves t = t := by
  simp only [leaves, lastRow, EStateM.run_bind, EStateM.run_get]
  cases t.rows.getLast? <;> rfl

theorem run_check_bind {α β : Type} (result : Except Problem α) (next : α → Editing β)
    (t : Timeline) :
    (check result >>= next).run t = match result with
      | .ok a => (next a).run t
      | .error problem => .error problem t := by
  cases result <;> rfl

theorem run_append (entry : Entry) (t : Timeline) :
    (append entry).run t = match t.append entry with
      | .ok changed => (lastRow entry.id).run changed
      | .error problem => .error problem t := by
  change (check (Timeline.checkNew t.entries entry) >>= fun _ => _).run t = _
  rw [run_check_bind, Timeline.append]
  cases Timeline.checkNew t.entries entry with
  | error problem => rfl
  | ok => rfl

theorem run_reorder (order : List String) (t : Timeline) :
    (reorder order).run t = match t.reorder order with
      | .ok changed => .ok () changed
      | .error problem => .error problem t := by
  change EStateM.run (if order.isPerm t.ids then _ else _) t = _
  rw [Timeline.reorder]
  split <;> rfl

theorem run_replace_bind {α : Type} (id : String) (change : Entry → Entry) (next : Editing α)
    (t : Timeline) :
    (replace id change >>= fun _ => next).run t = match t.replace id change with
      | .ok changed => next.run changed
      | .error problem => .error problem t := by
  rw [Timeline.replace, EStateM.run_bind]
  simp only [replace]
  cases found : t.entries.findIdx? fun entry => entry.id == id with
  | none => simp [found]
  | some i => simp [found, writeEntries, layOutAnew, Timeline.layOut]

theorem run_setDuration (id : String) (seconds : Option Float) (t : Timeline) :
    (setDuration id seconds).run t = match t.setDuration id seconds with
      | .ok changed => (row id).run changed
      | .error problem => .error problem t := by
  rw [setDuration, run_check_bind, Timeline.setDuration]
  cases checkDuration (.entry id) (seconds.map .real) with
  | error problem => rfl
  | ok s => exact run_replace_bind id _ (row id) t

theorem run_setTransition (id : String) (text : Option String) (seconds : Option Float)
    (t : Timeline) :
    (setTransition id text seconds).run t = match t.setTransition id text seconds with
      | .ok changed => (row id).run changed
      | .error problem => .error problem t := by
  rw [setTransition, run_check_bind, Timeline.setTransition]
  cases Timeline.readTransition text with
  | error cause => rfl
  | ok kind =>
    change (check (t.checkTransition id kind seconds) >>= fun _ => _).run t = _
    rw [run_check_bind]
    simp only
    cases t.checkTransition id kind seconds with
    | error problem => rfl
    | ok => exact run_replace_bind id _ (row id) t

end Editing

/-- The row that an edit looks up once it has written. -/
def Edit.answer : Edit → Editing (Option Row)
  | append entry => some <$> Editing.lastRow entry.id
  | reorder _ => return none
  | setDuration id _ => some <$> Editing.row id
  | setTransition id _ _ => some <$> Editing.row id

/-- An edit in place leaves the timeline that it gives as a function, and looks its answer up there;
if it is refused as a function, it is refused in place and leaves the timeline as it was. -/
theorem Edit.run_work (e : Edit) (t : Timeline) :
    e.work.run t = match t.edit e with
      | .ok changed => e.answer.run changed
      | .error problem => .error problem t := by
  cases e with
  | append entry =>
    rw [Edit.work, Editing.run_map, Editing.run_append, Timeline.edit]
    cases t.append entry with
    | error problem => rfl
    | ok changed => simp only [Edit.answer, Editing.run_map]
  | reorder order =>
    rw [Edit.work, EStateM.run_bind, Editing.run_reorder, Timeline.edit]
    cases t.reorder order <;> rfl
  | setDuration id seconds =>
    rw [Edit.work, Editing.run_map, Editing.run_setDuration, Timeline.edit]
    cases t.setDuration id seconds with
    | error problem => rfl
    | ok changed => simp only [Edit.answer, Editing.run_map]
  | setTransition id text seconds =>
    rw [Edit.work, Editing.run_map, Editing.run_setTransition, Timeline.edit]
    cases t.setTransition id text seconds with
    | error problem => rfl
    | ok changed => simp only [Edit.answer, Editing.run_map]

theorem Edit.run_work_eq_ok_iff {e : Edit} {t after : Timeline} {answer : Option Row} :
    e.work.run t = .ok answer after ↔
      ∃ changed, t.edit e = .ok changed ∧ e.answer.run changed = .ok answer after := by
  rw [run_work]
  cases t.edit e <;> simp

theorem Edit.leaves_answer (e : Edit) (t : Timeline) : e.answer.leaves t = t := by
  cases e with
  | append entry => rw [Edit.answer, Editing.leaves_map, Editing.leaves_lastRow]
  | reorder order => rfl
  | setDuration id seconds => rw [Edit.answer, Editing.leaves_map, Editing.leaves_row]
  | setTransition id text seconds => rw [Edit.answer, Editing.leaves_map, Editing.leaves_row]

namespace Timeline

theorem perform_eq (t : Timeline) (e : Edit) :
    t.perform e = match t.edit e with
      | .ok changed => changed
      | .error _ => t := by
  rw [perform, Editing.leaves, Edit.run_work]
  cases t.edit e with
  | error problem => rfl
  | ok changed => exact e.leaves_answer changed

/-! ## What an edit has done -/

section

variable {t changed : Timeline} {id : String}

theorem append_eq_ok_iff {entry : Entry} :
    t.append entry = .ok changed ↔
      checkNew t.entries entry = .ok () ∧ changed = layOut (t.entries ++ [entry]) := by
  rw [append]
  cases checkNew t.entries entry <;> simp [Except.map, eq_comm]

theorem reorder_eq_ok_iff {order : List String} :
    t.reorder order = .ok changed ↔
      order.Perm t.ids ∧
        changed = layOut (order.filterMap fun id => t.entries.find? fun e => e.id == id) := by
  rw [reorder, ← List.isPerm_iff]
  by_cases perm : order.isPerm t.ids <;> simp [perm, eq_comm]

theorem replace_eq_ok_iff {change : Entry → Entry} :
    t.replace id change = .ok changed ↔
      ∃ i, (t.entries.findIdx? fun e => e.id == id) = some i ∧
        changed = layOut (t.entries.modify i change) := by
  rw [replace]
  cases t.entries.findIdx? fun e => e.id == id <;> simp [eq_comm]

theorem setDuration_eq_ok_iff {seconds : Option Float} :
    t.setDuration id seconds = .ok changed ↔
      ∃ s, seconds = some s ∧ ¬ s ≤ 0 ∧
        (t.replace id fun e => { e with duration := s }) = .ok changed := by
  rw [setDuration]
  cases seconds with
  | none => simp [checkDuration]
  | some s => by_cases short : s ≤ 0 <;> simp [checkDuration, Amount.value, short]

theorem setTransition_eq_ok_iff {text : Option String} {seconds : Option Float} :
    t.setTransition id text seconds = .ok changed ↔
      ∃ kind, readTransition text = .ok kind ∧ t.checkTransition id kind seconds = .ok () ∧
        (t.replace id fun e =>
          { e with
            transition := .known kind
            transitionDuration := (seconds.map .real).getD e.transitionDuration }) =
          .ok changed := by
  rw [setTransition]
  cases readTransition text with
  | error cause => simp
  | ok kind => cases passed : t.checkTransition id kind seconds <;> simp [passed]

end

/-! ## What an edit needs and keeps -/

/-- The schedule is that of the entries, and the entries are acceptable. -/
structure Sound (t : Timeline) : Prop where
  rows_eq : t.rows = schedule t.entries
  acceptable : Acceptable t.entries

theorem sound_layOut {entries : List Entry} (h : Acceptable entries) : Sound (layOut entries) :=
  ⟨rfl, h⟩

/-- Looking every id of an order up gives the entries in that order. -/
theorem map_id_filterMap_find? {entries : List Entry} {order : List String}
    (known : ∀ id ∈ order, id ∈ entries.map Entry.id) :
    (order.filterMap fun id => entries.find? fun e => e.id == id).map Entry.id = order := by
  induction order with
  | nil => rfl
  | cons id rest ih =>
    obtain ⟨e, mem, same⟩ := List.mem_map.1 (known id List.mem_cons_self)
    have present : (entries.find? fun e => e.id == id).isSome := by
      rw [List.find?_isSome]
      exact ⟨e, mem, by simpa using same⟩
    obtain ⟨found, look⟩ := Option.isSome_iff_exists.1 present
    have hit : found.id = id := by simpa using List.find?_some look
    rw [List.filterMap_cons, look]
    simp only [List.map_cons, hit, ih fun other mem => known other (List.mem_cons_of_mem _ mem)]

theorem Sound.append {t changed : Timeline} {entry : Entry} (h : t.Sound)
    (done : t.append entry = .ok changed) : changed.Sound := by
  obtain ⟨checked, rfl⟩ := append_eq_ok_iff.1 done
  exact sound_layOut (acceptable_append_singleton_iff.2
    ⟨h.acceptable, checkNew_eq_ok_iff.1 checked⟩)

theorem Sound.reorder {t changed : Timeline} {order : List String} (h : t.Sound)
    (done : t.reorder order = .ok changed) : changed.Sound := by
  obtain ⟨perm, rfl⟩ := reorder_eq_ok_iff.1 done
  have known : ∀ id ∈ order, id ∈ t.entries.map Entry.id := fun id mem => perm.mem_iff.1 mem
  refine sound_layOut ⟨?_, fun e mem => ?_⟩
  · rw [map_id_filterMap_find? known]
    exact perm.nodup_iff.2 h.acceptable.nodup
  · obtain ⟨id, -, look⟩ := List.mem_filterMap.1 mem
    exact h.acceptable.lasting e (List.mem_of_find?_eq_some look)

theorem Sound.replace {t changed : Timeline} {id : String} (h : t.Sound) (change : Entry → Entry)
    (same : ∀ e, (change e).id = e.id) (fine : ∀ e, ¬ e.duration ≤ 0 → ¬ (change e).duration ≤ 0)
    (done : t.replace id change = .ok changed) : changed.Sound := by
  obtain ⟨i, -, rfl⟩ := replace_eq_ok_iff.1 done
  exact sound_layOut (h.acceptable.modify i same fine)

theorem Sound.setDuration {t changed : Timeline} {id : String} {seconds : Option Float}
    (h : t.Sound) (done : t.setDuration id seconds = .ok changed) : changed.Sound := by
  obtain ⟨s, rfl, positive, done⟩ := setDuration_eq_ok_iff.1 done
  refine h.replace _ ?_ ?_ done
  · exact fun _ => rfl
  · exact fun _ _ => positive

theorem Sound.setTransition {t changed : Timeline} {id : String} {text : Option String}
    {seconds : Option Float} (h : t.Sound) (done : t.setTransition id text seconds = .ok changed) :
    changed.Sound := by
  obtain ⟨kind, -, -, done⟩ := setTransition_eq_ok_iff.1 done
  refine h.replace _ ?_ ?_ done
  · exact fun _ => rfl
  · exact fun _ positive => positive

/-- An edit that is carried out leaves a sound timeline sound. -/
theorem Sound.edit {t changed : Timeline} {e : Edit} (h : t.Sound) (done : t.edit e = .ok changed) :
    changed.Sound := by
  cases e with
  | append entry => exact h.append done
  | reorder order => exact h.reorder done
  | setDuration id seconds => exact h.setDuration done
  | setTransition id text seconds => exact h.setTransition done

/-! ## Runs -/

theorem Sound.perform {t : Timeline} (h : t.Sound) (e : Edit) : (t.perform e).Sound := by
  rw [perform_eq]
  cases done : t.edit e with
  | error problem => exact h
  | ok changed => exact h.edit done

theorem Sound.performAll {t : Timeline} (h : t.Sound) (edits : List Edit) :
    (t.performAll edits).Sound := by
  induction edits generalizing t with
  | nil => exact h
  | cons e rest ih => exact ih (h.perform e)

theorem sound_of_ofEntries {entries : List Entry} {t : Timeline}
    (made : ofEntries entries = .ok t) : t.Sound := by
  obtain ⟨rfl, fine⟩ := ofEntries_eq_ok_iff.1 made
  exact sound_layOut fine

/-- A sound timeline is the one that is made of its entries. -/
theorem Sound.ofEntries_entries {t : Timeline} (h : t.Sound) : ofEntries t.entries = .ok t := by
  obtain ⟨entries, rows⟩ := t
  obtain ⟨rows_eq, fine⟩ := h
  exact ofEntries_eq_ok_iff.2 ⟨by rw [layOut, ← rows_eq], fine⟩

theorem Sound.compile_eq {t : Timeline} (h : t.Sound) (encoding : Compile.Encoding)
    (assets : AssetTable) (track : Option AudioTrack) (settings : RenderSettings) :
    Compile.compile encoding t assets track settings =
      Compile.compileEntries encoding t.entries assets track settings := by
  rw [Compile.compileEntries, h.ofEntries_entries]
  rfl

theorem Sound.validate_eq {t : Timeline} (h : t.Sound) (assets : AssetTable) :
    Compile.validate t assets = Compile.validateEntries t.entries assets := by
  rw [Compile.validateEntries, h.ofEntries_entries]
  rfl

/-- **An edited timeline is the timeline of its entries.** Whatever was edited, and whatever of it
was refused, the schedule is that of the current entries and runs from zero without gaps, no id
occurs twice, and the timeline is the one made afresh of its entries: it is compiled and checked
like the list of them. -/
theorem performAll_isTimelineOfEntries {entries : List Entry} {start : Timeline}
    (made : ofEntries entries = .ok start) (edits : List Edit) :
    let t := start.performAll edits
    (t.rows = schedule t.entries ∧ t.rows.map Row.entry = t.entries) ∧
      t.ids.Nodup ∧
      ((∀ row ∈ t.rows.head?, row.start = 0.0) ∧
        (∀ row ∈ t.rows, row.stop = row.start + row.entry.duration) ∧
        t.rows.IsChain Row.Meets) ∧
      ((t.rows = [] → t.total = 0.0) ∧ ∀ row ∈ t.rows.getLast?, t.total = row.stop) ∧
      ofEntries t.entries = .ok t ∧
      (∀ assets, Compile.validate t assets = Compile.validateEntries t.entries assets) ∧
      ∀ encoding assets track settings,
        Compile.compile encoding t assets track settings =
          Compile.compileEntries encoding t.entries assets track settings := by
  intro t
  have h : t.Sound := (sound_of_ofEntries made).performAll edits
  refine ⟨⟨h.rows_eq, ?_⟩, h.acceptable.nodup, ⟨?_, ?_, ?_⟩, ⟨?_, ?_⟩, h.ofEntries_entries,
    h.validate_eq, h.compile_eq⟩
  · rw [h.rows_eq, map_entry_schedule]
  · rw [h.rows_eq]
    exact fun row first => start_of_mem_head?_scheduleFrom first
  · rw [h.rows_eq]
    exact fun row mem => stop_of_mem_scheduleFrom mem
  · rw [h.rows_eq]
    exact isChain_schedule _
  · intro none
    rw [total, scheduleEnd, none]
    rfl
  · intro row last
    rw [total, scheduleEnd, Option.mem_def.1 last]
    rfl

/-- Two clips, of which one is moved and the other made to blend; the edits between are refused. -/
theorem performAll_two_clips :
    let a : Entry := ⟨"a", "m", 2.5, .known .cut, .real 1.0⟩
    let b : Entry := ⟨"b", "m", 4.0, .known .cut, .real 1.0⟩
    let edits : List Edit := [.setDuration "a" (some 0.0), .reorder ["b", "a"], .append a,
      .setTransition "b" (some "fade") none]
    let t := (layOut [a, b]).performAll edits
    ofEntries [a, b] = .ok (layOut [a, b]) ∧ t.ids = ["b", "a"] ∧ t.rows = schedule t.entries ∧
      ofEntries t.entries = .ok t := by
  intro a b edits t
  have made : ofEntries [a, b] = .ok (layOut [a, b]) :=
    ofEntries_eq_ok_iff.2 ⟨rfl, by decide, by decide⟩
  have run := performAll_isTimelineOfEntries made edits
  exact ⟨made, by decide +kernel, run.1.1, run.2.2.2.2.1⟩

end Timeline

end Splice
