import Mathlib.Data.String.Basic
import Splice.Proofs.Timeline.Lookup

/-!
# New orders of a timeline

A new order is accepted exactly if it is a permutation of the ids that the timeline has, and then it
moves the entries and does nothing else to them. So orders do not add up: of several only the last
one is left (`Sound.reorder_reorder`), and the former order brings the former timeline back
(`Sound.reorder_ids`).

To compare sorted copies and to take the entries from a table comes to the same
(`Sound.reorderByTable_eq`).
-/

namespace Splice.Timeline

variable {t : Timeline} {order : List String}

/-! ## By sorting and a table -/

/-- Texts in their alphabetical order, by code points. -/
def sorted (texts : List String) : List String := texts.mergeSort fun a b => a ≤ b

/-- The entries in a table, each under its id. -/
def table (t : Timeline) : Table String Entry :=
  t.entries.foldl (fun table e => table.put e.id e) []

/-- The timeline in a new order, in another way: the order is held against the ids after both were
sorted, and the entries are taken from a table. -/
def reorderByTable (t : Timeline) (order : List String) : Except Problem Timeline :=
  if order.length = t.ids.length ∧ sorted order = sorted t.ids then
    .ok (layOut (order.filterMap (Table.get? t.table)))
  else .error (.order t.ids order)

theorem perm_sorted (texts : List String) : (sorted texts).Perm texts := List.mergeSort_perm _ _

theorem pairwise_sorted (texts : List String) : (sorted texts).Pairwise (· ≤ ·) := by
  have ordered := @List.pairwise_mergeSort String (fun a b => a ≤ b)
    (by simpa using fun _ _ _ => le_trans) (by simpa using le_total) texts
  simpa [sorted] using ordered

theorem sorted_eq_iff {a b : List String} : sorted a = sorted b ↔ a.Perm b := by
  constructor
  · intro same
    exact (perm_sorted a).symm.trans (same ▸ perm_sorted b)
  · intro perm
    exact List.Perm.eq_of_pairwise (fun _ _ _ _ => le_antisymm) (pairwise_sorted a)
      (pairwise_sorted b) ((perm_sorted a).trans (perm.trans (perm_sorted b).symm))

/-- The last entry of an id is the one that is found in the table. -/
theorem get?_foldl_put (entries : List Entry) (rows : Table String Entry) (id : String) :
    Table.get? (entries.foldl (fun table e => table.put e.id e) rows) id =
      (entries.reverse.find? fun e => e.id == id).or (Table.get? rows id) := by
  -- Every entry finds the table that those in front of it have made.
  induction entries generalizing rows with
  | nil => rfl
  | cons e rest ih =>
    rw [List.foldl_cons, ih, Table.get?_put, List.reverse_cons, List.find?_append, Option.or_assoc]
    by_cases here : e.id = id <;> simp [here]

theorem Sound.get?_table (h : t.Sound) (id : String) : Table.get? t.table id = t.entryOf? id := by
  have distinct : (t.entries.reverse.map Entry.id).Nodup := by
    rw [List.map_reverse, List.nodup_reverse]
    exact h.acceptable.nodup
  rw [table, get?_foldl_put, Table.get?_nil, Option.or_none]
  apply Option.ext
  intro e
  rw [find?_id_eq_some_iff distinct, List.mem_reverse, h.entryOf?_eq_some_iff]

theorem Sound.reorderByTable_eq (h : t.Sound) (order : List String) :
    t.reorderByTable order = t.reorder order := by
  have accepted :
      (order.length = t.ids.length ∧ sorted order = sorted t.ids) ↔ order.Perm t.ids := by
    rw [sorted_eq_iff, and_iff_right_iff_imp]
    exact List.Perm.length_eq
  rw [reorderByTable, reorder_eq, funext h.get?_table]
  simp only [accepted]

/-! ## One order after another -/

/-- The former order brings the former timeline back. -/
theorem Sound.reorder_ids (h : t.Sound) (perm : order.Perm t.ids) :
    (layOut (order.filterMap t.entryOf?)).reorder t.ids = .ok t := by
  rw [reorder_eq, ids_reorder perm, if_pos perm.symm, h.entryOf?_reorder perm,
    h.filterMap_entryOf?_ids, h.layOut_entries]

/-- Nothing is left of an order once there is another one. -/
theorem Sound.reorder_reorder (h : t.Sound) (perm : order.Perm t.ids) {again : List String}
    {last : Timeline} :
    (layOut (order.filterMap t.entryOf?)).reorder again = .ok last ↔
      t.reorder again = .ok last := by
  have accepted : again.Perm order ↔ again.Perm t.ids :=
    ⟨fun p => p.trans perm, fun p => p.trans perm.symm⟩
  rw [reorder_eq, reorder_eq, ids_reorder perm, h.entryOf?_reorder perm]
  simp only [accepted]
  split <;> simp

/-! ## In place -/

theorem run_work_reorder_eq_ok_iff {answer : Option Row} {after : Timeline} :
    (Edit.reorder order).work.run t = .ok answer after ↔
      answer = none ∧ t.reorder order = .ok after := by
  rw [Edit.run_work_eq_ok_iff, edit]
  constructor
  · rintro ⟨changed, done, ⟨⟩⟩
    exact ⟨rfl, done⟩
  · rintro ⟨rfl, done⟩
    exact ⟨after, done, rfl⟩

/-- **A new order is a permutation.** However a timeline was edited, it takes a new order exactly if
that is a permutation of its ids, as comparing sorted copies tells as well. It then has that order;
the entry under every id is the same as before, none is lost and none occurs twice, and the schedule
is that of the new order. The former order brings the former timeline back, and of two orders the
first leaves no trace. -/
theorem performAll_reorders {entries : List Entry} {start : Timeline}
    (made : ofEntries entries = .ok start) (edits : List Edit) :
    let t := start.performAll edits
    ∀ order : List String,
      ((∃ answer after, (Edit.reorder order).work.run t = .ok answer after) ↔ order.Perm t.ids) ∧
      (¬ order.Perm t.ids → (Edit.reorder order).work.run t = .error (.order t.ids order) t) ∧
      t.edit (.reorder order) = t.reorderByTable order ∧
      ∀ answer after, (Edit.reorder order).work.run t = .ok answer after →
        (after.ids = order ∧ (∀ id, after.entryOf? id = t.entryOf? id) ∧
          after.entries.Perm t.entries ∧ after.rows = schedule after.entries) ∧
        (Edit.reorder t.ids).work.run after = .ok none t ∧
        ∀ again answer' last, (Edit.reorder again).work.run after = .ok answer' last ↔
          (Edit.reorder again).work.run t = .ok answer' last := by
  intro t order
  have h : t.Sound := (sound_of_ofEntries made).performAll edits
  refine ⟨?_, fun other => ?_, (h.reorderByTable_eq order).symm, fun answer after ran => ?_⟩
  · simp only [run_work_reorder_eq_ok_iff, reorder_eq]
    split <;> simp [*]
  · exact h.run_work_eq_error_iff.2 ⟨by rw [edit, reorder_eq, if_neg other], rfl⟩
  · obtain ⟨perm, rfl⟩ := reorder_eq_ok_iff.1 (run_work_reorder_eq_ok_iff.1 ran).2
    refine ⟨⟨ids_reorder perm, congrFun (h.entryOf?_reorder perm), h.perm_reorder perm, rfl⟩,
      run_work_reorder_eq_ok_iff.2 ⟨rfl, h.reorder_ids perm⟩, fun again answer' last => ?_⟩
    rw [run_work_reorder_eq_ok_iff, run_work_reorder_eq_ok_iff]
    exact and_congr_right fun _ => h.reorder_reorder perm

/-- Three clips, of which one was made longer, are turned round. -/
theorem performAll_reorders_three_clips :
    let clip (id : String) (seconds : Float) : Entry := ⟨id, "m", seconds, .known .cut, .real 1.0⟩
    let entries := [clip "a" 5.0, clip "b" 4.0, clip "c" 3.0]
    let t := (layOut entries).performAll [.setDuration "b" (some 1.5)]
    let turned := layOut [clip "c" 3.0, clip "b" 1.5, clip "a" 5.0]
    ofEntries entries = .ok (layOut entries) ∧
      (Edit.reorder ["c", "b", "a"]).work.run t = .ok none turned ∧ turned.ids = ["c", "b", "a"] ∧
      turned.entries.Perm t.entries ∧ (Edit.reorder ["a", "b", "c"]).work.run turned = .ok none t ∧
      (Edit.reorder ["a", "b", "b"]).work.run t =
        .error (.order ["a", "b", "c"] ["a", "b", "b"]) t := by
  intro clip entries t turned
  have made : ofEntries entries = .ok (layOut entries) :=
    ofEntries_eq_ok_iff.2 ⟨rfl, by decide, by decide⟩
  have ids : t.ids = ["a", "b", "c"] := rfl
  have ran : (Edit.reorder ["c", "b", "a"]).work.run t = .ok none turned := rfl
  obtain ⟨-, -, -, turns⟩ := performAll_reorders made [.setDuration "b" (some 1.5)] ["c", "b", "a"]
  obtain ⟨⟨order, -, perm, -⟩, back, -⟩ := turns none turned ran
  have refused := (performAll_reorders made [.setDuration "b" (some 1.5)] ["a", "b", "b"]).2.1
  exact ⟨made, ran, order, perm, back, refused (by rw [ids]; decide)⟩

end Splice.Timeline
