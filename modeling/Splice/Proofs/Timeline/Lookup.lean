import Splice.Proofs.Timeline.Answers

/-!
# Entries under their ids

No id occurs twice in a sound timeline, so its ids in their order, and the entry under each of them,
say all that there is to say about it (`Sound.filterMap_entryOf?_ids`). The edits are simple in
these terms. A new order takes the entries from under its ids (`reorder_eq`) and leaves them where
they are found (`Sound.entryOf?_reorder`). A change in place is refused for its own arguments,
because nothing is held under its id, or for the duration of the transition that it finds there
(`refusal?`); and otherwise it has the same effect on whatever stands under its id
(`Sound.edit_of_changed`).
-/

namespace Splice

namespace Timeline

/-! ## Looking an entry up -/

/-- The entry that a timeline holds under an id. -/
def entryOf? (t : Timeline) (id : String) : Option Entry := t.entries.find? fun e => e.id == id

theorem find?_id_eq_some_iff {entries : List Entry} (distinct : (entries.map Entry.id).Nodup)
    {id : String} {e : Entry} :
    (entries.find? fun e => e.id == id) = some e ↔ e ∈ entries ∧ e.id = id := by
  constructor
  · intro found
    exact ⟨List.mem_of_find?_eq_some found, by simpa using List.find?_some found⟩
  · rintro ⟨mem, rfl⟩
    have present : (entries.find? fun other => other.id == e.id).isSome := by
      rw [List.find?_isSome]
      exact ⟨e, mem, by simp⟩
    obtain ⟨found, look⟩ := Option.isSome_iff_exists.1 present
    have same : found.id = e.id := by simpa using List.find?_some look
    rw [look, List.inj_on_of_nodup_map distinct (List.mem_of_find?_eq_some look) mem same]

theorem Sound.entryOf?_eq_some_iff {t : Timeline} (h : t.Sound) {id : String} {e : Entry} :
    t.entryOf? id = some e ↔ e ∈ t.entries ∧ e.id = id :=
  find?_id_eq_some_iff h.acceptable.nodup

theorem id_of_entryOf? {t : Timeline} {id : String} {e : Entry} (held : t.entryOf? id = some e) :
    e.id = id := by
  simpa using List.find?_some held

theorem entryOf?_eq_none_iff {t : Timeline} {id : String} : t.entryOf? id = none ↔ id ∉ t.ids := by
  simp [entryOf?, ids]

/-- The entries are those under the ids, in the order of the ids. -/
theorem Sound.filterMap_entryOf?_ids {t : Timeline} (h : t.Sound) :
    t.ids.filterMap t.entryOf? = t.entries := by
  have found : ∀ e ∈ t.entries, t.entryOf? e.id = some e :=
    fun e mem => h.entryOf?_eq_some_iff.2 ⟨mem, rfl⟩
  rw [ids, List.filterMap_map]
  exact (List.filterMap_congr found).trans List.filterMap_some

theorem Sound.layOut_entries {t : Timeline} (h : t.Sound) : layOut t.entries = t := by
  rw [layOut, ← h.rows_eq]

/-- The row of an id is that of the entry under it. -/
theorem Sound.get_of_entryOf? {t : Timeline} (h : t.Sound) {id : String} {e : Entry}
    (held : t.entryOf? id = some e) : ∃ row, t.get id = .ok row ∧ row.entry = e := by
  obtain ⟨inside, rfl⟩ := h.entryOf?_eq_some_iff.1 held
  rw [← map_entry_schedule t.entries, ← h.rows_eq] at inside
  obtain ⟨row, mem, rfl⟩ := List.mem_map.1 inside
  exact ⟨row, h.get_eq_ok_iff.2 (h.isRowOf mem), rfl⟩

/-! ## A new order -/

theorem reorder_eq (t : Timeline) (order : List String) :
    t.reorder order =
      if order.Perm t.ids then .ok (layOut (order.filterMap t.entryOf?))
      else .error (.order t.ids order) := by
  simp only [reorder, List.isPerm_iff]
  rfl

theorem ids_reorder {t : Timeline} {order : List String} (perm : order.Perm t.ids) :
    (layOut (order.filterMap t.entryOf?)).ids = order :=
  map_id_filterMap_find? fun _ mem => perm.mem_iff.1 mem

/-- No entry is lost in a new order, and none occurs twice. -/
theorem Sound.perm_reorder {t : Timeline} (h : t.Sound) {order : List String}
    (perm : order.Perm t.ids) : (order.filterMap t.entryOf?).Perm t.entries := by
  conv_rhs => rw [← h.filterMap_entryOf?_ids]
  exact perm.filterMap _

/-- Under every id stands the entry that stood there before. -/
theorem Sound.entryOf?_reorder {t : Timeline} (h : t.Sound) {order : List String}
    (perm : order.Perm t.ids) : (layOut (order.filterMap t.entryOf?)).entryOf? = t.entryOf? := by
  have distinct : ((order.filterMap t.entryOf?).map Entry.id).Nodup := by
    rw [show (order.filterMap t.entryOf?).map Entry.id = order from ids_reorder perm]
    exact perm.nodup_iff.2 h.acceptable.nodup
  funext id
  apply Option.ext
  intro e
  rw [h.entryOf?_eq_some_iff, ← (h.perm_reorder perm).mem_iff]
  exact find?_id_eq_some_iff distinct

/-! ## Changes in place -/

/-- The first place of an id is the only one. -/
theorem Sound.getElem?_ids_eq_some_iff {t : Timeline} (h : t.Sound) {id : String} {i : Nat}
    (found : (t.entries.findIdx? fun e => e.id == id) = some i) {k : Nat} :
    t.ids[k]? = some id ↔ k = i := by
  obtain ⟨inside, hit, -⟩ := List.findIdx?_eq_some_iff_getElem.1 found
  have here : t.ids[i]? = some id := by simpa [ids, inside] using hit
  constructor
  · intro there
    exact ((List.getElem?_inj (by simpa [ids]) h.acceptable.nodup).1 (here.trans there.symm)).symm
  · rintro rfl
    exact here

/-- To change the first entry of an id is to change whatever stands under it. -/
theorem Sound.modify_eq_map {t : Timeline} (h : t.Sound) {id : String} {i : Nat}
    (found : (t.entries.findIdx? fun e => e.id == id) = some i) (change : Entry → Entry) :
    t.entries.modify i change = t.entries.map fun e => if e.id = id then change e else e := by
  apply List.ext_getElem (by simp)
  intro k bound _
  rw [List.length_modify] at bound
  have place : t.entries[k].id = id ↔ i = k := by
    rw [eq_comm (b := k), ← h.getElem?_ids_eq_some_iff found, ids, List.getElem?_map,
      List.getElem?_eq_getElem bound, Option.map_some, Option.some.injEq]
  rw [List.getElem_modify, List.getElem_map]
  simp only [place]

theorem Sound.replace_eq {t : Timeline} (h : t.Sound) (id : String) (change : Entry → Entry) :
    t.replace id change =
      match t.entryOf? id with
      | some _ => .ok (layOut (t.entries.map fun e => if e.id = id then change e else e))
      | none => .error (.unknownEntry id) := by
  cases held : t.entryOf? id with
  | none => exact replace_of_not_mem (entryOf?_eq_none_iff.1 held) change
  | some e =>
    obtain ⟨mem, rfl⟩ := h.entryOf?_eq_some_iff.1 held
    obtain ⟨changed, done⟩ := exists_replace_of_mem (List.mem_map_of_mem mem) change
    obtain ⟨i, found, rfl⟩ := replace_eq_ok_iff.1 done
    rw [done, h.modify_eq_map found]

end Timeline

namespace Edit

/-- What a change in place makes of the entry that it is for. -/
def change : Edit → Entry → Entry
  | setDuration _ seconds, e => { e with duration := seconds.getD e.duration }
  | setTransition _ text seconds, e =>
    match Timeline.readTransition text with
    | .ok kind =>
      { e with
        transition := .known kind
        transitionDuration := (seconds.map .real).getD e.transitionDuration }
    | .error _ => e
  | _, e => e

/-- What a change in place makes of any entry. -/
def effect (edit : Edit) (e : Entry) : Entry :=
  if e.id ∈ edit.changed? then edit.change e else e

/-- What a change in place finds wrong with the entry that it is for: a transition that is to blend
takes the duration that the entry has, if none is given. -/
def objectionTo? (held : Entry) : Edit → Option Problem
  | setTransition id text none =>
    match Timeline.readTransition text with
    | .ok kind =>
      if kind.isBlending ∧ held.transitionDuration.value ≤ 0 then
        some (.duration (.transition id) (some held.transitionDuration))
      else none
    | .error _ => none
  | _ => none

theorem id_change (edit : Edit) (e : Entry) : (edit.change e).id = e.id := by
  unfold change
  split
  · rfl
  · split <;> rfl
  · rfl

theorem id_effect (edit : Edit) (e : Entry) : (edit.effect e).id = e.id := by
  unfold effect
  split
  · exact edit.id_change e
  · rfl

theorem effect_of_changed {edit : Edit} {id : String} (mem : id ∈ edit.changed?) :
    edit.effect = fun e => if e.id = id then edit.change e else e := by
  funext e
  simp only [effect, Option.mem_def.1 mem, Option.mem_some_iff, eq_comm]

end Edit

namespace Timeline

theorem ids_effect (t : Timeline) (edit : Edit) :
    (layOut (t.entries.map edit.effect)).ids = t.ids := by
  rw [ids, layOut, List.map_map]
  exact List.map_congr_left fun e _ => edit.id_effect e

theorem entryOf?_effect (t : Timeline) (edit : Edit) (id : String) :
    (layOut (t.entries.map edit.effect)).entryOf? id = (t.entryOf? id).map edit.effect := by
  rw [entryOf?, layOut, List.find?_map, entryOf?]
  simp only [Function.comp_def, Edit.id_effect]

/-- Why a timeline refuses to change the entry with an id. -/
def refusal? (t : Timeline) (id : String) (edit : Edit) : Option Problem :=
  edit.objection?.or <|
    match t.entryOf? id with
    | none => some (.unknownEntry id)
    | some held => edit.objectionTo? held

theorem Sound.replace_change {t : Timeline} (h : t.Sound) (edit : Edit) {id : String}
    (mem : id ∈ edit.changed?) {held : Entry} (look : t.entryOf? id = some held) :
    t.replace id edit.change = .ok (layOut (t.entries.map edit.effect)) := by
  rw [h.replace_eq, look, Edit.effect_of_changed mem]

theorem Sound.checkTransition_eq {t : Timeline} (h : t.Sound) {id : String} {held : Entry}
    (look : t.entryOf? id = some held) {text : Option String} {kind : TransitionKind}
    (meant : readTransition text = .ok kind) (seconds : Option Float) :
    t.checkTransition id kind seconds =
      match t.refusal? id (.setTransition id text seconds) with
      | some problem => .error problem
      | none => .ok () := by
  obtain ⟨row, got, rfl⟩ := h.get_of_entryOf? look
  unfold Timeline.checkTransition
  rw [refusal?, look]
  cases blends : kind.isBlending with
  | false => cases seconds <;> simp [Edit.objection?, Edit.objectionTo?, meant, blends]
  | true =>
    cases seconds with
    | some s =>
      by_cases short : s ≤ 0 <;>
        simp [Edit.objection?, Edit.objectionTo?, meant, blends, checkDuration, Amount.value, short,
          Except.map]
    | none =>
      by_cases short : row.entry.transitionDuration.value ≤ 0 <;>
        simp [Edit.objection?, Edit.objectionTo?, meant, blends, checkDuration, got, short,
          Except.map]

/-- A change in place is refused, or has its effect on every entry. -/
theorem Sound.edit_of_changed {t : Timeline} (h : t.Sound) {edit : Edit} {id : String}
    (mem : id ∈ edit.changed?) :
    t.edit edit =
      match t.refusal? id edit with
      | some problem => .error problem
      | none => .ok (layOut (t.entries.map edit.effect)) := by
  cases held : t.entryOf? id with
  | none =>
    -- Its own arguments come first, also when there is nothing to change.
    rw [h.edit_of_not_mem mem (entryOf?_eq_none_iff.1 held), refusal?, held]
    cases edit.objection? <;> rfl
  | some e =>
    cases edit with
    | append entry => cases mem
    | reorder order => cases mem
    | setDuration id seconds =>
      cases mem
      have done (s : Float) : t.replace id (fun entry => { entry with duration := s }) =
          .ok (layOut (t.entries.map (Edit.setDuration id (some s)).effect)) :=
        h.replace_change (.setDuration id (some s)) rfl held
      rw [Timeline.edit, Timeline.setDuration, refusal?, held]
      cases seconds with
      | none => rfl
      | some s =>
        by_cases short : s ≤ 0
        · simp [checkDuration, Amount.value, Edit.objection?, short]
        · simp [checkDuration, Amount.value, Edit.objection?, Edit.objectionTo?, short, done]
    | setTransition id text seconds =>
      cases mem
      rw [Timeline.edit, Timeline.setTransition]
      cases meant : readTransition text with
      | error cause => simp [refusal?, Edit.objection?, meant]
      | ok kind =>
        have change : (Edit.setTransition id text seconds).change = fun entry =>
            { entry with
              transition := .known kind
              transitionDuration := (seconds.map .real).getD entry.transitionDuration } := by
          funext entry
          simp only [Edit.change, meant]
        dsimp only
        rw [h.checkTransition_eq held meant, ← change, h.replace_change _ rfl held]
        cases t.refusal? id (.setTransition id text seconds) <;> rfl

end Timeline

end Splice
