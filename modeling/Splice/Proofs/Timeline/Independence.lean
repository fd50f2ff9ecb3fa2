import Splice.Proofs.Timeline.Lookup

/-!
# Edits that do not get in each other's way

A change in place looks at nothing but the entry under its own id, of which a change of the duration
reads nothing and a change of the transition reads the duration of the transition; and a new order
looks at the ids alone. So edits that write to different entries, or to different parts of one
(`Edit.Independent`), come to the same in either order, whether they are carried out or refused
(`Sound.swaps`).
-/

namespace Splice

/-! ## Independent edits -/

namespace Edit

/-- Two edits of which neither writes what the other one reads or writes. -/
inductive Independent : Edit → Edit → Prop
  | durations {id other : String} (apart : id ≠ other) (seconds seconds' : Option Float) :
      Independent (.setDuration id seconds) (.setDuration other seconds')
  | transitions {id other : String} (apart : id ≠ other) (text text' : Option String)
      (seconds seconds' : Option Float) :
      Independent (.setTransition id text seconds) (.setTransition other text' seconds')
  | durationAndTransition (id other : String) (seconds : Option Float) (text : Option String)
      (seconds' : Option Float) :
      Independent (.setDuration id seconds) (.setTransition other text seconds')
  | orderAndDuration (order : List String) (id : String) (seconds : Option Float) :
      Independent (.reorder order) (.setDuration id seconds)
  | orderAndTransition (order : List String) (id : String) (text : Option String)
      (seconds : Option Float) : Independent (.reorder order) (.setTransition id text seconds)

/-- The problem with which an edit of a timeline fails, if it fails. -/
def failure? (e : Edit) (t : Timeline) : Option Problem :=
  match e.work.run t with
  | .ok _ _ => none
  | .error problem _ => some problem

end Edit

/-- Two edits of a timeline can be swapped: they lead to the same timeline, and the order in which
they come decides neither which of them fail nor for what problem. -/
structure Timeline.Swaps (t : Timeline) (e e' : Edit) : Prop where
  state : (t.perform e).perform e' = (t.perform e').perform e
  first : e.failure? (t.perform e') = e.failure? t
  second : e'.failure? (t.perform e) = e'.failure? t

/-! ## What changes in place read and write -/

namespace Edit

variable {e e' : Edit} {id other : String}

theorem effect_of_id_ne (mem : other ∈ e.changed?) {x : Entry} (apart : x.id ≠ other) :
    e.effect x = x := by
  rw [effect_of_changed mem]
  exact if_neg apart

theorem effect_comm_of_ne (mem : id ∈ e.changed?) (mem' : other ∈ e'.changed?) (apart : id ≠ other)
    (x : Entry) : e.effect (e'.effect x) = e'.effect (e.effect x) := by
  by_cases here : x.id = id
  · have same : (e.effect x).id ≠ other := by rwa [id_effect, here]
    rw [effect_of_id_ne mem' same, effect_of_id_ne mem' (here ▸ apart)]
  · have same : (e'.effect x).id ≠ id := by rwa [id_effect]
    rw [effect_of_id_ne mem same, effect_of_id_ne mem here]

theorem effect_comm (comm : ∀ x, e.change (e'.change x) = e'.change (e.change x)) (x : Entry) :
    e.effect (e'.effect x) = e'.effect (e.effect x) := by
  by_cases here : x.id ∈ e.changed? <;> by_cases there : x.id ∈ e'.changed? <;>
    simp [effect, here, there, id_change, comm]

/-- A new duration and a new transition are written to different parts of an entry. -/
theorem change_setDuration_comm (id other : String) (seconds : Option Float) (text : Option String)
    (seconds' : Option Float) (x : Entry) :
    (setDuration id seconds).change ((setTransition other text seconds').change x) =
      (setTransition other text seconds').change ((setDuration id seconds).change x) := by
  simp only [change]
  cases Timeline.readTransition text <;> rfl

/-- Of two durations of an entry the second one holds. -/
theorem effect_setDuration_setDuration (id : String) (first : Option Float) (s : Float)
    (x : Entry) :
    (setDuration id (some s)).effect ((setDuration id first).effect x) =
      (setDuration id (some s)).effect x := by
  by_cases here : id = x.id <;> simp [effect, changed?, change, here]

/-- Of the entry that it is for, a change in place looks only at the duration of the transition. -/
theorem objectionTo?_congr (e : Edit) {x y : Entry}
    (same : x.transitionDuration = y.transitionDuration) : e.objectionTo? x = e.objectionTo? y := by
  unfold objectionTo?
  rw [same]

theorem transitionDuration_setDuration (id : String) (seconds : Option Float) (x : Entry) :
    ((setDuration id seconds).effect x).transitionDuration = x.transitionDuration := by
  unfold effect
  split <;> rfl

end Edit

/-! ## Swapping two edits -/

namespace Timeline

variable {t : Timeline} {e e' : Edit} {id other : String}

theorem Sound.failure?_eq (h : t.Sound) (e : Edit) :
    e.failure? t = match t.edit e with
      | .ok _ => none
      | .error problem => some problem := by
  unfold Edit.failure?
  cases done : t.edit e with
  | error problem => rw [h.run_work_eq_error_iff.2 ⟨done, rfl⟩]
  | ok changed =>
    obtain ⟨answer, after, ran⟩ := h.exists_run_work_iff.2 ⟨changed, done⟩
    rw [ran]

theorem Sound.failure?_of_changed (h : t.Sound) (mem : id ∈ e.changed?) :
    e.failure? t = t.refusal? id e := by
  rw [h.failure?_eq, h.edit_of_changed mem]
  cases t.refusal? id e <;> rfl

theorem Sound.perform_of_changed (h : t.Sound) (mem : id ∈ e.changed?) :
    t.perform e =
      match t.refusal? id e with
      | some _ => t
      | none => layOut (t.entries.map e.effect) := by
  rw [perform_eq, h.edit_of_changed mem]
  cases t.refusal? id e <;> rfl

theorem Sound.failure?_reorder (h : t.Sound) (order : List String) :
    (Edit.reorder order).failure? t =
      if order.Perm t.ids then none else some (.order t.ids order) := by
  rw [h.failure?_eq, Timeline.edit, reorder_eq]
  by_cases perm : order.Perm t.ids <;> simp [perm]

theorem perform_reorder (t : Timeline) (order : List String) :
    t.perform (.reorder order) =
      if order.Perm t.ids then layOut (order.filterMap t.entryOf?) else t := by
  rw [perform_eq, edit, reorder_eq]
  by_cases perm : order.Perm t.ids <;> simp [perm]

/-- A change in place keeps the ids. -/
theorem Sound.ids_perform (h : t.Sound) (mem : id ∈ e.changed?) : (t.perform e).ids = t.ids := by
  rw [h.perform_of_changed mem]
  cases t.refusal? id e with
  | some problem => rfl
  | none => exact ids_effect t e

/-- A new order keeps the entry under every id. -/
theorem Sound.entryOf?_perform_reorder (h : t.Sound) (order : List String) :
    (t.perform (.reorder order)).entryOf? = t.entryOf? := by
  rw [perform_reorder]
  split
  case isTrue perm => exact h.entryOf?_reorder perm
  case isFalse => rfl

/-- A change in place is refused as before, if what it sees of its entry is as before. -/
theorem Sound.refusal?_perform (h : t.Sound) (mem : other ∈ e'.changed?)
    (keeps : ∀ x, x.id = id → e.objectionTo? (e'.effect x) = e.objectionTo? x) :
    (t.perform e').refusal? id e = t.refusal? id e := by
  rw [h.perform_of_changed mem]
  cases t.refusal? other e' with
  | some problem => rfl
  | none =>
    dsimp only
    rw [refusal?, refusal?, entryOf?_effect]
    cases held : t.entryOf? id with
    | none => rfl
    | some x => simp only [Option.map_some, keeps x (id_of_entryOf? held)]

/-- Two changes in place can be swapped if they can on every entry, and if neither changes what the
other sees of its entry. -/
theorem Sound.swaps_of_changed (h : t.Sound) (mem : id ∈ e.changed?) (mem' : other ∈ e'.changed?)
    (comm : ∀ x, e.effect (e'.effect x) = e'.effect (e.effect x))
    (keeps : ∀ x, x.id = id → e.objectionTo? (e'.effect x) = e.objectionTo? x)
    (keeps' : ∀ x, x.id = other → e'.objectionTo? (e.effect x) = e'.objectionTo? x) :
    t.Swaps e e' := by
  have first := h.refusal?_perform mem' keeps
  have second := h.refusal?_perform mem keeps'
  -- So each is refused as if the other were not there, and the effects commute if neither is.
  refine ⟨?_, ?_, ?_⟩
  · rw [(h.perform e).perform_of_changed mem', (h.perform e').perform_of_changed mem, first, second,
      h.perform_of_changed mem, h.perform_of_changed mem']
    cases t.refusal? id e <;> cases t.refusal? other e' <;> try rfl
    simp only [layOut, List.map_map, Function.comp_def, comm]
  · rw [(h.perform e').failure?_of_changed mem, h.failure?_of_changed mem, first]
  · rw [(h.perform e).failure?_of_changed mem', h.failure?_of_changed mem', second]

/-- A new order and a change in place can be swapped. -/
theorem Sound.swaps_reorder (h : t.Sound) (order : List String) (mem : id ∈ e.changed?) :
    t.Swaps (.reorder order) e := by
  have same : (t.perform (.reorder order)).refusal? id e = t.refusal? id e := by
    rw [refusal?, refusal?, h.entryOf?_perform_reorder]
  refine ⟨?_, ?_, ?_⟩
  · rw [(h.perform (.reorder order)).perform_of_changed mem, same, perform_reorder (t.perform e),
      h.ids_perform mem, perform_reorder, h.perform_of_changed mem]
    cases t.refusal? id e with
    | some problem => rfl
    | none =>
      dsimp only
      rw [funext (entryOf?_effect t e), ← List.map_filterMap]
      split <;> rfl
  · rw [(h.perform e).failure?_reorder, h.failure?_reorder, h.ids_perform mem]
  · rw [(h.perform (.reorder order)).failure?_of_changed mem, h.failure?_of_changed mem, same]

/-- Independent edits can be swapped. -/
theorem Sound.swaps (h : t.Sound) (independent : e.Independent e') : t.Swaps e e' := by
  cases independent with
  | @durations id other apart =>
    exact h.swaps_of_changed rfl rfl
      (Edit.effect_comm_of_ne rfl rfl apart) (fun _ _ => rfl) fun _ _ => rfl
  | @transitions id other apart text text' seconds seconds' =>
    refine h.swaps_of_changed rfl rfl
      (Edit.effect_comm_of_ne rfl rfl apart) (fun x here => ?_) fun x here => ?_
    · rw [Edit.effect_of_id_ne rfl (here ▸ apart)]
    · rw [Edit.effect_of_id_ne rfl (here ▸ apart.symm)]
  | durationAndTransition id other seconds text seconds' =>
    exact h.swaps_of_changed rfl rfl
      (Edit.effect_comm (Edit.change_setDuration_comm id other seconds text seconds'))
      (fun _ _ => rfl)
      fun x _ => Edit.objectionTo?_congr _ (Edit.transitionDuration_setDuration id seconds x)
  | orderAndDuration order id seconds => exact h.swaps_reorder order rfl
  | orderAndTransition order id text seconds => exact h.swaps_reorder order rfl

/-- Of two durations that an entry gets, the first leaves no trace. -/
theorem Sound.edit_setDuration_again (h : t.Sound) (id : String) (first second : Option Float)
    {after : Timeline} :
    (t.perform (.setDuration id first)).edit (.setDuration id second) = .ok after ↔
      t.edit (.setDuration id second) = .ok after := by
  have refused : (t.perform (.setDuration id first)).refusal? id (.setDuration id second) =
      t.refusal? id (.setDuration id second) :=
    h.refusal?_perform (show id ∈ (Edit.setDuration id first).changed? from rfl) fun _ _ => rfl
  rw [(h.perform _).edit_of_changed rfl, h.edit_of_changed rfl, refused, h.perform_of_changed rfl]
  cases second with
  -- Without a duration the second one is refused in any case.
  | none => simp [refusal?, Edit.objection?]
  | some s =>
    cases t.refusal? id (.setDuration id first) with
    | some problem => rfl
    | none =>
      simp only [layOut, List.map_map, Function.comp_def, Edit.effect_setDuration_setDuration]

/-- **Independent edits commute.** However a timeline was edited before, two edits that write to
different entries, to the duration and the transition of any entries, or to the order and to an
entry, lead to the same timeline in either order; and in either order the same of them fail, for the
same problems. When an entry gets two durations, all is as if it had only got the second. -/
theorem performAll_commutes {entries : List Entry} {start : Timeline}
    (made : ofEntries entries = .ok start) (edits : List Edit) :
    let t := start.performAll edits
    (∀ e e' : Edit, e.Independent e' → t.Swaps e e') ∧
      ∀ id first second answer after,
        (Edit.setDuration id second).work.run (t.perform (.setDuration id first)) =
            .ok answer after ↔
          (Edit.setDuration id second).work.run t = .ok answer after := by
  intro t
  have h : t.Sound := (sound_of_ofEntries made).performAll edits
  refine ⟨fun e e' => h.swaps, fun id first second answer after => ?_⟩
  simp only [Edit.run_work_eq_ok_iff, h.edit_setDuration_again]

/-- Of two clips the first is made longer and to fade, and the second is turned to the front; the
transition of a third is refused, whatever comes first. -/
theorem performAll_commutes_two_clips :
    let clip (id : String) (seconds : Float) : Entry := ⟨id, "m", seconds, .known .cut, .real 1.0⟩
    let entries := [clip "a" 5.0, clip "b" 4.0]
    let t := layOut entries
    let longer : Edit := .setDuration "a" (some 7.5)
    let fading : Edit := .setTransition "a" (some "fade") (some 0.5)
    let turned : Edit := .reorder ["b", "a"]
    let missing : Edit := .setTransition "c" (some "fade") none
    ofEntries entries = .ok t ∧ t.Swaps longer fading ∧ t.Swaps turned longer ∧
      t.Swaps turned fading ∧ t.Swaps fading missing ∧
      missing.failure? (t.perform fading) = some (.unknownEntry "c") := by
  intro clip entries t longer fading turned missing
  have made : ofEntries entries = .ok t := ofEntries_eq_ok_iff.2 ⟨rfl, by decide, by decide⟩
  have swaps := (performAll_commutes made []).1
  have apart : ("a" : String) ≠ "c" := by decide
  have swapped : t.Swaps fading missing := swaps fading missing (.transitions apart _ _ _ _)
  exact ⟨made, swaps longer fading (.durationAndTransition ..),
    swaps turned longer (.orderAndDuration ..), swaps turned fading (.orderAndTransition ..),
    swapped, swapped.second.trans rfl⟩

end Timeline

end Splice
