import Splice.Proofs.Compile.Acceptance
import Splice.Proofs.Timeline.Lookup

/-!
# Setting a transition, and resolving it

Two rules say which transitions there may be: an edit that sets one checks it, and the compiler
resolves it into a join. They accept the same kinds with the same durations, where an edit that is
given no duration means the one that the entry has (`Sound.exists_run_setTransition_iff`).

So an entry whose transition was set can be joined to whatever is put behind it. `Settled` says so;
setting a transition makes it true (`Sound.settled_setTransition`), every later edit but another
setting of the same transition keeps it (`Sound.settled_perform`), and the compiler never complains
of such an entry (`Settled.not_mem_objections`).
-/

namespace Splice

/-! ## Resolving -/

/-- The transition that a kind given by name asks for; nothing asks for a cut. -/
def Transition.ofKind (text : Option String) : Transition :=
  match text with
  | none => known .cut
  | some text => ofText text

/-- Whether a kind of transition can be made with a duration. -/
def TransitionKind.Lasts (kind : TransitionKind) (seconds : Amount) : Prop :=
  kind.isBlending → ¬ seconds.value ≤ 0

/-- An entry whose transition can be made, whatever stands behind it. -/
def Entry.Joinable (e : Entry) : Prop :=
  ∃ kind, e.transition = .known kind ∧ kind.Lasts e.transitionDuration

theorem Transition.ofKind_name (kind : TransitionKind) : ofKind (some kind.name) = .known kind := by
  cases kind <;> rfl

/-- Both rules read a kind in the same way. -/
theorem Transition.ofKind_eq_known_iff {text : Option String} {kind : TransitionKind} :
    ofKind text = .known kind ↔ Timeline.readTransition text = .ok kind := by
  cases text with
  | none => simp [ofKind, Timeline.readTransition]
  | some text =>
    cases read : TransitionKind.read? text <;>
      simp [ofKind, ofText, Timeline.readTransition, read]

theorem Join.exists_resolve_known_iff {kind : TransitionKind} {seconds : Amount} {offset : Float} :
    (∃ join, resolve (.known kind) (some seconds) offset = .ok join) ↔ kind.Lasts seconds := by
  by_cases short : seconds.value ≤ 0 <;>
    cases kind <;>
    simp [resolve, TransitionKind.engineName?, TransitionKind.Lasts, TransitionKind.isBlending, short]

theorem Join.exists_resolve_iff {transition : Transition} {seconds : Amount} {offset : Float} :
    (∃ join, resolve transition (some seconds) offset = .ok join) ↔
      ∃ kind, transition = .known kind ∧ kind.Lasts seconds := by
  cases transition with
  | unknown text => simp [resolve]
  | known kind => simp [exists_resolve_known_iff]

/-- Whether an edit sets the transition of the entry with an id. -/
def Edit.Sets (id : String) : Edit → Prop
  | setTransition other _ _ => other = id
  | _ => False

namespace Timeline

/-! ## Setting -/

theorem checkDuration_some_eq_ok_iff {subject : DurationSubject} {seconds : Amount} :
    (∃ s, checkDuration subject (some seconds) = .ok s) ↔ ¬ seconds.value ≤ 0 := by
  by_cases short : seconds.value ≤ 0 <;> simp [checkDuration, short]

/-- The duration that an edit of a transition means: the one given, or else the one that the entry
has already. -/
def meantDuration (seconds : Option Float) (row : Row) : Amount :=
  (seconds.map .real).getD row.entry.transitionDuration

theorem checkTransition_eq_ok_iff {t : Timeline} {id : String} {row : Row}
    (got : t.get id = .ok row) (kind : TransitionKind) (seconds : Option Float) :
    t.checkTransition id kind seconds = .ok () ↔ kind.Lasts (meantDuration seconds row) := by
  have passes : ∀ x : Except Problem Float, (x.map fun _ => ()) = .ok () ↔ ∃ s, x = .ok s := by
    simp [map_eq_ok_iff]
  unfold checkTransition TransitionKind.Lasts
  cases kind.isBlending with
  | false => simp
  | true =>
    cases seconds with
    | some s =>
      simp only [if_true, passes, checkDuration_some_eq_ok_iff, meantDuration, true_implies]
      rfl
    | none =>
      simp only [if_true, got, passes, checkDuration_some_eq_ok_iff, meantDuration, true_implies]
      rfl

/-- An edit that sets a transition is carried out for a kind and a duration with which the
transition can be made. -/
theorem exists_edit_setTransition_iff {t : Timeline} {id : String} {row : Row} (mem : id ∈ t.ids)
    (got : t.get id = .ok row) (text : Option String) (seconds : Option Float) :
    (∃ changed, t.edit (.setTransition id text seconds) = .ok changed) ↔
      ∃ kind, readTransition text = .ok kind ∧ kind.Lasts (meantDuration seconds row) := by
  rw [edit, Timeline.setTransition]
  cases readTransition text with
  | error cause => simp
  | ok kind =>
    simp only [Except.ok.injEq, exists_eq_left', ← checkTransition_eq_ok_iff got kind seconds]
    cases t.checkTransition id kind seconds with
    | error problem => simp
    | ok => simpa using exists_replace_of_mem mem _

theorem Sound.mem_ids_of_get {t : Timeline} (h : t.Sound) {id : String} {row : Row}
    (got : t.get id = .ok row) : id ∈ t.ids := by
  have row_of := h.get_eq_ok_iff.1 got
  rw [← h.map_id_rows, ← row_of.id_eq]
  exact List.mem_map_of_mem row_of.mem

/-- Setting and resolving accept the same transitions. -/
theorem Sound.exists_run_setTransition_iff {t : Timeline} (h : t.Sound) {id : String} {row : Row}
    (got : t.get id = .ok row) (text : Option String) (seconds : Option Float) (offset : Float) :
    (∃ answer after, (Edit.setTransition id text seconds).work.run t = .ok answer after) ↔
      ∃ join, Join.resolve (.ofKind text) (some (meantDuration seconds row)) offset = .ok join := by
  rw [h.exists_run_work_iff, exists_edit_setTransition_iff (h.mem_ids_of_get got) got,
    Join.exists_resolve_iff]
  simp only [Transition.ofKind_eq_known_iff]

/-! ## An entry whose transition was set -/

/-- The timeline holds an entry under the id, and can join it to whatever stands behind it. -/
structure Settled (t : Timeline) (id : String) : Prop where
  held : id ∈ t.ids
  joinable : ∀ e ∈ t.entries, e.id = id → e.Joinable

/-- An entry of a timeline with one entry changed is an old one, or the one that was changed. -/
theorem Sound.exists_of_mem_replace {t changed : Timeline} (h : t.Sound) {id : String}
    {change : Entry → Entry} (done : t.replace id change = .ok changed) {e : Entry}
    (mem : e ∈ changed.entries) :
    (e ∈ t.entries ∧ e.id ≠ id) ∨ ∃ old ∈ t.entries, old.id = id ∧ e = change old := by
  obtain ⟨i, found, rfl⟩ := replace_eq_ok_iff.1 done
  rw [layOut, h.modify_eq_map found] at mem
  obtain ⟨old, inside, rfl⟩ := List.mem_map.1 mem
  by_cases here : old.id = id
  · exact .inr ⟨old, inside, here, if_pos here⟩
  · rw [if_neg here]
    exact .inl ⟨inside, here⟩

/-- Once a transition was set, its entry is settled. -/
theorem Sound.settled_setTransition {t changed : Timeline} (h : t.Sound) {id : String}
    {text : Option String} {seconds : Option Float}
    (done : t.edit (.setTransition id text seconds) = .ok changed) : changed.Settled id := by
  have held := mem_ids_of_changed (e := .setTransition id text seconds) rfl done
  refine ⟨held, fun e mem same => ?_⟩
  obtain ⟨kind, -, checked, replaced⟩ := setTransition_eq_ok_iff.1 done
  rcases h.exists_of_mem_replace replaced mem with ⟨-, other⟩ | ⟨old, inside, here, rfl⟩
  · exact absurd same other
  · obtain ⟨row, got, rfl⟩ := h.get_of_entryOf? (h.entryOf?_eq_some_iff.2 ⟨inside, here⟩)
    exact ⟨kind, rfl, (checkTransition_eq_ok_iff got kind seconds).1 checked⟩

theorem Settled.append {t changed : Timeline} {id : String} (settled : t.Settled id)
    {entry : Entry} (done : t.append entry = .ok changed) : changed.Settled id := by
  obtain ⟨checked, rfl⟩ := append_eq_ok_iff.1 done
  have fresh := (checkNew_eq_ok_iff.1 checked).1
  refine ⟨?_, fun e mem same => ?_⟩
  · rw [ids, layOut, List.map_append]
    exact List.mem_append_left _ settled.held
  · rcases List.mem_append.1 mem with old | new
    · exact settled.joinable e old same
    · rw [List.mem_singleton.1 new] at same
      exact absurd (same ▸ settled.held) fresh

theorem Settled.reorder {t changed : Timeline} {id : String} (settled : t.Settled id)
    {order : List String} (done : t.reorder order = .ok changed) : changed.Settled id := by
  obtain ⟨perm, rfl⟩ := reorder_eq_ok_iff.1 done
  refine ⟨?_, fun e mem same => ?_⟩
  · rw [ids, layOut, map_id_filterMap_find? fun id mem => perm.mem_iff.1 mem]
    exact perm.mem_iff.2 settled.held
  · obtain ⟨_, -, look⟩ := List.mem_filterMap.1 mem
    exact settled.joinable e (List.mem_of_find?_eq_some look) same

/-- To change one entry leaves an entry settled, if the change leaves it joinable. -/
theorem Sound.settled_replace {t changed : Timeline} (h : t.Sound) {id other : String}
    (settled : t.Settled id) {change : Entry → Entry}
    (done : t.replace other change = .ok changed) (same : ∀ e, (change e).id = e.id)
    (kept : ∀ e, e.id = id → e.id = other → e.Joinable → (change e).Joinable) :
    changed.Settled id := by
  refine ⟨(ids_of_replace done same).1 ▸ settled.held, fun e mem here => ?_⟩
  rcases h.exists_of_mem_replace done mem with ⟨old, -⟩ | ⟨old, inside, there, rfl⟩
  · exact settled.joinable e old here
  · rw [same] at here
    exact kept old here there (settled.joinable old inside here)

/-- An edit that does not set the transition of a settled entry leaves it settled. -/
theorem Sound.settled_edit {t changed : Timeline} (h : t.Sound) {id : String}
    (settled : t.Settled id) {e : Edit} (other : ¬ e.Sets id) (done : t.edit e = .ok changed) :
    changed.Settled id := by
  cases e with
  | append entry => exact settled.append done
  | reorder order => exact settled.reorder done
  | setDuration changedId seconds =>
    obtain ⟨s, -, -, replaced⟩ := setDuration_eq_ok_iff.1 done
    exact h.settled_replace settled replaced (fun _ => rfl) fun _ _ _ joinable => joinable
  | setTransition changedId text seconds =>
    obtain ⟨kind, -, -, replaced⟩ := setTransition_eq_ok_iff.1 done
    exact h.settled_replace settled replaced (fun _ => rfl)
      fun e here there _ => absurd (there.symm.trans here) other

theorem Sound.settled_perform {t : Timeline} (h : t.Sound) {id : String} (settled : t.Settled id)
    {e : Edit} (other : ¬ e.Sets id) : (t.perform e).Settled id := by
  rw [perform_eq]
  cases done : t.edit e with
  | error problem => exact settled
  | ok changed => exact h.settled_edit settled other done

theorem Sound.settled_performAll {t : Timeline} (h : t.Sound) {id : String} (settled : t.Settled id)
    {edits : List Edit} (others : ∀ e ∈ edits, ¬ e.Sets id) : (t.performAll edits).Settled id := by
  induction edits generalizing t with
  | nil => exact settled
  | cons e rest ih =>
    rw [List.forall_mem_cons] at others
    exact ih (h.perform e) (h.settled_perform settled others.1) others.2

/-! ## What the compiler says of it -/

/-- A complaint about a transition is about two entries that stand one behind the other. -/
theorem exists_of_unresolved_mem {entries : List Entry} {assets : AssetTable} {lengths : Bool}
    {track : Option AudioTrack} {before after : String} {cause : TransitionProblem}
    (mem : .unresolved before after cause ∈ Compile.objections entries assets lengths track) :
    ∃ e ∈ entries, e.id = before ∧ ¬ e.Joinable := by
  simp only [Compile.objections, List.mem_append, List.mem_filterMap, or_assoc] at mem
  rcases mem with ⟨_, -, h⟩ | h | ⟨_, -, h⟩ | ⟨_, -, h⟩ | ⟨⟨e, next⟩, pair, h⟩
  · unfold Compile.entryObjection? at h
    repeat' split at h
    all_goals cases h
  · split at h
    · cases List.mem_singleton.1 h
    · cases h
  · unfold Compile.assetObjection? at h
    repeat' split at h
    all_goals cases h
  · unfold Compile.musicObjection? at h
    repeat' split at h
    all_goals cases h
  · refine ⟨e, (List.of_mem_zip pair).1, ?_, fun joinable => ?_⟩
    · unfold Compile.transitionObjection? at h
      repeat' split at h
      all_goals cases h
      all_goals rfl
    · rw [Compile.transitionObjection?_eq_none_iff.2 joinable] at h
      cases h

theorem Settled.not_mem_objections {t : Timeline} {id : String} (settled : t.Settled id)
    (assets : AssetTable) (lengths : Bool) (track : Option AudioTrack) (after : String)
    (cause : TransitionProblem) :
    .unresolved id after cause ∉ Compile.objections t.entries assets lengths track := by
  intro mem
  obtain ⟨e, inside, same, stuck⟩ := exists_of_unresolved_mem mem
  exact stuck (settled.joinable e inside same)

/-- The compiler and the check before it never complain of a settled entry. -/
theorem Sound.unresolved_of_settled {t : Timeline} (h : t.Sound) {id : String}
    (settled : t.Settled id) (after : String) (cause : TransitionProblem) :
    (∀ assets, Compile.validate t assets ≠ .error (.unresolved id after cause)) ∧
      ∀ encoding assets track settings,
        Compile.compile encoding t assets track settings ≠ .error (.unresolved id after cause) := by
  refine ⟨fun assets refused => ?_, fun encoding assets track settings refused => ?_⟩
  · rw [h.validate_eq, ← Compile.refusal?_eq_some_iff, Compile.refusal?_validateEntries] at refused
    exact settled.not_mem_objections assets false none after cause (List.mem_of_head? refused)
  · rw [h.compile_eq, ← Compile.refusal?_eq_some_iff, Compile.refusal?_compileEntries] at refused
    exact settled.not_mem_objections assets true track after cause (List.mem_of_head? refused)

/-- **Editing and compiling agree on transitions.** Whatever was edited before, the transition of an
entry is set exactly if it can be resolved, with the duration that is given or else the one that the
entry has, and for any end. Once it was set, no further edits but of that transition lead to a
timeline of which the compiler, or the check before it, says that this entry cannot be joined to the
one behind it. -/
theorem performAll_joins {entries : List Entry} {start : Timeline}
    (made : ofEntries entries = .ok start) (edits : List Edit) :
    let t := start.performAll edits
    (∀ kind : TransitionKind, Transition.ofKind (some kind.name) = .known kind) ∧
    ∀ id ∈ t.ids, ∃ row, t.get id = .ok row ∧ ∀ text seconds,
      (∀ offset,
        (∃ answer after, (Edit.setTransition id text seconds).work.run t = .ok answer after) ↔
          ∃ join, Join.resolve (.ofKind text)
            (some ((seconds.map .real).getD row.entry.transitionDuration)) offset = .ok join) ∧
      ∀ answer after, (Edit.setTransition id text seconds).work.run t = .ok answer after →
        ∀ later, (∀ e ∈ later, ¬ e.Sets id) → ∀ next cause,
          (∀ assets, Compile.validate (after.performAll later) assets ≠
            .error (.unresolved id next cause)) ∧
          ∀ encoding assets track settings,
            Compile.compile encoding (after.performAll later) assets track settings ≠
              .error (.unresolved id next cause) := by
  intro t
  have h : t.Sound := (sound_of_ofEntries made).performAll edits
  refine ⟨Transition.ofKind_name, fun id mem => ?_⟩
  obtain ⟨row, row_of⟩ := h.exists_isRowOf mem
  have got := h.get_eq_ok_iff.2 row_of
  refine ⟨row, got, fun text seconds => ⟨h.exists_run_setTransition_iff got text seconds, ?_⟩⟩
  intro answer after ran later others next cause
  have done := h.edit_of_run_work ran
  have settled := (h.edit done).settled_performAll (h.settled_setTransition done) others
  exact ((h.edit done).performAll later).unresolved_of_settled settled next cause

/-- Two clips, of which the second is made to fade, moved to the front, and made longer. -/
theorem performAll_joins_two_clips :
    let a : Entry := ⟨"a", "m", 2.5, .known .cut, .real 1.0⟩
    let b : Entry := ⟨"b", "m", 4.0, .unknown "?", .real 1.0⟩
    let later : List Edit := [.reorder ["b", "a"], .setDuration "b" (some 5.0),
      .setTransition "a" (some "?") none]
    ofEntries [a, b] = .ok (layOut [a, b]) ∧
      ∃ answer after, (Edit.setTransition "b" (some "fade") none).work.run (layOut [a, b]) =
        .ok answer after ∧
        ∀ next cause assets, Compile.validate (after.performAll later) assets ≠
          .error (.unresolved "b" next cause) := by
  intro a b later
  have made : ofEntries [a, b] = .ok (layOut [a, b]) :=
    ofEntries_eq_ok_iff.2 ⟨rfl, by decide, by decide⟩
  obtain ⟨-, agree⟩ := performAll_joins made []
  obtain ⟨row, got, joins⟩ := agree "b" (by decide)
  have held : (layOut [a, b]).get "b" = .ok ⟨b, 0.0 + 2.5, 0.0 + 2.5 + 4.0⟩ := rfl
  cases got.symm.trans held
  obtain ⟨accepts, stays⟩ := joins (some "fade") none
  obtain ⟨answer, after, ran⟩ :=
    (accepts 0.0).2 (Join.exists_resolve_iff.2 ⟨.fade, rfl, fun _ => by decide⟩)
  refine ⟨made, answer, after, ran, fun next cause => (stays answer after ran later ?_ next cause).1⟩
  simp [later, Edit.Sets]

end Timeline

end Splice
