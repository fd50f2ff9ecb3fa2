import Splice.Export.Service
import Splice.Proofs.Surroundings.Run

/-!
# Histories of dialogues

Carried out in a world a dialogue has a history: its calls in order, with what came of each
(`Dialogue.history`). `Dialogue.Ensures` says what holds of the history, the outcome and the world
behind a dialogue, and is taken apart as it is for jobs. Two facts hold of every dialogue: what the
history records is what the calls do (`Dialogue.exists_run_of_mem_history`), and a call that fails
is the last and fails the dialogue (`Dialogue.last_of_failed`).
-/

namespace Splice

/-- A call and what came of it. -/
structure Exchange where
  call : Call
  outcome : Except Failure call.Answer

/-- Whether a call failed in a certain way. -/
def Exchange.Fails (exchange : Exchange) (failure : Failure) : Prop :=
  exchange.outcome = .error failure

namespace Dialogue

variable {α β : Type} {x : ExportService}

/-- The calls of a dialogue in a world, with what came of them. -/
def history (x : ExportService) : Dialogue α → World → List Exchange
  | done _, _ => []
  | own op next, w => (next (w.perform op).1).history x (w.perform op).2
  | call c next, w =>
    ⟨c, (w.run (c.act x).run).1⟩ ::
      match (w.run (c.act x).run).1 with
      | .ok answer => (next answer).history x (w.run (c.act x).run).2
      | .error _ => []

/-- What holds of the history of a dialogue, of its outcome and of the world behind it. -/
def Ensures (x : ExportService) (d : Dialogue α) (w : World)
    (post : List Exchange → Except Failure α → World → Prop) : Prop :=
  (d.act x).Ensures w (post (d.history x w))

section

variable {w : World} {post : List Exchange → Except Failure α → World → Prop}

theorem Ensures.mono {weaker : List Exchange → Except Failure α → World → Prop} {d : Dialogue α}
    (h : d.Ensures x w post)
    (imp : ∀ history outcome later, post history outcome later → weaker history outcome later) :
    d.Ensures x w weaker :=
  imp _ _ _ h

/-- What holds of a dialogue, and what holds of the job that it is. -/
theorem Ensures.and {d : Dialogue α} {also : Except Failure α → World → Prop}
    (h : d.Ensures x w post) (more : (d.act x).Ensures w also) :
    d.Ensures x w fun history outcome later => post history outcome later ∧ also outcome later :=
  ⟨h, more⟩

theorem ensures_pure {a : α} : Ensures x (pure a) w post ↔ post [] (.ok a) w := .rfl

theorem ensures_ask {c : Call} {post : List Exchange → Except Failure c.Answer → World → Prop} :
    (ask c).Ensures x w post ↔
      (c.act x).Ensures w fun outcome later => post [⟨c, outcome⟩] outcome later := by
  unfold Ensures Act.Ensures
  rw [act_ask, ask, history]
  cases (w.run (c.act x).run).1 <;> rfl

theorem ensures_ofAct {given : Act α} :
    (ofAct given).Ensures x w post ↔ given.Ensures w (post []) := by
  have silent : (ofAct given).history x w = [] := by
    unfold ofAct
    generalize given.run = job
    induction job generalizing w with
    | done outcome => rfl
    | ask op next ih => exact ih _
  unfold Ensures
  rw [act_ofAct, silent]

theorem history_bind (d : Dialogue β) (f : β → Dialogue α) (w : World) :
    (d >>= f).history x w = d.history x w ++
      match (w.run (d.act x).run).1 with
      | .ok b => (f b).history x (w.run (d.act x).run).2
      | .error _ => [] := by
  change (d.bind f).history x w = _
  induction d generalizing w with
  | done outcome => cases outcome <;> rfl
  | own op next ih => exact ih _ _
  | call c next ih =>
    simp only [bind, history, act, ExceptT.run_bind, World.run_bind]
    cases (w.run (c.act x).run).1 with
    | ok answer => exact congrArg _ (ih answer _)
    | error failure => rfl

theorem ensures_bind {d : Dialogue β} {f : β → Dialogue α} :
    (d >>= f).Ensures x w post ↔
      d.Ensures x w fun before outcome later =>
        match outcome with
        | .ok b => (f b).Ensures x later fun after => post (before ++ after)
        | .error failure => post before (.error failure) later := by
  unfold Ensures
  rw [act_bind, history_bind, Act.ensures_bind]
  unfold Act.Ensures
  cases (w.run (d.act x).run).1 with
  | ok b => rfl
  | error failure => rw [List.append_nil]

end

/-! ## What holds of every dialogue -/

/-- What a history records is what the calls do. -/
theorem exists_run_of_mem_history {d : Dialogue α} {w : World} {exchange : Exchange}
    (mem : exchange ∈ d.history x w) :
    ∃ before after, World.run before (exchange.call.act x).run = (exchange.outcome, after) := by
  induction d generalizing w with
  | done outcome => cases mem
  | own op next ih => exact ih _ mem
  | call c next ih =>
    rw [history, List.mem_cons] at mem
    rcases mem with rfl | mem
    · exact ⟨w, _, rfl⟩
    · split at mem
      · exact ih _ mem
      · cases mem

/-- A call that fails is the last one, and fails the dialogue in the same way. -/
theorem last_of_failed {d : Dialogue α} {w : World} {exchange : Exchange} {failure : Failure}
    (mem : exchange ∈ d.history x w) (failed : exchange.Fails failure) :
    (d.history x w).getLast? = some exchange ∧ (w.run (d.act x).run).1 = .error failure := by
  induction d generalizing w with
  | done outcome => cases mem
  | own op next ih => exact ih _ mem
  | call c next ih =>
    rw [act, ExceptT.run_bind, World.run_bind]
    rw [history] at mem ⊢
    cases answered : (w.run (c.act x).run).1 with
    | ok answer =>
      rw [answered] at mem
      rcases List.mem_cons.1 mem with rfl | mem
      · cases failed
      · obtain ⟨last, ended⟩ := ih answer mem
        refine ⟨?_, ended⟩
        dsimp only
        rw [List.getLast?_cons, last]
        rfl
    | error other =>
      rw [answered] at mem
      rw [List.mem_singleton.1 mem] at failed ⊢
      cases failed
      exact ⟨rfl, rfl⟩

end Dialogue

end Splice
