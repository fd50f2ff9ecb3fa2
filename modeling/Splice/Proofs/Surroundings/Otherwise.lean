import Splice.Surroundings.World

/-!
# Jobs in other surroundings

A world answers the operations of a job in one way. `Job.runIn` carries a job out in surroundings of
any kind, given by what they answer and by the state that they are in afterwards; in those of a world
it is `World.run` (`Job.runIn_perform`). `Act.EnsuresIn` says what holds of the outcome and of the
state behind it, and is taken apart along the parts of the job; `Act.NeverFails` is that the job comes
to a result in any surroundings.
-/

namespace Splice

/-- Surroundings with a state: the answer to an operation, and the state behind it. -/
abbrev Surroundings (σ : Type) := σ → (op : Operation) → op.Answer × σ

namespace Job

variable {σ α β : Type} {answers : Surroundings σ}

/-- A whole job in some surroundings. -/
def runIn (answers : Surroundings σ) (s : σ) : Job α → α × σ
  | .done a => (a, s)
  | .ask op next => (next (answers s op).1).runIn answers (answers s op).2

theorem runIn_perform (w : World) (job : Job α) : job.runIn World.perform w = w.run job := by
  induction job generalizing w with
  | done a => rfl
  | ask op next ih => exact ih _ _

theorem runIn_bind (s : σ) (job : Job α) (f : α → Job β) :
    (job >>= f).runIn answers s = (f (job.runIn answers s).1).runIn answers (job.runIn answers s).2 := by
  induction job generalizing s with
  | done a => rfl
  | ask op next ih => exact ih _ _

end Job

namespace Act

variable {σ α β : Type} {answers : Surroundings σ} {s : σ}
  {post weaker : Except Failure α → σ → Prop}

/-- What holds of the outcome of a job in some surroundings, and of the state behind it. -/
def EnsuresIn (answers : Surroundings σ) (act : Act α) (s : σ)
    (post : Except Failure α → σ → Prop) : Prop :=
  post (act.run.runIn answers s).1 (act.run.runIn answers s).2

theorem EnsuresIn.mono {act : Act α} (h : act.EnsuresIn answers s post)
    (imp : ∀ outcome later, post outcome later → weaker outcome later) :
    act.EnsuresIn answers s weaker :=
  imp _ _ h

theorem ensuresIn_pure {a : α} : EnsuresIn answers (pure a) s post ↔ post (.ok a) s := .rfl

theorem ensuresIn_bind {act : Act β} {f : β → Act α} :
    (act >>= f).EnsuresIn answers s post ↔
      act.EnsuresIn answers s fun outcome later =>
        match outcome with
        | .ok b => (f b).EnsuresIn answers later post
        | .error e => post (.error e) later := by
  unfold EnsuresIn
  rw [ExceptT.run_bind, Job.runIn_bind]
  cases (act.run.runIn answers s).1 <;> rfl

theorem ensuresIn_request {op : Operation} {post : Except Failure op.Answer → σ → Prop} :
    (request op).EnsuresIn answers s post ↔ post (.ok (answers s op).1) (answers s op).2 := .rfl

/-- Whether a job comes to a result, whatever it is told. -/
def NeverFails (act : Act α) : Prop :=
  ∀ (σ : Type) (answers : Surroundings σ) (s : σ),
    act.EnsuresIn answers s fun outcome _ => ∃ a, outcome = .ok a

theorem neverFails_pure (a : α) : NeverFails (pure a) := fun _ _ _ => ⟨a, rfl⟩

theorem neverFails_request (op : Operation) : (request op).NeverFails := fun _ _ _ => ⟨_, rfl⟩

theorem NeverFails.bind {act : Act β} {f : β → Act α} (h : act.NeverFails)
    (next : ∀ b, (f b).NeverFails) : (act >>= f).NeverFails := by
  intro σ answers s
  rw [ensuresIn_bind]
  refine (h σ answers s).mono fun outcome later result => ?_
  obtain ⟨b, rfl⟩ := result
  exact next b σ answers later

end Act

end Splice
