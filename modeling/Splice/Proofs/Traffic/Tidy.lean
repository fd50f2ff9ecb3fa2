import Splice.Proofs.Traffic.Operations

/-!
# Tidy jobs

A job is *tidy* if all its operations are private to whoever was given the ids that it was given
itself (`Job.Tidy`). So a tidy job never looks at a file of anybody else, whatever it is answered.
That a job is tidy is put together from its parts (`Act.tidy_bind`), with what is known of its
result and of the ids given by then.
-/

namespace Splice

variable {α β : Type} {s : Storage} {ids : List Nat}

/-- An operation that is about no files is private to everybody. -/
theorem Operation.Private.of_paths_eq_nil {op : Operation} (narrow : ¬ op.IsWide)
    (none : op.paths = []) : op.Private s ids :=
  ⟨narrow, by simp [none]⟩

/-- An operation that is about one file is private to those whose path it is. -/
theorem Operation.Private.of_path {op : Operation} {path : String} (narrow : ¬ op.IsWide)
    (single : op.paths = [path]) (owned : s.Owned ids path) : op.Private s ids :=
  ⟨narrow, by simpa [single] using owned⟩

namespace Job

/-- Whether all operations of a job that was given some ids are private to it, and what holds of the
ids and the result in the end. -/
def Tidy (s : Storage) (post : List Nat → α → Prop) : List Nat → Job α → Prop
  | ids, done a => post ids a
  | ids, ask op next => op.Private s ids ∧
      ∀ given answer, op.Answers given answer → (next answer).Tidy s post (op.gives given ++ ids)

variable {post weaker : List Nat → α → Prop}

theorem Tidy.mono {job : Job α} (h : job.Tidy s post ids)
    (imp : ∀ more a, ids ⊆ more → post more a → weaker more a) : job.Tidy s weaker ids := by
  induction job generalizing ids with
  | done a => exact imp ids a (List.Subset.refl ids) h
  | ask op next ih =>
    refine ⟨h.1, fun given answer answers => ih answer (h.2 given answer answers) ?_⟩
    exact fun more a sub => imp more a fun n mem => sub (List.mem_append_right _ mem)

theorem Tidy.bind {post : List Nat → β → Prop} {job : Job α} {f : α → Job β}
    (h : job.Tidy s (fun more a => (f a).Tidy s post more) ids) : (job.bind f).Tidy s post ids := by
  induction job generalizing ids with
  | done a => exact h
  | ask op next ih => exact ⟨h.1, fun given answer answers => ih answer (h.2 given answer answers)⟩

end Job

namespace Act

/-- Whether all operations of an act are private to it, and what holds of the ids and the result if
it does not fail. -/
def Tidy (act : Act α) (s : Storage) (ids : List Nat) (post : List Nat → α → Prop) : Prop :=
  Job.Tidy s (fun more outcome => ∀ a, outcome = .ok a → post more a) ids act.run

variable {post weaker : List Nat → α → Prop}

theorem Tidy.mono {act : Act α} (h : act.Tidy s ids post)
    (imp : ∀ more a, ids ⊆ more → post more a → weaker more a) : act.Tidy s ids weaker :=
  Job.Tidy.mono h fun more _ sub holds a same => imp more a sub (holds a same)

theorem tidy_pure {a : α} (h : post ids a) : Tidy (pure a) s ids post := by
  rintro _ ⟨⟩
  exact h

theorem tidy_throw (failure : Failure) : Tidy (throw failure) s ids post := nofun

theorem tidy_bind {before : List Nat → β → Prop} {act : Act β} {f : β → Act α}
    (h : act.Tidy s ids before)
    (next : ∀ more b, ids ⊆ more → before more b → (f b).Tidy s more post) :
    (act >>= f).Tidy s ids post := by
  unfold Tidy
  rw [ExceptT.run_bind]
  refine Job.Tidy.bind (Job.Tidy.mono h fun more outcome sub holds => ?_)
  cases outcome with
  | ok b => exact next more b sub (holds b rfl)
  | error failure => exact fun _ => nofun

/-- One operation, and behind it what depends on its answer. -/
theorem tidy_ask {op : Operation} {f : op.Answer → Act α} (priv : op.Private s ids)
    (next : ∀ given answer, op.Answers given answer →
      (f answer).Tidy s (op.gives given ++ ids) post) :
    (request op >>= f).Tidy s ids post :=
  ⟨priv, next⟩

theorem tidy_request {op : Operation} {post : List Nat → op.Answer → Prop}
    (priv : op.Private s ids)
    (h : ∀ given answer, op.Answers given answer → post (op.gives given ++ ids) answer) :
    (request op).Tidy s ids post := by
  rw [← bind_pure (request op)]
  exact tidy_ask priv fun given answer answers => tidy_pure (h given answer answers)

theorem tidy_attempt {act : Act α} (h : act.Tidy s ids post) :
    act.attempt.Tidy s ids fun more outcome => ∀ a, outcome = .ok a → post more a := by
  refine Job.Tidy.bind (Job.Tidy.mono h fun more outcome _ holds => ?_)
  rintro _ ⟨⟩
  exact holds

theorem tidy_orFailure {outcome : Except Failure α} (h : ∀ a, outcome = .ok a → post ids a) :
    (orFailure outcome).Tidy s ids post := by
  cases outcome with
  | ok a => exact tidy_pure (h a rfl)
  | error failure => exact tidy_throw failure

theorem tidy_orFailure_any (outcome : Except Failure α) :
    (orFailure outcome).Tidy s ids fun _ _ => True :=
  tidy_orFailure fun _ _ => trivial

theorem tidy_orProblem (result : Except Problem α) :
    (orProblem result).Tidy s ids fun _ _ => True := by
  cases result with
  | ok a => exact tidy_pure trivial
  | error problem => exact tidy_throw _

theorem tidy_orRefused (result : Except SystemError α) :
    (orRefused result).Tidy s ids fun _ _ => True := by
  cases result with
  | ok a => exact tidy_pure trivial
  | error error => exact tidy_throw _

/-- Work aside is tidy if the work is. -/
theorem tidy_aside {act : Act α} (h : act.Tidy s ids post) : act.aside.Tidy s ids post :=
  tidy_bind (tidy_attempt h) fun more outcome sub holds =>
    tidy_ask (.of_paths_eq_nil id rfl) fun given stopped _ => by
      cases stopped with
      | true => exact tidy_throw _
      | false => exact tidy_orFailure holds

end Act

end Splice
