import Splice.Problem
import Splice.Surroundings.Operation

/-!
# Jobs

A job is what the service does for one request: a tree of operations, each followed by what to do
with its answer. Since nothing happens but by operations, a job can be carried out against any
surroundings, alone or one operation at a time among other jobs.

* `Job.bind` puts one job behind another, and jobs form a lawful monad.
* `Act` is a job that may fail; `Act.attempt` and `Act.orElse` look at a failure, `Act.aside` does
  work aside and discards its result if the task is cancelled meanwhile.
-/

namespace Splice

/-- A job with a result. -/
inductive Job (α : Type) where
  | done (a : α)
  | ask (op : Operation) (next : op.Answer → Job α)

namespace Job

variable {α β γ : Type}

/-- One job, and behind it another that depends on its result. -/
def bind : Job α → (α → Job β) → Job β
  | done a, f => f a
  | ask op next, f => ask op fun answer => (next answer).bind f

instance : Monad Job where
  pure := done
  bind := bind

/-- The job of a single operation. -/
def request (op : Operation) : Job op.Answer := ask op done

theorem bind_done (job : Job α) : job.bind done = job := by
  induction job with
  | done a => rfl
  | ask op next ih => exact congrArg (ask op) (funext ih)

theorem bind_assoc (job : Job α) (f : α → Job β) (g : β → Job γ) :
    (job.bind f).bind g = job.bind fun a => (f a).bind g := by
  induction job with
  | done a => rfl
  | ask op next ih => exact congrArg (ask op) (funext ih)

instance : LawfulMonad Job :=
  LawfulMonad.mk' Job
    (fun job => bind_done job)
    (fun _ _ => rfl)
    (fun job f g => bind_assoc job f g)

end Job

/-! ## Jobs that may fail -/

/-- A job that may fail. -/
abbrev Act (α : Type) := ExceptT Failure Job α

/-- The cancellation of the task, as a failure. -/
def Failure.isCancellation : Failure → Bool
  | .fault .cancelled => true
  | _ => false

namespace Act

variable {α : Type}

/-- A job that does not fail. -/
def ofJob (job : Job α) : Act α := ExceptT.mk (Except.ok <$> job)

/-- A single operation that does not fail. -/
def request (op : Operation) : Act op.Answer := ofJob (Job.request op)

/-- The result of something that may be refused by the system. -/
def orRefused : Except SystemError α → Act α
  | .ok a => pure a
  | .error e => throw (.fault (.system e))

/-- The result of something that may be a problem. -/
def orProblem : Except Problem α → Act α
  | .ok a => pure a
  | .error p => throw (.problem p)

/-- The result of something that may fail. -/
def orFailure : Except Failure α → Act α
  | .ok a => pure a
  | .error e => throw e

/-- The outcome of a job, looked at. -/
def attempt (act : Act α) : Act (Except Failure α) := ofJob act.run

/-- Stops if the task was cancelled. -/
def stopIf (cancelled : Bool) : Act Unit :=
  if cancelled then throw (.fault .cancelled) else pure ()

/-- A job done aside while the task waits for it. If the task is cancelled meanwhile, the job is
done all the same and its outcome is lost. -/
def aside (act : Act α) : Act α := do
  let outcome ← act.attempt
  stopIf (← request .await)
  orFailure outcome

end Act

end Splice
