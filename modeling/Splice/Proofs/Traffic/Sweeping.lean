import Splice.Storage.Sweep

/-!
# What a sweep removes

A sweep removes a file only right after it was told that this very file was last modified too long
before its time (`Storage.sweeps_sweep`). What a job of that kind may do is `Job.Sweeps`: the path
that was found to be too old is remembered up to the next operation only.
-/

namespace Splice

variable {α β : Type} {maxAge now : Float}

/-- Whether a job only looks at files, at most after asking once for its time, and removes only what
it was just told to be older than some seconds at that time. -/
def Job.Sweeps (maxAge : Float) : Option Float → Option String → Job α → Prop
  | _, _, .done _ => True
  | none, _, .ask .now next => ∀ time, (next time).Sweeps maxAge (some time) none
  | some now, _, .ask (.names _) next => ∀ answer, (next answer).Sweeps maxAge (some now) none
  | some now, _, .ask (.isFile _) next => ∀ answer, (next answer).Sweeps maxAge (some now) none
  | some now, _, .ask (.modified path) next =>
    (∀ error, (next (.error error)).Sweeps maxAge (some now) none) ∧
      ∀ time : Float, (next (.ok time)).Sweeps maxAge (some now)
        (if maxAge < now - time then some path else none)
  | some now, found, .ask (.remove path) next =>
    found = some path ∧ ∀ answer, (next answer).Sweeps maxAge (some now) none
  | _, _, .ask _ _ => False

namespace Job

theorem Sweeps.bind {job : Job α} {f : α → Job β} {found : Option String}
    (h : job.Sweeps maxAge (some now) found)
    (next : ∀ a found, (f a).Sweeps maxAge (some now) found) :
    (job.bind f).Sweeps maxAge (some now) found := by
  induction job generalizing found with
  | done a => exact next a found
  | ask op rest ih =>
    cases op with
    | names directory => exact fun answer => ih answer (h answer)
    | isFile path => exact fun answer => ih answer (h answer)
    | modified path =>
      exact ⟨fun error => ih _ (h.1 error), fun time => ih _ (h.2 time)⟩
    | remove path => exact ⟨h.1, fun answer => ih answer (h.2 answer)⟩
    | _ => exact h.elim

end Job

namespace Act

/-- Whether an act sweeps at a time, whatever was found before. -/
def Sweeps (act : Act α) (maxAge now : Float) : Prop :=
  ∀ found, act.run.Sweeps maxAge (some now) found

theorem sweeps_pure (a : α) : Sweeps (pure a) maxAge now := fun _ => trivial

theorem sweeps_bind {act : Act β} {f : β → Act α} (h : act.Sweeps maxAge now)
    (next : ∀ b, (f b).Sweeps maxAge now) : (act >>= f).Sweeps maxAge now := by
  intro found
  rw [ExceptT.run_bind]
  refine Job.Sweeps.bind (h found) fun outcome => ?_
  cases outcome with
  | ok b => exact next b
  | error failure => exact fun _ => trivial

end Act

namespace Storage

theorem sweeps_sweepFile (path : String) : (sweepFile maxAge now path).Sweeps maxAge now := by
  intro found there
  cases there with
  | false => trivial
  | true =>
    refine ⟨fun error => trivial, fun time => ?_⟩
    show Job.Sweeps maxAge (some now) _ (ExceptT.run (if maxAge < now - time then do
      return if (← Act.request (.remove path)).isOk then 1 else 0 else pure 0))
    split
    · exact ⟨rfl, fun answer => trivial⟩
    · trivial

theorem sweeps_sweepNames (directory : String) (removed : Nat) (names : List String) :
    (sweepNames maxAge now directory removed names).Sweeps maxAge now := by
  induction names generalizing removed with
  | nil => exact Act.sweeps_pure removed
  | cons name rest ih => exact Act.sweeps_bind (sweeps_sweepFile _) fun more => ih _

theorem sweeps_sweepDirectory (directory : String) :
    (sweepDirectory maxAge now directory).Sweeps maxAge now := by
  intro found listing
  cases listing with
  | error error => trivial
  | ok names => exact sweeps_sweepNames directory 0 names none

/-- A sweep removes nothing but what it just found to be too old. -/
theorem sweeps_sweep (s : Storage) (maxAge now : Option Float) :
    (s.sweep maxAge now).run.Sweeps (maxAge.getD s.retention) now none := by
  have both (time : Float) : Act.Sweeps (do
      let uploads ← sweepDirectory (maxAge.getD s.retention) time s.uploadDir
      let results ← sweepDirectory (maxAge.getD s.retention) time s.outputDir
      return uploads + results) (maxAge.getD s.retention) time :=
    Act.sweeps_bind (sweeps_sweepDirectory _) fun _ =>
      Act.sweeps_bind (sweeps_sweepDirectory _) fun _ => Act.sweeps_pure _
  cases now with
  | some time => exact both time none
  | none => exact fun time => both time none

end Storage

end Splice
