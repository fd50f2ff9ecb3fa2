import Splice.Proofs.Surroundings.Disk
import Splice.Surroundings.World

/-!
# What a job ensures

`Act.Ensures` says what holds of the outcome of a job and of the world behind it. It is taken apart
along the parts of the job, so that a statement about a job is put together from statements about
the jobs that it is made of (`Act.Ensures.mono`, `Act.ensures_bind`).

`World.Since` is what a world has kept of an earlier one when only ids were given out and files were
changed in between; `World.awaits` is how often a job may still wait before it is cancelled.
-/

namespace Splice

namespace Act

variable {α β : Type}

/-- What holds of the outcome of a job and of the world behind it. -/
def Ensures (act : Act α) (w : World) (post : Except Failure α → World → Prop) : Prop :=
  post (w.run act.run).1 (w.run act.run).2

section

variable {w : World} {post weaker : Except Failure α → World → Prop}

theorem Ensures.mono {act : Act α} (h : act.Ensures w post)
    (imp : ∀ outcome later, post outcome later → weaker outcome later) : act.Ensures w weaker :=
  imp _ _ h

theorem ensures_run {act : Act α} :
    act.Ensures w fun outcome later => w.run act.run = (outcome, later) := rfl

theorem Ensures.with_run {act : Act α} (h : act.Ensures w post) :
    act.Ensures w fun outcome later => post outcome later ∧ w.run act.run = (outcome, later) :=
  ⟨h, rfl⟩

theorem Ensures.and {act : Act α} {other : Except Failure α → World → Prop}
    (h : act.Ensures w post) (h' : act.Ensures w other) :
    act.Ensures w fun outcome later => post outcome later ∧ other outcome later :=
  ⟨h, h'⟩

theorem ensures_pure {a : α} : Ensures (pure a) w post ↔ post (.ok a) w := .rfl

theorem ensures_throw {e : Failure} : Ensures (throw e) w post ↔ post (.error e) w := .rfl

theorem ensures_bind {act : Act β} {f : β → Act α} :
    (act >>= f).Ensures w post ↔
      act.Ensures w fun outcome later =>
        match outcome with
        | .ok b => (f b).Ensures later post
        | .error e => post (.error e) later := by
  unfold Ensures
  rw [ExceptT.run_bind, World.run_bind]
  cases (w.run act.run).1 <;> rfl

/-- What holds of the world behind a job holds behind a continuation that asks for nothing. -/
theorem ensures_bind_of_silent {act : Act β} {f : β → Act α} {post : World → Prop}
    (silent : ∀ b (w : World), (w.run (f b).run).2 = w)
    (h : act.Ensures w fun _ later => post later) :
    (act >>= f).Ensures w fun _ later => post later := by
  rw [ensures_bind]
  refine h.mono fun outcome later holds => ?_
  cases outcome with
  | ok b =>
    show post (later.run (f b).run).2
    rwa [silent]
  | error failure => exact holds

theorem ensures_request {op : Operation} {post : Except Failure op.Answer → World → Prop} :
    (request op).Ensures w post ↔ post (.ok (w.perform op).1) (w.perform op).2 := .rfl

theorem run_attempt (act : Act α) (w : World) :
    w.run act.attempt.run = (.ok (w.run act.run).1, (w.run act.run).2) := by
  unfold attempt ofJob
  rw [ExceptT.run_mk, map_eq_pure_bind, World.run_bind]
  rfl

theorem ensures_attempt {act : Act α} {post : Except Failure (Except Failure α) → World → Prop} :
    act.attempt.Ensures w post ↔ act.Ensures w fun outcome later => post (.ok outcome) later := by
  unfold Ensures
  rw [run_attempt]

theorem ensures_orFailure {outcome : Except Failure α} :
    (orFailure outcome).Ensures w post ↔ post outcome w := by
  cases outcome <;> rfl

theorem ensures_orProblem {result : Except Problem α} :
    (orProblem result).Ensures w post ↔ post (result.mapError .problem) w := by
  cases result <;> rfl

/-- Work aside is done in any case; a cancellation meanwhile takes the place of its outcome. -/
theorem run_aside (act : Act α) (w : World) :
    w.run act.aside.run =
      (if (w.run act.run).2.await.1 then .error (.fault .cancelled) else (w.run act.run).1,
        (w.run act.run).2.await.2) := by
  have behind (later : World) (outcome : Except Failure α) :
      later.run (ExceptT.run (do stopIf (← request .await); orFailure outcome)) =
        (if later.await.1 then .error (.fault .cancelled) else outcome, later.await.2) := by
    show later.await.2.run (ExceptT.run (do stopIf later.await.1; orFailure outcome)) = _
    cases later.await.1 with
    | true => rfl
    | false => cases outcome <;> rfl
  unfold aside
  rw [ExceptT.run_bind, World.run_bind, run_attempt]
  exact behind _ _

theorem ensures_aside {act : Act α} :
    act.aside.Ensures w post ↔
      act.Ensures w fun outcome later =>
        post (if later.await.1 then .error (.fault .cancelled) else outcome) later.await.2 := by
  unfold Ensures
  rw [run_aside]

end

end Act

/-! ## What a job failed with -/

namespace Act

/-- The problem with which a job failed, if it failed with one. -/
def problem? {α : Type} : Except Failure α → Option Problem
  | .error (.problem p) => some p
  | _ => none

theorem problem?_eq_some_iff {α : Type} {outcome : Except Failure α} {p : Problem} :
    problem? outcome = some p ↔ outcome = .error (.problem p) := by
  unfold problem?
  split <;> simp_all

/-- The refusal of the system with which a job failed, if it failed with one. -/
def refusal? {α : Type} : Except Failure α → Option SystemError
  | .error (.fault (.system error)) => some error
  | _ => none

theorem refusal?_eq_some_iff {α : Type} {outcome : Except Failure α} {error : SystemError} :
    refusal? outcome = some error ↔ outcome = .error (.fault (.system error)) := by
  unfold refusal?
  split <;> simp_all

end Act

/-! ## What a world keeps -/

namespace World

/-- What a world has kept of an earlier one when a number of ids were given out and files were
changed in between. -/
structure Since (given : Nat) (w later : World) : Prop where
  clock : later.shared.clock = w.shared.clock
  given : later.shared.idsGiven = w.shared.idsGiven + given
  engine : later.own.engine = w.own.engine

theorem Since.refl (w : World) : Since 0 w w := ⟨rfl, rfl, rfl⟩

theorem Since.trans {m n : Nat} {w between later : World} (first : Since m w between)
    (second : Since n between later) : Since (m + n) w later :=
  ⟨second.clock.trans first.clock, by rw [second.given, first.given, Nat.add_assoc],
    second.engine.trans first.engine⟩

/-- After how many waits a job is cancelled, if it is cancelled in one. -/
def awaits (w : World) : Option Nat :=
  match w.own.interruption with
  | .afterAwaits n => some n
  | _ => none

theorem since_await (w : World) : Since 0 w w.await.2 := by
  unfold await
  split <;> exact ⟨rfl, rfl, rfl⟩

theorem shared_await (w : World) : w.await.2.shared = w.shared := by
  unfold await
  split <;> rfl

theorem awaits_of_cancelled {w : World} (cancelled : w.await.1 = true) : w.awaits = some 0 := by
  unfold await at cancelled
  unfold awaits
  cases found : w.own.interruption with
  | afterAwaits n => cases n <;> simp_all
  | never => simp [found] at cancelled
  | afterSleeps n => simp [found] at cancelled
  | afterWrites n => simp [found] at cancelled

theorem awaits_of_not_cancelled {w : World} {n : Nat} (going : w.await.1 = false)
    (h : w.await.2.awaits = some n) : w.awaits = some (n + 1) := by
  unfold await at going h
  unfold awaits at h ⊢
  cases found : w.own.interruption with
  | afterAwaits n => cases n <;> simp_all [interrupted]
  | never => simp [found] at h
  | afterSleeps n => simp [found] at h
  | afterWrites n => simp [found] at h

theorem await_of_awaits_eq_none {w : World} (calm : w.awaits = none) : w.await = (false, w) := by
  unfold awaits at calm
  unfold await
  cases found : w.own.interruption with
  | afterAwaits n => simp [found] at calm
  | never => rfl
  | afterSleeps n => rfl
  | afterWrites n => rfl

/-! ## What an operation does to its world -/

section

variable {P : World → Prop} (disk : ∀ w disk, P w → P (w.withDisk disk))
include disk

theorem changing_induction {w : World} (start : P w) (path : String)
    (change : Except SystemErrorKind Disk) : P (w.changing path change).2 := by
  cases change with
  | error kind => exact start
  | ok changed => exact disk w changed start

theorem written_induction {w : World} (start : P w) (output : String) (content : Option Bytes) :
    P (w.written output content).2 := by
  cases content with
  | none => exact start
  | some bytes => exact changing_induction disk start output _

/-- What holds of a world holds behind an operation, if it is kept when the disk is changed, when
something is put on record or in the way of the job, when time passes, and, by an operation that asks
for an id, when one is given out. -/
theorem perform_induction (noting : ∀ w event, P w → P (w.noting event))
    (interrupted : ∀ w interruption, P w → P (w.interrupted interruption))
    (later : ∀ w seconds, P w → P (w.later seconds)) {w : World} {op : Operation} (start : P w)
    (given : op = .freshId →
      P { w with shared := { w.shared with idsGiven := w.shared.idsGiven + 1 } }) :
    P (w.perform op).2 := by
  cases op with
  | freshId => exact given rfl
  | create path | remove path => exact changing_induction disk start path _
  | append path content =>
    show P (w.append path content).2
    unfold append
    dsimp only
    split
    · exact start
    · exact interrupted _ _ (disk w _ start)
    · exact disk w _ start
  | copy source target =>
    show P (w.copy source target).2
    unfold copy
    split
    · exact start
    · exact changing_induction disk start target _
  | makeDirectories path => exact disk w _ start
  | await =>
    show P w.await.2
    unfold await
    split
    · exact interrupted w _ start
    · exact interrupted w _ start
    · exact start
  | sleep seconds =>
    have noted := noting w (.slept seconds) start
    show P (w.sleep seconds).2
    unfold sleep
    dsimp only
    split
    · exact interrupted _ _ noted
    · exact later _ _ (interrupted _ _ noted)
    · exact later _ _ noted
  | call errand argv =>
    have noted := noting w (.called errand argv) start
    show P (w.call errand argv).2
    unfold call
    dsimp only
    split
    · exact noted
    · exact noted
    · split
      · exact noted
      · exact written_induction disk noted _ _
  | start argv output =>
    have noted := noting w (.started argv) start
    show P (w.start argv output).2
    unfold World.start
    dsimp only
    split
    · exact noted
    · exact written_induction disk noted _ _
  | report percent => exact noting w _ start
  | signal signal => exact noting w _ start
  | _ => exact start

end

end World

end Splice
