import Mathlib.Data.List.Infix
import Splice.Proofs.Traffic.Services
import Splice.Proofs.Traffic.Sweeping

/-!
# Traffic

Many requests are served at a time, and sweeps go on beside them. In a *traffic* (`Traffic`) every
one of them has its own world and what is left of its job; all have the rest of the world in common.
A turn is a single operation of one of them, the arrival of another, or some time that passes
(`Traffic.step`), and any list of turns is a way in which they can take place among each other
(`Traffic.run`).

A request can be carried out alone as well, each of its operations at a moment of its own
(`World.runAt`); for some moments that is just the run of its job (`World.exists_runAt_eq_run`).
-/

namespace Splice

/-! ## A job alone -/

/-- What an operation finds besides the disk: the time, and how many ids were given out. -/
structure Moment where
  clock : Float
  idsGiven : Nat

/-- The moment at which a shared world is. -/
def SharedWorld.moment (shared : SharedWorld) : Moment := ⟨shared.clock, shared.idsGiven⟩

namespace World

variable {α : Type}

/-- The world at another moment. -/
def moved (w : World) (moment : Moment) : World :=
  { w with shared := { w.shared with clock := moment.clock, idsGiven := moment.idsGiven } }

/-- A job alone, with one operation at each of some moments: what is left of it, and the world
behind it. -/
def runAt (w : World) : List Moment → Job α → Job α × World
  | [], job => (job, w)
  | _ :: _, .done a => (.done a, w)
  | moment :: rest, .ask op next =>
    let (answer, w) := (w.moved moment).perform op
    w.runAt rest (next answer)

theorem runAt_done (w : World) (moments : List Moment) (a : α) :
    w.runAt moments (.done a) = (.done a, w) := by
  cases moments <;> rfl

theorem runAt_append (w : World) (before after : List Moment) (job : Job α) :
    w.runAt (before ++ after) job =
      (w.runAt before job).2.runAt after (w.runAt before job).1 := by
  induction before generalizing w job with
  | nil => rfl
  | cons moment rest ih =>
    cases job with
    | done a => exact (runAt_done w _ a).trans (runAt_done w _ a).symm
    | ask op next => exact ih _ _

/-- One more moment is one more operation. -/
theorem runAt_concat {w v : World} {moments : List Moment} {job : Job α} {op : Operation}
    {next : op.Answer → Job α} (h : w.runAt moments job = (.ask op next, v)) (moment : Moment) :
    w.runAt (moments ++ [moment]) job =
      (next ((v.moved moment).perform op).1, ((v.moved moment).perform op).2) := by
  rw [runAt_append, h]
  rfl

/-- If nothing happens between the operations of a job, it is just run. -/
theorem exists_runAt_eq_run (w : World) (job : Job α) :
    ∃ moments, w.runAt moments job = (.done (w.run job).1, (w.run job).2) := by
  induction job generalizing w with
  | done a => exact ⟨[], rfl⟩
  | ask op next ih =>
    obtain ⟨moments, runs⟩ := ih (w.perform op).1 (w.perform op).2
    exact ⟨w.shared.moment :: moments, runs⟩

end World

/-! ## Requests -/

/-- What is asked for. -/
inductive Order
  | exportForm (uploads : List Upload) (form : ExportForm) (attendance : Attendance)
  | simpleExport (uploads : List Upload)
  | combine (uploads : List Upload)
  | upload (uploads : List Upload)

/-- What comes of an order: files that were stored, a result, or a result that was sent. -/
inductive Yield
  | stored (files : List StoredFile)
  | made (result : ExportResult)
  | sent (result : ExportResult) (content : Bytes)

/-- The paths that are named in what came of an order. -/
def Yield.paths : Yield → List String
  | stored files => files.map StoredFile.path
  | made result | sent result _ => result.path :: result.cleanupPaths

namespace Order

/-- Sends a result, and removes its files when they have outlived that. If it cannot be read nothing
is removed. -/
def send (s : Storage) (result : ExportResult) : Act Yield := do
  let content ← Act.orRefused (← Act.request (.read result.path))
  let _ ← (s.deleteLater result.cleanupPaths none).attempt
  return .sent result content

/-- Hands over a result, or sends it. -/
def handOver (s : Storage) (sends : Bool) (result : ExportResult) : Act Yield :=
  if sends then send s result else pure (.made result)

/-- The work on an order. -/
def work (x : ExportService) (sends : Bool) : Order → Act Yield
  | exportForm uploads form attendance =>
    x.exportForm uploads form attendance >>= handOver x.storage sends
  | simpleExport uploads => x.simpleExport uploads >>= handOver x.storage sends
  | combine uploads => x.combine uploads >>= handOver x.storage sends
  | upload uploads => .stored <$> x.storage.storeAll "media" uploads

variable {x : ExportService} {ids : List Nat}

theorem tidy_handOver (sends : Bool) {result : ExportResult} (own : x.Owns ids result) :
    (handOver x.storage sends result).Tidy x.storage ids fun more yield =>
      ∀ path ∈ yield.paths, x.storage.Owned more path := by
  unfold handOver
  split
  · refine Act.tidy_ask (.of_path id rfl (own _ List.mem_cons_self)) fun given content _ => ?_
    refine Act.tidy_bind (Act.tidy_orRefused content) fun more bytes sub _ => ?_
    refine Act.tidy_bind (Act.tidy_attempt (Storage.tidy_deleteLater
      (fun path mem => (own path (List.mem_cons_of_mem _ mem)).mono fun _ mem => sub mem) none))
      fun more' _ sub' _ => Act.tidy_pure ?_
    exact fun path mem => (own path mem).mono fun _ mem => sub' (sub mem)
  · exact Act.tidy_pure own

/-- The work on an order is tidy. -/
theorem tidy_work {e : Engine} (driven : x.engine = e.access) (sends : Bool) (order : Order) :
    (order.work x sends).Tidy x.storage ids fun more yield =>
      ∀ path ∈ yield.paths, x.storage.Owned more path := by
  cases order with
  | exportForm uploads form attendance =>
    exact Act.tidy_bind (ExportService.tidy_exportForm driven uploads form attendance)
      fun _ _ _ own => tidy_handOver sends own
  | simpleExport uploads =>
    exact Act.tidy_bind (ExportService.tidy_simpleExport uploads)
      fun _ _ _ own => tidy_handOver sends own
  | combine uploads =>
    exact Act.tidy_bind (ExportService.tidy_combine driven uploads)
      fun _ _ _ own => tidy_handOver sends own
  | upload uploads =>
    rw [work, ← bind_pure_comp]
    exact Act.tidy_bind (Storage.tidy_storeAll (by decide) uploads) fun _ files _ own =>
      Act.tidy_pure (List.forall_mem_map.2 own)

end Order

/-- A request that is served: what it asks for, its own world at its arrival and now, the ids that
were given to it, the moments of its operations, and what is left of its job. -/
structure Serving where
  order : Order
  sends : Bool
  first : OwnWorld
  own : OwnWorld
  ids : List Nat
  moments : List Moment
  job : Job (Except Failure Yield)

namespace Serving

/-- A request that arrives. -/
def arriving (x : ExportService) (order : Order) (sends : Bool) (own : OwnWorld) : Serving :=
  ⟨order, sends, own, own, [], [], (order.work x sends).run⟩

/-- Whether a request is finished. -/
def Finished (r : Serving) : Prop := ∃ outcome, r.job = .done outcome

instance (r : Serving) : Decidable r.Finished :=
  match job : r.job with
  | .done outcome => .isTrue ⟨outcome, job⟩
  | .ask _ _ => .isFalse fun ⟨_, done⟩ => by cases job.symm.trans done

/-- A request after its next operation, and what it then shares with all others. -/
def step (r : Serving) (shared : SharedWorld) : Serving × SharedWorld :=
  match r.job with
  | .done _ => (r, shared)
  | .ask op next =>
    let (answer, w) := World.perform ⟨shared, r.own⟩ op
    ({ r with
      own := w.own
      ids := op.gives shared.idsGiven ++ r.ids
      moments := r.moments ++ [shared.moment]
      job := next answer }, w.shared)

end Serving

/-! ## Sweeps -/

/-- A sweep that goes on: how old files may be for it, its time as soon as it has one, its own
world, and what is left of its job. -/
structure Sweeping where
  maxAge : Float
  now : Option Float
  own : OwnWorld
  job : Job (Except Failure Nat)

namespace Sweeping

/-- A sweep that starts. -/
def starting (s : Storage) (maxAge now : Option Float) (own : OwnWorld) : Sweeping :=
  ⟨maxAge.getD s.retention, now, own, (s.sweep maxAge now).run⟩

/-- The time of a sweep behind an operation. -/
def nowAfter (now : Option Float) (clock : Float) : Operation → Option Float
  | .now => some clock
  | _ => now

/-- A sweep after its next operation, and what it then shares with all others. -/
def step (s : Sweeping) (shared : SharedWorld) : Sweeping × SharedWorld :=
  match s.job with
  | .done _ => (s, shared)
  | .ask op next =>
    let (answer, w) := World.perform ⟨shared, s.own⟩ op
    ({ s with
      now := nowAfter s.now shared.clock op
      own := w.own
      job := next answer }, w.shared)

end Sweeping

/-! ## Traffic -/

/-- When a file was last modified. -/
def Node.modified? : Node → Option Timestamp
  | directory => none
  | file _ modified => some modified

theorem Table.mem_of_get? {κ α : Type} [DecidableEq κ] {t : Table κ α} {key : κ} {value : α}
    (found : t.get? key = some value) : (key, value) ∈ t := by
  obtain ⟨⟨other, _⟩, first, rfl⟩ := Option.map_eq_some_iff.1 found
  have same : other = key := by simpa using List.find?_some first
  exact same ▸ List.mem_of_find?_eq_some first

/-- All requests and sweeps, and what they share. -/
structure Traffic where
  shared : SharedWorld
  requests : List Serving
  sweeps : List Sweeping

/-- What can happen next. -/
inductive Turn
  | arrive (order : Order) (sends : Bool) (own : OwnWorld)
  | serve (i : Nat)
  | startSweep (maxAge now : Option Float) (own : OwnWorld)
  | sweep (k : Nat)
  | pass (clock : Float)

namespace Traffic

/-- A world in which nothing goes on yet. -/
def quiet (shared : SharedWorld) : Traffic := ⟨shared, [], []⟩

/-- What happens in a turn. The turn of a request or a sweep that is not there, or is at its end,
passes. -/
def step (x : ExportService) (t : Traffic) : Turn → Traffic
  | .arrive order sends own =>
    { t with requests := t.requests ++ [Serving.arriving x order sends own] }
  | .serve i =>
    match t.requests[i]? with
    | none => t
    | some r =>
      { t with shared := (r.step t.shared).2, requests := t.requests.set i (r.step t.shared).1 }
  | .startSweep maxAge now own =>
    { t with sweeps := t.sweeps ++ [Sweeping.starting x.storage maxAge now own] }
  | .sweep k =>
    match t.sweeps[k]? with
    | none => t
    | some s =>
      { t with shared := (s.step t.shared).2, sweeps := t.sweeps.set k (s.step t.shared).1 }
  | .pass clock => { t with shared := { t.shared with clock } }

/-- What happens in some turns. -/
def run (x : ExportService) (t : Traffic) (turns : List Turn) : Traffic := turns.foldl (step x) t

theorem run_concat (x : ExportService) (t : Traffic) (turns : List Turn) (turn : Turn) :
    t.run x (turns ++ [turn]) = (t.run x turns).step x turn :=
  List.foldl_concat ..

/-- Whether a turn is allowed: a sweep may go on only while no file of a request that is not
finished is too old for it. -/
def Allows (t : Traffic) : Turn → Prop
  | .sweep k =>
    ∀ s, t.sweeps[k]? = some s → ∀ now ∈ s.now, ∀ r ∈ t.requests, ¬ r.Finished →
      ∀ p content modified, Storage.Mine r.ids p →
        t.shared.disk.at? p = some (.file content modified) → ¬ s.maxAge < now - modified.seconds
  | _ => True

/-- Whether each of some turns is allowed when it is taken. -/
def AllowsEach (x : ExportService) : Traffic → List Turn → Prop
  | _, [] => True
  | t, turn :: rest => t.Allows turn ∧ (t.step x turn).AllowsEach x rest

theorem allowsEach_concat {x : ExportService} {t : Traffic} {turns : List Turn} {turn : Turn} :
    t.AllowsEach x (turns ++ [turn]) ↔ t.AllowsEach x turns ∧ (t.run x turns).Allows turn := by
  induction turns generalizing t with
  | nil => exact ⟨fun h => ⟨trivial, h.1⟩, fun h => ⟨h.2, trivial⟩⟩
  | cons first rest ih => exact (and_congr_right fun _ => ih).trans and_assoc.symm

/-- Whether no file with a label is too old for a sweep. -/
def IsYoung (t : Traffic) : Prop :=
  ∀ s ∈ t.sweeps, ∀ now ∈ s.now, ∀ row ∈ t.shared.disk.nodes, ∀ modified ∈ row.2.modified?,
    s.maxAge < now - modified.seconds → ∀ name ∈ row.1.getLast?, ∀ label ∈ Storage.labels,
      ¬ label.toList <+: name.toList

instance (t : Traffic) : Decidable t.IsYoung := by
  unfold IsYoung
  infer_instance

/-- While no file with a label is too old every turn is allowed. -/
theorem IsYoung.allows {t : Traffic} (young : t.IsYoung) (turn : Turn) : t.Allows turn := by
  cases turn with
  | sweep k =>
    intro s found now time r _ _ p content modified mine standing old
    obtain ⟨name, last, label, listed, starts⟩ := mine.exists_label
    have row : (p, Node.file content modified) ∈ t.shared.disk.nodes := by
      unfold Disk.at? at standing
      split at standing
      · cases standing
      · exact Table.mem_of_get? standing
    exact young s (List.mem_of_getElem? found) now time _ row modified rfl old name last label
      listed starts
  | _ => trivial

theorem allowsEach_of_isYoung {x : ExportService} {t : Traffic} {turns : List Turn}
    (young : ∀ before ∈ turns.inits, (t.run x before).IsYoung) : t.AllowsEach x turns := by
  induction turns generalizing t with
  | nil => trivial
  | cons turn rest ih =>
    rw [List.inits_cons, List.forall_mem_cons, List.forall_mem_map] at young
    exact ⟨young.1.allows turn, ih young.2⟩

end Traffic

end Splice
