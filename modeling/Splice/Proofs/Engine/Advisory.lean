import Splice.Engine.Render
import Splice.Proofs.Engine.Progress
import Splice.Proofs.Outcome
import Splice.Surroundings.World

/-!
# Progress is advisory

A world in which the progress of renderings is neither written nor listened to is *muted*. What a
job does without starting a rendering and without telling about its progress, it does in the muted
world as well (`World.run_muted`).

Main statement: if the progress of a rendering can be read to its end, the rendering has the same
outcome in the muted world, and leaves the same world behind it but for the reports
(`Engine.render_muted`). If it cannot, the rendering fails, whatever became of its child
(`Engine.run_attend_of_unread`).
-/

namespace Splice

/-! ## Muted worlds -/

/-- Whether an event is a report on progress. -/
def Event.isReport : Event → Bool
  | .reported _ => true
  | _ => false

/-- The rendering that writes nothing about its progress. -/
def Rendering.muted (r : Rendering) : Rendering := { r with life := { r.life with stdout := [] } }

/-- The part of a job's world without progress: none is written, a listener would take it, and no
report is on record. -/
def OwnWorld.muted (o : OwnWorld) : OwnWorld :=
  { o with
    engine := { o.engine with render := o.engine.render.map Rendering.muted, listens := true }
    record := o.record.filter fun event => !event.isReport }

/-- The world without progress. -/
def World.muted (w : World) : World := { w with own := w.own.muted }

/-- Whether an operation has to do with the progress of a rendering. -/
def Operation.concernsProgress : Operation → Bool
  | .start _ _ => true
  | .report _ => true
  | _ => false

/-- A job that neither starts a rendering nor reports on one. -/
inductive Job.Unconcerned {α : Type} : Job α → Prop
  | done (a : α) : Unconcerned (.done a)
  | ask {op : Operation} {next : op.Answer → Job α} (other : op.concernsProgress = false)
      (later : ∀ answer, Unconcerned (next answer)) : Unconcerned (.ask op next)

namespace World

@[simp] theorem muted_noting_reported (w : World) (percent : Float) :
    (w.noting (.reported percent)).muted = w.muted := by
  simp [muted, noting, OwnWorld.muted, Event.isReport]

theorem muted_noting {event : Event} (h : event.isReport = false) (w : World) :
    (w.noting event).muted = w.muted.noting event := by
  simp [muted, noting, OwnWorld.muted, h]

theorem disk_eq_of_muted_eq {v w : World} (same : v.muted = w.muted) :
    v.shared.disk = w.shared.disk := by
  show v.muted.shared.disk = w.muted.shared.disk
  rw [same]

theorem changing_muted (w : World) (path : String) (change : Except SystemErrorKind Disk) :
    w.muted.changing path change = ((w.changing path change).1, (w.changing path change).2.muted) := by
  cases change <;> rfl

theorem written_muted (w : World) (output : String) (content : Option Bytes) :
    w.muted.written output content =
      ((w.written output content).1, (w.written output content).2.muted) := by
  cases content with
  | none => rfl
  | some content => exact w.changing_muted output _

theorem copy_muted (w : World) (source target : String) :
    w.muted.copy source target = ((w.copy source target).1, (w.copy source target).2.muted) := by
  have same : w.muted.shared = w.shared := rfl
  unfold copy
  rw [same]
  cases w.shared.disk.file source with
  | error kind => rfl
  | ok found => exact w.changing_muted target _

theorem append_muted (w : World) (path : String) (content : Bytes) :
    w.muted.append path content =
      ((w.append path content).1, (w.append path content).2.muted) := by
  have same : w.muted.own.interruption = w.own.interruption := rfl
  unfold append
  dsimp only
  rw [same]
  split <;> rfl

theorem await_muted (w : World) : w.muted.await = (w.await.1, w.await.2.muted) := by
  have same : w.muted.own.interruption = w.own.interruption := rfl
  unfold await
  rw [same]
  split <;> rfl

theorem sleep_muted (w : World) (seconds : Float) :
    w.muted.sleep seconds = ((w.sleep seconds).1, (w.sleep seconds).2.muted) := by
  unfold sleep
  rw [← muted_noting rfl]
  generalize w.noting (.slept seconds) = w
  have same : w.muted.own.interruption = w.own.interruption := rfl
  dsimp only
  rw [same]
  split <;> rfl

theorem call_muted (w : World) (errand : Errand) (argv : List String) :
    w.muted.call errand argv = ((w.call errand argv).1, (w.call errand argv).2.muted) := by
  unfold call
  rw [← muted_noting rfl]
  generalize w.noting (.called errand argv) = w
  cases errand with
  | formats => rfl
  | probe path => rfl
  | convert output =>
    have same : w.muted.own.engine.convert = w.own.engine.convert := rfl
    dsimp only
    rw [same]
    cases w.own.engine.convert with
    | error kind => rfl
    | ok conversion =>
      dsimp only
      rw [written_muted]

/-- One operation does the same in the muted world. -/
theorem perform_muted {op : Operation} (other : op.concernsProgress = false) (w : World) :
    w.muted.perform op = ((w.perform op).1, (w.perform op).2.muted) := by
  cases op with
  | start argv output => cases other
  | report percent => cases other
  | create path => exact w.changing_muted path _
  | append path content => exact w.append_muted path content
  | remove path => exact w.changing_muted path _
  | copy source target => exact w.copy_muted source target
  | await => exact w.await_muted
  | sleep seconds => exact w.sleep_muted seconds
  | call errand argv => exact w.call_muted errand argv
  | signal s => exact congrArg (((), ·)) (muted_noting rfl w).symm
  | now | freshId | doesExist path | isFile path | modified path | names directory
  | makeDirectories path | read path | isInstalled program => rfl

/-- A whole job does the same in the muted world. -/
theorem run_muted {α : Type} {job : Job α} (h : job.Unconcerned) (w : World) :
    w.muted.run job = ((w.run job).1, (w.run job).2.muted) := by
  induction h generalizing w with
  | done a => rfl
  | ask other later ih =>
    rw [run, run, perform_muted other]
    exact ih _ _

end World

/-! ## Jobs without progress -/

theorem Job.Unconcerned.bind {α β : Type} {job : Job α} (h : job.Unconcerned) {f : α → Job β}
    (later : ∀ a, (f a).Unconcerned) : (job >>= f).Unconcerned := by
  induction h with
  | done a => exact later a
  | ask other _ ih => exact .ask other ih

namespace Act

variable {α β : Type}

theorem unconcerned_request {op : Operation} (h : op.concernsProgress = false) :
    (request op).run.Unconcerned := .ask h fun _ => .done _

theorem unconcerned_bind {act : Act α} {f : α → Act β} (h : act.run.Unconcerned)
    (later : ∀ a, (f a).run.Unconcerned) : (act >>= f).run.Unconcerned := by
  refine h.bind fun outcome => ?_
  cases outcome with
  | ok a => exact later a
  | error failure => exact .done _

end Act

namespace Engine

theorem unconcerned_tell {ops : List Operation}
    (h : ∀ op ∈ ops, op.concernsProgress = false) : (tell ops).run.Unconcerned := by
  induction ops with
  | nil => exact .done _
  | cons op rest ih =>
    rw [List.forall_mem_cons] at h
    exact Act.unconcerned_bind (Act.unconcerned_request h.1) fun _ => ih h.2

theorem unconcerned_discard (path : String) : (discard path).run.Unconcerned := by
  refine Act.unconcerned_bind (Act.unconcerned_request rfl) fun there => ?_
  cases there with
  | false => exact .done _
  | true => exact Act.unconcerned_bind (Act.unconcerned_request rfl) fun _ => .done _

theorem unconcerned_conclude (output : String) (stderr : Bytes) (defect : Option Fault)
    (ending : Ending) : (conclude output stderr defect ending).run.Unconcerned := by
  cases ending with
  | abandoned => exact .done _
  | stopped reason => exact Act.unconcerned_bind (unconcerned_discard output) fun _ => .done _
  | ended status =>
    cases defect with
    | some fault => exact .done _
    | none =>
      unfold conclude
      dsimp only
      split
      · exact .done _
      · exact Act.unconcerned_bind (unconcerned_discard output) fun _ => .done _

/-! ## Renderings -/

/-- What follows on the reading of progress. -/
def settle (asks : Bool) (output : String) (life : Life) (defect : Option Fault) : Act String := do
  let (signals, ending) := Watch.waiting.course asks life.status life.beats
  tell (signals.map .signal)
  conclude output life.stderr defect ending

theorem attend_eq (attendance : Attendance) (total : Float) (output : String) (life : Life) :
    attend attendance total output life =
      (if attendance.listened then tell ((Progress.reports total life.stdout).1.map .report)
        else pure ()) >>= fun _ =>
          settle attendance.asks output life
            ((Progress.reports total life.stdout).2.or (linesOf life.stderr).2) := by
  unfold attend settle
  cases attendance.listened <;> rfl

theorem unconcerned_settle (asks : Bool) (output : String) (life : Life) (defect : Option Fault) :
    (settle asks output life defect).run.Unconcerned := by
  refine Act.unconcerned_bind (unconcerned_tell ?_) fun _ => unconcerned_conclude output _ _ _
  intro op mem
  obtain ⟨signal, -, rfl⟩ := List.mem_map.1 mem
  rfl

/-- To report on progress changes nothing in the muted world. -/
theorem run_tell_report (percents : List Float) (w : World) :
    ∃ later, w.run (tell (percents.map .report)).run = (.ok (), later) ∧ later.muted = w.muted := by
  induction percents generalizing w with
  | nil => exact ⟨w, rfl, rfl⟩
  | cons percent rest ih =>
    obtain ⟨later, told, same⟩ := ih (w.noting (.reported percent))
    exact ⟨later, told, same.trans (w.muted_noting_reported percent)⟩

/-- The reports come first, and what follows depends on no more than on what could not be read. -/
theorem exists_run_attend_eq (attendance : Attendance) (total : Float) (output : String)
    (life : Life) (w : World) :
    ∃ later : World, later.muted = w.muted ∧
      w.run (attend attendance total output life).run =
        later.run (settle attendance.asks output life
          ((Progress.reports total life.stdout).2.or (linesOf life.stderr).2)).run := by
  obtain ⟨later, told, same⟩ : ∃ later : World, w.run (ExceptT.run
      (if attendance.listened then tell ((Progress.reports total life.stdout).1.map .report)
        else pure ())) = (.ok (), later) ∧ later.muted = w.muted := by
    split
    · exact run_tell_report _ w
    · exact ⟨w, rfl, rfl⟩
  refine ⟨later, same, ?_⟩
  rw [attend_eq, ExceptT.run_bind, World.run_bind, told]

/-- Unless the progress cannot be read, the watching of a rendering ends as it does without
progress. -/
theorem attend_muted {total : Float} {life : Life}
    (read : (Progress.reports total life.stdout).2 = none) (attendance : Attendance)
    (output : String) (w : World) :
    w.muted.run (attend ⟨false, attendance.asks⟩ total output { life with stdout := [] }).run =
      ((w.run (attend attendance total output life).run).1,
        (w.run (attend attendance total output life).run).2.muted) := by
  have silent : attend ⟨false, attendance.asks⟩ total output { life with stdout := [] } =
      settle attendance.asks output life (linesOf life.stderr).2 := rfl
  obtain ⟨later, same, run⟩ := exists_run_attend_eq attendance total output life w
  rw [read, Option.none_or] at run
  rw [silent, run, ← same]
  exact World.run_muted (unconcerned_settle _ _ _ _) later

end Engine

namespace World

theorem start_muted (w : World) (argv : List String) (output : String) :
    w.muted.start argv output =
      ((w.start argv output).1.map fun life => { life with stdout := [] },
        (w.start argv output).2.muted) := by
  unfold start
  rw [← muted_noting rfl]
  generalize w.noting (.started argv) = w
  have same : w.muted.own.engine.render = w.own.engine.render.map Rendering.muted := rfl
  dsimp only
  rw [same]
  cases w.own.engine.render with
  | error kind => rfl
  | ok rendering =>
    dsimp only [Except.map, Rendering.muted]
    rw [written_muted]
    cases (w.written output rendering.writes).1 <;> rfl

theorem exists_rendering_of_start {w : World} {argv : List String} {output : String} {life : Life}
    (h : (w.start argv output).1 = .ok life) :
    ∃ rendering, w.own.engine.render = .ok rendering ∧ rendering.life = life := by
  have same : (w.noting (.started argv)).own.engine = w.own.engine := rfl
  unfold start at h
  dsimp only at h
  rw [same] at h
  cases found : w.own.engine.render with
  | error kind => simp [found] at h
  | ok rendering =>
    refine ⟨rendering, rfl, ?_⟩
    rw [found] at h
    dsimp only at h
    obtain ⟨_, -, same⟩ := map_eq_ok_iff.1 h
    exact same

end World

namespace Engine

theorem run_start (argv : List String) (output : String) (w : World) :
    w.run (Act.request (.start argv output)).run =
      (.ok (w.start argv output).1, (w.start argv output).2) := rfl

section

variable {e : Engine} {plan : Plan} {locations : String → Option String} {output : String}
  {w begun : World} {argv : List String} (attendance : Attendance)

theorem run_render_of_fault {fault : Fault}
    (unwritten : plan.command locations output e.binary true = .error fault) :
    w.run (render e plan locations output attendance).run = (.error (.fault fault), w) := by
  unfold render
  rw [unwritten]
  rfl

variable (written : plan.command locations output e.binary true = .ok argv)
include written

theorem run_render_of_refused {error : SystemError}
    (refusal : w.start argv output = (.error error, begun)) :
    w.run (render e plan locations output attendance).run = (.error (refused error), begun) := by
  unfold render
  rw [written]
  show w.run (ExceptT.run (Act.request (.start argv output) >>= _)) = _
  rw [ExceptT.run_bind, World.run_bind, run_start, refusal]
  rfl

theorem run_render_of_started {life : Life}
    (started : w.start argv output = (.ok life, begun)) :
    w.run (render e plan locations output attendance).run =
      begun.run (attend attendance plan.nominalDuration output life).run := by
  unfold render
  rw [written]
  show w.run (ExceptT.run (Act.request (.start argv output) >>= _)) = _
  rw [ExceptT.run_bind, World.run_bind, run_start, started]

end

/-- If the progress of a rendering can be read, the rendering has the same outcome when nothing is
written about its progress and nobody listens, and what it leaves behind is the same. -/
theorem render_muted (e : Engine) {plan : Plan} (locations : String → Option String)
    (output : String) (attendance : Attendance) {w : World}
    (readable : ∀ rendering, w.own.engine.render = .ok rendering →
      Progress.Readable plan.nominalDuration rendering.life.stdout) :
    w.muted.run (render e plan locations output ⟨false, attendance.asks⟩).run =
      ((w.run (render e plan locations output attendance).run).1,
        (w.run (render e plan locations output attendance).run).2.muted) := by
  cases written : plan.command locations output e.binary true with
  | error fault => rw [run_render_of_fault _ written, run_render_of_fault _ written]
  | ok argv =>
    have silent := w.start_muted argv output
    obtain ⟨answer, begun, begins⟩ : ∃ answer begun, w.start argv output = (answer, begun) :=
      ⟨_, _, rfl⟩
    rw [begins] at silent
    cases answer with
    | error error =>
      rw [run_render_of_refused _ written begins, run_render_of_refused _ written silent]
    | ok life =>
      obtain ⟨rendering, found, rfl⟩ := World.exists_rendering_of_start (congrArg Prod.fst begins)
      have read := Progress.reports_snd_eq_none_iff.2 (readable rendering found)
      rw [run_render_of_started _ written begins, run_render_of_started _ written silent]
      exact attend_muted read attendance output begun

/-! ## Renderings that end by themselves -/

theorem run_discard (path : String) (w : World) :
    w.run (discard path).run =
      (.ok (), w.withDisk ((w.shared.disk.remove path).toOption.getD w.shared.disk)) := by
  have run : w.run (discard path).run =
      if w.shared.disk.exists? path then
        (.ok (), (w.changing path (w.shared.disk.remove path)).2)
      else (.ok (), w) := by
    show w.run (ExceptT.run (if w.shared.disk.exists? path then _ else _)) = _
    cases w.shared.disk.exists? path <;> rfl
  rw [run]
  split
  case isTrue => cases w.shared.disk.remove path <;> rfl
  case isFalse missing =>
    have refused : ∃ kind, w.shared.disk.remove path = .error kind := by
      unfold Disk.exists? at missing
      unfold Disk.remove Disk.file
      cases found : w.shared.disk.node path with
      | error kind => exact ⟨kind, rfl⟩
      | ok node => simp [found, Except.isOk, Except.toBool] at missing
    obtain ⟨kind, refused⟩ := refused
    rw [refused]
    rfl

theorem run_tell_signal (signals : List Signal) (w : World) :
    ∃ later, w.run (tell (signals.map .signal)).run = (.ok (), later) ∧ later.shared = w.shared := by
  induction signals generalizing w with
  | nil => exact ⟨w, rfl, rfl⟩
  | cons s rest ih =>
    obtain ⟨later, told, same⟩ := ih (w.noting (.signalled s))
    exact ⟨later, told, same⟩

/-- The outcome of a rendering whose child has ended by itself. -/
def outcome (output : String) (stderr : Bytes) (status : Int) : Except Failure String :=
  if status = 0 then .ok output else .error (.problem (.renderFailed (complaints stderr status)))

/-- The disk after a rendering whose child has ended by itself. -/
def diskAfter (output : String) (status : Int) (d : Disk) : Disk :=
  if status = 0 then d else (d.remove output).toOption.getD d

theorem run_settle_of_ended {asks : Bool} {life : Life} {status : Int}
    (ended : (Watch.waiting.course asks life.status life.beats).2 = .ended status)
    (output : String) (w : World) :
    ∃ later : World, later.shared.disk = diskAfter output status w.shared.disk ∧
      w.run (settle asks output life none).run = (outcome output life.stderr status, later) := by
  unfold settle
  generalize Watch.waiting.course asks life.status life.beats = course at ended
  obtain ⟨signals, ending⟩ := course
  obtain rfl : ending = .ended status := ended
  obtain ⟨later, told, same⟩ := run_tell_signal signals w
  dsimp only
  rw [ExceptT.run_bind, World.run_bind, told, diskAfter, ← same]
  dsimp only
  unfold conclude outcome
  dsimp only
  split
  case isTrue => exact ⟨later, rfl, rfl⟩
  case isFalse =>
    refine ⟨later.withDisk ((later.shared.disk.remove output).toOption.getD later.shared.disk), rfl, ?_⟩
    rw [ExceptT.run_bind, World.run_bind, run_discard]
    rfl

theorem run_attend_of_ended {attendance : Attendance} {total : Float} (life : Life) {status : Int}
    (read : (Progress.reports total life.stdout).2 = none) (calm : (linesOf life.stderr).2 = none)
    (ended : (Watch.waiting.course attendance.asks life.status life.beats).2 = .ended status)
    (output : String) (w : World) :
    (w.run (attend attendance total output life).run).1 = outcome output life.stderr status ∧
      (w.run (attend attendance total output life).run).2.shared.disk =
        diskAfter output status w.shared.disk := by
  obtain ⟨later, same, run⟩ := exists_run_attend_eq attendance total output life w
  obtain ⟨last, disk, settled⟩ := run_settle_of_ended ended output later
  rw [World.disk_eq_of_muted_eq same] at disk
  rw [run, read, calm, Option.none_or, settled]
  exact ⟨rfl, disk⟩

/-- What cannot be read of the progress is the outcome of a rendering whose child has ended by
itself, with status 0 as well, and what was rendered stays. -/
theorem run_attend_of_unread {attendance : Attendance} {total : Float} (life : Life) {status : Int}
    {fault : Fault} (unread : (Progress.reports total life.stdout).2 = some fault)
    (ended : (Watch.waiting.course attendance.asks life.status life.beats).2 = .ended status)
    (output : String) (w : World) :
    (w.run (attend attendance total output life).run).1 = .error (.fault fault) ∧
      (w.run (attend attendance total output life).run).2.shared.disk = w.shared.disk := by
  obtain ⟨later, same, run⟩ := exists_run_attend_eq attendance total output life w
  rw [run, unread, Option.some_or]
  unfold settle
  generalize Watch.waiting.course attendance.asks life.status life.beats = course at ended
  obtain ⟨signals, ending⟩ := course
  obtain rfl : ending = .ended status := ended
  obtain ⟨last, told, kept⟩ := run_tell_signal signals later
  dsimp only
  rw [ExceptT.run_bind, World.run_bind, told]
  exact ⟨rfl, (congrArg SharedWorld.disk kept).trans (World.disk_eq_of_muted_eq same)⟩

/-- **Progress is advisory as long as it can be read.** A line gives no percentage or one in range,
unless it tells an oversized position. If the progress can be read, the rendering has the same
outcome when nothing is written about it and nobody listens, and what it leaves behind is the same:
if its child ends by itself with status 0 the outcome is the path of the result; with another status
it is the report of what the child complained about, and the result is removed. If the progress
cannot be read, the rendering fails all the same, and the result stays. -/
theorem render_advisory (e : Engine) (plan : Plan) (locations : String → Option String)
    (output : String) (attendance : Attendance) (w : World) :
    (∀ line,
      Progress.ofLine plan.nominalDuration line = .ok none ∨
      (∃ percent, Progress.ofLine plan.nominalDuration line = .ok (some percent) ∧
        Progress.InRange percent) ∨
      (Progress.ofLine plan.nominalDuration line = .error .oversizedQuotient ∧
        ∃ microseconds, Progress.Tells line microseconds ∧ Progress.Oversized microseconds)) ∧
    ((∀ rendering, w.own.engine.render = .ok rendering →
        Progress.Readable plan.nominalDuration rendering.life.stdout) →
      w.muted.run (render e plan locations output ⟨false, attendance.asks⟩).run =
        ((w.run (render e plan locations output attendance).run).1,
          (w.run (render e plan locations output attendance).run).2.muted)) ∧
    ∀ argv life begun status, plan.command locations output e.binary true = .ok argv →
      w.start argv output = (.ok life, begun) → (linesOf life.stderr).2 = none →
      (Watch.waiting.course attendance.asks life.status life.beats).2 = .ended status →
      (Progress.Readable plan.nominalDuration life.stdout →
        (w.run (render e plan locations output attendance).run).1 =
            outcome output life.stderr status ∧
          (w.run (render e plan locations output attendance).run).2.shared.disk =
            diskAfter output status begun.shared.disk) ∧
      (¬ Progress.Readable plan.nominalDuration life.stdout →
        (∃ fault, (w.run (render e plan locations output attendance).run).1 =
            .error (.fault fault)) ∧
          (w.run (render e plan locations output attendance).run).2.shared.disk =
            begun.shared.disk) := by
  refine ⟨Progress.ofLine_cases plan.nominalDuration, render_muted e locations output attendance, ?_⟩
  intro argv life begun status written started calm ended
  rw [run_render_of_started attendance written started, ← Progress.reports_snd_eq_none_iff]
  refine ⟨fun read => run_attend_of_ended life read calm ended output begun, fun unread => ?_⟩
  obtain ⟨fault, unread⟩ := Option.ne_none_iff_exists'.1 unread
  have failed := run_attend_of_unread life unread ended output begun
  exact ⟨⟨fault, failed.1⟩, failed.2⟩

/-- A child that tells how far it is, complains and ends with status 1; the listener does not take
what it is told. -/
theorem render_advisory_halfway :
    let life : Life :=
      ⟨Bytes.ofNumbers "out_time_ms=5000000", Bytes.ofNumbers "disk full", [⟨some 1, false, false⟩], 1⟩
    let w : World := ⟨⟨⟨[]⟩, 0.0, 0⟩, ⟨⟨true, .error .notFound, fun _ => .error .notFound,
      .error .notFound, .ok ⟨none, life⟩, false⟩, .never, []⟩⟩
    let plan : Plan := ⟨[], [], "vout", none, [], 10.0, "mp4"⟩
    let e : Engine := ⟨"ffmpeg", "ffprobe", .standard "data" "uploads" "output"⟩
    let failed : Except Failure String := .error (.problem (.renderFailed "disk full"))
    (w.run (render e plan (fun _ => none) "out.mp4" ⟨true, false⟩).run).1 = failed ∧
      (w.muted.run (render e plan (fun _ => none) "out.mp4" ⟨false, false⟩).run).1 = failed := by
  intro life w plan e failed
  obtain ⟨-, muted, ended⟩ :=
    render_advisory e plan (fun _ => none) "out.mp4" ⟨true, false⟩ w
  have readable : Progress.Readable 10.0 life.stdout :=
    Progress.reports_snd_eq_none_iff.1 (by decide +kernel)
  have complained : complaints life.stderr 1 = "disk full" := by decide +kernel
  have reported : outcome "out.mp4" life.stderr 1 = failed := by
    rw [outcome, if_neg (by decide), complained]
  have run := ((ended _ life _ 1 rfl rfl rfl rfl).1 readable).1.trans reported
  refine ⟨run, ?_⟩
  have same := muted fun rendering found => by
    cases found
    exact readable
  exact (congrArg Prod.fst same).trans run

/-- A child that writes the position `10 ^ 400` and ends with status 0: the rendering fails, and
without that position it succeeds. -/
theorem render_oversized :
    let life : Life :=
      ⟨Bytes.ofNumbers (Progress.position (10 ^ 400)), [], [⟨some 0, false, false⟩], 0⟩
    let w : World := ⟨⟨⟨[]⟩, 0.0, 0⟩, ⟨⟨true, .error .notFound, fun _ => .error .notFound,
      .error .notFound, .ok ⟨none, life⟩, true⟩, .never, []⟩⟩
    let plan : Plan := ⟨[], [], "vout", none, [], 10.0, "mp4"⟩
    let e : Engine := ⟨"ffmpeg", "ffprobe", .standard "data" "uploads" "output"⟩
    (w.run (render e plan (fun _ => none) "out.mp4" ⟨true, false⟩).run).1 =
        .error (.fault .oversizedQuotient) ∧
      (w.muted.run (render e plan (fun _ => none) "out.mp4" ⟨false, false⟩).run).1 =
        .ok "out.mp4" := by
  -- No step may compute the position's digits, so its octets are made a variable.
  have unread : (Progress.reports 10.0 (Bytes.ofNumbers (Progress.position (10 ^ 400)))).2 =
      some .oversizedQuotient :=
    Progress.reports_position (by decide) (Progress.oversized_iff.2 (by decide +kernel))
      (by decide +kernel)
  generalize Bytes.ofNumbers (Progress.position (10 ^ 400)) = stdout at unread ⊢
  intro life w plan e
  have ended : (Watch.waiting.course false 0 [⟨some 0, false, false⟩]).2 = .ended 0 := rfl
  constructor
  · rw [run_render_of_started _ rfl rfl]
    exact (run_attend_of_unread life unread ended "out.mp4" _).1
  · rw [run_render_of_started _ rfl rfl]
    exact (run_attend_of_ended { life with stdout := [] } rfl rfl ended "out.mp4" _).1

end Engine

end Splice
