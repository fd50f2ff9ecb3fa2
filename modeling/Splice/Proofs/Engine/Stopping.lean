import Splice.Proofs.Engine.Advisory
import Splice.Proofs.Engine.Watching
import Splice.Proofs.Surroundings.Disk

/-!
# How a rendering is stopped

Main statement: the outcome of a rendering tells what became of its child and of its result, the
signals of its watch are on record, and no signal comes without cause (`Engine.render_settles`). A
rendering leaves its child alone, and its result where it is, in one case only: its task is
cancelled while the child is being stopped. One cancellation is enough for that if the client has
gone before (`Engine.render_abandoned`).
-/

namespace Splice

/-- A file was removed: there is none where the path leads, and nothing else has changed. -/
structure Disk.RidOf (path : String) (before after : Disk) : Prop where
  gone : (after.file path).isOk = false
  others : Disk.SameBut (fun p => before.place path = .ok p) before after

theorem Disk.ridOf_cleared (d : Disk) (path : String) : RidOf path d (d.cleared path) where
  gone := isOk_file_without (List.mem_singleton_self path)
  others := (sameBut_cleared d path).mono fun _ h => h.1

/-- The world with more events on record. -/
def World.notingAll (w : World) (events : List Event) : World :=
  { w with own := { w.own with record := w.own.record ++ events } }

namespace Engine

open Watch (Moment moments exit? causes sent)

/-! ## What a rendering does, one part after the other -/

/-- To tell things one after the other puts them on record. -/
theorem run_tell {α : Type} (op : α → Operation) (event : α → Event)
    (notes : ∀ (w : World) a, (w.perform (op a)).2 = w.noting (event a)) (items : List α)
    (w : World) : w.run (tell (items.map op)).run = (.ok (), w.notingAll (items.map event)) := by
  induction items generalizing w with
  | nil => simp [tell, World.notingAll]
  | cons item rest ih =>
    have first : w.run (tell ((item :: rest).map op)).run =
        (w.perform (op item)).2.run (tell (rest.map op)).run := rfl
    rw [first, notes, ih]
    simp [World.notingAll, World.noting]

/-- The events of the progress, if someone listens. -/
def reported (attendance : Attendance) (total : Float) (stdout : Bytes) : List Event :=
  if attendance.listened then (Progress.reports total stdout).1.map .reported else []

/-- What cannot be read of the streams of a child. -/
def unread (total : Float) (life : Life) : Option Fault :=
  (Progress.reports total life.stdout).2.or (linesOf life.stderr).2

theorem unread_eq_none {total : Float} {life : Life}
    (readable : Progress.Readable total life.stdout) (calm : (linesOf life.stderr).2 = none) :
    unread total life = none := by
  rw [unread, Progress.reports_snd_eq_none_iff.2 readable, calm, Option.none_or]

/-- The reports come first, then the signals, and at last comes what becomes of the result. -/
theorem run_attend (attendance : Attendance) (total : Float) (output : String) (life : Life)
    (w : World) :
    w.run (attend attendance total output life).run =
      (w.notingAll (reported attendance total life.stdout ++
          (Watch.waiting.course attendance.asks life.status life.beats).1.map .signalled)).run
        (conclude output life.stderr (unread total life)
          (Watch.waiting.course attendance.asks life.status life.beats).2).run := by
  have told : w.run (ExceptT.run (if attendance.listened then
      tell ((Progress.reports total life.stdout).1.map .report) else pure ())) =
      (.ok (), w.notingAll (reported attendance total life.stdout)) := by
    unfold reported
    split
    · exact run_tell .report .reported (fun _ _ => rfl) _ w
    · simp [World.notingAll]
  rw [attend_eq, ExceptT.run_bind, World.run_bind, told]
  dsimp only [settle]
  rw [ExceptT.run_bind, World.run_bind, run_tell .signal .signalled fun _ _ => rfl]
  simp only [World.notingAll, List.append_assoc, unread]

/-- What is concluded from an ending. -/
def conclusion (output : String) (stderr : Bytes) : Option Fault → Ending → Except Failure String
  | some fault, .ended _ => .error (.fault fault)
  | none, .ended status => outcome output stderr status
  | _, .stopped reason => .error reason.failure
  | _, .abandoned => .error (.fault .cancelled)

/-- The disk when an ending was concluded. -/
def diskBehind (output : String) (d : Disk) : Option Fault → Ending → Disk
  | some _, .ended _ => d
  | none, .ended status => diskAfter output status d
  | _, .stopped _ => d.cleared output
  | _, .abandoned => d

theorem run_conclude (output : String) (stderr : Bytes) (defect : Option Fault) (ending : Ending)
    (w : World) :
    w.run (conclude output stderr defect ending).run =
      (conclusion output stderr defect ending,
        w.withDisk (diskBehind output w.shared.disk defect ending)) := by
  cases ending with
  | abandoned => cases defect <;> rfl
  | stopped reason =>
    unfold conclude
    rw [ExceptT.run_bind, World.run_bind, run_discard]
    cases defect <;> rfl
  | ended status =>
    cases defect with
    | some fault => rfl
    | none =>
      by_cases fine : status = 0
      · simp only [conclude, conclusion, outcome, diskBehind, diskAfter, if_pos fine]
        rfl
      · simp only [conclude, conclusion, outcome, diskBehind, diskAfter, if_neg fine]
        rw [ExceptT.run_bind, World.run_bind, run_discard]
        rfl

/-! ## What outcomes tell -/

/-- What the outcome of a rendering tells: the path of the result, that the child ended with status
0 and nothing was in the way; a report, that it ended with another status; the client's or the
task's cancellation, that the child has ended, or that the task was cancelled while the rendering
was being stopped. Unless the result is given back or the child is left alone, it is removed. -/
def Tells (output : String) (past : List Moment) (before after : Disk) :
    Except Failure String → Prop
  | .ok path => path = output ∧ exit? past = some 0 ∧ causes past = [] ∧ after = before
  | .error (.problem (.renderFailed _)) =>
    (∃ status, status ≠ 0 ∧ exit? past = some status) ∧ causes past = [] ∧
      Disk.RidOf output before after
  | .error (.problem .cancelledByClient) =>
    (exit? past).isSome ∧ causes past = [.clientGone] ∧ Disk.RidOf output before after
  | .error (.fault .cancelled) =>
    ((exit? past).isSome ∧ causes past = [.taskCancelled] ∧ Disk.RidOf output before after) ∨
      ∃ reason, causes past = [reason, .taskCancelled] ∧ after = before
  | .error _ => False

variable {asks : Bool} {past : List Moment} {ending : Ending}

theorem tells_of_sound (sound : Watch.Sound asks past (.settled ending)) (output : String)
    (stderr : Bytes) (d : Disk) :
    Tells output past d (diskBehind output d none ending)
      (conclusion output stderr none ending) := by
  have removed := d.ridOf_cleared output
  cases ending with
  | ended status =>
    obtain ⟨uncaused, -, finished⟩ := sound
    by_cases fine : status = 0
    · subst fine
      exact ⟨rfl, finished, uncaused, rfl⟩
    · simp only [conclusion, outcome, diskBehind, diskAfter, if_neg fine]
      exact ⟨⟨status, fine, finished⟩, uncaused, removed⟩
  | stopped reason =>
    obtain ⟨caused, -, finished⟩ := sound
    cases reason with
    | clientGone => exact ⟨finished, caused, removed⟩
    | taskCancelled => exact .inl ⟨finished, caused, removed⟩
  | abandoned =>
    obtain ⟨⟨reason, caused⟩, -⟩ := sound
    exact .inr ⟨reason, caused, rfl⟩

/-- A child is told to terminate no more than once, and killed no more than once behind that. -/
theorem sent_prefix_of_sound (sound : Watch.Sound asks past (.settled ending)) :
    sent asks past <+: [.terminate, .kill] := by
  cases ending with
  | ended status =>
    rw [sound.2.1]
    exact List.nil_prefix
  | stopped reason => exact sound.2.1
  | abandoned =>
    rcases sound.2 with told | told
    · exact ⟨[.kill], congrArg (· ++ [.kill]) told⟩
    · exact told ▸ List.prefix_rfl

/-- **The outcome of a rendering tells what became of its child and of its result.** If a rendering
was started and its streams can be read, its outcome tells how the child ended and why the rendering
was stopped, if it was; on record are the reports and the signals of its watch; the child is told to
terminate at most once, and killed only behind that; and no signal comes without cause. -/
theorem render_settles (e : Engine) {plan : Plan} (locations : String → Option String)
    {output : String} (attendance : Attendance) {w begun : World} {argv : List String} {life : Life}
    (written : plan.command locations output e.binary true = .ok argv)
    (started : w.start argv output = (.ok life, begun))
    (readable : Progress.Readable plan.nominalDuration life.stdout)
    (calm : (linesOf life.stderr).2 = none) :
    let past := moments attendance.asks life
    let run := w.run (render e plan locations output attendance).run
    Tells output past begun.shared.disk run.2.shared.disk run.1 ∧
      run.2.own.record =
        begun.own.record ++ reported attendance plan.nominalDuration life.stdout ++
          (past.flatMap (Moment.signals attendance.asks)).map .signalled ∧
      sent attendance.asks past <+: [.terminate, .kill] ∧
      ∀ m ∈ past, m.Fair attendance.asks := by
  intro past run
  obtain ⟨sound, told, fair⟩ := Watch.sound_moments attendance.asks life
  have ran : run = _ := run_render_of_started attendance written started
  rw [run_attend, run_conclude, unread_eq_none readable calm] at ran
  rw [ran, told]
  exact ⟨tells_of_sound sound output life.stderr _, (List.append_assoc ..).symm,
    sent_prefix_of_sound sound, fair⟩

/-- A child that is asked about once and then ends with status 0. -/
theorem render_settles_quiet :
    let life : Life := ⟨[], [], [.quiet, .quiet, ⟨some 0, false, false⟩], 0⟩
    let w : World := ⟨⟨⟨[]⟩, 0.0, 0⟩, ⟨⟨true, .error .notFound, fun _ => .error .notFound,
      .error .notFound, .ok ⟨some [0x78], life⟩, false⟩, .never, []⟩⟩
    let plan : Plan := ⟨[], [], "vout", none, [], 10.0, "mp4"⟩
    let e : Engine := ⟨"ffmpeg", "ffprobe", .standard "data" "uploads" "output"⟩
    (w.run (render e plan (fun _ => none) "out.mp4" ⟨false, true⟩).run).1 = .ok "out.mp4" ∧
      exit? (moments true life) = some 0 := by
  intro life w plan e
  obtain ⟨tells, -⟩ := render_settles e (fun _ => none) ⟨false, true⟩ (w := w)
    (show plan.command (fun _ => none) "out.mp4" e.binary true = _ from rfl) rfl
    (Progress.reports_snd_eq_none_iff.1 (by decide +kernel)) rfl
  have done : (w.run (render e plan (fun _ => none) "out.mp4" ⟨false, true⟩).run).1 =
      .ok "out.mp4" := rfl
  rw [done] at tells
  exact ⟨done, tells.2.1⟩

/-- A client that has gone, and one cancellation of the task while the child has yet to terminate:
the rendering ends, but its child has not, and what it wrote stays. A child that ends while the
client is asked is told to terminate all the same. -/
theorem render_abandoned :
    let gone (rest : List Beat) (ended : Option Int) : Life :=
      ⟨[], [], .quiet :: ⟨ended, true, false⟩ :: rest, 0⟩
    let w (life : Life) : World := ⟨⟨⟨[]⟩, 0.0, 0⟩, ⟨⟨true, .error .notFound,
      fun _ => .error .notFound, .error .notFound, .ok ⟨some [0x78], life⟩, false⟩, .never, []⟩⟩
    let plan : Plan := ⟨[], [], "vout", none, [], 10.0, "mp4"⟩
    let e : Engine := ⟨"ffmpeg", "ffprobe", .standard "data" "uploads" "output"⟩
    let run (life : Life) :=
      (w life).run (render e plan (fun _ => none) "out.mp4" ⟨false, true⟩).run
    let left := gone [⟨none, false, true⟩] none
    let late := gone [] (some 0)
    ((run left).1 = .error (.fault .cancelled) ∧ exit? (moments true left) = none ∧
        left.beats.countP (·.cancelled) = 1 ∧
        (run left).2.shared.disk.exists? "out.mp4" = true) ∧
      ∃ m ∈ moments true late, m.beat.ended = some 0 ∧ .terminate ∈ m.signals true := by
  refine ⟨⟨rfl, by decide, by decide, by decide +kernel⟩, ?_⟩
  exact ⟨⟨none, .asking, ⟨some 0, true, false⟩⟩, by decide, rfl, by decide⟩

end Engine

end Splice
