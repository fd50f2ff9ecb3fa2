import Splice.Proofs.Engine.Files

/-!
# Starting the engine's programs

The services have the engine list its formats, describe a file, convert one, and render a plan
(`Engine.Task`). For each of these the engine starts one of its two programs. How the programs
behave does not change while a job is carried out (`World.engine_run`), and a program that the
system refuses to start settles its task at once: it fails with what the refusal means, and nothing
is changed (`Engine.Task.run_of_unstartable`).
-/

namespace Splice

namespace World

/-! ## The engine of a world -/

/-- No operation changes how the engine's programs behave. -/
theorem engine_perform (w : World) (op : Operation) :
    (w.perform op).2.own.engine = w.own.engine :=
  perform_induction (P := fun v => v.own.engine = w.own.engine) (fun _ _ => id) (fun _ _ => id)
    (fun _ _ => id) (fun _ _ => id) rfl fun _ => rfl

theorem engine_run {α : Type} (w : World) (job : Job α) :
    (w.run job).2.own.engine = w.own.engine := by
  induction job generalizing w with
  | done a => rfl
  | ask op next ih => exact (ih (w.perform op).1 (w.perform op).2).trans (w.engine_perform op)

end World

/-- A command line begins with the program. -/
theorem Plan.headD_command {plan : Plan} {locations : String → Option String}
    {output binary : String} {progress : Bool} {argv : List String}
    (written : plan.command locations output binary progress = .ok argv) :
    argv.headD "" = binary := by
  unfold command at written
  cases args : allInputArgs locations plan.inputs with
  | error fault =>
    rw [args] at written
    cases written
  | ok inputArgs =>
    rw [args] at written
    cases written
    rfl

namespace Engine

/-! ## Tasks -/

/-- What one of the engine's programs is started for. -/
inductive Task
  | listFormats (limit : Int)
  | probe (path : String)
  | convert (input output : String) (isImage : Bool) (format : ClipFormat)
  | render (plan : Plan) (locations : String → Option String) (output : String)
      (attendance : Attendance)

namespace Task

/-- What a task gives back. -/
@[reducible] def Answer : Task → Type
  | listFormats _ => List String
  | probe _ => Description
  | convert .. => String
  | render .. => String

/-- What an engine does for a task. -/
def act (e : Engine) : (task : Task) → Act task.Answer
  | listFormats limit => e.listFormats limit
  | probe path => e.probe path
  | convert input output isImage format => e.convert input output isImage format
  | render plan locations output attendance => e.render plan locations output attendance

/-- The program that is started for a task. -/
def program (e : Engine) : Task → String
  | probe _ => e.probeBinary
  | _ => e.binary

/-- Whether the system refuses, for some reason, to start the program of a task. -/
def Unstartable (engine : EngineBehaviour) (kind : SystemErrorKind) : Task → Prop
  | listFormats _ => engine.formats = .error kind
  | probe path => engine.probe path = .error kind
  | convert .. => engine.convert = .error kind
  | render .. => engine.render = .error kind

/-- Whether the command line of a task can be written: a rendering has to know where the files of
its plan are. -/
def Commandable (e : Engine) : Task → Prop
  | render plan locations output _ =>
    ∃ argv, plan.command locations output e.binary true = .ok argv
  | _ => True

end Task

/-! ## What a refusal means -/

/-- A program that the system does not find is an engine that cannot be invoked, and no other
refusal is. -/
theorem refused_eq (error : SystemError) :
    (error.kind = .notFound → refused error = .problem (.engineNotStarted error)) ∧
      (error.kind ≠ .notFound → refused error = .fault (.system error)) :=
  ⟨fun missing => if_pos missing, fun other => if_neg other⟩

theorem run_bind_of_call_refused {α : Type} {w later : World} {errand : Errand}
    {argv : List String} {error : SystemError}
    (refusal : w.call errand argv = (.error error, later)) (f : Finished → Act α) :
    w.run (call errand argv >>= f).run = (.error (refused error), later) := by
  suffices ends : (call errand argv >>= f).Ensures w fun outcome later' =>
      (outcome, later') = (.error (refused error), later) from ends
  rw [Act.ensures_bind, ensures_call, refusal]
  rfl

namespace Task

/-- **A program that the system refuses to start settles its task.** The task fails with what the
refusal means, and nothing is changed but the record. -/
theorem run_of_unstartable {e : Engine} {task : Task} {w : World} {kind : SystemErrorKind}
    (unstartable : task.Unstartable w.own.engine kind) (commandable : task.Commandable e) :
    ∃ event, w.run (task.act e).run =
      (.error (refused ⟨kind, task.program e⟩), w.noting event) := by
  cases task with
  | listFormats limit =>
    have missing : w.own.engine.formats = .error kind := unstartable
    refine ⟨.called .formats [e.binary, "-hide_banner", "-formats"], run_bind_of_call_refused ?_ _⟩
    show (w.own.engine.formats.mapError _, w.noting _) = _
    rw [missing]
    rfl
  | probe path =>
    have missing : w.own.engine.probe path = .error kind := unstartable
    refine ⟨.called (.probe path) [e.probeBinary, "-show_format", "-show_streams", "-of", "json",
      path], run_bind_of_call_refused ?_ _⟩
    show ((w.own.engine.probe path).mapError _, w.noting _) = _
    rw [missing]
    rfl
  | convert input output isImage format =>
    have missing : w.own.engine.convert = .error kind := unstartable
    refine ⟨.called (.convert output) (e.binary :: (if isImage then e.pictureArgs input format
      else e.videoArgs input format) ++ [output, "-y"]), run_bind_of_call_refused ?_ _⟩
    unfold World.call
    dsimp only [World.noting]
    rw [missing]
    rfl
  | render plan locations output attendance =>
    obtain ⟨argv, written⟩ := commandable
    have missing : w.own.engine.render = .error kind := unstartable
    refine ⟨.started argv, run_render_of_refused attendance written ?_⟩
    unfold World.start
    dsimp only [World.noting]
    rw [missing]
    show (Except.error (SystemError.mk kind (argv.headD "")), _) = _
    rw [Plan.headD_command written]
    rfl

end Task

end Engine

end Splice
