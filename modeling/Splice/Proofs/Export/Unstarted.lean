import Splice.Proofs.Engine.Tasks
import Splice.Proofs.Export.Inputs
import Splice.Proofs.Export.Strategy

/-!
# Exports with an engine that cannot be started

An export starts the engine's programs to describe its files and to render
(`Call.task?`), and the command line of the rendering can always be written
(`ExportService.commandable_of_mem_history`). If the system refuses to start a program, what comes
of the export depends on the refusal (`ExportService.settles_unstarted`): only if the program is not
found does one of the files come back as it was. Any other refusal fails the export.
-/

namespace Splice

open Engine Storage World

/-! ## What an export starts the engine's programs for -/

/-- The task of a call that starts a program. -/
def Call.task? : Call → Option Engine.Task
  | .probe path => some (.probe path)
  | .render plan locations output attendance => some (.render plan locations output attendance)
  | .isAvailable | .compile .. => none

/-- What a probe failed with. -/
def Exchange.probeFailure? : Exchange → Option Failure
  | ⟨.probe _, .error failure⟩ => some failure
  | _ => none

theorem Exchange.exists_of_probeFailure? {exchange : Exchange} {failure : Failure}
    (failed : exchange.probeFailure? = some failure) :
    ∃ path, exchange.call.task? = some (.probe path) ∧ exchange.Fails failure := by
  unfold probeFailure? at failed
  split at failed
  case h_1 path outcome =>
    cases failed
    exact ⟨path, rfl, rfl⟩
  case h_2 => cases failed

namespace Dialogue

variable {α : Type} {x : ExportService}

/-- The world in which a call was made still has the engine that there was. -/
theorem exists_run_of_mem_history_same_engine {d : Dialogue α} {w : World} {exchange : Exchange}
    (mem : exchange ∈ d.history x w) :
    ∃ before after, before.own.engine = w.own.engine ∧
      World.run before (exchange.call.act x).run = (exchange.outcome, after) := by
  induction d generalizing w with
  | done outcome => cases mem
  | own op next ih =>
    obtain ⟨before, after, same, ran⟩ := ih _ mem
    exact ⟨before, after, same.trans (w.engine_perform op), ran⟩
  | call c next ih =>
    rw [history, List.mem_cons] at mem
    rcases mem with rfl | mem
    · exact ⟨w, _, rfl, rfl⟩
    · split at mem
      · obtain ⟨before, after, same, ran⟩ := ih _ mem
        exact ⟨before, after, same.trans (w.engine_run _), ran⟩
      · cases mem

end Dialogue

/-- A call whose program cannot be started fails with what the refusal means, unless the task is
cancelled while it waits for a description. -/
theorem Call.run_of_unstartable {x : ExportService} {e : Engine} (driven : x.engine = e.access)
    {call : Call} {task : Engine.Task} (started : call.task? = some task) {w : World}
    {kind : SystemErrorKind} (unstartable : task.Unstartable w.own.engine kind)
    (commandable : task.Commandable e) :
    (w.run (call.act x).run).1 = .error (refused ⟨kind, task.program e⟩) ∨
      (w.run (call.act x).run).1 = .error (.fault .cancelled) := by
  obtain ⟨event, ran⟩ := Engine.Task.run_of_unstartable unstartable commandable
  cases call with
  | isAvailable | compile => cases started
  | render plan locations output attendance =>
    cases started
    left
    unfold Call.act
    rw [driven]
    exact congrArg Prod.fst ran
  | probe path =>
    cases started
    unfold Call.act
    rw [driven, Act.run_aside]
    dsimp only
    split
    · exact .inr rfl
    · exact .inl (congrArg Prod.fst ran)

namespace ExportService

variable {x : ExportService} {stored : List StoredFile} {request : ExportRequest}

/-- The command line of whatever an export starts a program for can be written. -/
theorem commandable_of_mem_history {attendance : Attendance} {w : World} {exchange : Exchange}
    (mem : exchange ∈ x.history stored request attendance w) {task : Engine.Task}
    (started : exchange.call.task? = some task) (e : Engine) : task.Commandable e := by
  obtain ⟨call, outcome⟩ := exchange
  cases call with
  | isAvailable | compile => cases started
  | probe path =>
    cases started
    trivial
  | render plan locations output polled =>
    cases started
    cases valid : x.validate stored request with
    | error p =>
      rw [(history_of_invalid valid attendance w).1] at mem
      cases mem
    | ok validated =>
      obtain ⟨described, settings, answers, rfl, given, compiled⟩ :=
        exists_compiled_of_rendering valid mem
      obtain ⟨same, made, -⟩ := admissible_of_validate valid
      rw [same] at answers
      rw [made] at compiled
      obtain ⟨clips, music, joins, passed, rfl⟩ := Compile.exists_passed_of_compile compiled
      have keyed := answers.keyed (AssetTable.keyed_ofStored stored request.mediaFiles)
      obtain ⟨argv, written, -⟩ := Plan.readInputs_command
        (fun d mem => isSome_places_of_mem_inputs keyed passed mem)
        (fun d mem => paired_of_mem_inputs mem) output e.binary true
      exact ⟨argv, written⟩

/-- **What comes of a program that the system refuses to start.** Whatever it is started for, the
task fails without any change, and it fails with an engine that cannot be invoked exactly if the
program was not found; any other refusal is passed on as the system gave it. So if a program cannot
be started for an export whose uploads are stored, and its task is not cancelled while it waits, the
export gives one of the files back as it came if the program was not found, and otherwise fails with
the refusal. -/
theorem settles_unstarted (e : Engine) :
    (∀ (task : Engine.Task) (w : World) (kind : SystemErrorKind),
      task.Unstartable w.own.engine kind → task.Commandable e →
      ∃ failure event, w.run (task.act e).run = (.error failure, w.noting event) ∧
        (failure.isUnavailable ↔ kind = .notFound) ∧
        (kind = .notFound → ∃ p, failure = .problem p ∧ p.report.kind = .engineUnavailable) ∧
        (kind ≠ .notFound → failure = .fault (.system ⟨kind, task.program e⟩))) ∧
    ∀ (x : ExportService), x.engine = e.access →
      ∀ (uploads : List Upload) (form : ExportForm) (request : ExportRequest)
        (stored : List StoredFile) (attendance : Attendance) (w stocked : World), uploads ≠ [] →
      x.readForm form = .ok request →
      w.run (x.storage.storeAll label uploads).run = (.ok stored, stocked) →
      ∀ exchange ∈ x.history stored request attendance stocked, ∀ task kind,
        exchange.call.task? = some task → task.Unstartable w.own.engine kind →
        ¬ exchange.Fails (.fault .cancelled) →
        let outcome := (w.run (x.exportForm uploads form attendance).run).1
        (kind = .notFound → Strategy.passthrough.Serves outcome) ∧
          (kind ≠ .notFound → outcome = .error (.fault (.system ⟨kind, task.program e⟩))) := by
  refine ⟨fun task w kind unstartable commandable => ?_,
    fun x driven uploads form request stored attendance w stocked filled read kept exchange mem task
      kind started unstartable calm => ?_⟩
  · obtain ⟨event, ran⟩ := Engine.Task.run_of_unstartable unstartable commandable
    obtain ⟨missing, other⟩ := refused_eq ⟨kind, task.program e⟩
    refine ⟨_, event, ran, ⟨fun unavailable => ?_, fun same => ?_⟩,
      fun same => ⟨_, missing same, rfl⟩, other⟩
    · by_contra present
      rw [other present] at unavailable
      cases unavailable
    · rw [missing same]
      rfl
  · have engine : stocked.own.engine = w.own.engine := by
      have same := w.engine_run (x.storage.storeAll label uploads).run
      rwa [kept] at same
    obtain ⟨before, after, same, ran⟩ := Dialogue.exists_run_of_mem_history_same_engine mem
    have commandable := commandable_of_mem_history mem started e
    rw [← engine, ← same] at unstartable
    have fails : exchange.Fails (refused ⟨kind, task.program e⟩) := by
      have ended := Call.run_of_unstartable driven started unstartable commandable
      rw [ran] at ended
      exact ended.resolve_right calm
    have became := becomes_of_stored filled read attendance kept
    obtain ⟨-, ended⟩ := last_of_failed mem fails
    rw [ended] at became
    obtain ⟨missing, other⟩ := refused_eq ⟨kind, task.program e⟩
    refine ⟨fun absent => ?_, fun present => ?_⟩
    · rw [missing absent] at became
      exact became
    · rw [other present] at became
      exact became

/-- A program of the wrong format converts nothing, and the engine counts as available. The program
that describes files is not found, and the one upload is given back as it came. -/
theorem settles_unstarted_not_found :
    let e : Engine := Engine.ofSettings (.standard "data" "uploads" "output") "" ""
    let x := ExportService.ofSettings (.standard "data" "uploads" "output")
    let w : World := ⟨⟨⟨[(["uploads"], .directory)]⟩, 0.0, 0⟩, ⟨⟨true, .error .notFound,
      fun _ => .error .notFound, .error (.other 8 "Exec format error"), .error .denied, false⟩,
      .never, []⟩⟩
    let uploads : List Upload := [⟨some "a.mp4", some "video/mp4", [.ok [0x41]]⟩]
    let form : ExportForm := ⟨.decoded (.list [.object [("id", .text "1"),
      ("mediaId", .text "a.mp4"), ("duration", .int 1)]]), .absent, .absent, .absent⟩
    (w.run (e.convert "a" "b" false ⟨none, none, none⟩).run).1 =
        .error (.fault (.system ⟨.other 8 "Exec format error", "ffmpeg"⟩)) ∧
      Strategy.passthrough.Serves (w.run (x.exportForm uploads form ⟨false, false⟩).run).1 := by
  intro e x w uploads form
  obtain ⟨tasks, exports⟩ := settles_unstarted e
  obtain ⟨failure, event, ran, -, -, other⟩ :=
    tasks (.convert "a" "b" false ⟨none, none, none⟩) w (.other 8 "Exec format error") rfl trivial
  refine ⟨(congrArg Prod.fst ran).trans (congrArg Except.error (other nofun)), ?_⟩
  have asked : ∃ failure ∈ (x.readForm form).toOption.bind fun request =>
      (w.run (x.storage.storeAll label uploads).run).1.toOption.bind fun stored =>
        (x.history stored request ⟨false, false⟩
          (w.run (x.storage.storeAll label uploads).run).2).findSome? Exchange.probeFailure?,
      failure.isCancellation = false := by
    decide +kernel
  obtain ⟨failure, found, calm⟩ := asked
  obtain ⟨request, read, found⟩ := Option.bind_eq_some_iff.1 found
  obtain ⟨stored, kept, found⟩ := Option.bind_eq_some_iff.1 found
  obtain ⟨exchange, mem, probed⟩ := List.exists_of_findSome?_eq_some found
  obtain ⟨path, started, failed⟩ := Exchange.exists_of_probeFailure? probed
  refine (exports x rfl uploads form request stored ⟨false, false⟩ w _ (List.cons_ne_nil _ _)
    (toOption_eq_some_iff.1 read) (Prod.ext (toOption_eq_some_iff.1 kept) rfl) exchange mem
    (.probe path) .notFound started rfl fun cancelled => ?_).1 rfl
  cases failed.symm.trans cancelled
  cases calm

/-- The program that describes files may not be run, and the export fails with just that. -/
theorem unstarted_denied :
    let x := ExportService.ofSettings (.standard "data" "uploads" "output")
    let w : World := ⟨⟨⟨[(["uploads"], .directory)]⟩, 0.0, 0⟩, ⟨⟨true, .error .denied,
      fun _ => .error .denied, .error .denied, .error .denied, false⟩, .never, []⟩⟩
    let uploads : List Upload := [⟨some "a.mp4", some "video/mp4", [.ok [0x41]]⟩]
    let form : ExportForm := ⟨.decoded (.list [.object [("id", .text "1"),
      ("mediaId", .text "a.mp4"), ("duration", .int 1)]]), .absent, .absent, .absent⟩
    (w.run (x.exportForm uploads form ⟨false, false⟩).run).1 =
      .error (.fault (.system ⟨.denied, "ffprobe"⟩)) := by
  intro x w uploads form
  have refused : Act.refusal? (w.run (x.exportForm uploads form ⟨false, false⟩).run).1 =
      some ⟨.denied, "ffprobe"⟩ := by
    decide +kernel
  exact Act.refusal?_eq_some_iff.1 refused

end ExportService

end Splice
