import Splice.Proofs.Export.Agreement
import Splice.Proofs.Export.Course
import Splice.Proofs.Export.Dialogue

/-!
# The calls of an export

The calls of an export of stored uploads come in one order (`Orderly`): whether the engine is there,
then the descriptions of the files, then the compiler, then the rendering of the plan that the
compiler has made. `Ended` says how it ends and which call is to blame, and
`ExportService.orderly_history` that both hold of every export of uploads that have passed the
check.
-/

namespace Splice

open Storage World

/-! ## The order of the calls -/

/-- The calls that have the engine describe the assets that are no pictures, in order. -/
def AssetTable.probes (assets : AssetTable) : List Call :=
  (assets.filter fun row => row.2.kind ≠ .image).map fun row => .probe row.2.source

theorem AssetTable.probes_cons (row : String × MediaAsset) (rest : AssetTable) :
    probes (row :: rest) = probes [row] ++ probes rest := by
  unfold probes
  rw [← List.map_append, ← List.filter_append, List.singleton_append]

/-- The order in which an export calls. It asks whether the engine is there, and if so about its
files one by one, as far as it comes; when all are described it has the timeline compiled; and the
plan that comes of this it has rendered. -/
inductive Orderly (x : ExportService) (assets : AssetTable) (timeline : Timeline)
    (request : ExportRequest) (attendance : Attendance) : List Exchange → Prop
  | arriving (outcome : Except Failure Bool) :
      Orderly x assets timeline request attendance [⟨.isAvailable, outcome⟩]
  | asking {asked : List Exchange} (calls : asked.map Exchange.call <+: assets.probes) :
      Orderly x assets timeline request attendance (⟨.isAvailable, .ok true⟩ :: asked)
  | compiling {asked : List Exchange} {described : AssetTable} {settings : RenderSettings}
      {outcome : Except Failure Plan} (calls : asked.map Exchange.call = assets.probes)
      (answers : assets.Described described)
      (given : request.exportSettings.toRenderSettings x.settings = .ok settings) :
      Orderly x assets timeline request attendance (⟨.isAvailable, .ok true⟩ :: asked ++
        [⟨.compile timeline described (ExportService.musicTrack described request) settings,
          outcome⟩])
  | rendering {asked : List Exchange} {described : AssetTable} {settings : RenderSettings}
      {plan : Plan} {output : String} {outcome : Except Failure String}
      (calls : asked.map Exchange.call = assets.probes) (answers : assets.Described described)
      (given : request.exportSettings.toRenderSettings x.settings = .ok settings) :
      Orderly x assets timeline request attendance (⟨.isAvailable, .ok true⟩ :: asked ++
        [⟨.compile timeline described (ExportService.musicTrack described request) settings,
          .ok plan⟩,
        ⟨.render plan (fun key => (described.get? key).map MediaAsset.source) output attendance,
          outcome⟩])

/-- Whether a call is one of the engine. -/
def Call.OfEngine : Call → Prop
  | .compile .. => False
  | _ => True

/-- Whether a call has the engine render. -/
def Call.Renders : Call → Prop
  | .render .. => True
  | _ => False

instance (call : Call) : Decidable call.Renders :=
  match call with
  | .isAvailable | .probe _ | .compile .. => isFalse id
  | .render .. => isTrue trivial

theorem Call.Renders.ofEngine {call : Call} (renders : call.Renders) : call.OfEngine := by
  cases call <;> trivial

/-- Whether the engine rendered and returned. -/
def Returned (history : List Exchange) : Prop :=
  ∃ exchange ∈ history, exchange.call.Renders ∧ ∃ answer, exchange.outcome = .ok answer

/-- Whether a problem is one of validation or of compilation. -/
def Problem.IsRefusal (p : Problem) : Prop :=
  .validation ∈ p.kind.lineage ∨ .compilation ∈ p.kind.lineage

/-- What is expected of an engine that renders: that it does not fail as the checks of the timeline
do, and that it leaves a clock that shows the time. -/
def EngineAccess.Proper (engine : EngineAccess) : Prop :=
  ∀ plan locations output attendance w,
    (engine.render plan locations output attendance).Ensures w fun outcome later =>
      (∀ p, outcome = .error (.problem p) → ¬ p.IsRefusal) ∧
        ∀ time, w.time = .ok time → ∃ now, later.time = .ok now

theorem EngineAccess.Proper.time {engine : EngineAccess} (proper : engine.Proper) {plan : Plan}
    {locations : String → Option String} {output : String} {attendance : Attendance}
    {w later : World} {outcome : Except Failure String}
    (ran : w.run (engine.render plan locations output attendance).run = (outcome, later))
    {time : Int} (shown : w.time = .ok time) : ∃ now, later.time = .ok now := by
  have steady := (proper plan locations output attendance w).2 time shown
  rwa [ran] at steady

/-- What becomes of a rendering is not refused as the checks of the timeline refuse. -/
theorem Engine.not_isRefusal_of_conclusion {output : String} {stderr : Bytes}
    {defect : Option Fault} {ending : Ending} {p : Problem}
    (failed : conclusion output stderr defect ending = .error (.problem p)) : ¬ p.IsRefusal := by
  cases ending with
  | abandoned => cases defect <;> cases failed
  | stopped reason =>
    cases reason <;> cases defect <;> cases failed <;>
      simp [Problem.IsRefusal, Problem.kind, ReportKind.lineage]
  | ended status =>
    cases defect with
    | some fault => cases failed
    | none =>
      replace failed : outcome output stderr status = .error (.problem p) := failed
      unfold outcome at failed
      split at failed <;> cases failed
      simp [Problem.IsRefusal, Problem.kind, ReportKind.lineage]

/-- The engine of the two programs is as expected. -/
theorem Engine.proper_access (e : Engine) : e.access.Proper := by
  intro plan locations output attendance w
  refine ⟨fun p failed => ?_, fun time shown => ?_⟩
  · replace failed : (w.run (e.render plan locations output attendance).run).1 =
      .error (.problem p) := failed
    cases written : plan.command locations output e.binary true with
    | error fault =>
      rw [run_render_of_fault attendance written] at failed
      cases failed
    | ok argv =>
      rcases start_cases w argv output with
        ⟨error, later, refusal, -⟩ | ⟨rendering, begun, -, started, -⟩
      · rw [run_render_of_refused attendance written refusal] at failed
        unfold refused at failed
        split at failed <;> cases failed
        simp [Problem.IsRefusal, Problem.kind, ReportKind.lineage]
      · rw [run_render_of_started attendance written started, run_attend, run_conclude] at failed
        exact not_isRefusal_of_conclusion failed
  · show ∃ now, World.time (w.run (e.render plan locations output attendance).run).2 = .ok now
    rcases run_render_cases e plan locations output attendance w with
      ⟨failure, later, run, alike⟩ | ⟨rendering, begun, later, -, wrote, since, -, run⟩
    · rw [run, time_congr (congrArg SharedWorld.clock alike.shared)]
      exact ⟨time, shown⟩
    · rw [run, time_congr (since.clock.trans wrote.1.clock)]
      exact ⟨time, shown⟩

/-- How the export of stored uploads ends that have passed the check: with a rendering, with the
failure of a call, with an engine that is not there, or with a fault of its own, and then no
rendering has returned if the engine is as expected. -/
inductive Ended (engine : EngineAccess) (history : List Exchange) :
    Except Failure ExportResult → Prop
  | rendered {result : ExportResult} (returned : Returned history)
      (compiled : result.strategy = .compiled) : Ended engine history (.ok result)
  | failed {exchange : Exchange} {failure : Failure} (mem : exchange ∈ history)
      (called : exchange.call.OfEngine) (fails : exchange.Fails failure) :
      Ended engine history (.error failure)
  | refused {exchange : Exchange} {p : Problem} (mem : exchange ∈ history)
      (compiler : ¬ exchange.call.OfEngine) (fails : exchange.Fails (.problem p))
      (kind : p.kind = .invalidDuration) : Ended engine history (.error (.problem p))
  | absent (mem : ⟨.isAvailable, .ok false⟩ ∈ history) :
      Ended engine history (.error (.problem (.engineNotInstalled engine.binary)))
  | faulty {fault : Fault} (present : ⟨.isAvailable, .ok true⟩ ∈ history)
      (unreturned : engine.Proper → ¬ Returned history) :
      Ended engine history (.error (.fault fault))

namespace Dialogue

variable {x : ExportService}

theorem ensures_describe (key : String) (asset : MediaAsset) (w : World) :
    (describe asset).Ensures x w fun history outcome _ =>
      history.map Exchange.call = AssetTable.probes [(key, asset)] ∧
        ∀ failure, outcome = .error failure → ∃ exchange ∈ history, exchange.Fails failure := by
  unfold describe
  split
  case isTrue image =>
    refine ensures_pure.2 ⟨?_, nofun⟩
    simp [AssetTable.probes, image]
  case isFalse timed =>
    have calls : AssetTable.probes [(key, asset)] = [.probe asset.source] := by
      simp [AssetTable.probes, timed]
    rw [ensures_bind, ensures_ask]
    refine Act.ensures_run.mono fun outcome later _ => ?_
    cases outcome with
    | error failure =>
      refine ⟨calls.symm, fun other same => ⟨_, List.mem_singleton_self _, ?_⟩⟩
      cases same
      rfl
    | ok description => exact ensures_pure.2 ⟨calls.symm, nofun⟩

theorem ensures_describeAll (assets : AssetTable) (w : World) :
    (describeAll assets).Ensures x w fun history outcome _ =>
      match outcome with
      | .ok _ => history.map Exchange.call = assets.probes
      | .error failure => history.map Exchange.call <+: assets.probes ∧
          ∃ exchange ∈ history, exchange.Fails failure := by
  induction assets generalizing w with
  | nil => exact ensures_pure.2 rfl
  | cons row rest ih =>
    rw [AssetTable.probes_cons]
    unfold describeAll
    rw [ensures_bind]
    refine (ensures_describe row.1 row.2 w).mono fun first outcome between asked => ?_
    obtain ⟨calls, failed⟩ := asked
    cases outcome with
    | error failure => exact ⟨calls ▸ List.prefix_append _ _, failed failure rfl⟩
    | ok described =>
      dsimp only
      rw [ensures_bind]
      refine (ih between).mono fun others outcome later rest => ?_
      cases outcome with
      | error failure =>
        obtain ⟨calls', exchange, mem, failed⟩ := rest
        refine ⟨?_, exchange, List.mem_append_right _ mem, failed⟩
        rw [List.map_append, calls]
        exact (List.prefix_append_right_inj _).2 calls'
      | ok assets =>
        refine ensures_pure.2 ?_
        rw [List.append_nil, List.map_append, calls, rest]

/-! ## The course of the calls -/

/-- A call behind which others follow before the timeline is compiled. -/
theorem of_mem_asked {assets : AssetTable} {asked : List Exchange}
    (calls : asked.map Exchange.call <+: assets.probes) {exchange : Exchange}
    (mem : exchange ∈ ⟨.isAvailable, .ok true⟩ :: asked) :
    exchange.call.OfEngine ∧ ¬ exchange.call.Renders ∧ exchange ≠ ⟨.isAvailable, .ok false⟩ := by
  rcases List.mem_cons.1 mem with rfl | mem
  · exact ⟨trivial, id, by simp⟩
  · obtain ⟨row, -, same⟩ := List.mem_map.1 (calls.subset (List.mem_map_of_mem mem))
    rw [← same]
    refine ⟨trivial, id, ?_⟩
    rintro rfl
    cases same

theorem not_returned_of_asked {assets : AssetTable} {asked : List Exchange}
    (calls : asked.map Exchange.call <+: assets.probes) :
    ¬ Returned (⟨.isAvailable, .ok true⟩ :: asked) := by
  rintro ⟨exchange, mem, renders, -⟩
  exact (of_mem_asked calls mem).2.1 renders

theorem not_returned_snoc {history : List Exchange} {exchange : Exchange}
    (before : ¬ Returned history) (other : ¬ exchange.call.Renders) :
    ¬ Returned (history ++ [exchange]) := by
  rintro ⟨found, mem, renders, answered⟩
  rcases List.mem_append.1 mem with mem | mem
  · exact before ⟨found, mem, renders, answered⟩
  · rw [List.mem_singleton.1 mem] at renders
    exact other renders

section

variable {assets : AssetTable} {timeline : Timeline} {request : ExportRequest}
  {attendance : Attendance} {history : List Exchange}
  (orderly : Orderly x assets timeline request attendance history)
include orderly

/-- Where a call of an export stands: it is the only one, and asks whether the engine is there, or it
comes in between, or it has the engine render and is the last. -/
theorem stands_of_mem {exchange : Exchange} (mem : exchange ∈ history) :
    history = [exchange] ∧ exchange.call = .isAvailable ∨
      ¬ exchange.call.Renders ∧ exchange ≠ ⟨.isAvailable, .ok false⟩ ∨
      exchange.call.Renders ∧ history.getLast? = some exchange := by
  cases orderly with
  | arriving outcome =>
    obtain rfl := List.mem_singleton.1 mem
    exact .inl ⟨rfl, rfl⟩
  | asking calls => exact .inr (.inl (of_mem_asked calls mem).2)
  | compiling calls =>
    refine .inr (.inl ?_)
    rcases List.mem_append.1 mem with mem | mem
    · exact (of_mem_asked ⟨[], (List.append_nil _).trans calls⟩ mem).2
    · obtain rfl := List.mem_singleton.1 mem
      exact ⟨id, by simp⟩
  | rendering calls =>
    refine .inr ?_
    rcases List.mem_append.1 mem with mem | mem
    · exact .inl (of_mem_asked ⟨[], (List.append_nil _).trans calls⟩ mem).2
    · rcases List.mem_cons.1 mem with rfl | mem
      · exact .inl ⟨id, by simp⟩
      · obtain rfl := List.mem_singleton.1 mem
        exact .inr ⟨trivial, by rw [List.getLast?_append]; rfl⟩

/-- A rendering that an export calls for is its last call. -/
theorem getLast?_of_renders {exchange : Exchange} (mem : exchange ∈ history)
    (renders : exchange.call.Renders) : history.getLast? = some exchange := by
  rcases stands_of_mem orderly mem with ⟨-, asks⟩ | ⟨other, -⟩ | ⟨-, last⟩
  · rw [asks] at renders
    exact renders.elim
  · exact absurd renders other
  · exact last

/-- Of an engine that is not there nothing more is asked. -/
theorem eq_of_absent (mem : ⟨.isAvailable, .ok false⟩ ∈ history) :
    history = [⟨.isAvailable, .ok false⟩] := by
  rcases stands_of_mem orderly mem with ⟨only, -⟩ | ⟨-, other⟩ | ⟨renders, -⟩
  · exact only
  · exact absurd rfl other
  · exact renders.elim

end

/-- A plan is rendered at most once, and what the rendering returns or fails with decides, unless
the engine leaves a clock that does not show the time. -/
theorem ensures_renderPlan (stored : List StoredFile) (assets : AssetTable)
    (settings : RenderSettings) (plan : Plan) (attendance : Attendance) (w : World) :
    (renderPlan x stored assets settings plan attendance).Ensures x w fun history outcome _ =>
      (history = [] ∧ ∃ fault, outcome = .error (.fault fault)) ∨
        ∃ output rendered,
          history = [⟨.render plan (fun key => (assets.get? key).map MediaAsset.source) output
            attendance, rendered⟩] ∧
          match rendered with
          | .error failure => outcome = .error failure
          | .ok _ => (∃ result, outcome = .ok result ∧ result.strategy = .compiled) ∨
              ¬ x.engine.Proper ∧ ∃ fault, outcome = .error (.fault fault) := by
  unfold renderPlan
  rw [ensures_bind, ensures_ofAct, ExportService.ensures_outputPath]
  cases timed : w.time with
  | error failure =>
    obtain ⟨fault, rfl⟩ := World.exists_fault_of_time timed
    exact .inl ⟨rfl, fault, rfl⟩
  | ok time =>
    dsimp only
    rw [ensures_bind, ensures_ask]
    refine Act.ensures_run.mono fun rendered after ran => ?_
    cases rendered with
    | error failure => exact .inr ⟨_, .error failure, rfl, rfl⟩
    | ok path =>
      dsimp only
      rw [ensures_bind, ensures_ofAct, ensures_milliseconds]
      cases shown : after.time with
      | ok now => exact ensures_pure.2 (.inr ⟨_, .ok path, rfl, .inl ⟨_, rfl, rfl⟩⟩)
      | error failure =>
        obtain ⟨fault, rfl⟩ := World.exists_fault_of_time shown
        refine .inr ⟨_, .ok path, rfl, .inr ⟨fun proper => ?_, fault, rfl⟩⟩
        obtain ⟨now, shown'⟩ := proper.time ran timed
        cases shown.symm.trans shown'

section

variable {stored : List StoredFile} {request : ExportRequest} {assets : AssetTable}
  {timeline : Timeline} (valid : x.validate stored request = .ok (assets, timeline))
include valid

/-- The way through the engine, once it is known to be there. -/
theorem ensures_exportCompiled (attendance : Attendance) (w : World) :
    (exportCompiled x stored request assets timeline attendance).Ensures x w
      fun history outcome _ =>
        Orderly x assets timeline request attendance (⟨.isAvailable, .ok true⟩ :: history) ∧
          Ended x.engine (⟨.isAvailable, .ok true⟩ :: history) outcome := by
  have answers := x.ensures_describeAll_described assets w
  unfold exportCompiled
  rw [ensures_bind]
  refine ((ensures_describeAll assets w).and answers).mono
    fun asked outcome between ⟨calls, answers⟩ => ?_
  cases outcome with
  | error failure =>
    obtain ⟨calls, exchange, mem, fails⟩ := calls
    have mem : exchange ∈ ⟨.isAvailable, .ok true⟩ :: asked := List.mem_cons_of_mem _ mem
    exact ⟨.asking calls, .failed mem (of_mem_asked calls mem).1 fails⟩
  | ok described =>
    have answers : assets.Described described := answers described rfl
    have calls : asked.map Exchange.call = assets.probes := calls
    have asking : asked.map Exchange.call <+: assets.probes := calls ▸ List.prefix_rfl
    have unrendered := not_returned_of_asked asking
    dsimp only
    rw [ensures_bind, ensures_ofAct, Act.ensures_orFailure]
    cases given : request.exportSettings.toRenderSettings x.settings with
    | error fault =>
      rw [List.append_nil]
      exact ⟨.asking asking, .faulty List.mem_cons_self fun _ => unrendered⟩
    | ok settings =>
      dsimp only [Except.mapError]
      rw [ensures_bind, ensures_ask, Call.act, Act.ensures_orProblem]
      cases compiled : Compile.compile x.encoding timeline described
        (ExportService.musicTrack described request) settings with
      | error problem =>
        have lacking := ExportService.unmeasured_of_compile valid answers compiled
        exact ⟨.compiling calls answers given, .refused (List.mem_append_right (_ :: asked)
          List.mem_cons_self) id rfl lacking.kind_eq⟩
      | ok plan =>
        refine (ensures_renderPlan stored described settings plan attendance between).mono ?_
        rintro history outcome - (⟨rfl, fault, rfl⟩ | ⟨output, rendered, rfl, ended⟩)
        · exact ⟨.compiling calls answers given,
            .faulty List.mem_cons_self fun _ => not_returned_snoc unrendered id⟩
        · refine ⟨.rendering calls answers given, ?_⟩
          cases rendered with
          | error failure =>
            rw [show outcome = .error failure from ended]
            exact .failed (List.mem_append_right (_ :: asked)
              (List.mem_cons_of_mem _ List.mem_cons_self)) trivial rfl
          | ok path =>
            rcases ended with ⟨result, rfl, compiled⟩ | ⟨improper, fault, rfl⟩
            · exact .rendered ⟨_, List.mem_append_right (_ :: asked)
                (List.mem_cons_of_mem _ List.mem_cons_self), trivial, path, rfl⟩ compiled
            · exact .faulty List.mem_cons_self fun proper => absurd proper improper

/-- The export of stored uploads that have passed the check. -/
theorem ensures_exportStored (attendance : Attendance) (w : World) :
    (exportStored x stored request attendance).Ensures x w fun history outcome _ =>
      Orderly x assets timeline request attendance history ∧
        Ended x.engine history outcome := by
  unfold exportStored
  rw [ensures_bind, ensures_ofAct, Act.ensures_orProblem, valid]
  dsimp only [Except.mapError]
  rw [ensures_bind, ensures_ask]
  refine Act.ensures_run.mono fun outcome between _ => ?_
  cases outcome with
  | error failure => exact ⟨.arriving _, .failed List.mem_cons_self trivial rfl⟩
  | ok available =>
    cases available with
    | true => exact ensures_exportCompiled valid attendance between
    | false => exact ensures_ofAct.2 ⟨.arriving _, .absent List.mem_cons_self⟩

end

end Dialogue

namespace ExportService

variable {x : ExportService} {stored : List StoredFile} {request : ExportRequest}

/-! ## The calls of an export of stored uploads -/

/-- The calls of an export of stored uploads, with what came of them. -/
def history (x : ExportService) (stored : List StoredFile) (request : ExportRequest)
    (attendance : Attendance) (w : World) : List Exchange :=
  (Dialogue.exportStored x stored request attendance).history x w

/-- How an export of stored uploads ends. -/
def ending (x : ExportService) (stored : List StoredFile) (request : ExportRequest)
    (attendance : Attendance) (w : World) : Except Failure ExportResult :=
  (w.run (x.exportStored stored request attendance).run).1

theorem last_of_failed {attendance : Attendance} {w : World} {exchange : Exchange}
    {failure : Failure} (mem : exchange ∈ x.history stored request attendance w)
    (fails : exchange.Fails failure) :
    (x.history stored request attendance w).getLast? = some exchange ∧
      x.ending stored request attendance w = .error failure := by
  exact Dialogue.last_of_failed mem fails

/-- A timeline that does not pass the check is reported, and nobody is called. -/
theorem history_of_invalid {p : Problem} (invalid : x.validate stored request = .error p)
    (attendance : Attendance) (w : World) :
    x.history stored request attendance w = [] ∧
      x.ending stored request attendance w = .error (.problem p) := by
  have silent : (Dialogue.exportStored x stored request attendance).Ensures x w
      fun history outcome _ => history = [] ∧ outcome = .error (.problem p) := by
    unfold Dialogue.exportStored
    rw [Dialogue.ensures_bind, Dialogue.ensures_ofAct, Act.ensures_orProblem, invalid]
    exact ⟨rfl, rfl⟩
  exact silent

/-- An engine that fails when it is asked whether it is there is not asked anything else. -/
theorem history_of_unanswered {assets : AssetTable} {timeline : Timeline}
    (valid : x.validate stored request = .ok (assets, timeline)) {failure : Failure}
    (fails : x.engine.isAvailable = throw failure) (attendance : Attendance) (w : World) :
    x.history stored request attendance w = [⟨.isAvailable, .error failure⟩] ∧
      x.ending stored request attendance w = .error failure := by
  have alone : (Dialogue.exportStored x stored request attendance).Ensures x w
      fun history outcome _ =>
        history = [⟨.isAvailable, .error failure⟩] ∧ outcome = .error failure := by
    unfold Dialogue.exportStored
    rw [Dialogue.ensures_bind, Dialogue.ensures_ofAct, Act.ensures_orProblem, valid]
    dsimp only [Except.mapError]
    rw [Dialogue.ensures_bind, Dialogue.ensures_ask, Call.act, fails]
    exact ⟨rfl, rfl⟩
  exact alone

/-- The calls of an export of uploads that have passed the check come in order, and how it ends is
told by them. -/
theorem orderly_history {assets : AssetTable} {timeline : Timeline}
    (valid : x.validate stored request = .ok (assets, timeline)) (attendance : Attendance)
    (w : World) :
    Orderly x assets timeline request attendance (x.history stored request attendance w) ∧
      Ended x.engine (x.history stored request attendance w)
        (x.ending stored request attendance w) := by
  exact Dialogue.ensures_exportStored valid attendance w

end ExportService

end Splice
