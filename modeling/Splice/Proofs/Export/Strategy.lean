import Splice.Proofs.Export.Calls
import Splice.Proofs.Storage.Records

/-!
# Which strategy serves an export

What an export gives back can be told from its calls (`ExportService.exportForm_strategy`): the
result of the engine if a rendering returned, one of the files as it came if the engine is not there
or cannot be invoked, and in any other case the failure of the call that failed. Since the order of
the calls is fixed (`Orderly`) and a call that fails is the last, no two of these meet.
-/

namespace Splice

open Storage World

/-- Whether an export gave back a result of a strategy. -/
def Strategy.Serves (strategy : Strategy) (outcome : Except Failure ExportResult) : Prop :=
  ∃ result, outcome = .ok result ∧ result.strategy = strategy

theorem Strategy.serves_iff {strategy : Strategy} {outcome : Except Failure ExportResult} :
    strategy.Serves outcome ↔ outcome.toOption.map ExportResult.strategy = some strategy := by
  simp only [Serves, Option.map_eq_some_iff, toOption_eq_some_iff]

namespace ExportService

variable {x : ExportService} {stored : List StoredFile} {request : ExportRequest}

/-- A failed export is served by a pass-through if the engine cannot be invoked; otherwise the
failure is passed on. -/
theorem ensures_recover_strategy (filled : stored ≠ []) (request : ExportRequest)
    (failure : Failure) (w : World) :
    (recover stored request failure).Ensures w fun outcome _ =>
      if failure.isUnavailable then Strategy.passthrough.Serves outcome
      else outcome = .error failure := by
  split
  case isTrue unavailable =>
    obtain ⟨chosen, -, found⟩ := exists_preferred?_eq filled request
    exact ensures_recover_of_unavailable unavailable found
      (ensures_passThrough_iff.2 ⟨_, rfl, rfl⟩)
  case isFalse available =>
    exact ensures_recover_of_available (Bool.eq_false_iff.2 available) rfl

/-- Behind the storing of its uploads an export is that of the stored files, and what becomes of its
failures. -/
theorem ensures_exportForm_of_stored {uploads : List Upload} (filled : uploads ≠ [])
    {form : ExportForm} (read : x.readForm form = .ok request)
    (attendance : Attendance) {w stocked : World}
    (kept : w.run (x.storage.storeAll label uploads).run = (.ok stored, stocked))
    {post : Except Failure ExportResult → World → Prop}
    (h : (x.exportStored stored request attendance).Ensures stocked fun outcome last =>
        match outcome with
        | .ok result => post (.ok result) last
        | .error failure => (recover stored request failure).Ensures last post) :
    (x.exportForm uploads form attendance).Ensures w post := by
  unfold exportForm
  rw [if_neg (by simpa using filled), read]
  show Act.Ensures (x.storage.storeAll label uploads >>= _) w post
  rw [Act.ensures_bind]
  refine Act.ensures_run.mono fun outcome later ran => ?_
  cases kept.symm.trans ran
  dsimp only
  rw [Act.ensures_bind, Act.ensures_attempt]
  refine h.mono fun outcome last rest => ?_
  cases outcome <;> exact rest

/-- A problem that the check reports does not mean that the engine cannot be invoked. -/
theorem isUnavailable_of_validate {p : Problem} (invalid : x.validate stored request = .error p) :
    (Failure.problem p).isUnavailable = false := by
  have first : (Compile.objections (x.entriesOf request) (.ofStored stored request.mediaFiles)
      false none).head? = some p := by
    rw [← Compile.refusal?_validateEntries, ← Compile.refusal?_eq_some_iff.2 invalid]
    exact (Compile.refusal?_map _ _).symm
  have kind : p.kind ∈ Compile.objectionKinds :=
    Compile.map_kind_objections_subset _ _ _ _ (List.mem_map_of_mem (List.mem_of_mem_head? first))
  have other : p.kind ≠ .engineUnavailable := fun same => absurd (same ▸ kind) (by decide)
  exact beq_eq_false_iff_ne.2 other

/-! ## What the calls tell about the ending -/

section

variable {assets : AssetTable} {timeline : Timeline}
  (valid : x.validate stored request = .ok (assets, timeline)) {attendance : Attendance} {w : World}
include valid

/-- When a rendering has returned, the result of the engine is given back. -/
theorem exists_result_of_returned (proper : x.engine.Proper)
    (returned : Returned (x.history stored request attendance w)) :
    ∃ result, x.ending stored request attendance w = .ok result ∧ result.strategy = .compiled := by
  obtain ⟨orderly, ended⟩ := orderly_history valid attendance w
  obtain ⟨exchange, mem, renders, answer, answered⟩ := returned
  have last := Dialogue.getLast?_of_renders orderly mem renders
  have unfailed {other : Exchange} {failure : Failure}
      (mem' : other ∈ x.history stored request attendance w) (fails : other.Fails failure) :
      False := by
    obtain rfl := Option.some_inj.1 (last.symm.trans (last_of_failed mem' fails).1)
    cases answered.symm.trans fails
  generalize x.ending stored request attendance w = outcome at ended
  cases ended with
  | rendered _ compiled => exact ⟨_, rfl, compiled⟩
  | failed mem' _ fails => exact (unfailed mem' fails).elim
  | refused mem' _ fails _ => exact (unfailed mem' fails).elim
  | absent mem' =>
    rw [Dialogue.eq_of_absent orderly mem'] at mem
    rw [List.mem_singleton.1 mem] at renders
    exact renders.elim
  | faulty _ unreturned => exact (unreturned proper ⟨exchange, mem, renders, answer, answered⟩).elim

/-- The engine turns out not to be there, or cannot be invoked. -/
def Unavailable (history : List Exchange) : Prop :=
  ⟨.isAvailable, .ok false⟩ ∈ history ∨ ∃ exchange ∈ history, exchange.call.OfEngine ∧
    ∃ failure, exchange.Fails failure ∧ failure.isUnavailable

/-- An export of stored uploads fails with an engine that cannot be invoked exactly if the engine
said so. -/
theorem ending_unavailable_iff :
    (∃ failure, x.ending stored request attendance w = .error failure ∧ failure.isUnavailable) ↔
      Unavailable (x.history stored request attendance w) := by
  obtain ⟨orderly, ended⟩ := orderly_history valid attendance w
  constructor
  · rintro ⟨failure, failed, unavailable⟩
    rw [failed] at ended
    cases ended with
    | failed mem engine fails => exact .inr ⟨_, mem, engine, failure, fails, unavailable⟩
    | @refused _ p mem compiler fails kind =>
      have other : p.isEngineUnavailable = false := by rw [Problem.isEngineUnavailable, kind]; rfl
      exact absurd unavailable (by simp [Failure.isUnavailable, other])
    | absent mem => exact .inl mem
    | faulty => cases unavailable
  · rintro (absent | ⟨exchange, mem, engine, failure, fails, unavailable⟩)
    · have alone := Dialogue.eq_of_absent orderly absent
      rw [alone] at ended
      generalize x.ending stored request attendance w = outcome at ended
      cases ended with
      | rendered returned _ =>
        obtain ⟨exchange, mem, renders, -⟩ := returned
        rw [List.mem_singleton.1 mem] at renders
        exact renders.elim
      | failed mem _ fails =>
        rw [List.mem_singleton.1 mem] at fails
        cases fails
      | refused mem _ fails _ =>
        rw [List.mem_singleton.1 mem] at fails
        cases fails
      | absent => exact ⟨_, rfl, rfl⟩
      | faulty present _ => simp at present
    · exact ⟨failure, (last_of_failed mem fails).2, unavailable⟩

/-- Once a rendering was called for, no problem of validation or of compilation is reported. -/
theorem not_isRefusal_of_renders (proper : x.engine.Proper) {exchange : Exchange}
    (mem : exchange ∈ x.history stored request attendance w) (renders : exchange.call.Renders)
    {p : Problem} (failed : x.ending stored request attendance w = .error (.problem p)) :
    ¬ p.IsRefusal := by
  obtain ⟨orderly, ended⟩ := orderly_history valid attendance w
  have last := Dialogue.getLast?_of_renders orderly mem renders
  rw [failed] at ended
  cases ended with
  | failed mem' engine fails =>
    obtain rfl := Option.some_inj.1 (last.symm.trans (last_of_failed mem' fails).1)
    obtain ⟨before, after, ran⟩ := Dialogue.exists_run_of_mem_history mem
    obtain ⟨call, outcome⟩ := exchange
    cases call with
    | render plan locations output attendance =>
      have honest := (proper plan locations output attendance before).1 p
      exact honest ((congrArg Prod.fst ran).trans fails)
    | _ => exact renders.elim
  | refused mem' compiler fails _ =>
    obtain rfl := Option.some_inj.1 (last.symm.trans (last_of_failed mem' fails).1)
    exact absurd renders.ofEngine compiler
  | absent => simp [Problem.IsRefusal, Problem.kind, ReportKind.lineage]

end

/-! ## Which strategy serves -/

/-- What becomes of the ending of an export of stored uploads. -/
def Becomes (ending outcome : Except Failure ExportResult) : Prop :=
  match ending with
  | .ok result => outcome = .ok result
  | .error failure =>
    if failure.isUnavailable then Strategy.passthrough.Serves outcome else outcome = .error failure

theorem becomes_of_stored {uploads : List Upload} (filled : uploads ≠ []) {form : ExportForm}
    (read : x.readForm form = .ok request) (attendance : Attendance) {w stocked : World}
    (kept : w.run (x.storage.storeAll label uploads).run = (.ok stored, stocked)) :
    Becomes (x.ending stored request attendance stocked)
      (w.run (x.exportForm uploads form attendance).run).1 := by
  have some : stored ≠ [] := by
    have each : List.Forall₂ (fun _ _ => True) uploads stored :=
      forall₂_storeAll (fun _ _ _ _ => trivial) uploads w stored (congrArg Prod.fst kept)
    rintro rfl
    exact filled (List.forall₂_nil_right_iff.1 each)
  suffices becomes : (x.exportForm uploads form attendance).Ensures w fun outcome _ =>
      Becomes (x.ending stored request attendance stocked) outcome from becomes
  refine ensures_exportForm_of_stored filled read attendance kept ?_
  refine Act.ensures_run.mono fun ended last ran => ?_
  have same : x.ending stored request attendance stocked = ended := congrArg Prod.fst ran
  rw [same]
  cases ended with
  | ok result => exact rfl
  | error failure => exact ensures_recover_strategy some request failure last

section

variable {ending outcome : Except Failure ExportResult} (became : Becomes ending outcome)
include became

theorem Becomes.eq_error_iff {failure : Failure} :
    outcome = .error failure ↔ ending = .error failure ∧ ¬ failure.isUnavailable := by
  cases ending with
  | ok result =>
    rw [show outcome = .ok result from became]
    simp
  | error other =>
    unfold Becomes at became
    dsimp only at became
    split at became
    case isTrue unavailable =>
      obtain ⟨result, rfl, -⟩ := became
      refine ⟨nofun, ?_⟩
      rintro ⟨same, available⟩
      cases same
      exact absurd unavailable available
    case isFalse available =>
      rw [became]
      refine ⟨fun same => ⟨same, ?_⟩, And.left⟩
      cases same
      exact available

/-- The result of the engine stays, and any other result is a file given back as it came. -/
theorem Becomes.serves_iff
    (engine : ∀ result, ending = .ok result → result.strategy = .compiled) :
    (Strategy.compiled.Serves outcome ↔ ∃ result, ending = .ok result) ∧
      (Strategy.passthrough.Serves outcome ↔
        ∃ failure, ending = .error failure ∧ failure.isUnavailable) := by
  cases ending with
  | ok result =>
    have compiled := engine result rfl
    rw [show outcome = .ok result from became]
    refine ⟨⟨fun _ => ⟨result, rfl⟩, fun _ => ⟨result, rfl, compiled⟩⟩, ?_, nofun⟩
    rintro ⟨other, same, passed⟩
    cases same
    cases compiled.symm.trans passed
  | error failure =>
    unfold Becomes at became
    dsimp only at became
    split at became
    case isTrue unavailable =>
      obtain ⟨result, rfl, passed⟩ := became
      refine ⟨⟨?_, nofun⟩, fun _ => ⟨failure, rfl, unavailable⟩, fun _ => ⟨result, rfl, passed⟩⟩
      rintro ⟨other, same, compiled⟩
      cases same
      cases compiled.symm.trans passed
    case isFalse available =>
      rw [became]
      refine ⟨⟨nofun, nofun⟩, nofun, ?_⟩
      rintro ⟨other, same, unavailable⟩
      cases same
      exact absurd unavailable available

end

/-- **Which strategy serves an export.** Behind the storing of its uploads an export whose timeline
does not pass the check calls nobody, and reports what the check has found. Otherwise its calls come
in order: whether the engine is there, what it knows about the files that are no pictures, the
compiler, and the rendering of the plan that the compiler has made. The result is that of the engine
exactly if a rendering returned; one of the files is given back as it came exactly if the engine
said that it is not there or cannot be invoked; every other failure of a call is passed on as it is,
and what fails besides is a fault. Once a rendering was called for, no problem of validation or of
compilation is reported. -/
theorem exportForm_strategy (proper : x.engine.Proper) {uploads : List Upload}
    (filled : uploads ≠ []) {form : ExportForm} (read : x.readForm form = .ok request)
    (attendance : Attendance) {w stocked : World}
    (kept : w.run (x.storage.storeAll label uploads).run = (.ok stored, stocked)) :
    let history := x.history stored request attendance stocked
    let outcome := (w.run (x.exportForm uploads form attendance).run).1
    (∀ p, x.validate stored request = .error p →
      history = [] ∧ outcome = .error (.problem p)) ∧
    ∀ assets timeline, x.validate stored request = .ok (assets, timeline) →
      Orderly x assets timeline request attendance history ∧
      (Strategy.compiled.Serves outcome ↔ Returned history) ∧
      (Strategy.passthrough.Serves outcome ↔ Unavailable history) ∧
      (∀ exchange ∈ history, ∀ failure, exchange.Fails failure → ¬ failure.isUnavailable →
        outcome = .error failure) ∧
      (∀ failure, outcome = .error failure →
        (∃ exchange ∈ history, exchange.Fails failure) ∨ ∃ fault, failure = .fault fault) ∧
      ((∃ exchange ∈ history, exchange.call.Renders) →
        ∀ p, outcome = .error (.problem p) → ¬ p.IsRefusal) := by
  intro history outcome
  have became := becomes_of_stored filled read attendance kept
  refine ⟨fun p invalid => ?_, fun assets timeline valid => ?_⟩
  · obtain ⟨silent, reported⟩ := history_of_invalid invalid attendance stocked
    refine ⟨silent, became.eq_error_iff.2 ⟨reported, ?_⟩⟩
    rw [isUnavailable_of_validate invalid]
    exact Bool.false_ne_true
  · obtain ⟨orderly, ended⟩ := orderly_history valid attendance stocked
    have returned (result : ExportResult)
        (h : x.ending stored request attendance stocked = .ok result) :
        Returned history ∧ result.strategy = .compiled := by
      rw [h] at ended
      cases ended with
      | rendered returned compiled => exact ⟨returned, compiled⟩
    obtain ⟨compiled, passed⟩ := became.serves_iff fun result h => (returned result h).2
    refine ⟨orderly, compiled.trans ⟨?_, fun h => ?_⟩,
      passed.trans (ending_unavailable_iff valid), fun exchange mem failure fails other => ?_,
      fun failure failed => ?_, ?_⟩
    · rintro ⟨result, h⟩
      exact (returned result h).1
    · obtain ⟨result, h, -⟩ := exists_result_of_returned valid proper h
      exact ⟨result, h⟩
    · exact became.eq_error_iff.2 ⟨(last_of_failed mem fails).2, other⟩
    · obtain ⟨failed, other⟩ := became.eq_error_iff.1 failed
      rw [failed] at ended
      cases ended with
      | failed mem _ fails => exact .inl ⟨_, mem, fails⟩
      | refused mem _ fails _ => exact .inl ⟨_, mem, fails⟩
      | absent => exact absurd rfl other
      | faulty => exact .inr ⟨_, rfl⟩
    · rintro ⟨exchange, mem, renders⟩ p failed
      exact not_isRefusal_of_renders valid proper mem renders (became.eq_error_iff.1 failed).1

/-- The engine is installed, but the program that describes files is not: the one upload is given
back as it came, for the engine cannot be invoked. -/
theorem exportForm_strategy_passthrough :
    let x := ExportService.ofSettings (.standard "data" "uploads" "output")
    let w : World := ⟨⟨⟨[(["uploads"], .directory)]⟩, 0.0, 0⟩, ⟨⟨true, .error .notFound,
      fun _ => .error .notFound, .error .notFound, .error .notFound, false⟩, .never, []⟩⟩
    let uploads : List Upload := [⟨some "a.mp4", some "video/mp4", [.ok [0x41]]⟩]
    let form : ExportForm := ⟨.decoded (.list [.object [("id", .text "1"),
      ("mediaId", .text "a.mp4"), ("duration", .int 1)]]), .absent, .absent, .absent⟩
    let run := w.run (x.exportForm uploads form ⟨false, false⟩).run
    run.1.toOption.map ExportResult.strategy = some .passthrough ∧
      ∃ request stored stocked, x.readForm form = .ok request ∧
        w.run (x.storage.storeAll label uploads).run = (.ok stored, stocked) ∧
        Unavailable (x.history stored request ⟨false, false⟩ stocked) := by
  intro x w uploads form run
  obtain ⟨request, read⟩ : ∃ request, x.readForm form = .ok request :=
    isOk_iff_exists.1 (by decide +kernel)
  obtain ⟨stored, kept⟩ : ∃ stored, (w.run (x.storage.storeAll label uploads).run).1 = .ok stored :=
    isOk_iff_exists.1 (by decide +kernel)
  have passed : run.1.toOption.map ExportResult.strategy = some .passthrough := by decide +kernel
  have served : Strategy.passthrough.Serves run.1 := Strategy.serves_iff.2 passed
  have kept : w.run (x.storage.storeAll label uploads).run = (.ok stored, _) := Prod.ext kept rfl
  obtain ⟨rejected, accepted⟩ := exportForm_strategy (Engine.proper_access _)
    (List.cons_ne_nil _ _) read ⟨false, false⟩ kept
  cases valid : x.validate stored request with
  | error p =>
    obtain ⟨result, same, -⟩ := served
    cases same.symm.trans (rejected p valid).2
  | ok validated =>
    obtain ⟨-, -, passthrough, -⟩ := accepted validated.1 validated.2 valid
    exact ⟨passed, request, stored, _, read, kept, passthrough.1 served⟩

/-- The engine cannot be invoked even to say whether it is there: the upload is given back as it
came, although nobody has said that the engine is not there, and neither a description nor a
rendering has failed. -/
theorem exportForm_strategy_unanswered :
    let standard := ExportService.ofSettings (.standard "data" "uploads" "output")
    let x : ExportService := { standard with engine := { standard.engine with
      isAvailable := throw (Failure.problem (.engineNotInstalled "ffmpeg")) } }
    let w : World := ⟨⟨⟨[(["uploads"], .directory)]⟩, 0.0, 0⟩, ⟨⟨true, .error .notFound,
      fun _ => .error .notFound, .error .notFound, .error .notFound, false⟩, .never, []⟩⟩
    let uploads : List Upload := [⟨some "a.mp4", some "video/mp4", [.ok [0x41]]⟩]
    let form : ExportForm := ⟨.decoded (.list [.object [("id", .text "1"),
      ("mediaId", .text "a.mp4"), ("duration", .int 1)]]), .absent, .absent, .absent⟩
    x.engine.Proper ∧ ∃ request stored stocked assets timeline,
      x.readForm form = .ok request ∧
      w.run (x.storage.storeAll label uploads).run = (.ok stored, stocked) ∧
      x.validate stored request = .ok (assets, timeline) ∧
      Strategy.passthrough.Serves (w.run (x.exportForm uploads form ⟨false, false⟩).run).1 ∧
      let history := x.history stored request ⟨false, false⟩ stocked
      ¬ (⟨.isAvailable, .ok false⟩ ∈ history ∨ ∃ exchange ∈ history,
        ((∃ path, exchange.call = .probe path) ∨ exchange.call.Renders) ∧
          ∃ failure, exchange.Fails failure ∧ failure.isUnavailable) := by
  intro standard x w uploads form
  have validated : ((w.run (x.storage.storeAll label uploads).run).1.toOption.bind fun stored =>
      (x.readForm form).toOption.bind fun request =>
        (x.validate stored request).toOption).isSome := by decide +kernel
  simp only [Option.isSome_iff_exists, Option.bind_eq_some_iff, toOption_eq_some_iff] at validated
  obtain ⟨⟨assets, timeline⟩, stored, kept, request, read, valid⟩ := validated
  have kept : w.run (x.storage.storeAll label uploads).run = (.ok stored, _) := Prod.ext kept rfl
  obtain ⟨alone, -⟩ := history_of_unanswered valid rfl ⟨false, false⟩ _
  refine ⟨Engine.proper_access (Engine.ofSettings standard.settings "" ""), request, stored, _,
    assets, timeline, read, kept, valid, Strategy.serves_iff.2 (by decide +kernel), ?_⟩
  dsimp only
  rw [alone]
  simp [Call.Renders]

end ExportService

end Splice
