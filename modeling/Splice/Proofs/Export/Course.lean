import Splice.Export.Service
import Splice.Proofs.Engine.Files
import Splice.Proofs.Export.Described
import Splice.Proofs.Storage.Storing

/-!
# The course of an export

Once its uploads are stored an export asks the engine about them, and has it render
(`ExportService.ensures_exportStored`). If that fails, it gives one of the files back as it came, of
which there is always one (`ExportService.exists_preferred?_eq`), or gives up.

In a fresh world nothing stands where a result goes (`ExportService.at?_output_eq_none`).
-/

namespace Splice

open Storage World Disk

/-! ## Assets and the files that they are made of -/

/-- Whether all assets of a table are made of stored files. -/
def AssetTable.MadeOf (stored : List StoredFile) (assets : AssetTable) : Prop :=
  ∀ key asset, assets.get? key = some asset → ∃ f ∈ stored, f.path = asset.source

theorem AssetTable.MadeOf.put {stored : List StoredFile} {assets : AssetTable}
    (h : MadeOf stored assets) {asset : MediaAsset} {f : StoredFile} (mem : f ∈ stored)
    (source : f.path = asset.source) (key : String) : MadeOf stored (assets.put key asset) := by
  intro other found put
  rw [Table.get?_put] at put
  split at put
  · cases put
    exact ⟨f, mem, source⟩
  · exact h other found put

theorem AssetTable.madeOf_ofStored (stored : List StoredFile)
    (manifest : Option (List ManifestItem)) : MadeOf stored (ofStored stored manifest) :=
  ofStored_induction manifest (fun _ _ found => by cases found)
    fun _ made asset _ mem source => made.put mem source asset.id

/-- Whether a failure means that the engine cannot be invoked at all. -/
def Failure.isUnavailable : Failure → Bool
  | .problem p => p.isEngineUnavailable
  | .fault _ => false

namespace ExportService

/-- Of files that are stored one is always preferred. -/
theorem exists_preferred?_eq {stored : List StoredFile} (filled : stored ≠ [])
    (request : ExportRequest) : ∃ f ∈ stored, preferred? stored request = some f := by
  have made := AssetTable.madeOf_ofStored stored request.mediaFiles
  suffices h : (preferred? stored request).isSome ∧
      ∀ f, preferred? stored request = some f → f ∈ stored by
    obtain ⟨f, found⟩ := Option.isSome_iff_exists.1 h.1
    exact ⟨f, h.2 f found, found⟩
  unfold preferred?
  dsimp only
  split
  case h_1 asset found =>
    refine ⟨?_, fun f found => List.mem_of_find?_eq_some found⟩
    obtain ⟨item, -, found⟩ := List.exists_of_findSome?_eq_some found
    obtain ⟨f, mem, source⟩ := made _ _ (Option.eq_some_of_filter_eq_some found)
    rw [List.find?_isSome]
    exact ⟨f, mem, by simp [source]⟩
  case h_2 =>
    refine ⟨?_, fun f found => ?_⟩
    · obtain ⟨head, rest, rfl⟩ := List.exists_cons_of_ne_nil filled
      rw [Option.isSome_or, List.head?_cons, Option.isSome_some, Bool.or_true]
    · rcases Option.or_eq_some_iff.1 found with found | ⟨-, found⟩
      · exact List.mem_of_find?_eq_some found
      · exact List.mem_of_head? found

/-! ## The way through the engine -/

section

variable {x : ExportService} {R : World → World → Prop} (keeps : x.engine.Keeps R)
include keeps

theorem ensures_describe (asset : MediaAsset) (w : World) :
    ((Dialogue.describe asset).act x).Ensures w fun _ later => R w later := by
  unfold Dialogue.describe
  split
  · exact Act.ensures_pure.2 (keeps.refl w)
  · rw [Dialogue.act_bind, Dialogue.act_ask, Call.act, Act.ensures_bind, Act.ensures_aside]
    refine (keeps.probe asset.source w).mono fun outcome between kept => ?_
    have after := keeps.trans kept (keeps.await between)
    cases between.await.1 with
    | true => exact after
    | false => cases outcome <;> exact after

theorem ensures_describeAll (assets : AssetTable) (w : World) :
    (x.describeAll assets).Ensures w fun _ later => R w later := by
  induction assets generalizing w with
  | nil => exact Act.ensures_pure.2 (keeps.refl w)
  | cons row rest ih =>
    rw [describeAll_cons, Act.ensures_bind]
    refine (ensures_describe keeps row.2 w).mono fun outcome between kept => ?_
    cases outcome with
    | error failure => exact kept
    | ok described =>
      dsimp only
      rw [Act.ensures_bind]
      refine (ih between).mono fun outcome later kept' => ?_
      cases outcome <;> exact keeps.trans kept kept'

end

/-- The path of the next result. -/
def nextOutput (x : ExportService) (w : World) (time : Int) (extension : String) : String :=
  Path.join x.storage.outputDir (front "export" time (w.shared.idsGiven + 1) ++ extension)

theorem ensures_outputPath {x : ExportService} {w : World} {format : OutputFormat}
    {post : Except Failure String → World → Prop} :
    (x.storage.outputPath format.name).Ensures w post ↔
      match w.time with
      | .ok time => post (.ok (x.nextOutput w time ("." ++ format.name))) w.afterId
      | .error e => post (.error e) w := by
  have bare : String.ofList (format.name.toList.dropWhile (· == '.')) = format.name := by
    cases format <;> decide
  unfold Storage.outputPath
  rw [Act.ensures_bind, ensures_uniqueName, bare]
  cases w.time <;> rfl

/-- What becomes of an export when the engine has rendered to a path, or has failed to. -/
def Concluded (stored : List StoredFile) (output : String) (rendered : Except Failure String)
    (after : World) (outcome : Except Failure ExportResult) : Prop :=
  match rendered.bind fun _ => after.time with
  | .error failure => outcome = .error failure
  | .ok _ => ∃ result, outcome = .ok result ∧ result.path = output ∧ result.strategy = .compiled ∧
      result.cleanupPaths = stored.map StoredFile.path ++ [result.path]

/-- Whether an engine was told to render, to a fresh path, where some world was reached, and what
became of the export then. -/
def Rendered (x : ExportService) (stored : List StoredFile) (attendance : Attendance)
    (reached : World → Prop) (outcome : Except Failure ExportResult) (later : World) : Prop :=
  ∃ plan locations time format asked rendered, reached asked ∧ asked.time = .ok time ∧
    let output := x.nextOutput asked time ("." ++ OutputFormat.name format)
    asked.afterId.run (x.engine.render plan locations output attendance).run = (rendered, later) ∧
      Concluded stored output rendered later outcome

section

variable {x : ExportService} {R : World → World → Prop} (keeps : x.engine.Keeps R)
include keeps

/-- The way through the engine fails while it is only asked, or the engine is told to render. -/
theorem ensures_exportCompiled (stored : List StoredFile) (request : ExportRequest)
    (assets : AssetTable) (timeline : Timeline) (attendance : Attendance) (w : World) :
    ((Dialogue.exportCompiled x stored request assets timeline attendance).act x).Ensures w
      fun outcome later => (R w later ∧ ∃ failure, outcome = .error failure) ∨
        x.Rendered stored attendance (R w) outcome later := by
  unfold Dialogue.exportCompiled
  rw [Dialogue.act_bind, Act.ensures_bind]
  refine (ensures_describeAll keeps assets w).mono fun outcome asked kept => ?_
  cases outcome with
  | error failure => exact .inl ⟨kept, _, rfl⟩
  | ok assets =>
    dsimp only
    rw [Dialogue.act_bind, Dialogue.act_ofAct, Act.ensures_bind, Act.ensures_orFailure]
    cases request.exportSettings.toRenderSettings x.settings with
    | error fault => exact .inl ⟨kept, _, rfl⟩
    | ok settings =>
      dsimp only [Except.mapError]
      rw [Dialogue.act_bind, Dialogue.act_ask, Call.act, Act.ensures_bind, Act.ensures_orProblem]
      cases Compile.compile x.encoding timeline assets (musicTrack assets request) settings with
      | error problem => exact .inl ⟨kept, _, rfl⟩
      | ok plan =>
        dsimp only [Except.mapError]
        unfold Dialogue.renderPlan
        rw [Dialogue.act_bind, Dialogue.act_ofAct, Act.ensures_bind, ensures_outputPath]
        cases timed : asked.time with
        | error failure => exact .inl ⟨kept, _, rfl⟩
        | ok time =>
          dsimp only
          rw [Dialogue.act_bind, Dialogue.act_ask, Act.ensures_bind]
          generalize (fun key => (assets.get? key).map MediaAsset.source) = locations
          refine Act.ensures_run.mono fun rendered after ran => ?_
          cases rendered with
          | error failure =>
            exact Or.inr ⟨plan, locations, time, settings.format, asked, _, kept, timed, ran, rfl⟩
          | ok path =>
            dsimp only
            rw [Dialogue.act_bind, Dialogue.act_ofAct, Act.ensures_bind, ensures_milliseconds]
            have concluded (outcome : Except Failure ExportResult)
                (h : Concluded stored (x.nextOutput asked time ("." ++ settings.format.name))
                  (.ok path) after outcome) :
                x.Rendered stored attendance (R w) outcome after :=
              ⟨plan, locations, time, settings.format, asked, _, kept, timed, ran, h⟩
            unfold Concluded at concluded
            cases ended : after.time with
            | error failure =>
              refine Or.inr (concluded _ ?_)
              rw [Except.bind, ended]
            | ok now =>
              refine Act.ensures_pure.2 (.inr (concluded _ ?_))
              rw [Except.bind, ended]
              exact ⟨_, rfl, rfl, rfl, rfl⟩

/-- An export of stored uploads fails while the engine is only asked, or the engine is told to
render. -/
theorem ensures_exportStored (stored : List StoredFile) (request : ExportRequest)
    (attendance : Attendance) (w : World) :
    (x.exportStored stored request attendance).Ensures w fun outcome later =>
      (R w later ∧ ∃ failure, outcome = .error failure) ∨
        x.Rendered stored attendance (R w) outcome later := by
  unfold exportStored Dialogue.exportStored
  rw [Dialogue.act_bind, Dialogue.act_ofAct, Act.ensures_bind, Act.ensures_orProblem]
  cases x.validate stored request with
  | error problem => exact .inl ⟨keeps.refl w, _, rfl⟩
  | ok validated =>
    dsimp only [Except.mapError]
    rw [Dialogue.act_bind, Act.ensures_bind, Dialogue.act_ask]
    refine (keeps.isAvailable w).mono fun outcome asked kept => ?_
    cases outcome with
    | error failure => exact .inl ⟨kept, _, rfl⟩
    | ok available =>
      cases available with
      | false => exact .inl ⟨kept, _, rfl⟩
      | true =>
        refine (ensures_exportCompiled keeps stored request validated.1 validated.2 attendance
          asked).mono fun outcome later ended => ?_
        rcases ended with ⟨kept', failed⟩ |
          ⟨plan, locations, time, format, between, rendered, kept', rest⟩
        · exact .inl ⟨keeps.trans kept kept', failed⟩
        · exact .inr ⟨plan, locations, time, format, between, rendered,
            keeps.trans kept kept', rest⟩

end

/-! ## Where results go -/

theorem front_files_ne (time time' : Int) (n n' : Nat) (extension extension' : String) :
    front label time n ++ extension ≠ front "export" time' n' ++ extension' := by
  intro same
  have first := congrArg (·.toList.head?) same
  simp [front, label] at first

/-- Nothing stands where the next result goes. -/
theorem at?_output_eq_none {x : ExportService} {first w between : World} {holdings : List Holding}
    (holds : Holds x.storage label first w holdings)
    (fresh : first.Fresh [label, "export"] (2 * holdings.length + 1)) (quiet : Quiet w between)
    {time : Int} {format : OutputFormat} {p : Place}
    (leads : between.shared.disk.place (x.nextOutput between time ("." ++ format.name)) = .ok p) :
    between.shared.disk.at? p = none := by
  have given := holds.since.given
  have same := quiet.given
  rw [quiet.others.at?_eq p not_false]
  refine holds.at?_eq_none fresh (List.mem_cons_of_mem _ List.mem_cons_self) (by decide)
    (by cases format <;> decide) (by omega) (by omega) (quiet.others.place_iff.1 leads)
    fun h mem last => ?_
  obtain ⟨before, n, other, -, -, last'⟩ := (holds.sound h mem).getLast?_place (by decide)
  exact front_files_ne _ _ _ _ _ _ (Option.some_inj.1 (last'.symm.trans last))

/-! ## After a failure -/

/-- A stored file as it is given back. -/
def passedThrough (file : StoredFile) : ExportResult where
  path := file.path
  filename := file.givenName
  contentType := file.contentType
  cleanupPaths := [file.path]
  strategy := .passthrough

section

variable {stored : List StoredFile} {chosen : StoredFile} {w : World}
  {post : Except Failure ExportResult → World → Prop}

theorem ensures_passThrough_iff :
    (passThrough stored chosen).Ensures w post ↔
      post (.ok (passedThrough chosen)) (w.withDisk (w.shared.disk.without
        ((stored.filter fun f => f.path != chosen.path).map StoredFile.path))) := by
  unfold passThrough
  rw [Act.ensures_bind, ensures_delete]
  rfl

/-- If the engine cannot be invoked, the preferred file is passed through. -/
theorem ensures_recover_of_unavailable {request : ExportRequest} {failure : Failure}
    (unavailable : failure.isUnavailable = true) (found : preferred? stored request = some chosen)
    (passes : (passThrough stored chosen).Ensures w post) :
    (recover stored request failure).Ensures w post := by
  cases failure with
  | fault fault => cases unavailable
  | problem p =>
    unfold recover
    dsimp only
    rw [if_pos (show p.isEngineUnavailable = true from unavailable), found]
    exact passes

/-- After any other failure all files are removed, and it is passed on. -/
theorem ensures_recover_of_available {request : ExportRequest} {failure : Failure}
    (available : failure.isUnavailable = false)
    (fails : post (.error failure)
      (w.withDisk (w.shared.disk.without (stored.map StoredFile.path)))) :
    (recover stored request failure).Ensures w post := by
  have removed : Act.Ensures (do delete (stored.map StoredFile.path); throw failure) w post := by
    rw [Act.ensures_bind, ensures_delete]
    exact Act.ensures_throw.2 fails
  cases failure with
  | fault fault => exact removed
  | problem p =>
    unfold recover
    dsimp only
    rw [if_neg (show ¬ p.isEngineUnavailable = true from Bool.eq_false_iff.1 available)]
    exact removed

/-- Recovering from a failure is passing one of the files through, or removing them all and failing
the same way. -/
theorem ensures_recover {holdings : List Holding} (filled : holdings ≠ [])
    (request : ExportRequest) (failure : Failure)
    (passes : ∀ h ∈ holdings, (passThrough (holdings.map Holding.file) h.file).Ensures w post)
    (fails : post (.error failure)
      (w.withDisk (w.shared.disk.without (holdings.map (·.file.path))))) :
    (recover (holdings.map Holding.file) request failure).Ensures w post := by
  cases unavailable : failure.isUnavailable with
  | true =>
    obtain ⟨f, listed, found⟩ := exists_preferred?_eq (mt List.map_eq_nil_iff.1 filled) request
    obtain ⟨h, mem, rfl⟩ := List.mem_map.1 listed
    exact ensures_recover_of_unavailable unavailable found (passes h mem)
  | false =>
    refine ensures_recover_of_available unavailable ?_
    rw [List.map_map]
    exact fails

end

/-! ## The whole export -/

variable {x : ExportService}

theorem run_exportForm_of_rejected {uploads : List Upload} {form : ExportForm}
    (rejected : uploads = [] ∨ ∃ failure, x.readForm form = .error failure)
    (attendance : Attendance) (w : World) :
    ∃ failure, w.run (x.exportForm uploads form attendance).run = (.error failure, w) := by
  unfold exportForm
  cases uploads with
  | nil => exact ⟨_, rfl⟩
  | cons upload rest =>
    obtain ⟨failure, unread⟩ := rejected.resolve_left (List.cons_ne_nil _ _)
    rw [unread]
    exact ⟨failure, rfl⟩

/-- What holds behind an export: it is rejected, or its uploads cannot be stored, or it goes on with
the files that are kept of them. -/
theorem ensures_exportForm {uploads : List Upload} {form : ExportForm} {attendance : Attendance}
    {w : World} (fresh : w.Fresh [label, "export"] (2 * uploads.length + 1))
    {post : Except Failure ExportResult → World → Prop}
    (rejected : (uploads = [] ∨ ∃ failure, x.readForm form = .error failure) →
      ∀ failure, post (.error failure) w)
    (notStored : ∀ failure later,
      w.run (x.storage.storeAll label uploads).run = (.error failure, later) →
      Remains x.storage.uploadDir w.shared.disk later.shared.disk 0 w.awaits failure →
      post (.error failure) later)
    (stored : ∀ request holdings stocked, x.readForm form = .ok request →
      holdings ≠ [] → holdings.map Holding.upload = uploads →
      w.run (x.storage.storeAll label uploads).run = (.ok (holdings.map Holding.file), stocked) →
      Holds x.storage label w stocked holdings →
      w.Fresh [label, "export"] (2 * holdings.length + 1) →
      (x.exportStored (holdings.map Holding.file) request attendance).Ensures stocked
        fun outcome last =>
          match outcome with
          | .ok result => post (.ok result) last
          | .error failure =>
            (recover (holdings.map Holding.file) request failure).Ensures last post) :
    (x.exportForm uploads form attendance).Ensures w post := by
  by_cases refused : uploads = [] ∨ ∃ failure, x.readForm form = .error failure
  · obtain ⟨failure, run⟩ := run_exportForm_of_rejected (x := x) refused attendance w
    unfold Act.Ensures
    rw [run]
    exact rejected refused failure
  obtain ⟨filled, readable⟩ := not_or.1 refused
  obtain ⟨request, read⟩ : ∃ request, x.readForm form = .ok request := by
    cases h : x.readForm form with
    | ok request => exact ⟨request, rfl⟩
    | error failure => exact absurd ⟨failure, h⟩ readable
  have storing := ensures_storeAll (s := x.storage) (by decide : '/' ∉ label.toList) uploads
    List.mem_cons_self (fresh.mono (Nat.le_succ _))
  unfold exportForm
  rw [if_neg (by simpa using filled), read]
  show Act.Ensures (x.storage.storeAll label uploads >>= _) w post
  rw [Act.ensures_bind]
  refine storing.with_run.mono fun outcome stocked ⟨kept, ran⟩ => ?_
  cases outcome with
  | error failure => exact notStored failure stocked ran kept
  | ok files =>
    obtain ⟨holdings, same, rfl, holds⟩ := kept
    rw [List.nil_append] at holds ran ⊢
    have count : uploads.length = holdings.length := by rw [← same, List.length_map]
    have some : holdings ≠ [] := by
      rintro rfl
      exact filled same.symm
    dsimp only
    rw [Act.ensures_bind, Act.ensures_attempt]
    refine (stored request holdings stocked read some same ran holds (count ▸ fresh)).mono ?_
    intro outcome last rest
    cases outcome <;> exact rest

/-! ## The whole conversion -/

/-- What holds behind a conversion: there is nothing to convert, or the uploads cannot be stored, or
the first is converted to a fresh path, and all are removed whatever becomes of it. -/
theorem ensures_combine {uploads : List Upload} {w : World}
    (fresh : w.Fresh [label, "export"] (2 * uploads.length + 1))
    {post : Except Failure ExportResult → World → Prop}
    (nothing : post (.error (.problem .noUploads)) w)
    (notStored : ∀ failure later,
      w.run (x.storage.storeAll label uploads).run = (.error failure, later) →
      Remains x.storage.uploadDir w.shared.disk later.shared.disk 0 w.awaits failure →
      post (.error failure) later)
    (stored : ∀ first rest stocked time, (first :: rest).map Holding.upload = uploads →
      Holds x.storage label w stocked (first :: rest) →
      w.Fresh [label, "export"] (2 * (first :: rest).length + 1) → stocked.time = .ok time →
      let output := x.nextOutput stocked time ("." ++ OutputFormat.mp4.name)
      (x.engine.convert first.file.path output
        (MediaKind.ofContentType (some first.file.contentType) = .image)
        ⟨none, none, none⟩).aside.Ensures stocked.afterId fun outcome later =>
          let cleaned := later.withDisk
            (later.shared.disk.without ((first :: rest).map (·.file.path)))
          (∀ failure, post (.error failure) cleaned) ∧ ∀ result : ExportResult,
            outcome.isOk = true → result.path = output → result.cleanupPaths = [output] →
              post (.ok result) cleaned) :
    (x.combine uploads).Ensures w post := by
  cases uploads with
  | nil => exact nothing
  | cons upload others =>
    have storing := ensures_storeAll (s := x.storage) (by decide : '/' ∉ label.toList)
      (upload :: others) List.mem_cons_self (fresh.mono (Nat.le_succ _))
    unfold combine
    rw [Act.ensures_bind]
    refine storing.with_run.mono fun outcome stocked ⟨kept, ran⟩ => ?_
    cases outcome with
    | error failure => exact notStored failure stocked ran kept
    | ok files =>
      obtain ⟨holdings, same, rfl, holds⟩ := kept
      rw [List.nil_append] at holds ⊢
      cases holdings with
      | nil => cases same
      | cons first rest =>
        have count : (upload :: others).length = (first :: rest).length := by
          rw [← same, List.length_map]
        obtain ⟨time, -, -, named, -⟩ := (holds.sound first List.mem_cons_self).named
        have timed : stocked.time = .ok time := (time_congr holds.since.clock).trans named
        have paths : (first.file :: rest.map Holding.file).map StoredFile.path =
            (first :: rest).map (·.file.path) := by simp
        rw [List.map_cons]
        dsimp only
        rw [Act.ensures_bind, ensures_outputPath, timed]
        dsimp only
        rw [Act.ensures_bind, Act.ensures_attempt]
        refine (stored first rest stocked time same holds (count ▸ fresh) timed).mono ?_
        rintro outcome later ⟨failed, made⟩
        dsimp only
        rw [Act.ensures_bind, ensures_delete, paths]
        dsimp only
        rw [Act.ensures_bind, Act.ensures_orFailure]
        cases outcome with
        | error failure => exact failed failure
        | ok path =>
          dsimp only
          rw [Act.ensures_bind, ensures_milliseconds]
          split
          case h_1 => exact Act.ensures_pure.2 (made _ rfl rfl rfl)
          case h_2 failure _ => exact failed failure

end ExportService

end Splice
