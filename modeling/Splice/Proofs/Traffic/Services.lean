import Splice.Proofs.Export.Course
import Splice.Proofs.Traffic.Tidy

/-!
# The services are tidy

Storing, removing, the engine of the two programs, and the services that are put together from them
touch no other files than those whose names they were given ids for. What they give back has the
paths of such files only.
-/

namespace Splice

open Act Storage

variable {s : Storage} {ids : List Nat}

/-! ## Storage -/

namespace Storage

theorem tidy_milliseconds : milliseconds.Tidy s ids fun _ _ => True := by
  refine tidy_ask (.of_paths_eq_nil id rfl) fun _ seconds _ => ?_
  cases Binary64.truncate (seconds * 1000.0) with
  | ok n => exact tidy_pure trivial
  | error why => exact tidy_throw _

theorem tidy_uniqueName (label extension : String) :
    (uniqueName label extension).Tidy s ids fun more name =>
      ∃ time, ∃ n ∈ more, name = front label time n ++ extension := by
  refine tidy_bind tidy_milliseconds fun more time _ _ =>
    tidy_ask (.of_paths_eq_nil id rfl) fun given answer answers => tidy_pure ?_
  obtain rfl : answer = World.idText (given + 1) := answers
  exact ⟨time, given + 1, List.mem_cons_self, rfl⟩

/-- The path of a unique name in one of the two directories. -/
theorem owned_join {label extension : String} (listed : label ∈ labels)
    (whole : '/' ∉ extension.toList) {directory : String}
    (inside : directory = s.uploadDir ∨ directory = s.outputDir) {time : Int} {n : Nat}
    (mem : n ∈ ids) : s.Owned ids (Path.join directory (front label time n ++ extension)) := by
  have plain : ∀ label ∈ labels, '/' ∉ label.toList := by decide
  exact ⟨directory, _, inside, isName_front_append (plain label listed) whole time n,
    ⟨n, mem, carries_front listed time n extension⟩, rfl⟩

theorem tidy_outputPath (format : OutputFormat) :
    (s.outputPath format.name).Tidy s ids fun more path => s.Owned more path := by
  refine tidy_bind (tidy_uniqueName "export" _)
    fun more name _ ⟨time, n, mem, named⟩ => tidy_pure ?_
  subst named
  exact owned_join (by decide) (by cases format <;> decide) (.inr rfl) mem

theorem tidy_delete {paths : List String} (owned : ∀ path ∈ paths, s.Owned ids path) :
    (delete paths).Tidy s ids fun _ _ => True := by
  induction paths with
  | nil => exact tidy_pure trivial
  | cons path rest ih =>
    rw [List.forall_mem_cons] at owned
    refine tidy_ask (.of_path id rfl owned.1) fun _ there _ => ?_
    cases there with
    | true => exact tidy_ask (.of_path id rfl owned.1) fun _ _ _ => ih owned.2
    | false => exact ih owned.2

theorem tidy_deleteLater {paths : List String} (owned : ∀ path ∈ paths, s.Owned ids path)
    (delay : Option Float) : (s.deleteLater paths delay).Tidy s ids fun _ _ => True := by
  unfold deleteLater
  dsimp only
  split
  · refine tidy_ask (.of_paths_eq_nil id rfl) fun _ cancelled _ => ?_
    cases cancelled with
    | true => exact tidy_throw _
    | false => exact tidy_delete owned
  · exact tidy_delete owned

theorem tidy_pour {path : String} (owned : s.Owned ids path) (given : String) (size : Nat)
    (reads : List (Except SystemError Bytes)) :
    (s.pour path given size reads).Tidy s ids fun _ _ => True := by
  induction reads generalizing size ids with
  | nil => exact tidy_pure trivial
  | cons read rest ih =>
    cases read with
    | error error => exact tidy_throw _
    | ok chunk =>
      unfold pour
      split
      · exact tidy_pure trivial
      · dsimp only
        split
        · refine tidy_bind (tidy_delete fun other mem => ?_) fun _ _ _ _ => tidy_throw _
          rwa [List.mem_singleton.1 mem]
        · exact tidy_ask (.of_path id rfl owned) fun _ answer _ =>
            tidy_bind (tidy_orRefused answer) fun _ _ sub _ => ih (owned.mono sub) _

theorem tidy_store {label : String} (listed : label ∈ labels) (upload : Upload) :
    (s.store label upload).Tidy s ids fun more file => s.Owned more file.path := by
  have whole := Text.slash_not_mem_lower (Path.slash_not_mem_extension (givenName upload))
  refine tidy_bind (tidy_uniqueName label _) fun more name _ ⟨time, n, mem, named⟩ => ?_
  subst named
  have owned : s.Owned more (Path.join s.uploadDir
      (front label time n ++ Text.lower (Path.extension (givenName upload)))) :=
    owned_join listed whole (.inl rfl) mem
  refine tidy_ask (.of_path id rfl owned) fun _ answer _ =>
    tidy_bind (tidy_orRefused answer) fun opened _ sub _ => ?_
  refine tidy_bind (tidy_pour (owned.mono sub) _ 0 upload.reads) fun poured size sub' _ =>
    tidy_ask (.of_paths_eq_nil id rfl) fun given _ _ => tidy_pure ?_
  exact owned.mono fun n mem => List.mem_append_right _ (sub' (sub mem))

theorem tidy_storeBehind {label : String} (listed : label ∈ labels) (uploads : List Upload)
    {stored : List StoredFile} (owned : ∀ f ∈ stored, s.Owned ids f.path) :
    (s.storeBehind label stored uploads).Tidy s ids fun more files =>
      ∀ f ∈ files, s.Owned more f.path := by
  induction uploads generalizing stored ids with
  | nil => exact tidy_pure owned
  | cons upload rest ih =>
    refine tidy_bind (tidy_attempt (tidy_aside (tidy_store listed upload)))
      fun more outcome sub kept => ?_
    have others : ∀ f ∈ stored, s.Owned more f.path := fun f mem => (owned f mem).mono sub
    cases outcome with
    | ok file =>
      refine ih fun f mem => ?_
      rcases List.mem_append.1 mem with mem | mem
      · exact others f mem
      · rw [List.mem_singleton.1 mem]
        exact kept file rfl
    | error failure =>
      dsimp only
      split
      · exact tidy_bind (tidy_delete (List.forall_mem_map.2 others)) fun _ _ _ _ => tidy_throw _
      · exact tidy_throw _

theorem tidy_storeAll {label : String} (listed : label ∈ labels) (uploads : List Upload) :
    (s.storeAll label uploads).Tidy s ids fun more files => ∀ f ∈ files, s.Owned more f.path :=
  tidy_storeBehind listed uploads (by simp)

end Storage

/-! ## The engine -/

namespace Engine

variable {e : Engine}

theorem tidy_call {errand : Errand} (owned : ∀ output, errand = .convert output →
    s.Owned ids output) (argv : List String) :
    (call errand argv).Tidy s ids fun _ _ => True := by
  have priv : (Operation.call errand argv).Private s ids := by
    cases errand with
    | formats | probe path => exact .of_paths_eq_nil id rfl
    | convert output => exact .of_path id rfl (owned output rfl)
  refine tidy_ask priv fun _ answer _ => ?_
  cases answer with
  | ok finished => exact tidy_pure trivial
  | error error => exact tidy_throw _

/-- What is made of a finished program asks for nothing. -/
theorem tidy_judge {α : Type} {fine : Prop} [Decidable fine] (outcome : Except Failure α)
    (words : Except Failure String) (problem : String → Problem) :
    Act.Tidy (if fine then Act.orFailure outcome else do
      let words ← Act.orFailure words
      throw (.problem (problem words))) s ids fun _ _ => True := by
  split
  · exact tidy_orFailure_any _
  · exact tidy_bind (tidy_orFailure_any _)
      fun _ _ _ _ => tidy_throw _

theorem tidy_probe (path : String) : (e.probe path).Tidy s ids fun _ _ => True :=
  tidy_bind (tidy_call (fun _ other => by cases other) _) fun _ _ _ _ => tidy_judge _ _ .probeFailed

theorem tidy_convert {output : String} (owned : s.Owned ids output) (input : String)
    (isImage : Bool) (format : ClipFormat) :
    (e.convert input output isImage format).Tidy s ids fun _ _ => True := by
  refine tidy_bind (tidy_call ?_ _) fun _ _ _ _ => tidy_judge (.ok output) _ .conversionFailed
  rintro _ ⟨⟩
  exact owned

theorem tidy_discard {path : String} (owned : s.Owned ids path) :
    (discard path).Tidy s ids fun _ _ => True := by
  refine tidy_ask (.of_path id rfl owned) fun _ there _ => ?_
  cases there with
  | true => exact tidy_ask (.of_path id rfl owned) fun _ _ _ => tidy_pure trivial
  | false => exact tidy_pure trivial

theorem tidy_tell {ops : List Operation} (silent : ∀ op ∈ ops, op.Private s []) :
    (tell ops).Tidy s ids fun _ _ => True := by
  induction ops generalizing ids with
  | nil => exact tidy_pure trivial
  | cons op rest ih =>
    rw [List.forall_mem_cons] at silent
    exact tidy_ask ⟨silent.1.narrow, fun path mem => (silent.1.owned path mem).mono (by simp)⟩
      fun _ _ _ => ih silent.2

theorem tidy_conclude {output : String} (owned : s.Owned ids output) (stderr : Bytes)
    (defect : Option Fault) (ending : Ending) :
    (conclude output stderr defect ending).Tidy s ids fun _ _ => True := by
  cases ending with
  | abandoned => exact tidy_throw _
  | stopped reason => exact tidy_bind (tidy_discard owned) fun _ _ _ _ => tidy_throw _
  | ended status =>
    cases defect with
    | some fault => exact tidy_throw _
    | none =>
      unfold conclude
      dsimp only
      split
      · exact tidy_pure trivial
      · exact tidy_bind (tidy_discard owned) fun _ _ _ _ => tidy_throw _

theorem tidy_render {output : String} (owned : s.Owned ids output) (plan : Plan)
    (locations : String → Option String) (attendance : Attendance) :
    (e.render plan locations output attendance).Tidy s ids fun _ _ => True := by
  have silent : ∀ op : Operation, ¬ op.IsWide → op.paths = [] → op.Private s [] :=
    fun op narrow none => .of_paths_eq_nil narrow none
  refine tidy_bind (tidy_orFailure_any _)
    fun more argv sub _ => tidy_ask (.of_path id rfl (owned.mono sub)) fun _ answer _ => ?_
  cases answer with
  | error error => exact tidy_throw _
  | ok life =>
    show (attend attendance plan.nominalDuration output life).Tidy s more fun _ _ => True
    have told : ∀ op ∈ (Progress.reports plan.nominalDuration life.stdout).1.map Operation.report,
        op.Private s [] := List.forall_mem_map.2 fun percent _ => silent _ id rfl
    have signalled : ∀ op ∈ (Watch.waiting.course attendance.asks life.status life.beats).1.map
        Operation.signal, op.Private s [] := List.forall_mem_map.2 fun signal _ => silent _ id rfl
    have ends (more' : List Nat) (sub' : more ⊆ more') :
        (settle attendance.asks output life
          ((Progress.reports plan.nominalDuration life.stdout).2.or (linesOf life.stderr).2)).Tidy s
          more' fun _ _ => True :=
      tidy_bind (tidy_tell signalled) fun _ _ sub'' _ =>
        tidy_conclude (owned.mono fun _ mem => sub'' (sub' (sub mem))) _ _ _
    rw [attend_eq]
    split
    · exact tidy_bind (tidy_tell told) fun more' _ sub' _ => ends more' sub'
    · exact ends more (List.Subset.refl more)

end Engine

/-! ## The services -/

namespace ExportService

variable {x : ExportService} {e : Engine}

/-- Whether all files of a result, and those that are to be removed with it, belong to those who
were given some ids. -/
def Owns (x : ExportService) (ids : List Nat) (result : ExportResult) : Prop :=
  ∀ path ∈ result.path :: result.cleanupPaths, x.storage.Owned ids path

variable {stored : List StoredFile} (driven : x.engine = e.access)
  (owned : ∀ f ∈ stored, x.storage.Owned ids f.path)

theorem tidy_passThrough {s : Storage} {stored : List StoredFile}
    (owned : ∀ f ∈ stored, s.Owned ids f.path) {chosen : StoredFile} (mem : chosen ∈ stored) :
    (passThrough stored chosen).Tidy s ids fun more result =>
      ∀ path ∈ result.path :: result.cleanupPaths, s.Owned more path := by
  refine tidy_bind (tidy_delete (List.forall_mem_map.2 fun f listed =>
    owned f (List.mem_of_mem_filter listed))) fun more _ sub _ => tidy_pure ?_
  have own := (owned chosen mem).mono sub
  simpa using own

include driven in
theorem tidy_describeAll (assets : AssetTable) :
    (x.describeAll assets).Tidy s ids fun _ _ => True := by
  induction assets generalizing ids with
  | nil => exact tidy_pure trivial
  | cons row rest ih =>
    have described : ((Dialogue.describe row.2).act x).Tidy s ids fun _ _ => True := by
      unfold Dialogue.describe
      split
      · exact tidy_pure trivial
      · rw [Dialogue.act_bind, Dialogue.act_ask, Call.act, driven]
        exact tidy_bind (tidy_aside (Engine.tidy_probe row.2.source))
          fun _ _ _ _ => tidy_pure trivial
    rw [describeAll_cons]
    exact tidy_bind described fun _ _ _ _ => tidy_bind ih fun _ _ _ _ => tidy_pure trivial

include driven owned in
theorem tidy_exportCompiled (request : ExportRequest) (assets : AssetTable) (timeline : Timeline)
    (attendance : Attendance) :
    ((Dialogue.exportCompiled x stored request assets timeline attendance).act x).Tidy x.storage
      ids x.Owns := by
  unfold Dialogue.exportCompiled
  rw [Dialogue.act_bind]
  refine tidy_bind (tidy_describeAll driven assets) fun more assets sub _ => ?_
  rw [Dialogue.act_bind, Dialogue.act_ofAct]
  refine tidy_bind (tidy_orFailure_any _) fun more settings sub' _ => ?_
  rw [Dialogue.act_bind, Dialogue.act_ask, Call.act]
  refine tidy_bind (tidy_orProblem _) fun more plan sub'' _ => ?_
  unfold Dialogue.renderPlan
  rw [Dialogue.act_bind, Dialogue.act_ofAct]
  refine tidy_bind (tidy_outputPath settings.format) fun more output sub₃ own => ?_
  rw [Dialogue.act_bind, Dialogue.act_ask, Call.act, driven]
  refine tidy_bind (Engine.tidy_render own plan _ attendance) fun more _ sub₄ _ => ?_
  rw [Dialogue.act_bind, Dialogue.act_ofAct]
  refine tidy_bind tidy_milliseconds fun more _ sub₅ _ => tidy_pure ?_
  have own := own.mono fun _ mem => sub₅ (sub₄ mem)
  refine List.forall_mem_cons.2 ⟨own, List.forall_mem_append.2 ⟨?_, by simpa using own⟩⟩
  exact List.forall_mem_map.2 fun f mem =>
    (owned f mem).mono fun _ mem => sub₅ (sub₄ (sub₃ (sub'' (sub' (sub mem)))))

include driven owned in
theorem tidy_exportStored (request : ExportRequest) (attendance : Attendance) :
    (x.exportStored stored request attendance).Tidy x.storage ids x.Owns := by
  unfold exportStored Dialogue.exportStored
  rw [Dialogue.act_bind, Dialogue.act_ofAct]
  refine tidy_bind (tidy_orProblem _) fun more validated sub _ => ?_
  have available : (x.engine.isAvailable).Tidy x.storage more fun _ _ => True := by
    rw [driven]
    exact tidy_request (.of_paths_eq_nil id rfl) fun _ _ _ => trivial
  rw [Dialogue.act_bind, Dialogue.act_ask]
  refine tidy_bind available fun more available sub' _ => ?_
  cases available with
  | true =>
    exact tidy_exportCompiled driven (fun f mem => (owned f mem).mono fun _ mem => sub' (sub mem))
      request _ _ attendance
  | false => exact tidy_throw _

/-- Only stored files are preferred. -/
theorem mem_of_preferred? {stored : List StoredFile} {request : ExportRequest} {f : StoredFile}
    (found : preferred? stored request = some f) : f ∈ stored := by
  by_cases filled : stored = []
  · subst filled
    unfold preferred? at found
    dsimp only at found
    split at found <;> cases found
  · obtain ⟨f', mem, found'⟩ := exists_preferred?_eq filled request
    cases found.symm.trans found'
    exact mem

include owned in
theorem tidy_recover (request : ExportRequest) (failure : Failure) :
    (recover stored request failure).Tidy x.storage ids x.Owns := by
  have removed (failure : Failure) : Act.Tidy (do
      delete (stored.map StoredFile.path); throw failure) x.storage ids x.Owns :=
    tidy_bind (tidy_delete (List.forall_mem_map.2 owned)) fun _ _ _ _ => tidy_throw _
  unfold recover
  split
  case h_1 problem =>
    split
    case isTrue =>
      split
      case h_1 chosen found => exact tidy_passThrough owned (mem_of_preferred? found)
      case h_2 => exact tidy_throw _
    case isFalse => exact removed _
  case h_2 fault => exact removed _

include driven in
/-- An export is tidy. -/
theorem tidy_exportForm (uploads : List Upload) (form : ExportForm) (attendance : Attendance) :
    (x.exportForm uploads form attendance).Tidy x.storage ids x.Owns := by
  unfold exportForm
  split
  · exact tidy_throw _
  refine tidy_bind (tidy_orFailure_any _)
    fun more request _ _ => ?_
  refine tidy_bind (tidy_storeAll (by decide) uploads) fun more stored _ owned => ?_
  refine tidy_bind (tidy_attempt (tidy_exportStored driven owned request attendance))
    fun more outcome sub owns => ?_
  cases outcome with
  | ok result => exact tidy_pure (owns result rfl)
  | error failure => exact tidy_recover (fun f mem => (owned f mem).mono sub) request failure

/-- Giving back the first upload is tidy. -/
theorem tidy_simpleExport (uploads : List Upload) :
    (x.simpleExport uploads).Tidy x.storage ids x.Owns := by
  refine tidy_bind (tidy_storeAll (by decide) uploads) fun more stored _ owned => ?_
  cases stored with
  | nil => exact tidy_throw _
  | cons first rest => exact tidy_passThrough owned List.mem_cons_self

include driven in
/-- A conversion is tidy. -/
theorem tidy_combine (uploads : List Upload) :
    (x.combine uploads).Tidy x.storage ids x.Owns := by
  refine tidy_bind (tidy_storeAll (by decide) uploads) fun more stored _ owned => ?_
  cases stored with
  | nil => exact tidy_throw _
  | cons first rest =>
    refine tidy_bind (tidy_outputPath .mp4) fun more output sub own => ?_
    rw [driven]
    refine tidy_bind (tidy_attempt (tidy_aside (Engine.tidy_convert own first.path _ _)))
      fun more outcome sub' _ => ?_
    refine tidy_bind (tidy_delete (List.forall_mem_map.2 fun f mem =>
      (owned f mem).mono fun _ mem => sub' (sub mem))) fun more _ sub'' _ => ?_
    refine tidy_bind (tidy_orFailure_any _)
      fun more _ sub₃ _ => ?_
    refine tidy_bind tidy_milliseconds fun more _ sub₄ _ => tidy_pure ?_
    have own := own.mono fun _ mem => sub₄ (sub₃ (sub'' (sub' mem)))
    intro path mem
    simp only [List.mem_cons, List.not_mem_nil, or_false, or_self] at mem
    rw [mem]
    exact own

end ExportService

end Splice
