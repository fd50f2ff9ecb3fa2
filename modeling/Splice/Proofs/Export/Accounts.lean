import Mathlib.Data.List.Nodup
import Splice.Proofs.Export.Course

/-!
# Accounts of the files of an export

With an engine that writes nothing but the file that it is told to render, whatever else it does, an
export accounts for the files that it has stored: they are all there, to be removed with the result,
or one of them is the result, or none of them is left (`ExportService.exportForm_accounts`). What
was there before stays in any case.
-/

namespace Splice

open Storage World Disk

namespace ExportService

variable {x : ExportService} {first w : World} {holdings : List Holding}
  (holds : Holds x.storage label first w holdings)

/-- With a confined engine an export of stored uploads removes and alters nothing; the result that
it gives back is to be removed with the uploads. -/
theorem ensures_exportStored_spares (confined : x.engine.Confined)
    (holds : Holds x.storage label first w holdings)
    (fresh : first.Fresh [label, "export"] (2 * holdings.length + 1)) (stored : List StoredFile)
    (request : ExportRequest) (attendance : Attendance) :
    (x.exportStored stored request attendance).Ensures w fun outcome later =>
      Spares w.shared.disk later.shared.disk ∧ ∀ result, outcome = .ok result →
        result.strategy = .compiled ∧
          result.cleanupPaths = stored.map StoredFile.path ++ [result.path] := by
  have spares {later : World} (quiet : Quiet w later) : Spares w.shared.disk later.shared.disk :=
    quiet.others.spares fun _ h => h.elim
  refine (ensures_exportStored confined.keeps stored request attendance w).mono ?_
  rintro outcome later (⟨quiet, failure, rfl⟩ |
    ⟨plan, locations, time, format, asked, rendered, quiet, -, run, concluded⟩)
  · exact ⟨spares quiet, nofun⟩
  · have writes := confined.render plan locations (x.nextOutput asked time ("." ++ format.name))
      attendance asked.afterId
    unfold Act.Ensures at writes
    rw [run] at writes
    refine ⟨(spares quiet).trans (writes.others.spares fun p leads =>
      at?_output_eq_none holds fresh quiet leads), fun result same => ?_⟩
    unfold Concluded at concluded
    split at concluded
    case h_1 => cases same.symm.trans concluded
    case h_2 =>
      obtain ⟨other, same', -, made⟩ := concluded
      cases same.symm.trans same'
      exact made

include holds

/-! ## Giving back and giving up -/

/-- Files that are removed where everything that is kept was spared. -/
theorem exists?_without {later : Disk} (spared : Spares w.shared.disk later) {h : Holding}
    (mem : h ∈ holdings) {paths : List String} (listed : h.file.path ∈ paths) :
    (later.without paths).exists? h.file.path = false := by
  have sound := holds.sound h mem
  obtain ⟨modified, whole⟩ := sound.whole
  have leads : later.place h.file.path = .ok h.place := spared.place_iff.2 sound.leads
  have file : later.IsFile h.place := ⟨_, modified, (spared.at?_eq sound.at?_ne_none).trans whole⟩
  rw [Bool.eq_false_iff, Ne, exists?_iff]
  rintro ⟨p, there, standing⟩
  rw [(sameBut_without later paths).place_iff, leads] at there
  obtain rfl := Except.ok.inj there
  exact standing (at?_without listed leads file)

/-- Files where everything that is kept was spared. -/
theorem exists?_of_spares {later : Disk} (spared : Spares w.shared.disk later) {h : Holding}
    (mem : h ∈ holdings) : later.exists? h.file.path = true := by
  have sound := holds.sound h mem
  refine exists?_iff.2 ⟨h.place, spared.place_iff.2 sound.leads, ?_⟩
  rw [spared.at?_eq sound.at?_ne_none]
  exact sound.at?_ne_none

/-- A file that is kept where the paths that are removed are those of others. -/
theorem file_without {later : Disk} (spared : Spares w.shared.disk later) {h : Holding}
    (mem : h ∈ holdings) {paths : List String}
    (others : ∀ path ∈ paths, ∃ g ∈ holdings, g.file.path = path ∧ path ≠ h.file.path) :
    ∃ modified, (later.without paths).file h.file.path =
      .ok (Upload.delivered h.upload.reads, modified) := by
  have sound := holds.sound h mem
  obtain ⟨modified, whole⟩ := sound.whole
  have change := sameBut_without later paths
  refine ⟨modified, file_eq_ok_iff.2
    ⟨h.place, change.place_iff.2 (spared.place_iff.2 sound.leads), ?_⟩⟩
  rw [← whole, ← spared.at?_eq sound.at?_ne_none]
  refine change.at?_eq _ ?_
  rintro ⟨path, listed, leads, -⟩
  obtain ⟨g, mem', rfl, apart⟩ := others path listed
  have same := Except.ok.inj
    ((spared.place_iff.1 leads).symm.trans (holds.sound g mem').leads)
  obtain rfl := List.inj_on_of_nodup_map holds.distinct mem' mem same.symm
  exact apart rfl

/-- What an export accounts for, when its uploads were stored as some files. If it fails none of
them is left; if it gives back a result that the engine has made, all are there, to be removed with
it; if it gives back one of them as it came, that one is there, whole, and no other. -/
def Accounts (holdings : List Holding) (later : Disk) : Except Failure ExportResult → Prop
  | .error _ => ∀ h ∈ holdings, later.exists? h.file.path = false
  | .ok result =>
    match result.strategy with
    | .compiled => (∀ h ∈ holdings, later.exists? h.file.path = true) ∧
        result.cleanupPaths = holdings.map (·.file.path) ++ [result.path]
    | .passthrough => result.cleanupPaths = [result.path] ∧
        (∀ h ∈ holdings, later.exists? h.file.path = true ↔ h.file.path = result.path) ∧
        ∃ h ∈ holdings, h.file.path = result.path ∧
          ∃ modified, later.file result.path = .ok (Upload.delivered h.upload.reads, modified)
    | .combine => False

/-- Whatever was there before the uploads were stored stays there when some of them are removed. -/
theorem spares_without {later : Disk} (spared : Spares w.shared.disk later) {paths : List String}
    (own : ∀ path ∈ paths, ∃ h ∈ holdings, h.file.path = path) :
    Spares first.shared.disk (later.without paths) := by
  have change := sameBut_without later paths
  have kept : Spares first.shared.disk later := holds.more.spares.trans spared
  refine ⟨fun p there => ?_, fun p => (change.directory_iff p).trans (kept.directory_iff p)⟩
  refine (change.at?_eq p ?_).trans (kept.at?_eq there)
  rintro ⟨path, listed, leads, -⟩
  obtain ⟨h, mem, rfl⟩ := own path listed
  have same := Except.ok.inj ((spared.place_iff.1 leads).symm.trans (holds.sound h mem).leads)
  exact there (holds.more.new p ⟨h, mem, same.symm⟩)

omit holds in
/-- The files besides a chosen one. -/
theorem mem_others_iff (holdings : List Holding) (h : Holding) (path : String) :
    path ∈ ((holdings.map Holding.file).filter fun f => f.path != h.file.path).map
        StoredFile.path ↔ ∃ g ∈ holdings, g.file.path = path ∧ path ≠ h.file.path := by
  simp only [List.mem_map, List.mem_filter, bne_iff_ne]
  constructor
  · rintro ⟨-, ⟨⟨g, mem, rfl⟩, apart⟩, rfl⟩
    exact ⟨g, mem, rfl, apart⟩
  · rintro ⟨g, mem, rfl, apart⟩
    exact ⟨g.file, ⟨⟨g, mem, rfl⟩, apart⟩, rfl⟩

theorem ensures_passThrough {later : World} (spared : Spares w.shared.disk later.shared.disk)
    {h : Holding} (mem : h ∈ holdings) :
    (passThrough (holdings.map Holding.file) h.file).Ensures later fun outcome last =>
      Accounts holdings last.shared.disk outcome ∧
        Spares first.shared.disk last.shared.disk := by
  rw [ensures_passThrough_iff]
  have others := mem_others_iff holdings h
  generalize ((holdings.map Holding.file).filter _).map StoredFile.path = paths at others ⊢
  obtain ⟨modified, whole⟩ := file_without holds spared mem fun path => (others path).1
  refine ⟨⟨rfl, fun g mem' => ⟨fun there => ?_, fun same => ?_⟩, h, mem, rfl,
    modified, whole⟩, spares_without holds spared fun path mem => ?_⟩
  · by_contra apart
    have gone := exists?_without holds spared mem' ((others _).2 ⟨g, mem', rfl, apart⟩)
    exact Bool.false_ne_true (gone.symm.trans there)
  · rw [same]
    exact exists?_of_file whole
  · obtain ⟨g, mem, same, -⟩ := (others path).1 mem
    exact ⟨g, mem, same⟩

theorem ensures_recover_accounts (filled : holdings ≠ []) {later : World}
    (spared : Spares w.shared.disk later.shared.disk) (request : ExportRequest)
    (failure : Failure) :
    (recover (holdings.map Holding.file) request failure).Ensures later fun outcome last =>
      Accounts holdings last.shared.disk outcome ∧
        Spares first.shared.disk last.shared.disk := by
  refine ensures_recover filled request failure
    (fun h mem => ensures_passThrough holds spared mem) ⟨fun h mem => ?_, ?_⟩
  · exact exists?_without holds spared mem (List.mem_map_of_mem mem)
  · exact spares_without holds spared fun path listed => by simpa using listed

/-! ## The whole export -/

/-- Once the uploads are stored, the rest of the export accounts for their files. -/
theorem ensures_rest (confined : x.engine.Confined)
    (fresh : first.Fresh [label, "export"] (2 * holdings.length + 1)) (filled : holdings ≠ [])
    (request : ExportRequest) (attendance : Attendance) :
    (x.exportStored (holdings.map Holding.file) request attendance).Ensures w fun outcome later =>
      match outcome with
      | .ok result => Accounts holdings later.shared.disk (.ok result) ∧
          Spares first.shared.disk later.shared.disk
      | .error failure =>
        (recover (holdings.map Holding.file) request failure).Ensures later fun outcome last =>
          Accounts holdings last.shared.disk outcome ∧
            Spares first.shared.disk last.shared.disk := by
  refine (ensures_exportStored_spares confined holds fresh _ request attendance).mono ?_
  rintro outcome later ⟨spared, compiled⟩
  cases outcome with
  | error failure => exact ensures_recover_accounts holds filled spared request failure
  | ok result =>
    obtain ⟨strategy, paths⟩ := compiled result rfl
    refine ⟨?_, holds.more.spares.trans spared⟩
    rw [List.map_map] at paths
    unfold Accounts
    dsimp only
    rw [strategy]
    exact ⟨fun h mem => exists?_of_spares holds spared mem, paths⟩

omit holds

/-- Whether an export accounts for its uploads, if they could be stored. -/
def AccountsFor (x : ExportService) (uploads : List Upload) (w : World)
    (outcome : Except Failure ExportResult) (last : World) : Prop :=
  ∀ stored stocked, w.run (x.storage.storeAll label uploads).run = (.ok stored, stocked) →
    ∃ holdings, holdings.map Holding.upload = uploads ∧ holdings.map Holding.file = stored ∧
      Accounts holdings last.shared.disk outcome

/-- **An export accounts for every file that it has stored.** A request without uploads, or with
fields that cannot be read, changes nothing. No export removes or alters what was there before. And
once the uploads were stored: if the export fails, none of their files is left; if it gives back a
result that the engine has made, all of them are there, to be removed with it; and if it gives back
one of them as it came, that one is there, whole, and no other. -/
theorem exportForm_accounts (confined : x.engine.Confined) (uploads : List Upload)
    (form : ExportForm) (attendance : Attendance) {w : World}
    (fresh : w.Fresh [label, "export"] (2 * uploads.length + 1)) :
    let run := w.run (x.exportForm uploads form attendance).run
    ((uploads = [] ∨ ∃ failure, x.readForm form = .error failure) →
      ∃ failure, run = (.error failure, w)) ∧
    (∀ p, w.shared.disk.at? p ≠ none → run.2.shared.disk.at? p = w.shared.disk.at? p) ∧
    (uploads ≠ [] → (∃ request, x.readForm form = .ok request) →
      x.AccountsFor uploads w run.1 run.2) := by
  have whole : (x.exportForm uploads form attendance).Ensures w fun outcome last =>
      Spares w.shared.disk last.shared.disk ∧
        (uploads ≠ [] → (∃ request, x.readForm form = .ok request) →
          x.AccountsFor uploads w outcome last) := by
    refine ensures_exportForm fresh (fun rejected failure => ?_) (fun failure later ran left => ?_)
      fun request holdings stocked _ some same ran holds fresh => ?_
    · refine ⟨.refl _, fun filled readable => ?_⟩
      obtain ⟨request, read⟩ := readable
      obtain rfl | ⟨failure, unread⟩ := rejected
      · exact absurd rfl filled
      · cases read.symm.trans unread
    · exact ⟨left.spares, fun _ _ _ _ ran' => by cases ran.symm.trans ran'⟩
    · -- What was stored is all that the statement asks about.
      have settle (outcome : Except Failure ExportResult) (last : World)
          (h : Accounts holdings last.shared.disk outcome ∧
            Spares w.shared.disk last.shared.disk) :
          Spares w.shared.disk last.shared.disk ∧
            (uploads ≠ [] → (∃ request, x.readForm form = .ok request) →
              x.AccountsFor uploads w outcome last) := by
        refine ⟨h.2, fun _ _ stored other ran' => ?_⟩
        cases ran.symm.trans ran'
        exact ⟨holdings, same, rfl, h.1⟩
      refine (ensures_rest holds confined fresh some request attendance).mono ?_
      intro outcome later rest
      cases outcome with
      | ok result => exact settle _ _ rest
      | error failure => exact Act.Ensures.mono rest settle
  exact ⟨fun rejected => run_exportForm_of_rejected rejected attendance w,
    fun p there => whole.1.at?_eq there, whole.2⟩

/-- Two clips and an engine that is not installed: the clip of the timeline is given back. -/
theorem exportForm_accounts_passthrough :
    let x := ExportService.ofSettings (.standard "data" "uploads" "output")
    let old : Place × Node := (["uploads", "old.mp4"], .file [0x4F] (.ofSeconds 0.0))
    let w : World := ⟨⟨⟨[(["uploads"], .directory), old]⟩, 0.0, 0⟩, ⟨⟨false, .error .notFound,
      fun _ => .error .notFound, .error .notFound, .error .notFound, false⟩, .never, []⟩⟩
    let uploads : List Upload := [⟨some "a.mp4", some "video/mp4", [.ok [0x41]]⟩,
      ⟨some "b.mp4", some "video/mp4", [.ok [0x42]]⟩]
    let form : ExportForm := ⟨.decoded (.list [.object [("id", .text "1"),
      ("mediaId", .text "b.mp4"), ("duration", .int 1)]]), .absent, .absent, .absent⟩
    let run := w.run (x.exportForm uploads form ⟨false, false⟩).run
    run.1.toOption.map ExportResult.path = some "uploads/files-0-000000030000.mp4" ∧
      run.2.shared.disk.exists? "uploads/files-0-000000010000.mp4" = false ∧
      ∃ holdings, holdings.map Holding.upload = uploads ∧
        Accounts holdings run.2.shared.disk run.1 := by
  intro x old w uploads form run
  have fresh : w.Fresh [label, "export"] (2 * uploads.length + 1) :=
    fresh_of_unlabelled (by decide) (by decide +kernel)
  obtain ⟨-, -, accounts⟩ := exportForm_accounts (x := x) (Engine.confined_access _) uploads form
    ⟨false, false⟩ fresh
  obtain ⟨stored, kept⟩ : ∃ stored, (w.run (x.storage.storeAll label uploads).run).1 = .ok stored :=
    isOk_iff_exists.1 (by decide +kernel)
  obtain ⟨holdings, same, -, account⟩ := accounts (List.cons_ne_nil _ _)
    (isOk_iff_exists.1 (by decide +kernel)) stored _ (Prod.ext kept rfl)
  exact ⟨by decide +kernel, by decide +kernel, holdings, same, account⟩

end ExportService

end Splice
