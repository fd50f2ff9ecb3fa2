import Splice.Proofs.Export.Accounts
import Splice.Proofs.Export.Strategy

/-!
# What an export falls back to

If the engine cannot be invoked, the assets are made once more and the upload to give back is looked
up. Nothing can go wrong there, since the timeline has passed the check before the engine was asked:
its first item names an asset that is no sound (`ExportService.exists_firstClip`), so that neither a
later item nor the first upload that is no sound is ever looked at, and the path of that asset is
that of a stored file.

Main statement: `ExportService.exportForm_falls_back`.
-/

namespace Splice

open Storage World Disk

namespace ExportService

variable {x : ExportService} {stored : List StoredFile} {request : ExportRequest}

/-! ## The first clip -/

/-- Whether a file is that of the first clip: the first item on the timeline names an asset that is
no sound, and of all items that do so it comes first; and the file is found by the path of that
asset. -/
def FirstClip (stored : List StoredFile) (request : ExportRequest) (file : StoredFile) : Prop :=
  let assets := AssetTable.ofStored stored request.mediaFiles
  ∃ item rest asset, request.timeline = item :: rest ∧
    assets.get? item.mediaId = some asset ∧ asset.kind ≠ .audio ∧
    (request.timeline.findSome? fun item =>
      (assets.get? item.mediaId).filter fun asset => asset.kind ≠ .audio) = some asset ∧
    (stored.find? fun f => f.path == asset.source) = some file

theorem FirstClip.preferred {file : StoredFile} (first : FirstClip stored request file) :
    preferred? stored request = some file := by
  obtain ⟨item, rest, asset, -, -, -, chosen, found⟩ := first
  unfold preferred?
  dsimp only
  rw [chosen]
  exact found

theorem FirstClip.mem {file : StoredFile} (first : FirstClip stored request file) :
    file ∈ stored := by
  obtain ⟨item, rest, asset, -, -, -, -, found⟩ := first
  exact List.mem_of_find?_eq_some found

/-- If a timeline has passed the check, there is a file of the first clip. -/
theorem exists_firstClip {validated : AssetTable × Timeline}
    (valid : x.validate stored request = .ok validated) :
    ∃ file, FirstClip stored request file := by
  obtain ⟨assets, timeline⟩ := validated
  obtain ⟨rfl, -, admissible⟩ := admissible_of_validate valid
  cases items : request.timeline with
  | nil => exact absurd (by rw [entriesOf, items, List.map_nil]) admissible.nonempty
  | cons item rest =>
    have mem : item.toEntry x.settings ∈ x.entriesOf request := by
      rw [entriesOf, items, List.map_cons]
      exact List.mem_cons_self
    obtain ⟨asset, found, visual, -⟩ := admissible.visual _ mem
    replace found : (AssetTable.ofStored stored request.mediaFiles).get? item.mediaId = some asset :=
      found
    obtain ⟨f, listed, source⟩ := AssetTable.madeOf_ofStored stored request.mediaFiles _ _ found
    obtain ⟨file, chosen⟩ : ∃ file, (stored.find? fun f => f.path == asset.source) = some file :=
      Option.isSome_iff_exists.1 (List.find?_isSome.2 ⟨f, listed, by simp [source]⟩)
    refine ⟨file, item, rest, asset, items, found, visual, ?_, chosen⟩
    rw [items, List.findSome?_cons, found, Option.filter_some, if_pos (by simpa using visual)]

/-- The engine was only asked if the timeline has passed the check. -/
theorem exists_validate_of_unavailable {attendance : Attendance} {w : World} {failure : Failure}
    (failed : x.ending stored request attendance w = .error failure)
    (unavailable : failure.isUnavailable) :
    ∃ validated, x.validate stored request = .ok validated := by
  cases valid : x.validate stored request with
  | ok validated => exact ⟨validated, rfl⟩
  | error p =>
    cases failed.symm.trans (history_of_invalid valid attendance w).2
    rw [isUnavailable_of_validate valid] at unavailable
    cases unavailable

/-! ## Giving it back -/

section

variable {first w : World} {holdings : List Holding}
  (holds : Holds x.storage label first w holdings)
include holds

/-- A file that is given back is there, whole. -/
theorem ensures_passThrough_whole {later : World}
    (spared : Spares w.shared.disk later.shared.disk) {h : Holding} (mem : h ∈ holdings) :
    (passThrough (holdings.map Holding.file) h.file).Ensures later fun outcome last =>
      outcome = .ok (passedThrough h.file) ∧ ∃ modified, last.shared.disk.file h.file.path =
        .ok (Upload.delivered h.upload.reads, modified) := by
  rw [ensures_passThrough_iff]
  have others := mem_others_iff holdings h
  generalize ((holdings.map Holding.file).filter _).map StoredFile.path = paths at others ⊢
  exact ⟨rfl, file_without holds spared mem fun path => (others path).1⟩

/-- If the engine cannot be invoked, the file of the first clip is given back, and otherwise none
is. -/
theorem ensures_recover_firstClip {later : World}
    (spared : Spares w.shared.disk later.shared.disk) {failure : Failure}
    (valid : failure.isUnavailable → ∃ validated,
      x.validate (holdings.map Holding.file) request = .ok validated) :
    (recover (holdings.map Holding.file) request failure).Ensures later fun outcome last =>
      Strategy.passthrough.Serves outcome → ∃ h ∈ holdings,
        FirstClip (holdings.map Holding.file) request h.file ∧
        outcome = .ok (passedThrough h.file) ∧ ∃ modified,
          last.shared.disk.file h.file.path = .ok (Upload.delivered h.upload.reads, modified) := by
  cases unavailable : failure.isUnavailable with
  | true =>
    obtain ⟨validated, valid⟩ := valid unavailable
    obtain ⟨file, clip⟩ := exists_firstClip valid
    obtain ⟨h, mem, rfl⟩ := List.mem_map.1 clip.mem
    refine ensures_recover_of_unavailable unavailable clip.preferred ?_
    exact (ensures_passThrough_whole holds spared mem).mono
      fun outcome last whole _ => ⟨h, mem, clip, whole⟩
  | false =>
    refine ensures_recover_of_available unavailable ?_
    rintro ⟨result, same, -⟩
    cases same

end

/-! ## The whole export -/

/-- Whether an export has given back the upload of its first clip: the file of that upload is that of
the first clip, and it is given back with all that was delivered, and with the name and the type that
its sender gave it. -/
def FellBack (x : ExportService) (uploads : List Upload) (form : ExportForm) (w : World)
    (outcome : Except Failure ExportResult) (last : World) : Prop :=
  ∃ (request : ExportRequest) (stored : List StoredFile) (k : Nat) (upload : Upload)
    (file : StoredFile),
    x.readForm form = .ok request ∧
    (w.run (x.storage.storeAll label uploads).run).1 = .ok stored ∧
    FirstClip stored request file ∧ uploads[k]? = some upload ∧ stored[k]? = some file ∧
    outcome = .ok {
      path := file.path
      filename := givenName upload
      contentType := Text.orIfEmpty (upload.contentType.getD "") "application/octet-stream"
      cleanupPaths := [file.path]
      strategy := .passthrough } ∧
    ∃ modified, last.shared.disk.file file.path = .ok (Upload.delivered upload.reads, modified)

theorem ensures_exportForm_fellBack (confined : x.engine.Confined) {uploads : List Upload}
    {form : ExportForm} {attendance : Attendance} {w : World}
    (fresh : w.Fresh [label, "export"] (2 * uploads.length + 1)) :
    (x.exportForm uploads form attendance).Ensures w fun outcome last =>
      Strategy.passthrough.Serves outcome → x.FellBack uploads form w outcome last := by
  have unserved {failure : Failure} {last : World}
      (served : Strategy.passthrough.Serves (.error failure)) :
      x.FellBack uploads form w (.error failure) last := by
    obtain ⟨result, same, -⟩ := served
    cases same
  refine ensures_exportForm fresh (fun _ _ => unserved) (fun _ _ _ _ => unserved) ?_
  intro request holdings stocked read _ same kept holds fresh
  refine ((ensures_exportStored_spares confined holds fresh _ request attendance).with_run).mono ?_
  rintro outcome last ⟨⟨spared, compiled⟩, ran⟩
  cases outcome with
  | ok result =>
    rintro ⟨_, ⟨⟩, passed⟩
    cases (compiled result rfl).1.symm.trans passed
  | error failure =>
    refine (ensures_recover_firstClip holds spared
      (exists_validate_of_unavailable (congrArg Prod.fst ran))).mono ?_
    intro outcome last gives served
    obtain ⟨h, mem, clip, returned, whole⟩ := gives served
    obtain ⟨k, found⟩ := List.getElem?_of_mem mem
    have plain : '/' ∉ label.toList := by decide
    have stored := congrArg Prod.fst kept
    rw [← same] at stored
    obtain ⟨between, recorded⟩ := exists_recorded plain stored mem
    rw [same] at stored
    refine ⟨request, _, k, h.upload, h.file, read, stored, clip, ?_, ?_, ?_, whole⟩
    · rw [← same, List.getElem?_map, found, Option.map_some]
    · rw [List.getElem?_map, found, Option.map_some]
    · rw [returned, passedThrough, recorded.givenName, recorded.contentType]

/-- **An export falls back to its first clip.** If the engine cannot be invoked for an export, one of
its uploads is given back as it came: that of which the asset is made that the first item names. -/
theorem exportForm_falls_back (confined : x.engine.Confined) (uploads : List Upload)
    (form : ExportForm) (attendance : Attendance) {w : World}
    (fresh : w.Fresh [label, "export"] (2 * uploads.length + 1)) :
    let run := w.run (x.exportForm uploads form attendance).run
    (∀ request stored stocked failure, uploads ≠ [] → x.readForm form = .ok request →
      w.run (x.storage.storeAll label uploads).run = (.ok stored, stocked) →
      x.ending stored request attendance stocked = .error failure → failure.isUnavailable →
      Strategy.passthrough.Serves run.1) ∧
    (Strategy.passthrough.Serves run.1 → x.FellBack uploads form w run.1 run.2) := by
  intro run
  refine ⟨fun request stored stocked failure filled read kept failed unavailable => ?_,
    ensures_exportForm_fellBack confined fresh⟩
  have became := becomes_of_stored filled read attendance kept
  rw [failed, Becomes, if_pos unavailable] at became
  exact became

/-- Two clips of one name and an engine that is not installed: the item on the timeline is the second
of the manifest, so that the second clip is given back. -/
theorem exportForm_falls_back_second_of_name :
    let x := ExportService.ofSettings (.standard "data" "uploads" "output")
    let w : World := ⟨⟨⟨[(["uploads"], .directory)]⟩, 0.0, 0⟩, ⟨⟨false, .error .notFound,
      fun _ => .error .notFound, .error .notFound, .error .notFound, false⟩, .never, []⟩⟩
    let clip (octet : UInt8) : Upload := ⟨some "a.mp4", some "video/mp4", [.ok [octet]]⟩
    let uploads := [clip 0x41, clip 0x42]
    let media (id : String) : Json :=
      .object [("id", .text id), ("name", .text "a.mp4"), ("type", .text "video")]
    let form : ExportForm := ⟨.decoded (.list [.object [("id", .text "1"),
      ("mediaId", .text "second"), ("duration", .int 1)]]), .absent, .absent,
      .decoded (.list [media "first", media "second"])⟩
    let run := w.run (x.exportForm uploads form ⟨false, false⟩).run
    run.1.toOption.map (fun result => (result.path, result.filename, result.strategy)) =
        some ("uploads/files-0-000000030000.mp4", "a.mp4", .passthrough) ∧
      x.FellBack uploads form w run.1 run.2 := by
  intro x w clip uploads media form run
  have fresh : w.Fresh [label, "export"] (2 * uploads.length + 1) :=
    fresh_of_unlabelled (by decide) (by decide +kernel)
  obtain ⟨-, fellBack⟩ := exportForm_falls_back (x := x) (Engine.confined_access _) uploads form
    ⟨false, false⟩ fresh
  have passed : run.1.toOption.map (fun result => (result.path, result.filename, result.strategy)) =
      some ("uploads/files-0-000000030000.mp4", "a.mp4", .passthrough) := by decide +kernel
  refine ⟨passed, fellBack ?_⟩
  generalize run.1 = outcome at passed
  cases outcome with
  | error failure => cases passed
  | ok result => exact ⟨result, rfl, congrArg (·.2.2) (Option.some_inj.1 passed)⟩

end ExportService

end Splice
