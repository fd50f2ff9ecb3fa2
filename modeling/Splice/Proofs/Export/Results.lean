import Splice.Proofs.Export.Fallback
import Splice.Proofs.Export.Leftovers

/-!
# Where results come from, and what is left when they are gone

A result *settles* a request if it can only be read as what is due, and nothing on the disk has
changed once it was removed with everything that is to be removed with it
(`ExportService.Settles`). With the engine of the two programs every result does. Due from an export
is what the engine renders, or else the upload of the first item
(`ExportService.ensures_exportForm_settles`); without a timeline it is the first upload, as it came
or converted (`ExportService.ensures_simpleExport_settles`,
`ExportService.ensures_combine_settles`).
-/

namespace Splice

open Storage World Disk

namespace EngineBehaviour

/-- Whether the engine's rendering writes a content. -/
def RendersTo (behaviour : EngineBehaviour) (content : Bytes) : Prop :=
  ∃ rendering, behaviour.render = .ok rendering ∧ rendering.writes = some content

/-- Whether the engine's conversion writes a content. -/
def ConvertsTo (behaviour : EngineBehaviour) (content : Bytes) : Prop :=
  ∃ conversion, behaviour.convert = .ok conversion ∧ conversion.writes = some content

end EngineBehaviour

namespace ExportService

variable {x : ExportService} {first w : World} {holdings : List Holding}

/-- Whether whatever is read of a result satisfies a condition, and nothing has changed since a
world once the result was removed. -/
structure Settles (first : World) (due : Bytes → Prop) (later : World) (result : ExportResult) :
    Prop where
  content : ∀ found, later.shared.disk.file result.path = .ok found → due found.1
  tidy : More (fun _ => False) first.shared.disk (later.shared.disk.without result.cleanupPaths)

theorem Settles.mono {due wider : Bytes → Prop} {later : World} {result : ExportResult}
    (h : Settles first due later result) (imp : ∀ content, due content → wider content) :
    Settles first wider later result :=
  ⟨fun found read => imp _ (h.content found read), h.tidy⟩

/-! ## Results that are uploads -/

/-- An upload that is given back as it came settles. -/
theorem ensures_passThrough_settles (holds : Holds x.storage label first w holdings)
    {later : World} (same : More (fun _ => False) w.shared.disk later.shared.disk) {h : Holding}
    (mem : h ∈ holdings) :
    (passThrough (holdings.map Holding.file) h.file).Ensures later fun outcome last =>
      ∀ result, outcome = .ok result → result.strategy = .passthrough ∧
        Settles first (· = Upload.delivered h.upload.reads) last result := by
  rw [ensures_passThrough_iff]
  have others := mem_others_iff holdings h
  generalize ((holdings.map Holding.file).filter _).map StoredFile.path = paths at others ⊢
  obtain ⟨modified, whole⟩ := file_without holds same.spares mem fun path => (others path).1
  intro result returned
  cases returned
  refine ⟨rfl, fun found read => ?_, ?_⟩
  · cases whole.symm.trans read
    rfl
  · show More _ _ ((later.shared.disk.without paths).without [h.file.path])
    rw [← without_append]
    refine holds.without same fun path => ?_
    rw [List.mem_append, others, List.mem_singleton]
    constructor
    · rintro (⟨g, listed, same, -⟩ | rfl)
      · exact ⟨g, listed, same⟩
      · exact ⟨h, mem, rfl⟩
    · rintro ⟨g, listed, same⟩
      by_cases chosen : path = h.file.path
      · exact .inr chosen
      · exact .inl ⟨g, listed, same, chosen⟩

/-- Without a timeline the first upload is given back as it came. -/
theorem ensures_simpleExport_settles (uploads : List Upload)
    (fresh : w.Fresh [label, "export"] (2 * uploads.length + 1)) :
    (x.simpleExport uploads).Ensures w fun outcome later => ∀ result, outcome = .ok result →
      Settles w (fun content => ∃ upload ∈ uploads.head?, content = Upload.delivered upload.reads)
        later result := by
  have storing := ensures_storeAll (s := x.storage) (by decide : '/' ∉ label.toList) uploads
    List.mem_cons_self (fresh.mono (Nat.le_succ _))
  unfold simpleExport
  rw [Act.ensures_bind]
  refine storing.mono fun outcome stocked kept => ?_
  cases outcome with
  | error failure => exact nofun
  | ok files =>
    obtain ⟨holdings, rfl, rfl, holds⟩ := kept
    rw [List.nil_append] at holds ⊢
    cases holdings with
    | nil => exact nofun
    | cons h rest =>
      refine (ensures_passThrough_settles holds (.refl _) List.mem_cons_self).mono ?_
      rintro outcome last settled result rfl
      exact (settled result rfl).2.mono fun content whole => ⟨h.upload, rfl, whole⟩

/-! ## Results that the engine has written -/

/-- What the engine has written to a fresh path settles, if it is removed with the uploads. -/
theorem settles_of_put (holds : Holds x.storage label first w holdings) {output : String}
    {content : Option Bytes} {later : World}
    (put : Put output content w.shared.disk later.shared.disk)
    (new : ∀ p, w.shared.disk.place output = .ok p → w.shared.disk.at? p = none) :
    (∀ found, later.shared.disk.file output = .ok found → content = some found.1) ∧
      More (fun _ => False) first.shared.disk
        (later.shared.disk.without (holdings.map (·.file.path) ++ [output])) := by
  have unused (p : Place) (leads : first.shared.disk.place output = .ok p) :
      first.shared.disk.at? p = none := by
    by_contra there
    have still := holds.more.at?_eq there
    rw [new p (holds.more.others.place_iff.2 leads)] at still
    exact there still.symm
  refine ⟨fun found => put.content_eq new, ?_⟩
  rw [without_append]
  rcases put.more new with nothing | ⟨-, p, leads, more⟩
  · exact (holds.removed nothing).cleared (fun _ h => h.elim) unused
  · exact (holds.removed more).cleared
      (fun q here => here ▸ holds.more.others.place_iff.1 leads) unused

/-- A conversion gives back what the engine has made of the first upload. -/
theorem ensures_combine_settles {e : Engine} (engine : x.engine = e.access) (uploads : List Upload)
    (fresh : w.Fresh [label, "export"] (2 * uploads.length + 1)) :
    (x.combine uploads).Ensures w fun outcome later => ∀ result, outcome = .ok result →
      Settles w w.own.engine.ConvertsTo later result := by
  refine ensures_combine fresh nofun (fun _ _ _ _ => nofun) ?_
  intro h rest stocked time _ holds fresh timed
  have new (p : Place) (leads : stocked.shared.disk.place
      (x.nextOutput stocked time ("." ++ OutputFormat.mp4.name)) = .ok p) :
      stocked.shared.disk.at? p = none :=
    at?_output_eq_none holds fresh (.of_shared rfl) leads
  generalize x.nextOutput stocked time ("." ++ OutputFormat.mp4.name) = output at new ⊢
  dsimp only
  rw [Act.ensures_aside, engine]
  refine (e.ensures_convert h.file.path output _ _ stocked.afterId).mono fun outcome later wrote => ?_
  rw [shared_await]
  refine ⟨fun _ => nofun, fun result _ there cleanup result' same => ?_⟩
  cases same
  have put : ∃ content, Put output content stocked.shared.disk later.shared.disk ∧
      ∀ bytes, content = some bytes → w.own.engine.ConvertsTo bytes := by
    rcases wrote with alike | ⟨conversion, found, wrote⟩
    · exact ⟨none, (congrArg SharedWorld.disk alike.shared :), nofun⟩
    · refine ⟨conversion.writes, wrote.put, fun bytes writes => ⟨conversion, ?_, writes⟩⟩
      rw [← holds.since.engine]
      exact found
  obtain ⟨content, put, converts⟩ := put
  obtain ⟨whole, tidy⟩ := settles_of_put holds put new
  refine ⟨fun found read => converts _ (whole found ?_), ?_⟩
  · rw [← there]
    exact file_of_file_without read
  · rw [cleanup]
    show More _ _ ((later.shared.disk.without _).without [output])
    rwa [← without_append]

/-- A rendering of stored uploads settles. -/
theorem ensures_exportStored_settles {e : Engine} (engine : x.engine = e.access)
    (holds : Holds x.storage label first w holdings)
    (fresh : first.Fresh [label, "export"] (2 * holdings.length + 1)) (request : ExportRequest)
    (attendance : Attendance) :
    (x.exportStored (holdings.map Holding.file) request attendance).Ensures w fun outcome later =>
      ∀ result, outcome = .ok result → result.strategy = .compiled ∧
        Settles first w.own.engine.RendersTo later result := by
  have keeps : x.engine.Keeps Alike := engine ▸ e.keeps_access
  refine (ensures_exportStored keeps (holdings.map Holding.file) request attendance w).mono ?_
  rintro outcome later (⟨-, failure, rfl⟩ |
    ⟨plan, locations, time, format, asked, rendered, alike, timed, run, concluded⟩)
  · exact nofun
  · intro result returned
    have new (p : Place) (leads : w.shared.disk.place
        (x.nextOutput asked time ("." ++ format.name)) = .ok p) : w.shared.disk.at? p = none := by
      rw [← alike.shared] at leads ⊢
      exact at?_output_eq_none holds fresh (.of_shared alike.shared) leads
    have put := e.ensures_render_put plan locations (x.nextOutput asked time ("." ++ format.name))
      attendance asked.afterId
    rw [engine] at run
    unfold Act.Ensures at put
    rw [show asked.afterId.run (e.render _ _ _ _).run = _ from run] at put
    unfold Concluded at concluded
    cases rendered with
    | error failure => cases returned.symm.trans concluded
    | ok path =>
      obtain ⟨rendering, found, put⟩ := put path rfl
      replace put : Put _ _ asked.shared.disk _ := put
      rw [alike.shared] at put
      obtain ⟨whole, tidy⟩ := settles_of_put holds put new
      split at concluded
      case h_1 => cases returned.symm.trans concluded
      case h_2 =>
        obtain ⟨other, same, there, strategy, cleanup⟩ := concluded
        cases returned.symm.trans same
        refine ⟨strategy, fun bytes read => ⟨rendering, ?_, whole bytes (there ▸ read)⟩, ?_⟩
        · rw [← alike.engine]
          exact found
        · rw [cleanup, there, List.map_map]
          exact tidy

/-- If the engine cannot be invoked for an export of stored uploads, nothing has changed. -/
theorem ensures_exportStored_unavailable {e : Engine} (engine : x.engine = e.access)
    (holds : Holds x.storage label first w holdings)
    (fresh : first.Fresh [label, "export"] (2 * holdings.length + 1)) (stored : List StoredFile)
    (request : ExportRequest) (attendance : Attendance) :
    (x.exportStored stored request attendance).Ensures w fun outcome later =>
      ∀ failure, outcome = .error failure → failure.isUnavailable = true →
        (∃ validated, x.validate stored request = .ok validated) ∧
          More (fun _ => False) w.shared.disk later.shared.disk := by
  cases valid : x.validate stored request with
  | error p =>
    unfold exportStored Dialogue.exportStored
    rw [valid]
    rintro failure failed unavailable
    cases failed
    rw [isUnavailable_of_validate valid] at unavailable
    cases unavailable
  | ok validated =>
    refine (ensures_exportStored_leaves engine holds fresh stored request attendance).mono ?_
    intro outcome later left failure failed unavailable
    refine ⟨⟨validated, rfl⟩, ?_⟩
    rcases left failure failed with nothing | ⟨⟨plan, rendering, -, -, gaveUp⟩, -⟩
    · exact nothing
    · rcases gaveUp with ⟨-, rfl⟩ | ⟨status, fault, -, -, rfl⟩ <;> cases unavailable

/-! ## Which upload an export gives back -/

/-- Whether an upload is that of the first item on a timeline: its file makes the asset that the item
names. -/
def OfFirstItem (uploads : List Upload) (stored : List StoredFile) (request : ExportRequest)
    (upload : Upload) : Prop :=
  ∃ item rest asset file, request.timeline = item :: rest ∧
    (AssetTable.ofStored stored request.mediaFiles).get? item.mediaId = some asset ∧
    file.path = asset.source ∧ (upload, file) ∈ uploads.zip stored

/-- If the engine cannot be invoked, the upload of the first item is given back. -/
theorem ensures_recover_settles (holds : Holds x.storage label first w holdings) {later : World}
    {failure : Failure} (request : ExportRequest)
    (kept : failure.isUnavailable = true →
      (∃ validated, x.validate (holdings.map Holding.file) request = .ok validated) ∧
        More (fun _ => False) w.shared.disk later.shared.disk) :
    (recover (holdings.map Holding.file) request failure).Ensures later fun outcome last =>
      ∀ result, outcome = .ok result → result.strategy = .passthrough ∧
        ∃ upload, OfFirstItem (holdings.map Holding.upload) (holdings.map Holding.file) request
          upload ∧ Settles first (· = Upload.delivered upload.reads) last result := by
  cases unavailable : failure.isUnavailable with
  | true =>
    obtain ⟨⟨validated, valid⟩, same⟩ := kept unavailable
    obtain ⟨file, clip⟩ := exists_firstClip valid
    obtain ⟨h, mem, rfl⟩ := List.mem_map.1 clip.mem
    refine ensures_recover_of_unavailable unavailable clip.preferred ?_
    obtain ⟨item, rest, asset, items, found, -, -, chosen⟩ := clip
    have source : h.file.path = asset.source := beq_iff_eq.1 (List.find?_some chosen :)
    refine (ensures_passThrough_settles holds same mem).mono ?_
    intro outcome last settled result returned
    obtain ⟨strategy, settles⟩ := settled result returned
    refine ⟨strategy, h.upload, ⟨item, rest, asset, h.file, items, found, source, ?_⟩, settles⟩
    rw [List.zip_map']
    exact List.mem_map_of_mem mem
  | false => exact ensures_recover_of_available unavailable nofun

/-! ## The whole export -/

/-- Whether an upload is that of the first item on the timeline of a form, when the uploads are
stored. -/
def IsFirst (x : ExportService) (uploads : List Upload) (form : ExportForm) (w : World)
    (upload : Upload) : Prop :=
  ∃ request stored, x.readForm form = .ok request ∧
    (w.run (x.storage.storeAll label uploads).run).1 = .ok stored ∧
    OfFirstItem uploads stored request upload

theorem IsFirst.mem {uploads : List Upload} {form : ExportForm} {upload : Upload}
    (first : x.IsFirst uploads form w upload) : upload ∈ uploads := by
  obtain ⟨_, _, _, _, _, _, _, _, _, _, _, pair⟩ := first
  exact (List.of_mem_zip pair).1

/-- Whether a content is what an export has to give back: what the engine renders, or the upload of
the first item. -/
def Due (x : ExportService) (uploads : List Upload) (form : ExportForm) (w : World) :
    Strategy → Bytes → Prop
  | .compiled, content => w.own.engine.RendersTo content
  | .passthrough, content =>
    ∃ upload, x.IsFirst uploads form w upload ∧ content = Upload.delivered upload.reads
  | .combine, _ => False

/-- An export gives back what is due, and nothing is left of it. -/
theorem ensures_exportForm_settles {e : Engine} (engine : x.engine = e.access)
    (uploads : List Upload) (form : ExportForm) (attendance : Attendance)
    (fresh : w.Fresh [label, "export"] (2 * uploads.length + 1)) :
    (x.exportForm uploads form attendance).Ensures w fun outcome later =>
      ∀ result, outcome = .ok result →
        Settles w (x.Due uploads form w result.strategy) later result := by
  refine ensures_exportForm fresh (fun _ _ => nofun) (fun _ _ _ _ => nofun) ?_
  intro request holdings stocked read filled same stored holds fresh
  refine ((ensures_exportStored_settles engine holds fresh request attendance).and
    (ensures_exportStored_unavailable engine holds fresh _ request attendance)).mono ?_
  rintro outcome last ⟨made, unavailable⟩
  cases outcome with
  | ok result =>
    intro other returned
    cases returned
    obtain ⟨strategy, settles⟩ := made result rfl
    rw [strategy]
    refine settles.mono fun content renders => ?_
    show w.own.engine.RendersTo content
    rwa [← holds.since.engine]
  | error failure =>
    refine (ensures_recover_settles holds request (unavailable failure rfl)).mono ?_
    intro outcome last settled result returned
    obtain ⟨strategy, upload, chosen, settles⟩ := settled result returned
    rw [strategy]
    rw [same] at chosen
    exact settles.mono fun content whole =>
      ⟨upload, ⟨request, _, read, congrArg Prod.fst stored, chosen⟩, whole⟩

end ExportService

end Splice
