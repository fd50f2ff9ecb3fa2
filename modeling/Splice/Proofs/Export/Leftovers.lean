import Splice.Proofs.Export.Course

/-!
# What a failing request leaves

With the engine of the two programs a request that fails leaves nothing outside of the directory for
uploads, but for a result on which the engine gives up: a rendering that it cannot see to its end,
or anything that a conversion has written (`ExportService.failing_leaves`). In the directory for
uploads something is left only if the uploads could not be stored (`Storage.storeAll_remains`).
-/

namespace Splice

open Storage World Disk

/-- Whether two disks are the same, or there is a cause and they differ in one file more in a
directory. -/
def Disk.Leaves (directory : String) (cause : Prop) (before after : Disk) : Prop :=
  More (fun _ => False) before after ∨
    cause ∧ ∃ p, before.Entry directory p ∧ More (· = p) before after

namespace ExportService

/-- Whether the uploads of a request could not be stored, and nothing has changed outside of their
directory. -/
def NotStored (x : ExportService) (uploads : List Upload) (w : World) (failure : Failure)
    (after : Disk) : Prop :=
  (w.run (x.storage.storeAll label uploads).run).1 = .error failure ∧
    ∀ p, ¬ w.shared.disk.Entry x.storage.uploadDir p → after.at? p = w.shared.disk.at? p

variable {x : ExportService} {first w : World} {holdings : List Holding}

theorem notStored_of_remains {uploads : List Upload} {after : World} {failure : Failure}
    {stored : Nat} {awaits : Option Nat}
    (run : w.run (x.storage.storeAll label uploads).run = (.error failure, after))
    (left : Remains x.storage.uploadDir w.shared.disk after.shared.disk stored awaits failure) :
    x.NotStored uploads w failure after.shared.disk := by
  obtain ⟨extra, entries, more⟩ := left.exists_more
  exact ⟨by rw [run], fun p outside => more.others.at?_eq p (mt (entries p) outside)⟩

/-- The path of a result is that of an entry of the directory for results. -/
theorem entry_nextOutput {time : Int} {format : OutputFormat} {p : Place}
    (leads : w.shared.disk.place (x.nextOutput w time ("." ++ format.name)) = .ok p) :
    w.shared.disk.Entry x.storage.outputDir p :=
  ⟨_, isName_front_append (by decide) (by cases format <;> decide) time _, leads⟩

/-- What is left besides stored uploads is left when they are removed. -/
theorem leaves_without (holds : Holds x.storage label first w holdings) {cause : Prop}
    {later : Disk} (left : Leaves x.storage.outputDir cause w.shared.disk later) :
    Leaves x.storage.outputDir cause first.shared.disk
      (later.without (holdings.map (·.file.path))) :=
  left.imp holds.removed fun ⟨why, p, entry, more⟩ =>
    ⟨why, p, holds.more.others.entry entry, holds.removed more⟩

/-! ## Exports -/

/-- Whether a rendering for an export gives up on its result. -/
def GivesUp (attendance : Attendance) (behaviour : EngineBehaviour) (failure : Failure) : Prop :=
  ∃ plan, Engine.GivesUp plan attendance behaviour failure

theorem ensures_exportStored_leaves {e : Engine} (engine : x.engine = e.access)
    (holds : Holds x.storage label first w holdings)
    (fresh : first.Fresh [label, "export"] (2 * holdings.length + 1)) (stored : List StoredFile)
    (request : ExportRequest) (attendance : Attendance) :
    (x.exportStored stored request attendance).Ensures w fun outcome later =>
      ∀ failure, outcome = .error failure →
        Leaves x.storage.outputDir (GivesUp attendance w.own.engine failure) w.shared.disk
          later.shared.disk := by
  have keeps : x.engine.Keeps Alike := engine ▸ e.keeps_access
  refine (ensures_exportStored keeps stored request attendance w).mono ?_
  rintro outcome later (⟨alike, -⟩ |
    ⟨plan, locations, time, format, asked, rendered, alike, timed, run, concluded⟩) failure failed
  · rw [alike.shared]
    exact .inl (.refl _)
  · have new (p : Place) (leads : asked.shared.disk.place
        (x.nextOutput asked time ("." ++ format.name)) = .ok p) : asked.shared.disk.at? p = none :=
      at?_output_eq_none holds fresh (.of_shared alike.shared) leads
    have left := e.ensures_render plan locations attendance (w := asked.afterId) new
    rw [engine] at run
    unfold Act.Ensures at left
    rw [show asked.afterId.run (e.render _ _ _ _).run = _ from run] at left
    obtain ⟨clock, left⟩ := left
    rw [← alike.shared, ← alike.engine]
    unfold Concluded at concluded
    cases rendered with
    | error other =>
      cases failed.symm.trans concluded
      exact (left _ rfl).imp_right fun ⟨why, p, leads, more⟩ =>
        ⟨⟨plan, why⟩, p, entry_nextOutput leads, more⟩
    | ok path =>
      -- The time is still a number, as it was when the result was named.
      rw [Except.bind, time_congr (w := asked) clock, timed] at concluded
      obtain ⟨result, same, -⟩ := concluded
      cases failed.symm.trans same

theorem ensures_exportForm_leaves {e : Engine} (engine : x.engine = e.access)
    (uploads : List Upload) (form : ExportForm) (attendance : Attendance)
    (fresh : w.Fresh [label, "export"] (2 * uploads.length + 1)) :
    (x.exportForm uploads form attendance).Ensures w fun outcome later =>
      ∀ failure, outcome = .error failure →
        x.NotStored uploads w failure later.shared.disk ∨
          Leaves x.storage.outputDir (GivesUp attendance w.own.engine failure) w.shared.disk
            later.shared.disk := by
  refine ensures_exportForm fresh (fun _ _ _ _ => .inr (.inl (.refl _))) ?_ ?_
  · rintro failure later ran left other same
    cases same
    exact .inl (notStored_of_remains ran left)
  · intro request holdings stocked _ some same ran holds fresh
    refine (ensures_exportStored_leaves engine holds fresh _ request attendance).mono ?_
    intro outcome later left
    cases outcome with
    | ok result => exact nofun
    | error failure =>
      refine ensures_recover some request failure (fun h _ => ?_) fun other same => ?_
      · exact ensures_passThrough_iff.2 nofun
      · cases same
        rw [← holds.since.engine]
        exact .inr (leaves_without holds (left failure rfl))

/-! ## Conversions -/

/-- Whether a conversion writes something. -/
def Converts (behaviour : EngineBehaviour) : Prop :=
  ∃ conversion, behaviour.convert = .ok conversion ∧ conversion.writes.isSome

theorem ensures_convert_leaves {e : Engine} (engine : x.engine = e.access)
    (holds : Holds x.storage label first w holdings)
    (fresh : first.Fresh [label, "export"] (2 * holdings.length + 1)) {time : Int}
    (input : String) (isImage : Bool) (format : ClipFormat) :
    (x.engine.convert input (x.nextOutput w time ("." ++ OutputFormat.mp4.name)) isImage
      format).aside.Ensures w.afterId fun _ later =>
        Leaves x.storage.outputDir (Converts w.own.engine) w.shared.disk later.shared.disk := by
  rw [Act.ensures_aside, engine]
  refine (e.ensures_convert input _ isImage format w.afterId).mono fun _ later written => ?_
  rw [shared_await]
  rcases written with alike | ⟨conversion, found, wrote⟩
  · rw [alike.shared]
    exact .inl (.refl _)
  · refine (wrote.put.more fun p leads => ?_).imp_right fun ⟨writes, p, leads, more⟩ =>
      ⟨⟨conversion, found, writes⟩, p, entry_nextOutput leads, more⟩
    exact at?_output_eq_none holds fresh (.of_shared (rfl : w.shared = w.shared)) leads

theorem ensures_combine_leaves {e : Engine} (engine : x.engine = e.access) (uploads : List Upload)
    (fresh : w.Fresh [label, "export"] (2 * uploads.length + 1)) :
    (x.combine uploads).Ensures w fun outcome later =>
      ∀ failure, outcome = .error failure →
        x.NotStored uploads w failure later.shared.disk ∨
          Leaves x.storage.outputDir (Converts w.own.engine) w.shared.disk later.shared.disk := by
  refine ensures_combine fresh (fun _ _ => .inr (.inl (.refl _))) ?_ ?_
  · rintro failure later ran left other same
    cases same
    exact .inl (notStored_of_remains ran left)
  · intro first rest stocked time _ holds fresh _
    refine (ensures_convert_leaves engine holds fresh _ _ _).mono ?_
    rintro outcome later left
    have removed := leaves_without holds left
    rw [holds.since.engine] at removed
    exact ⟨fun _ _ _ => .inr removed, fun _ _ _ _ => nofun⟩

/-! ## Both -/

/-- **What a failing request leaves.** If an export or a conversion fails, either its uploads could
not be stored and nothing has changed outside of their directory, or the disk is as it was, or there
is one result more: of a rendering on which the engine gave up, or of a conversion that has written
one. -/
theorem failing_leaves {e : Engine} (engine : x.engine = e.access) (uploads : List Upload)
    (form : ExportForm) (attendance : Attendance) {w : World}
    (fresh : w.Fresh [label, "export"] (2 * uploads.length + 1)) :
    (∀ failure last,
      w.run (x.exportForm uploads form attendance).run = (.error failure, last) →
        x.NotStored uploads w failure last.shared.disk ∨
          Leaves x.storage.outputDir (GivesUp attendance w.own.engine failure) w.shared.disk
            last.shared.disk) ∧
    ∀ failure last, w.run (x.combine uploads).run = (.error failure, last) →
      x.NotStored uploads w failure last.shared.disk ∨
        Leaves x.storage.outputDir (Converts w.own.engine) w.shared.disk last.shared.disk := by
  have exported := ensures_exportForm_leaves engine uploads form attendance fresh
  have combined := ensures_combine_leaves engine uploads fresh
  unfold Act.Ensures at exported combined
  refine ⟨fun failure last run => ?_, fun failure last run => ?_⟩
  · rw [run] at exported
    exact exported failure rfl
  · rw [run] at combined
    exact combined failure rfl

/-- A conversion that fails without having written anything. -/
theorem failing_leaves_unwritten :
    let x := ExportService.ofSettings (.standard "data" "uploads" "output")
    let w : World := ⟨⟨⟨[(["uploads"], .directory), (["output"], .directory)]⟩, 0.0, 0⟩,
      ⟨⟨true, .error .notFound, fun _ => .error .notFound, .ok ⟨none, 1, [], [0x78]⟩,
        .error .notFound, false⟩, .never, []⟩⟩
    let run := w.run (x.combine [⟨some "a.mp4", some "video/mp4", [.ok [0x41]]⟩]).run
    run.1.isOk = false ∧ ∀ p, run.2.shared.disk.at? p = w.shared.disk.at? p := by
  intro x w run
  obtain ⟨-, combined⟩ := failing_leaves (x := x) (w := w) rfl
    [⟨some "a.mp4", some "video/mp4", [.ok [0x41]]⟩] ⟨.absent, .absent, .absent, .absent⟩
    ⟨false, false⟩ (fresh_of_unlabelled (by decide) (by decide +kernel))
  have failed : run.1.isOk = false := by decide +kernel
  have stored : (w.run (x.storage.storeAll label
      [⟨some "a.mp4", some "video/mp4", [.ok [0x41]]⟩]).run).1.isOk = true := by decide +kernel
  refine ⟨failed, ?_⟩
  cases outcome : run.1 with
  | ok result => rw [outcome] at failed; cases failed
  | error failure =>
    rcases combined failure run.2 (Prod.ext outcome rfl) with ⟨refused, -⟩ | nothing | ⟨writes, -⟩
    · rw [refused] at stored
      cases stored
    · exact fun p => nothing.others.at?_eq p not_false
    · obtain ⟨conversion, found, writes⟩ := writes
      cases found
      cases writes

/-- A conversion that ends with status 1 after it has written its file, and an export that is
cancelled while its child is being stopped: both fail, and the result is left. -/
theorem failing_leaves_result :
    let x := ExportService.ofSettings (.standard "data" "uploads" "output")
    let life : Life := ⟨[], [], [.quiet, ⟨none, true, false⟩, ⟨none, false, true⟩], 0⟩
    let w : World := ⟨⟨⟨[(["uploads"], .directory), (["output"], .directory)]⟩, 0.0, 0⟩,
      ⟨⟨true, .error .notFound, fun _ => .error .notFound, .ok ⟨some [0x79], 1, [], [0x78]⟩,
        .ok ⟨some [0x79], life⟩, false⟩, .never, []⟩⟩
    let uploads : List Upload := [⟨some "a.png", some "image/png", [.ok [0x41]]⟩]
    let form : ExportForm := ⟨.decoded (.list [.object [("id", .text "1"),
      ("mediaId", .text "a.png"), ("duration", .int 1)]]), .absent, .absent, .absent⟩
    let combined := w.run (x.combine uploads).run
    let exported := w.run (x.exportForm uploads form ⟨false, true⟩).run
    let there (w : World) := w.shared.disk.exists? "output/export-0-000000030000.mp4"
    there w = false ∧ (combined.1.isOk = false ∧ there combined.2 = true) ∧
      exported.1.isOk = false ∧ there exported.2 = true := by
  decide +kernel

end ExportService

end Splice
