import Splice.Proofs.Export.Results
import Splice.Proofs.Surroundings.Directories
import Splice.Proofs.Web.Uploads
import Splice.Web.App

/-!
# The life of a file that is served

A request for an export is answered with status 200 only if the service has made a result and the
result could be read; then the response carries what was read, and the files of the request are
removed when they have outlived the response. Since the result settles the request
(`ExportService.Settles`) and to prepare the storage touches no file, the response carries what is
due, and the disk holds the same files as before the request (`App.handle_serves`).
-/

namespace Splice

open Storage World Disk ExportService

theorem ReportKind.status_ne_ok (kind : ReportKind) : kind.status ≠ 200 := by
  cases kind <;> decide

namespace Web

/-- The routes that give back what was made of uploaded files. -/
inductive Route.Serves : Route → Prop
  | exportVideo : Serves .exportVideo
  | simpleExport : Serves .simpleExport
  | combine : Serves .combine

theorem Route.Serves.method_eq {route : Route} (serves : route.Serves) : route.method = "POST" := by
  cases serves <;> rfl

namespace App

variable {app : App} {request : Request} {response : Response} {w after : World}

/-! ## Sending -/

/-- A file that was sent with success could be read, and was to be removed then. -/
theorem exists_file_of_sendFile {result : ExportResult}
    (ran : w.run (app.sendFile request result) = (response, after)) (fine : response.status = 200) :
    ∃ found outcome, w.shared.disk.file result.path = .ok found ∧
      response.body = .octets found.1 ∧
      w.run (app.service.storage.deleteLater result.cleanupPaths none).run = (outcome, after) := by
  have answered : w.perform (.read result.path) =
      ((w.shared.disk.file result.path).mapError (⟨·, result.path⟩) |>.map (·.1), w) := rfl
  unfold sendFile at ran
  rw [run_bind, run_request, answered] at ran
  cases read : w.shared.disk.file result.path with
  | error kind =>
    rw [read] at ran
    cases ran
    cases fine
  | ok found =>
    rw [read] at ran
    dsimp only [Except.mapError, Except.map] at ran
    rw [run_bind] at ran
    cases ran
    exact ⟨found, _, rfl, rfl, rfl⟩

/-- If a route answers with a file or not at all with success, a response of success is that of a
file. -/
theorem exists_result_of_send {outcome : Except Failure Reply}
    (ran : w.run (app.send request outcome) = (response, after)) (fine : response.status = 200)
    (other : ∀ r, outcome = .ok (.response r) → r.status ≠ 200) :
    ∃ result, outcome = .ok (.file result) ∧
      w.run (app.sendFile request result) = (response, after) := by
  unfold send at ran
  split at ran
  case h_1 r =>
    cases ran
    exact absurd fine (other r rfl)
  case h_2 result => exact ⟨result, rfl, ran⟩
  case h_3 p =>
    cases ran
    exact absurd fine p.report.kind.status_ne_ok
  case h_4 =>
    cases ran
    cases fine

/-! ## Answering -/

/-- What holds of every answer without success, and of what is made of the form when the storage is
prepared, holds of the answer to a request with a form. -/
theorem ensures_withForm {shape : FormShape} {next : Form → Act Reply}
    {post : Except Failure Reply → World → Prop}
    (refused : ∀ r later, r.status ≠ 200 → post (.ok (.response r)) later)
    (failed : ∀ failure later, post (.error failure) later)
    (goes : ∀ form, request.form = .ok form →
      (next form).Ensures (w.run app.service.storage.prepare.run).2 post) :
    (app.withForm request shape next).Ensures w post := by
  unfold withForm
  cases read : request.form with
  | error fault => exact refused _ w (by simp [detailResponse, Response.json])
  | ok form =>
    dsimp only
    rw [Act.ensures_bind]
    refine Act.ensures_run.mono fun outcome later ran => ?_
    cases outcome with
    | error failure => exact failed failure later
    | ok _ =>
      dsimp only
      split
      · have next := goes form read
        rwa [ran] at next
      · exact refused _ later (by simp [complaintResponse, Response.json])

/-- What a route has to do with a result: it answers without success, or with a file that settles the
request. -/
def Answers (app : App) (request : Request) (w : World)
    (due : Form → Strategy → Bytes → Prop) (outcome : Except Failure Reply) (sent : World) : Prop :=
  (∀ r, outcome = .ok (.response r) → r.status ≠ 200) ∧
    ∀ result, outcome = .ok (.file result) → ∃ form, request.form = .ok form ∧
      Settles (w.run app.service.storage.prepare.run).2 (due form result.strategy) sent result

theorem ensures_withForm_file {shape : FormShape} {make : Form → Act ExportResult}
    {due : Form → Strategy → Bytes → Prop}
    (settles : ∀ form, request.form = .ok form →
      (make form).Ensures (w.run app.service.storage.prepare.run).2 fun outcome later =>
        ∀ result, outcome = .ok result →
          Settles (w.run app.service.storage.prepare.run).2 (due form result.strategy) later result) :
    (app.withForm request shape fun form => Reply.file <$> make form).Ensures w
      (app.Answers request w due) := by
  refine ensures_withForm (fun r later other => ⟨?_, nofun⟩) (fun _ _ => ⟨nofun, nofun⟩)
    fun form read => ?_
  · rintro _ ⟨⟩
    exact other
  · rw [map_eq_pure_bind, Act.ensures_bind]
    refine (settles form read).mono fun outcome later settled => ?_
    cases outcome with
    | error failure => exact ⟨nofun, nofun⟩
    | ok made =>
      refine Act.ensures_pure.2 ⟨nofun, ?_⟩
      rintro _ ⟨⟩
      exact ⟨form, read, settled made rfl⟩

/-! ## The whole -/

/-- Whether a content is what a route has to send for a form: the first upload, what the engine's
conversion or rendering writes, or the upload of the first item on the timeline. -/
def Due (app : App) (w : World) : Route → Form → Strategy → Bytes → Prop
  | .simpleExport, form, _, content =>
    ∃ upload ∈ (form.uploads filesShape.files).head?, content = upload.content
  | .combine, _, _, content => w.own.engine.ConvertsTo content
  | .exportVideo, _, .compiled, content => w.own.engine.RendersTo content
  | .exportVideo, form, .passthrough, content =>
    ∃ upload, app.service.IsFirst (form.uploads exportShape.files) (exportForm form)
      (w.run app.service.storage.prepare.run).2 upload ∧ content = upload.content
  | _, _, _, _ => False

section

variable {route : Route} (serves : route.Serves)
include serves

/-- Such a route answers without success, or with a file that settles the request. -/
theorem ensures_answer (fresh : ∀ form, request.form = .ok form →
      (w.run app.service.storage.prepare.run).2.Fresh [label, "export"]
        (2 * (form.uploads "files").length + 1)) :
    (app.answer request route).Ensures w (app.Answers request w (app.Due w route)) := by
  have engine : app.service.engine = (Engine.ofSettings app.settings "" "").access := rfl
  have behaviour : (w.run app.service.storage.prepare.run).2.own.engine = w.own.engine :=
    (ensures_prepare app.service.storage w).1.engine
  cases serves with
  | exportVideo =>
    refine ensures_withForm_file fun form read => ?_
    refine (ensures_exportForm_settles engine _ _ _ (fresh form read)).mono ?_
    intro outcome later settled result returned
    refine (settled result returned).mono fun content due => ?_
    generalize result.strategy = strategy at due ⊢
    cases strategy with
    | compiled =>
      rw [ExportService.Due, behaviour] at due
      exact due
    | passthrough =>
      obtain ⟨upload, first, whole⟩ := due
      exact ⟨upload, first, whole.trans (Request.delivered_eq_content read first.mem)⟩
    | combine => exact due
  | simpleExport =>
    refine ensures_withForm_file fun form read => ?_
    refine (ensures_simpleExport_settles _ (fresh form read)).mono ?_
    intro outcome later settled result returned
    refine (settled result returned).mono fun content ⟨upload, first, whole⟩ => ?_
    refine ⟨upload, first, whole.trans ?_⟩
    exact Request.delivered_eq_content read (List.mem_of_head? first)
  | combine =>
    refine ensures_withForm_file fun form read => ?_
    refine (ensures_combine_settles engine _ (fresh form read)).mono ?_
    intro outcome later settled result returned
    rw [behaviour] at settled
    exact settled result returned

/-- A request to post to such a route is answered by it, and the answer sent. -/
theorem run_handle (leads : Route.ofPath? request.path = some route)
    (method : request.method = "POST") :
    w.run (app.handle request) =
      (w.run (app.answer request route).run).2.run
        (app.send request (w.run (app.answer request route).run).1) := by
  have dispatched : w.run (app.dispatch request) =
      (w.run (app.answer request route).run).2.run
        (app.send request (w.run (app.answer request route).run).1) := by
    unfold dispatch
    rw [leads]
    dsimp only
    rw [if_pos (by rw [method, serves.method_eq]; rfl), run_bind]
  unfold handle
  split
  · rw [if_neg (by rw [method]; decide)]
    exact dispatched
  · exact dispatched

end

/-- **The life of a file that is served.** Let a request to post to one of the three routes that give
back files be answered with status 200, in a world whose next names were never used. Then its form
could be read and a result was made of it; the body of the response is, octet for octet, what the
file of the result holds when it is sent, and that is what is due: the first upload, the upload of
the first item on the timeline, or what the engine has written. Unless the task is cancelled before
the files have outlived the response, the disk holds the same files as before the request then. -/
theorem handle_serves (app : App) {request : Request} {route : Route} (serves : route.Serves)
    (leads : Route.ofPath? request.path = some route) (method : request.method = "POST")
    {w after : World} (fresh : ∀ form, request.form = .ok form →
      (w.run app.service.storage.prepare.run).2.Fresh [label, "export"]
        (2 * (form.uploads "files").length + 1))
    {response : Response} (handled : w.run (app.handle request) = (response, after))
    (fine : response.status = 200) :
    ∃ form result sent content modified outcome, request.form = .ok form ∧
      w.run (app.answer request route).run = (.ok (.file result), sent) ∧
      sent.shared.disk.file result.path = .ok (content, modified) ∧
      response.body = .octets content ∧ app.Due w route form result.strategy content ∧
      sent.run (app.service.storage.deleteLater result.cleanupPaths none).run = (outcome, after) ∧
      (sent.own.interruption = .afterSleeps 0 ∧ outcome = .error (.fault .cancelled) ∨
        outcome = .ok () ∧ SameFiles w.shared.disk after.shared.disk) := by
  rw [run_handle serves leads method] at handled
  have answers : (app.answer request route).Ensures w (app.Answers request w (app.Due w route)) :=
    ensures_answer serves fresh
  obtain ⟨others, settled⟩ := answers
  obtain ⟨result, made, ran⟩ := exists_result_of_send handled fine others
  obtain ⟨form, read, settles⟩ := settled result made
  generalize answered : w.run (app.answer request route).run = answer at made ran settles
  obtain ⟨found, outcome, there, body, removed⟩ := exists_file_of_sendFile ran fine
  have prepared := (ensures_prepare app.service.storage w).2
  have later := ensures_deleteLater app.service.storage result.cleanupPaths none answer.2
  unfold Act.Ensures at later
  rw [removed] at later
  refine ⟨form, result, answer.2, found.1, found.2, outcome, read, ?_, there, body,
    settles.content found there, removed, later.imp_right fun ⟨done, disk⟩ => ⟨done, ?_⟩⟩
  · exact Prod.ext made rfl
  · rw [show after.shared.disk = _ from disk]
    exact prepared.trans settles.tidy.sameFiles

/-- Two uploads, a timeline that shows the second, and an engine that is not installed: the second
upload is sent. -/
theorem handle_serves_first_item :
    let app := App.ofSettings (.standard "data" "uploads" "output")
    let old : Place × Node := (["uploads", "old.mp4"], .file [0x4F] (.ofSeconds 0.0))
    let w : World := ⟨⟨⟨[(["uploads"], .directory), old]⟩, 0.0, 0⟩, ⟨⟨false, .error .notFound,
      fun _ => .error .notFound, .error .notFound, .error .notFound, false⟩, .never, []⟩⟩
    let clip (name : String) (content : Bytes) : Multipart.Part :=
      ⟨"files", some name, some "video/mp4", content⟩
    let timeline := "[\x7b\"id\": \"1\", \"mediaId\": \"b.mp4\", \"duration\": 1\x7d]"
    let request : Request := ⟨"POST", "/api/export",
      [("content-type", "multipart/form-data; boundary=x")], Multipart.write "x" [
        clip "a.mp4" [0x41], clip "b.mp4" [0x42],
        ⟨"timeline", none, none, Bytes.ofString timeline⟩]⟩
    ∃ response after form upload, w.run (app.handle request) = (response, after) ∧
      response.status = 200 ∧ SameFiles w.shared.disk after.shared.disk ∧
      request.form = .ok form ∧ app.service.IsFirst (form.uploads "files") (exportForm form)
        (w.run app.service.storage.prepare.run).2 upload ∧
      response.body = .octets upload.content := by
  intro app old w clip timeline request
  obtain ⟨fine, calm, two⟩ : (w.run (app.handle request)).1.status = 200 ∧
      (w.run (app.answer request .exportVideo).run).2.own.interruption = .never ∧
      (request.form.toOption.map fun form => (form.uploads "files").length) = some 2 := by
    decide +kernel
  have fresh (form : Form) (read : request.form = .ok form) :
      (w.run app.service.storage.prepare.run).2.Fresh [label, "export"]
        (2 * (form.uploads "files").length + 1) := by
    have count : (form.uploads "files").length = 2 := by simpa [read, Except.toOption] using two
    rw [count]
    exact fresh_of_unlabelled (by decide +kernel) (by decide +kernel)
  have ran : w.run (app.handle request) = _ := Prod.mk.eta.symm
  obtain ⟨form, result, sent, content, modified, outcome, read, answered, -, body, due, -, ended⟩ :=
    handle_serves app .exportVideo (by decide +kernel) rfl fresh ran fine
  rw [answered] at calm
  rcases ended with ⟨cancelled, -⟩ | ⟨-, same⟩
  · cases calm.symm.trans cancelled
  generalize result.strategy = strategy at due
  cases strategy with
  | passthrough =>
    obtain ⟨upload, first, whole⟩ := due
    exact ⟨_, _, form, upload, ran, fine, same, read, first, whole ▸ body⟩
  | compiled =>
    obtain ⟨rendering, rendered, -⟩ := due
    cases rendered
  | combine => cases due

end App

end Web

end Splice
