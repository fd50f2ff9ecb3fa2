import Splice.Engine.Formats
import Splice.Export.Service
import Splice.Storage.Sweep
import Splice.Web.Attachment
import Splice.Web.Cors
import Splice.Web.FormCheck

/-!
# The web application

`App.handle` answers a request. A preflight is answered by itself; any other request goes to the
route of its path. A problem is reported as JSON with the status of its kind, a fault as an internal
error and nothing else. When a file has been sent, and a time of grace has passed, it and everything
it was made from are removed.

`App.lifespan` is what goes on beside the requests: the periodic sweep.
-/

namespace Splice.Web

/-! ## Routes -/

/-- What a request can ask for. -/
inductive Route
  | banner
  | health
  | engineStatus
  | upload
  | exportVideo
  | simpleExport
  | combine
  deriving DecidableEq, Repr

namespace Route

/-- Every route. -/
def all : List Route :=
  [health, engineStatus, upload, exportVideo, simpleExport, combine, banner]

/-- The path of a route. -/
def path : Route → String
  | banner => "/"
  | health => "/api/health"
  | engineStatus => "/api/ffmpeg-status"
  | upload => "/api/upload"
  | exportVideo => "/api/export"
  | simpleExport => "/api/simple-export"
  | combine => "/api/combine"

/-- The method of a route. -/
def method : Route → String
  | banner => "GET"
  | health => "GET"
  | engineStatus => "GET"
  | upload => "POST"
  | exportVideo => "POST"
  | simpleExport => "POST"
  | combine => "POST"

/-- The route with exactly these characters as its path, or with a line end behind it. -/
def ofChars? (path : List Char) : Option Route :=
  all.find? fun route => route.path.toList == path || route.path.toList ++ ['\n'] == path

/-- The route of a path. Slashes at its end matter only if the path with them is that of a route. -/
def ofPath? (path : String) : Option Route :=
  (ofChars? path.toList).or (ofChars? (Text.dropEndWhile (· == '/') path.toList))

end Route

/-! ## Answers -/

/-- What a route answers: a response, or a file to be sent. -/
inductive Reply
  | response (r : Response)
  | file (result : ExportResult)
  deriving Repr

/-- The report of a problem as a response. -/
def reportResponse (report : Report) : Response :=
  .json report.kind.status (.object [
    ("error", .text report.message), ("details", Json.ofText? report.details)])

/-- A response with nothing but an explanation. -/
def detailResponse (status : Nat) (detail : String) : Response :=
  .json status (.object [("detail", .text detail)])

/-- The response to a form that does not hold what it must hold. -/
def complaintResponse (complaints : List Json) : Response :=
  .json 422 (.object [("detail", .list complaints)])

/-- The response to a fault. -/
def internalError : Response := .text 500 "Internal Server Error"

/-- A stored file as it is described to its sender. -/
def describeStored (f : StoredFile) : Json :=
  .object [
    ("id", .text f.id), ("filename", .text f.filename), ("originalName", .text f.givenName),
    ("path", .text f.path), ("size", .int f.size), ("mimetype", .text f.contentType)]

/-- The application: which origins may use it, and its settings. -/
structure App where
  cors : Cors
  settings : Settings
  deriving Repr

namespace App

/-- The application of the settings. -/
def ofSettings (settings : Settings) : App := ⟨Cors.ofSettings settings, settings⟩

/-- The service that does the work. -/
def service (app : App) : ExportService := ExportService.ofSettings app.settings

/-! ## The routes -/

/-- The banner of the service. -/
def banner : Response :=
  .json 200 (.object [
    ("status", .text "ok"), ("service", .text "Montage Backend"), ("version", .text "1.0.0")])

/-- That the service is there. -/
def health : Response :=
  .json 200 (.object [
    ("status", .text "OK"), ("message", .text "Video editor backend is running")])

/-- Whether the engine can be used, and some of its formats if it can. -/
def engineStatus (app : App) : Act Response := do
  let engine := app.service.engine
  if ← engine.isAvailable then
    match ← (engine.listFormats 10).aside.attempt with
    | .ok formats =>
      return .json 200 (.object [
        ("available", .bool true), ("message", .text "FFmpeg is available"),
        ("formats", .list (formats.map .text))])
    | .error (.problem p) =>
      return .json 200 (.object [
        ("available", .bool false), ("error", .text p.report.message),
        ("details", Json.ofText? p.report.details)])
    | .error failure => throw failure
  else
    return .json 200 (.object [
      ("available", .bool false),
      ("error", .text "FFmpeg not found. Please install FFmpeg on your system.")])

/-- Stores the files of a form and describes them. -/
def upload (app : App) (uploads : List Upload) : Act Response := do
  let stored ← app.service.storage.storeAll "media" uploads
  return .json 200 (.object [
    ("success", .bool true), ("files", .list (stored.map describeStored))])

/-- What a form of uploads must hold. -/
def uploadShape : FormShape := ⟨"media", []⟩

/-- What a form of files alone must hold. -/
def filesShape : FormShape := ⟨"files", []⟩

/-- What a form of an export must hold. -/
def exportShape : FormShape :=
  ⟨"files", ["timeline", "audioSettings", "exportSettings", "mediaFiles"]⟩

/-- What a form says about an export. -/
def exportForm (form : Form) : ExportForm where
  timeline := .ofText? (form.text? "timeline")
  audioSettings := .ofText? (form.text? "audioSettings")
  exportSettings := .ofText? (form.text? "exportSettings")
  mediaFiles := .ofText? (form.text? "mediaFiles")

/-- Reads the form of a request, prepares the storage, and goes on if the form holds what it must
hold. -/
def withForm (app : App) (request : Request) (shape : FormShape) (next : Form → Act Reply) :
    Act Reply := do
  match request.form with
  | .error fault => return .response (detailResponse 400 fault.message)
  | .ok form =>
    app.service.storage.prepare
    match shape.complaints form with
    | [] => next form
    | complaints => return .response (complaintResponse complaints)

/-- What a route answers to a request. -/
def answer (app : App) (request : Request) : Route → Act Reply
  | .banner => pure (.response banner)
  | .health => pure (.response health)
  | .engineStatus => Reply.response <$> app.engineStatus
  | .upload =>
    app.withForm request uploadShape fun form =>
      Reply.response <$> app.upload (form.uploads uploadShape.files)
  | .exportVideo =>
    app.withForm request exportShape fun form =>
      Reply.file <$>
        app.service.exportForm (form.uploads exportShape.files) (exportForm form) ⟨false, true⟩
  | .simpleExport =>
    app.withForm request filesShape fun form =>
      Reply.file <$> app.service.simpleExport (form.uploads filesShape.files)
  | .combine =>
    app.withForm request filesShape fun form =>
      Reply.file <$> app.service.combine (form.uploads filesShape.files)

/-! ## Handling -/

/-- The header fields that the origin of a request asks for. -/
def originHeaders (app : App) (request : Request) : List (String × String) :=
  match request.header? "origin" with
  | some origin => app.cors.headers origin
  | none => []

/-- Sends a file. If it cannot be read nothing is removed. -/
def sendFile (app : App) (request : Request) (result : ExportResult) : Job Response := do
  match ← Job.request (.read result.path) with
  | .error _ => return internalError
  | .ok content =>
    let _ ← (app.service.storage.deleteLater result.cleanupPaths none).run
    return (Response.attachment result.filename result.contentType content).withHeaders
      (app.originHeaders request)

/-- Sends what a route has answered. -/
def send (app : App) (request : Request) : Except Failure Reply → Job Response
  | .ok (.response r) => pure (r.withHeaders (app.originHeaders request))
  | .ok (.file result) => app.sendFile request result
  | .error (.problem p) =>
    pure ((reportResponse p.report).withHeaders (app.originHeaders request))
  | .error (.fault _) => pure internalError

/-- Answers a request that is no preflight. -/
def dispatch (app : App) (request : Request) : Job Response :=
  match Route.ofPath? request.path with
  | none => app.send request (.ok (.response (detailResponse 404 "Not Found")))
  | some route =>
    if request.method == route.method then do
      app.send request (← (app.answer request route).run)
    else
      app.send request (.ok (.response
        ((detailResponse 405 "Method Not Allowed").withHeaders [("allow", route.method)])))

/-- Answers a request. -/
def handle (app : App) (request : Request) : Job Response :=
  match request.header? "origin", request.header? "access-control-request-method" with
  | some origin, some method =>
    if request.method == "OPTIONS" then
      pure (app.cors.preflight {
        origin
        method
        fields := request.header? "access-control-request-headers"
        crossesInward := (request.header? "access-control-request-private-network").isSome })
    else app.dispatch request
  | _, _ => app.dispatch request

/-- The periodic sweep, for at most a number of rounds; that it is cancelled in the end is no
failure. -/
def lifespan (app : App) (rounds : Nat) : Act Unit := do
  let storage := app.service.storage
  storage.prepare
  match ← (storage.sweepPeriodically none none rounds).attempt with
  | .ok () => return
  | .error failure => if failure.isCancellation then return else throw failure

end App

end Splice.Web
