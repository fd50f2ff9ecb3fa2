import Splice.Export.Assets
import Splice.Export.Dialogue

/-!
# Exporting

An export stores the uploads, checks the timeline, has the engine describe the files, compiles, and
renders. Only if the engine is not available does the request fall back to a pass-through: the file
of the first clip is given back as it came. Any other failure is reported, and then nothing that was
stored for the request stays.

* `ExportService.exportForm` is the whole, and `Dialogue.exportStored` the way through the engine.
* `ExportService.simpleExport` gives back the first upload, `ExportService.combine` converts it.
-/

namespace Splice

/-- How a result came about. -/
inductive Strategy
  | compiled
  | passthrough
  | combine
  deriving DecidableEq, Repr

/-- The word for a strategy. -/
def Strategy.name : Strategy → String
  | .compiled => "compiled"
  | .passthrough => "passthrough"
  | .combine => "combine"

/-- A file to give back. -/
structure ExportResult where
  path : String
  /-- The name under which it is given back. -/
  filename : String
  contentType : String
  /-- The files to remove when it has been given back. -/
  cleanupPaths : List String
  strategy : Strategy
  deriving DecidableEq, Repr

namespace ExportService

/-! ## Pass-through -/

/-- Gives back a stored file and removes the others. -/
def passThrough (stored : List StoredFile) (chosen : StoredFile) : Act ExportResult := do
  Storage.delete ((stored.filter fun f => f.path != chosen.path).map StoredFile.path)
  return {
    path := chosen.path
    filename := chosen.givenName
    contentType := chosen.contentType
    cleanupPaths := [chosen.path]
    strategy := .passthrough }

/-- The file of the first clip that is no sound, or else the first file that is none, or else the
first. -/
def preferred? (stored : List StoredFile) (request : ExportRequest) : Option StoredFile :=
  let assets := AssetTable.ofStored stored request.mediaFiles
  let visual := request.timeline.findSome? fun item =>
    (assets.get? item.mediaId).filter fun asset => asset.kind ≠ .audio
  match visual with
  | some asset => stored.find? fun f => f.path == asset.source
  | none =>
    (stored.find? fun f => MediaKind.ofContentType (some f.contentType) ≠ .audio).or stored.head?

/-! ## Through the engine -/

/-- The timeline of a request with the assets of its files, if it passes the checks that need no
lengths. -/
def validate (x : ExportService) (stored : List StoredFile) (request : ExportRequest) :
    Except Problem (AssetTable × Timeline) :=
  let assets := AssetTable.ofStored stored request.mediaFiles
  (Compile.validateEntries (request.timeline.map (TimelineItem.toEntry x.settings)) assets).map
    fun timeline => (assets, timeline)

/-- The music: the first asset that is a sound, with the sound settings of the request. -/
def musicTrack (assets : AssetTable) (request : ExportRequest) : Option AudioTrack :=
  (assets.find? fun row => row.2.kind = .audio).map fun row =>
    (request.audioSettings.getD .standard).toTrack row.2.id

end ExportService

namespace Dialogue

/-- An asset with what the engine knows about its file. A length that is known already stays. -/
def describe (asset : MediaAsset) : Dialogue MediaAsset :=
  if asset.kind = .image then pure asset
  else do
    let description ← ask (.probe asset.source)
    return { asset with
      duration := asset.duration.or description.duration
      hasAudio := description.hasAudio }

/-- Assets with what the engine knows about their files. -/
def describeAll : AssetTable → Dialogue AssetTable
  | [] => pure []
  | (key, asset) :: rest => do
    let described ← describe asset
    return (key, described) :: (← describeAll rest)

/-- Has a plan rendered, and gives back the result. -/
def renderPlan (x : ExportService) (stored : List StoredFile) (assets : AssetTable)
    (settings : RenderSettings) (plan : Plan) (attendance : Attendance) :
    Dialogue ExportResult := do
  let output ← ofAct (x.storage.outputPath settings.format.name)
  let locations (key : String) := (assets.get? key).map MediaAsset.source
  let _ ← ask (.render plan locations output attendance)
  let time ← ofAct Storage.milliseconds
  return {
    path := output
    filename := "export-" ++ toString time ++ "." ++ settings.format.name
    contentType := settings.format.contentType
    cleanupPaths := stored.map StoredFile.path ++ [output]
    strategy := .compiled }

/-- Compiles and renders a timeline that was validated. -/
def exportCompiled (x : ExportService) (stored : List StoredFile) (request : ExportRequest)
    (assets : AssetTable) (timeline : Timeline) (attendance : Attendance) :
    Dialogue ExportResult := do
  let assets ← describeAll assets
  let track := ExportService.musicTrack assets request
  let settings ← ofAct (Act.orFailure
    ((request.exportSettings.toRenderSettings x.settings).mapError .fault))
  let plan ← ask (.compile timeline assets track settings)
  renderPlan x stored assets settings plan attendance

/-- Validates the timeline, asks for the engine, and goes the way through it. -/
def exportStored (x : ExportService) (stored : List StoredFile) (request : ExportRequest)
    (attendance : Attendance) : Dialogue ExportResult := do
  let (assets, timeline) ← ofAct (Act.orProblem (x.validate stored request))
  if ← ask .isAvailable then
    exportCompiled x stored request assets timeline attendance
  else ofAct (throw (.problem (.engineNotInstalled x.engine.binary)))

end Dialogue

namespace ExportService

/-- Has the engine describe the files of assets. -/
def describeAll (x : ExportService) (assets : AssetTable) : Act AssetTable :=
  (Dialogue.describeAll assets).act x

theorem describeAll_cons (x : ExportService) (row : String × MediaAsset) (rest : AssetTable) :
    x.describeAll (row :: rest) = (Dialogue.describe row.2).act x >>= fun described =>
      x.describeAll rest >>= fun others => pure ((row.1, described) :: others) := by
  simp only [describeAll, Dialogue.describeAll, Dialogue.act_bind, Dialogue.act_pure]

/-- Exports uploads that are stored, if the engine is there. -/
def exportStored (x : ExportService) (stored : List StoredFile) (request : ExportRequest)
    (attendance : Attendance) : Act ExportResult :=
  (Dialogue.exportStored x stored request attendance).act x

/-- What becomes of an export that failed after its uploads were stored. -/
def recover (stored : List StoredFile) (request : ExportRequest) :
    Failure → Act ExportResult
  | .problem p => do
    if p.isEngineUnavailable then
      match preferred? stored request with
      | some chosen => passThrough stored chosen
      | none => throw (.problem .noUploads)
    else
      Storage.delete (stored.map StoredFile.path)
      throw (.problem p)
  | .fault f => do
    Storage.delete (stored.map StoredFile.path)
    throw (.fault f)

/-! ## The three services -/

/-- The label of the files of an export. -/
def label : String := "files"

/-- The request that a form makes, read with the room that the settings say there is. -/
def readForm (x : ExportService) (form : ExportForm) : Except Failure ExportRequest :=
  ExportRequest.ofForm x.settings.formRoom form

/-- Exports uploads as a form says. -/
def exportForm (x : ExportService) (uploads : List Upload) (form : ExportForm)
    (attendance : Attendance) : Act ExportResult := do
  if uploads.isEmpty then throw (.problem .noUploads)
  let request ← Act.orFailure (x.readForm form)
  let stored ← x.storage.storeAll label uploads
  match ← (x.exportStored stored request attendance).attempt with
  | .ok result => return result
  | .error failure => recover stored request failure

/-- Gives back the first upload as it came. -/
def simpleExport (x : ExportService) (uploads : List Upload) : Act ExportResult := do
  let stored ← x.storage.storeAll label uploads
  match stored with
  | [] => throw (.problem .noUploads)
  | first :: _ => passThrough stored first

/-- Converts the first upload into a clip. The uploads are removed whatever becomes of it. -/
def combine (x : ExportService) (uploads : List Upload) : Act ExportResult := do
  let stored ← x.storage.storeAll label uploads
  match stored with
  | [] => throw (.problem .noUploads)
  | first :: _ =>
    let output ← x.storage.outputPath OutputFormat.mp4.name
    let isImage := MediaKind.ofContentType (some first.contentType) = .image
    let outcome ← (x.engine.convert first.path output isImage ⟨none, none, none⟩).aside.attempt
    Storage.delete (stored.map StoredFile.path)
    let _ ← Act.orFailure outcome
    let time ← Storage.milliseconds
    return {
      path := output
      filename := "output-" ++ toString time ++ ".mp4"
      contentType := OutputFormat.mp4.contentType
      cleanupPaths := [output]
      strategy := .combine }

end ExportService

end Splice
