import Splice.Payload.Timeline
import Splice.Settings

/-!
# Export requests

The editor sends an export as four form fields, each a JSON text: the timeline, the sound settings,
the export settings and a manifest of the media files. `ExportRequest.ofForm` decodes all of them
first and then checks their shape, so that a field that is no JSON is reported before any other
problem. A field that is absent, blank or null counts as not given.
-/

namespace Splice

/-! ## What the editor sends -/

/-- A clip as the editor sends it. The two times are for display only. -/
structure TimelineItem where
  id : String
  mediaId : String
  duration : Float
  transition : Option String
  transitionDuration : Option Float
  startTime : Option Float
  endTime : Option Float
  deriving Repr

/-- The sound settings as the editor sends them. -/
structure AudioSettings where
  masterVolume : Float
  musicVolume : Float
  videoVolume : Float
  mixMode : MixMode
  deriving Repr

/-- A size in pixels. -/
structure Resolution where
  width : Int
  height : Int
  deriving DecidableEq, Repr

/-- The export settings as the editor sends them. -/
structure ExportSettings where
  format : OutputFormat
  quality : Option String
  resolution : Option Resolution
  preset : EncodePreset
  deriving DecidableEq, Repr

/-- A line of the manifest: which asset an uploaded file is. -/
structure ManifestItem where
  id : String
  name : String
  kind : MediaKind
  duration : Option Float
  deriving Repr

/-- An export as the editor requests it. -/
structure ExportRequest where
  timeline : List TimelineItem
  audioSettings : Option AudioSettings
  exportSettings : ExportSettings
  mediaFiles : Option (List ManifestItem)
  deriving Repr

/-- The sound settings that hold when none are given. -/
def AudioSettings.standard : AudioSettings := ⟨1.0, 1.0, 1.0, .mix⟩

/-- The export settings that hold when none are given. -/
def ExportSettings.standard : ExportSettings := ⟨.mp4, none, none, .medium⟩

/-! ## What it means -/

/-- The timeline entry that a clip stands for. -/
def TimelineItem.toEntry (settings : Settings) (item : TimelineItem) : Entry where
  id := item.id
  mediaId := item.mediaId
  duration := item.duration
  transition := Transition.ofRequest item.transition
  transitionDuration := (item.transitionDuration.map .real).getD settings.defaultTransitionDuration

/-- The music that the sound settings stand for. -/
def AudioSettings.toTrack (a : AudioSettings) (mediaId : String) : AudioTrack where
  mediaId
  mixMode := a.mixMode
  musicVolume := a.musicVolume
  videoVolume := a.videoVolume
  masterVolume := a.masterVolume

/-! ## Reading -/

namespace Payload

/-- A clip. -/
def timelineItem : Reader TimelineItem :=
  record "TimelineItemPayload" fun fields =>
    TimelineItem.mk <$> required text "id" fields
      <*> required text "mediaId" fields
      <*> required number "duration" fields
      <*> optional (nullable text) none "transition" fields
      <*> optional (nullable number) none "transitionDuration" fields
      <*> optional (nullable number) none "startTime" fields
      <*> optional (nullable number) none "endTime" fields

/-- Sound settings. -/
def audioSettings : Reader AudioSettings :=
  record "AudioSettingsPayload" fun fields =>
    AudioSettings.mk <$> optional number 1.0 "masterVolume" fields
      <*> optional number 1.0 "musicVolume" fields
      <*> optional number 1.0 "videoVolume" fields
      <*> optional (literal MixMode.name MixMode.all) .mix "mixMode" fields

/-- A size in pixels. -/
def resolution : Reader Resolution :=
  record "ResolutionPayload" fun fields =>
    Resolution.mk <$> required integer "width" fields <*> required integer "height" fields

/-- Export settings. -/
def exportSettings : Reader ExportSettings :=
  record "ExportSettingsPayload" fun fields =>
    ExportSettings.mk <$> optional (literal OutputFormat.name OutputFormat.all) .mp4 "format" fields
      <*> optional (nullable text) none "quality" fields
      <*> optional (nullable resolution) none "resolution" fields
      <*> optional (literal EncodePreset.name EncodePreset.all) .medium "preset" fields

/-- A line of the manifest. -/
def manifestItem : Reader ManifestItem :=
  record "MediaFilePayload" fun fields =>
    ManifestItem.mk <$> required text "id" fields
      <*> required text "name" fields
      <*> required (literal MediaKind.name MediaKind.all) "type" fields
      <*> optional (nullable number) none "duration" fields

/-- The title of an export request. -/
def exportRequestTitle : String := "ExportRequest"

/-- An export request. -/
def exportRequest : Reader ExportRequest :=
  record exportRequestTitle fun fields =>
    ExportRequest.mk <$> required (list timelineItem) "timeline" fields
      <*> optional (nullable audioSettings) none "audioSettings" fields
      <*> optional exportSettings .standard "exportSettings" fields
      <*> optional (nullable (list manifestItem)) none "mediaFiles" fields

end Payload

/-! ## The result's size and frame rate -/

/-- The size that export settings ask for, or else the standard one. -/
def ExportSettings.size (settings : Settings) (e : ExportSettings) : Except Fault Resolution :=
  match e.resolution with
  | some size => .ok size
  | none =>
    let standard := [("width", settings.defaultWidth.toJson), ("height", settings.defaultHeight.toJson)]
    (Payload.resolution (.object standard)).toExcept (.schema "ResolutionPayload")

/-- The render settings that the export settings stand for, unless a standard size or frame rate
that they need is no whole number. -/
def ExportSettings.toRenderSettings (settings : Settings) (e : ExportSettings) :
    Except Fault RenderSettings := do
  let size ← e.size settings
  let rate := Payload.required Payload.integer "frame_rate" [("frame_rate", settings.outputFps.toJson)]
  return {
    format := e.format
    width := size.width
    height := size.height
    preset := e.preset
    frameRate := ← rate.toExcept (.schema "RenderSettings") }

/-! ## The form -/

/-- A form field: not sent, sent as a JSON text, or decoded already. -/
inductive FormField
  | absent
  | text (s : String)
  | decoded (value : Json)
  deriving Repr

/-- The form field for a text that may not be there. -/
def FormField.ofText? : Option String → FormField
  | none => .absent
  | some s => .text s

/-- The four fields of an export form. -/
structure ExportForm where
  timeline : FormField
  audioSettings : FormField
  exportSettings : FormField
  mediaFiles : FormField
  deriving Repr

namespace ExportForm

/-- The fields of a form with their names, in the order in which they are decoded. -/
def fields (form : ExportForm) : List (String × FormField) :=
  [("timeline", form.timeline), ("audioSettings", form.audioSettings),
   ("exportSettings", form.exportSettings), ("mediaFiles", form.mediaFiles)]

/-- The value of a field, if it is sent and not blank. -/
def decode (room : Nat) (name : String) : FormField → Except Failure (Option Json)
  | .absent => .ok none
  | .decoded value => .ok (some value)
  | .text s =>
    if Text.allBlank s then .ok none
    else
      match Json.read room s with
      | .ok value => .ok (some value)
      | .error (.fault fault) => .error (.problem (.fieldSyntax name fault))
      | .error refusal => .error (.fault (.ofRefusal refusal))

/-- The values of the fields that are sent, in order. -/
def decodeAll (room : Nat) : List (String × FormField) → Except Failure Json.Fields
  | [] => .ok []
  | (name, field) :: rest =>
    match decode room name field with
    | .error failure => .error failure
    | .ok none => decodeAll room rest
    | .ok (some value) => (decodeAll room rest).map ((name, value) :: ·)

/-- Whether a decoded field counts as given: null does not count for the timeline and the export
settings. -/
def counts (name : String) (value : Json) : Bool :=
  match value with
  | .null => name != "timeline" && name != "exportSettings"
  | _ => true

/-- The decoded fields as one payload; without a timeline it has an empty one. -/
def payload (decoded : Json.Fields) : Json :=
  let given := decoded.filter fun (name, value) => counts name value
  .object (if (Table.get? given "timeline").isNone then ("timeline", .list []) :: given else given)

end ExportForm

/-- The request that a form makes, where its texts are read with some room. -/
def ExportRequest.ofForm (room : Nat) (form : ExportForm) : Except Failure ExportRequest :=
  match ExportForm.decodeAll room form.fields with
  | .error failure => .error failure
  | .ok decoded =>
    (Payload.exportRequest (ExportForm.payload decoded)).toExcept fun issues =>
      .problem (.payload Payload.exportRequestTitle issues)

end Splice
