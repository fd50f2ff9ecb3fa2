import Splice.Compile.Graph
import Splice.Settings

/-!
# The compiler

A timeline, its assets, perhaps music, and the settings of the result give a plan, unless one of
the checks refuses them. `compile` checks the timeline first for being empty, then the assets of
its entries, then the music, then the transitions.
-/

namespace Splice.Compile

/-- What the compiler knows about encoding: the quality and the bit rate of the sound. -/
structure Encoding where
  crf : Amount
  audioBitrate : String
  deriving Repr

/-- An encoding as it is asked for; what is not given, and an empty bit rate, comes from the
settings. -/
def Encoding.ofSettings (settings : Settings) (crf : Option Amount) (audioBitrate : Option String) :
    Encoding where
  crf := crf.getD settings.crf
  audioBitrate := Text.orIfEmpty (audioBitrate.getD "") settings.audioBitrate

/-- The video codec of a container. -/
def videoCodec : OutputFormat → String
  | .mp4 => "libx264"
  | .webm => "libvpx-vp9"

/-- The audio codec of a container. -/
def audioCodec : OutputFormat → String
  | .mp4 => "aac"
  | .webm => "libopus"

/-- The arguments that express a preset in a container's video codec. -/
def effortArgs : OutputFormat → EncodePreset → List String
  | .mp4, .fast => ["-preset", "ultrafast"]
  | .mp4, .medium => ["-preset", "medium"]
  | .mp4, .slow => ["-preset", "slow"]
  | .webm, .fast => ["-deadline", "realtime", "-cpu-used", "8", "-b:v", "0"]
  | .webm, .medium => ["-deadline", "good", "-cpu-used", "4", "-b:v", "0"]
  | .webm, .slow => ["-deadline", "good", "-cpu-used", "1", "-b:v", "0"]

/-- The arguments for encoding the result. -/
def encodeArgs (encoding : Encoding) (settings : RenderSettings) (withAudio : Bool) : List String :=
  ["-c:v", videoCodec settings.format] ++ effortArgs settings.format settings.preset
    ++ ["-crf", encoding.crf.text, "-pix_fmt", pixelFormat]
    ++ if withAudio then ["-c:a", audioCodec settings.format, "-b:a", encoding.audioBitrate]
      else ["-an"]

/-- The plan for clips that have passed the checks. -/
def assemble (encoding : Encoding) (settings : RenderSettings) (total : Float) (clips : List Clip)
    (joins : List Join) (music : Option (AudioTrack × MediaAsset)) : Plan :=
  let inputs := clipInputs settings 0 clips
  let paired := inputs.zip clips
  let (normalizing, labels) := normalize settings Labels.start paired
  let normalized := (normalizing.zip clips).map fun (stage, clip) =>
    (⟨stage.output, clip.row.entry.id⟩ : Normalized)
  let (joining, labels) := joinClips labels normalized joins
  let (musicInputs, mixing) := match music with
    | none => ([], [])
    | some (track, asset) =>
      let input := musicInput clips.length asset
      ([input], mixAudio labels track (soundingInputs paired) input)
  { inputs := inputs ++ musicInputs
    stages := normalizing ++ joining ++ mixing
    videoOutput := Labels.video
    audioOutput := music.map fun _ => Labels.audio
    encodeArgs := encodeArgs encoding settings music.isSome
    nominalDuration := total
    format := settings.format.name }

/-- The asset of the music, if there is music. -/
def findMusic? (assets : AssetTable) :
    Option AudioTrack → Except Problem (Option (AudioTrack × MediaAsset))
  | none => .ok none
  | some track => (findMusic assets track).map fun asset => some (track, asset)

/-- The plan for a timeline. -/
def compile (encoding : Encoding) (timeline : Timeline) (assets : AssetTable)
    (track : Option AudioTrack) (settings : RenderSettings) : Except Problem Plan :=
  if timeline.rows.isEmpty then .error .emptyTimeline
  else do
    let clips ← findVisuals assets true timeline.rows
    let music ← findMusic? assets track
    let joins ← resolveJoins timeline.rows
    return assemble encoding settings timeline.total clips joins music

/-- The plan for a list of entries, which must first make a timeline. -/
def compileEntries (encoding : Encoding) (entries : List Entry) (assets : AssetTable)
    (track : Option AudioTrack) (settings : RenderSettings) : Except Problem Plan := do
  let timeline ← Timeline.ofEntries entries
  compile encoding timeline assets track settings

/-- The timeline of a list of entries, if it passes the checks that need no lengths. -/
def validateEntries (entries : List Entry) (assets : AssetTable) : Except Problem Timeline := do
  let timeline ← Timeline.ofEntries entries
  validate timeline assets

end Splice.Compile
