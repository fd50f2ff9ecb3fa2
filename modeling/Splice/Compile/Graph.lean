import Splice.Compile.Check
import Splice.Compile.Labels
import Splice.Media.RenderSettings
import Splice.Number.Thousandths

/-!
# From clips to a graph

Every clip gets an input of its own, so that one asset may occur on the timeline several times.
Each picture is first brought to the size and rate of the result; then the clips are joined from
left to right, the last join giving the finished picture. The music is mixed with the sound of the
videos, or stands alone, and its volume is set.
-/

namespace Splice.Compile

/-- The pixel format of every picture. -/
def pixelFormat : String := "yuv420p"

/-! ## Inputs -/

/-- The options for reading a clip: a still picture becomes a stream of the clip's length. -/
def readingOptions (settings : RenderSettings) (clip : Clip) : List String :=
  if clip.asset.kind = .image then
    ["-loop", "1", "-framerate", toString settings.frameRate,
     "-t", Thousandths.text clip.row.entry.duration]
  else []

/-- The inputs of the clips, numbered from `index` on. -/
def clipInputs (settings : RenderSettings) (index : Nat) : List Clip → List InputDeclaration
  | [] => []
  | clip :: rest =>
    { index
      mediaId := clip.asset.id
      kind := clip.asset.kind
      entryId := some clip.row.entry.id
      options := readingOptions settings clip } :: clipInputs settings (index + 1) rest

/-- The input of the music. -/
def musicInput (index : Nat) (music : MediaAsset) : InputDeclaration :=
  { index, mediaId := music.id, kind := music.kind, entryId := none, options := [] }

/-! ## The picture -/

/-- The filters that bring a picture to the size, the shape and the rate of the result. -/
def normalizingFilters (settings : RenderSettings) : List Filter :=
  let width := toString settings.width
  let height := toString settings.height
  [⟨"scale", [width, height], [("force_original_aspect_ratio", "decrease")]⟩,
   ⟨"pad", [width, height, "(ow-iw)/2", "(oh-ih)/2"], []⟩,
   ⟨"setsar", ["1"], []⟩,
   ⟨"fps", [toString settings.frameRate], []⟩,
   ⟨"format", [pixelFormat], []⟩]

/-- The stage that normalizes one clip's picture. -/
def normalizingStage (settings : RenderSettings) (input : InputDeclaration) (clip : Clip)
    (output : String) : Stage :=
  { kind := .normalize
    inputs := [input.videoPad]
    output
    filters := normalizingFilters settings
    join := none
    entryIds := [clip.row.entry.id] }

/-- The stages that normalize the clips' pictures, each with a fresh label. -/
def normalize (settings : RenderSettings) (labels : Labels) :
    List (InputDeclaration × Clip) → List Stage × Labels
  | [] => ([], labels)
  | (input, clip) :: rest =>
    let (output, labels) := labels.allocate "v"
    let (stages, labels) := normalize settings labels rest
    (normalizingStage settings input clip output :: stages, labels)

/-- The filter of a join. -/
def joinFilter (join : Join) : Filter :=
  match join.engineName with
  | some engineName =>
    ⟨"xfade", [], [("transition", engineName), ("duration", Thousandths.text join.duration),
      ("offset", Thousandths.text join.offset)]⟩
  | none => ⟨"concat", [], [("n", "2"), ("v", "1"), ("a", "0")]⟩

/-- The stage that joins what came before with the next clip. -/
def joinStage (join : Join) (previous next output : String) (entryIds : List String) : Stage :=
  { kind := if join.isBlend then .transition else .concat
    inputs := [previous, next]
    output
    filters := [joinFilter join]
    join := some join
    entryIds }

/-- A normalized clip: the label of its picture, and its entry. -/
structure Normalized where
  label : String
  entryId : String
  deriving DecidableEq, Repr

/-- The stages that join clips to what came before them, from left to right. The last one gives
the finished picture, the others get a fresh label. -/
def joinAll (labels : Labels) (previous before : String) :
    List (Join × Normalized) → List Stage × Labels
  | [] => ([], labels)
  | [(join, clip)] =>
    ([joinStage join previous clip.label Labels.video [before, clip.entryId]], labels)
  | (join, clip) :: rest =>
    let (output, labels) := labels.allocate (if join.isBlend then "x" else "c")
    let (stages, labels) := joinAll labels output clip.entryId rest
    (joinStage join previous clip.label output [before, clip.entryId] :: stages, labels)

/-- The stage that gives the only clip as the finished picture. -/
def soleStage (clip : Normalized) : Stage :=
  { kind := .passthrough
    inputs := [clip.label]
    output := Labels.video
    filters := [⟨"copy", [], []⟩]
    join := none
    entryIds := [clip.entryId] }

/-- The stages from the normalized clips to the finished picture. -/
def joinClips (labels : Labels) (clips : List Normalized) (joins : List Join) :
    List Stage × Labels :=
  match clips with
  | [] => ([], labels)
  | [clip] => ([soleStage clip], labels)
  | clip :: rest => joinAll labels clip.label clip.entryId (joins.zip rest)

/-! ## The sound -/

/-- The inputs of the clips that bring sound of their own. -/
def soundingInputs (clips : List (InputDeclaration × Clip)) : List InputDeclaration :=
  (clips.filter fun (input, clip) => input.kind == .video && clip.asset.hasAudio).map (·.1)

/-- The stage that sets the volume of one sound. -/
def volumeStage (input output : String) (volume : Float) : Stage :=
  { kind := .audioVolume
    inputs := [input]
    output
    filters := [⟨"volume", [Thousandths.text volume], []⟩]
    join := none
    entryIds := [] }

/-- The stage that mixes the sounds of the clips with the music. -/
def mixStage (track : AudioTrack) (sounding : List InputDeclaration) (music : InputDeclaration)
    (output : String) : Stage :=
  let weights := List.replicate sounding.length (Thousandths.text track.videoVolume)
    ++ [Thousandths.text track.musicVolume]
  { kind := .audioMix
    inputs := sounding.map InputDeclaration.audioPad ++ [music.audioPad]
    output
    filters := [⟨"amix", [], [("inputs", toString (sounding.length + 1)), ("duration", "longest"),
      ("weights", " ".intercalate weights)]⟩]
    join := none
    entryIds := sounding.filterMap InputDeclaration.entryId }

/-- The stages from the sounds to the finished one. The master volume is set last, and only if it
is not one. -/
def mixAudio (labels : Labels) (track : AudioTrack) (sounding : List InputDeclaration)
    (music : InputDeclaration) : List Stage :=
  let mastered := track.masterVolume != 1.0
  let mixed := if mastered then (labels.allocate "a").1 else Labels.audio
  let mix :=
    if track.mixMode = .mix ∧ !sounding.isEmpty then mixStage track sounding music mixed
    else volumeStage music.audioPad mixed track.musicVolume
  if mastered then [mix, volumeStage mixed Labels.audio track.masterVolume] else [mix]

end Splice.Compile
