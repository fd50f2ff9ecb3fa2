import Splice.Media.Kind
import Splice.Table

/-!
# Media assets and sound

An asset is a media file that the timeline can refer to by its id. A music track names the asset
that is played under the whole timeline, and how it is mixed with the sound of the videos.
-/

namespace Splice

/-- A media file under the id by which the timeline refers to it. -/
structure MediaAsset where
  id : String
  kind : MediaKind
  /-- Where the engine can read the file. -/
  source : String
  /-- The length of the file in seconds, as far as it is known. -/
  duration : Option Float
  hasAudio : Bool
  deriving Repr

/-- Whether the music is added to the sound of the videos or takes its place. -/
inductive MixMode
  | mix
  | replace
  deriving DecidableEq, Repr

/-- The word for a mode. -/
def MixMode.name : MixMode → String
  | .mix => "mix"
  | .replace => "replace"

/-- Both modes. -/
def MixMode.all : List MixMode := [.mix, .replace]

/-- The music under a timeline, with the volumes of its mix. -/
structure AudioTrack where
  mediaId : String
  mixMode : MixMode
  musicVolume : Float
  videoVolume : Float
  masterVolume : Float
  deriving Repr

/-! ## Looking assets up -/

/-- Assets under their keys, in the order in which the keys first occurred. -/
abbrev AssetTable := Table String MediaAsset

/-- A collection of assets as a table under their own ids; of several with one id the last
counts. -/
def AssetTable.ofList (assets : List MediaAsset) : AssetTable :=
  assets.foldl (fun table asset => table.put asset.id asset) []

end Splice
