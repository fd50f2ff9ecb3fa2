import Splice.Media.Asset
import Splice.Media.RenderSettings
import Splice.Payload.Reader
import Splice.Timeline.Entry

/-!
# Reading assets, entries, music and render settings

How the parts of a project are read from a payload that names their fields in full.
-/

namespace Splice.Payload

/-- A media asset. -/
def mediaAsset : Reader MediaAsset :=
  record "MediaAsset" fun fields =>
    MediaAsset.mk <$> required text "id" fields
      <*> required (member MediaKind.name MediaKind.all) "kind" fields
      <*> required text "source_handle" fields
      <*> optional (nullable number) none "duration_seconds" fields
      <*> optional truth true "has_audio" fields

/-- A kind of transition, under any of the names that a client may use for it. -/
def transitionKind : Reader TransitionKind
  | .text s =>
    match TransitionKind.read? s with
    | some kind => .valid kind
    | none => .complain (.notOneOf (TransitionKind.all.map TransitionKind.name))
  | _ => .complain (.notOneOf (TransitionKind.all.map TransitionKind.name))

/-- A timeline entry. -/
def entry : Reader Entry :=
  record "TimelineEntry" fun fields =>
    Entry.mk <$> required text "id" fields
      <*> required text "media_asset_id" fields
      <*> required number "duration_seconds" fields
      <*> (Transition.known <$> optional transitionKind .cut "transition_to_next" fields)
      <*> (Amount.real <$> optional number 1.0 "transition_duration_seconds" fields)

/-- The music under a timeline. -/
def audioTrack : Reader AudioTrack :=
  record "AudioTrack" fun fields =>
    AudioTrack.mk <$> required text "media_asset_id" fields
      <*> optional (member MixMode.name MixMode.all) .mix "mix_mode" fields
      <*> optional number 1.0 "music_volume" fields
      <*> optional number 1.0 "video_volume" fields
      <*> optional number 1.0 "master_volume" fields

/-- Render settings. -/
def renderSettings : Reader RenderSettings :=
  record "RenderSettings" fun fields =>
    RenderSettings.mk <$> optional (member OutputFormat.name OutputFormat.all) .mp4 "output_format" fields
      <*> optional integer 1280 "width" fields
      <*> optional integer 720 "height" fields
      <*> optional (member EncodePreset.name EncodePreset.all) .medium "encode_preset" fields
      <*> optional integer 30 "frame_rate" fields

end Splice.Payload
