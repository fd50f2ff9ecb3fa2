import Splice.Payload.Timeline
import Splice.Plan.Basic

/-!
# Reading plans

How a plan that was made elsewhere is read from a payload.
-/

namespace Splice.Payload

/-- An input of the engine. -/
def inputDeclaration : Reader InputDeclaration :=
  record "InputDeclaration" fun fields =>
    InputDeclaration.mk <$> required integer "index" fields
      <*> required text "media_asset_id" fields
      <*> required (member MediaKind.name MediaKind.all) "kind" fields
      <*> optional (nullable text) none "entry_id" fields
      <*> optional (tuple text) [] "options" fields

/-- A filter. -/
def filter : Reader Filter :=
  record "FilterSpec" fun fields =>
    Filter.mk <$> required text "name" fields
      <*> optional (tuple text) [] "args" fields
      <*> optional (tuple (pair text)) [] "params" fields

/-- A join. -/
def join : Reader Join :=
  record "TransitionDescriptor" fun fields =>
    Join.mk <$> required transitionKind "kind" fields
      <*> required number "duration_seconds" fields
      <*> required number "offset_seconds" fields
      <*> optional (nullable text) none "engine_transition" fields

/-- A stage of filters. -/
def stage : Reader Stage :=
  record "FilterStage" fun fields =>
    Stage.mk <$> required (member StageKind.name StageKind.all) "kind" fields
      <*> required (tuple text) "inputs" fields
      <*> required text "output" fields
      <*> required (tuple filter) "filters" fields
      <*> optional (nullable join) none "transition" fields
      <*> optional (tuple text) [] "entry_ids" fields

/-- A plan. -/
def plan : Reader Plan :=
  record "CompiledPlan" fun fields =>
    Plan.mk <$> required (tuple inputDeclaration) "input_declarations" fields
      <*> required (tuple stage) "stages" fields
      <*> required text "video_output" fields
      <*> optional (nullable text) none "audio_output" fields
      <*> optional (tuple text) [] "encode_args" fields
      <*> optional number 0.0 "nominal_duration" fields
      <*> optional text "mp4" "output_format" fields

end Splice.Payload
