import Splice.Payload.Reader
import Splice.Problem
import Splice.Settings
import Splice.Surroundings.Path

/-!
# Settings from the environment

An operator sets a setting by a variable of its name. The numbers among them are first read one
after the other, and the first that is none is a fault. Then all settings are read together, as the
fields of a record: what is wrong with that is reported as a whole. The list of origins is written
as JSON.
-/

namespace Splice

/-- The variables of an environment. -/
abbrev Environment := Table String String

namespace Environment

/-! ## One number after the other -/

/-- What sort of number a setting is. -/
inductive NumberSort
  | integer
  | number
  deriving DecidableEq, Repr

/-- The settings that are numbers, in the order in which they are first read. -/
def numbers : List (String × NumberSort) :=
  [("MAX_UPLOAD_MB", .integer), ("RETENTION_SECONDS", .number), ("SWEEP_INTERVAL_SECONDS", .number),
   ("CLEANUP_GRACE_SECONDS", .number), ("DEFAULT_IMAGE_DURATION", .number),
   ("DEFAULT_TRANSITION_DURATION", .number), ("DEFAULT_WIDTH", .integer),
   ("DEFAULT_HEIGHT", .integer), ("OUTPUT_FPS", .integer), ("CRF", .integer)]

/-- Refuses a text that is no number of a sort. -/
def checkNumber (text : String) : NumberSort → Except Fault Unit
  | .integer =>
    match Number.integerOfSetting text with
    | .ok _ => .ok ()
    | .error .unreadable => .error (.unreadableInteger text)
    | .error (.long digits) => .error (.longInteger digits)
  | .number =>
    match Number.ofSetting? text with
    | some _ => .ok ()
    | none => .error (.unreadableNumber text)

/-- Refuses the first of some settings that is set to something else than a number. -/
def checkNumbers (env : Environment) : List (String × NumberSort) → Except Fault Unit
  | [] => .ok ()
  | (name, sort) :: rest =>
    match (env.get? name).map (checkNumber · sort) with
    | some (.error fault) => .error fault
    | _ => env.checkNumbers rest

/-! ## All together -/

/-- The name of the list of origins. -/
def origins : String := "CORS_ORIGINS"

/-- The field that a variable gives; null for the list of origins gives none. -/
def field (name text : String) : Except Fault Json.Fields :=
  if name == origins then
    match Json.read Json.usualRoom text with
    | .ok .null => .ok []
    | .ok value => .ok [(name, value)]
    | .error (.tooDeep nested) => .error (.tooDeep nested)
    | .error _ => .error (.unreadableSetting name)
  else .ok [(name, .text text)]

/-- The fields that the variables give. -/
def fields : Environment → Except Fault Json.Fields
  | [] => .ok []
  | (name, text) :: rest =>
    match field name text with
    | .error fault => .error fault
    | .ok here => (fields rest).map (here ++ ·)

end Environment

/-- A setting that is an integer. -/
def Payload.wholeAmount : Payload.Reader Amount := fun value => Amount.whole <$> integer value

/-- A setting that is a number. -/
def Payload.realAmount : Payload.Reader Amount := fun value => Amount.real <$> number value

/-- Settings, with `standard` for what is not set. -/
def Payload.settings (standard : Settings) : Payload.Reader Settings :=
  Payload.record "Settings" fun fields =>
    Settings.mk <$> optional text standard.projectName "PROJECT_NAME" fields
      <*> optional text standard.logLevel "LOG_LEVEL" fields
      <*> optional text standard.dataDir "DATA_DIR" fields
      <*> optional text standard.uploadDir "UPLOAD_DIR" fields
      <*> optional text standard.outputDir "OUTPUT_DIR" fields
      <*> optional wholeAmount standard.maxUploadMb "MAX_UPLOAD_MB" fields
      <*> optional (list text) standard.corsOrigins Environment.origins fields
      <*> optional text standard.frontendUrl "FRONTEND_URL" fields
      <*> optional text standard.corsOriginRegex "CORS_ORIGIN_REGEX" fields
      <*> optional text standard.ffmpegBinary "FFMPEG_BINARY" fields
      <*> optional text standard.ffprobeBinary "FFPROBE_BINARY" fields
      <*> optional number standard.retentionSeconds "RETENTION_SECONDS" fields
      <*> optional number standard.sweepIntervalSeconds "SWEEP_INTERVAL_SECONDS" fields
      <*> optional number standard.cleanupGraceSeconds "CLEANUP_GRACE_SECONDS" fields
      <*> optional realAmount standard.defaultImageDuration "DEFAULT_IMAGE_DURATION" fields
      <*> optional realAmount standard.defaultTransitionDuration "DEFAULT_TRANSITION_DURATION" fields
      <*> optional wholeAmount standard.defaultWidth "DEFAULT_WIDTH" fields
      <*> optional wholeAmount standard.defaultHeight "DEFAULT_HEIGHT" fields
      <*> optional wholeAmount standard.outputFps "OUTPUT_FPS" fields
      <*> optional wholeAmount standard.crf "CRF" fields
      <*> optional text standard.audioBitrate "AUDIO_BITRATE" fields
      <*> pure standard.formRoom
      <*> pure standard.descriptionRoom

/-- The settings that hold in a project when nothing but the directories is set. -/
def Environment.standard (env : Environment) (projectRoot : String) : Settings :=
  let dataDir := (env.get? "DATA_DIR").getD (Path.join projectRoot "data")
  Settings.standard dataDir (Path.join dataDir "uploads") (Path.join dataDir "output")

/-- The settings of a project in an environment. -/
def Settings.ofEnvironment (projectRoot : String) (env : Environment) : Except Fault Settings := do
  env.checkNumbers Environment.numbers
  let fields ← env.fields
  (Payload.settings (env.standard projectRoot) (.object fields)).toExcept (.schema "Settings")

/-! ## Putting other values in the place of settings -/

namespace Settings

/-- The settings with one of them replaced as it is given. A value of another sort replaces
nothing. -/
def replaceOne (s : Settings) (name : String) (value : Json) : Settings :=
  match name, value, Amount.ofJson? value with
  | "PROJECT_NAME", .text t, _ => { s with projectName := t }
  | "LOG_LEVEL", .text t, _ => { s with logLevel := t }
  | "DATA_DIR", .text t, _ => { s with dataDir := t }
  | "UPLOAD_DIR", .text t, _ => { s with uploadDir := t }
  | "OUTPUT_DIR", .text t, _ => { s with outputDir := t }
  | "FRONTEND_URL", .text t, _ => { s with frontendUrl := t }
  | "CORS_ORIGIN_REGEX", .text t, _ => { s with corsOriginRegex := t }
  | "FFMPEG_BINARY", .text t, _ => { s with ffmpegBinary := t }
  | "FFPROBE_BINARY", .text t, _ => { s with ffprobeBinary := t }
  | "AUDIO_BITRATE", .text t, _ => { s with audioBitrate := t }
  | "MAX_UPLOAD_MB", _, some a => { s with maxUploadMb := a }
  | "RETENTION_SECONDS", _, some a => { s with retentionSeconds := a.value }
  | "SWEEP_INTERVAL_SECONDS", _, some a => { s with sweepIntervalSeconds := a.value }
  | "CLEANUP_GRACE_SECONDS", _, some a => { s with cleanupGraceSeconds := a.value }
  | "DEFAULT_IMAGE_DURATION", _, some a => { s with defaultImageDuration := a }
  | "DEFAULT_TRANSITION_DURATION", _, some a => { s with defaultTransitionDuration := a }
  | "DEFAULT_WIDTH", _, some a => { s with defaultWidth := a }
  | "DEFAULT_HEIGHT", _, some a => { s with defaultHeight := a }
  | "OUTPUT_FPS", _, some a => { s with outputFps := a }
  | "CRF", _, some a => { s with crf := a }
  | _, _, _ => s

/-- The settings with some of them replaced. -/
def replace (s : Settings) (fields : Json.Fields) : Settings :=
  fields.foldl (fun s field => s.replaceOne field.1 field.2) s

end Settings

end Splice
