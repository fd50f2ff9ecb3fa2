import Splice.Json.Reader
import Splice.Number.Amount

/-!
# Settings

What an operator may set: where files are kept and for how long, which origins may call the
service, which programs are the engine, and the defaults of a rendering. With it goes what is not
for an operator to set but for the place where the service runs: how much room its stack leaves for
open lists and objects where a form is read, and where the engine's description of a file is.
-/

namespace Splice

/-- The settings of the service. -/
structure Settings where
  projectName : String
  logLevel : String
  dataDir : String
  /-- Where uploads are kept. -/
  uploadDir : String
  /-- Where results are kept. -/
  outputDir : String
  /-- The largest upload, in mebibytes. -/
  maxUploadMb : Amount
  corsOrigins : List String
  frontendUrl : String
  corsOriginRegex : String
  ffmpegBinary : String
  ffprobeBinary : String
  /-- For how long a stored file is kept, in seconds. -/
  retentionSeconds : Float
  /-- How long the periodic sweep pauses, in seconds. -/
  sweepIntervalSeconds : Float
  /-- How long files outlive the response that they were made for, in seconds. -/
  cleanupGraceSeconds : Float
  defaultImageDuration : Amount
  defaultTransitionDuration : Amount
  defaultWidth : Amount
  defaultHeight : Amount
  outputFps : Amount
  crf : Amount
  audioBitrate : String
  /-- How many lists and objects of a form's text may be open at once. -/
  formRoom : Nat
  /-- How many lists and objects of a description may be open at once. -/
  descriptionRoom : Nat
  deriving Repr

namespace Settings

/-- The settings that hold unless something else is set, with the given directories. -/
def standard (dataDir uploadDir outputDir : String) : Settings where
  projectName := "Montage"
  logLevel := "INFO"
  dataDir
  uploadDir
  outputDir
  maxUploadMb := .whole 100
  corsOrigins := ["http://localhost:3000", "http://localhost:3001"]
  frontendUrl := ""
  corsOriginRegex := "^https://.*\\.up\\.railway\\.app$"
  ffmpegBinary := "ffmpeg"
  ffprobeBinary := "ffprobe"
  retentionSeconds := 3600.0
  sweepIntervalSeconds := 3600.0
  cleanupGraceSeconds := 5.0
  defaultImageDuration := .real 3.0
  defaultTransitionDuration := .real 1.0
  defaultWidth := .whole 1280
  defaultHeight := .whole 720
  outputFps := .whole 30
  crf := .whole 23
  audioBitrate := "128k"
  formRoom := Json.usualRoom
  descriptionRoom := Json.usualRoom

/-- The largest upload, in bytes. -/
def maxUploadBytes (s : Settings) : Amount := s.maxUploadMb.scale (1024 * 1024)

end Settings

end Splice
