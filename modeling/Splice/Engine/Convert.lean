import Splice.Engine.Basic
import Splice.Number.Amount

/-!
# Converting a single clip

Without a timeline one file becomes one clip: a picture a short silent one, a video the same at
another size. A conversion that fails leaves behind whatever the engine has written.
-/

namespace Splice

/-- How a clip is converted; what is not given, or is zero, comes from the settings. -/
structure ClipFormat where
  width : Option Amount
  height : Option Amount
  /-- How long a picture is shown, in seconds. -/
  imageDuration : Option Amount
  deriving Repr

namespace Engine

/-- The size of a converted clip. -/
def clipSize (e : Engine) (format : ClipFormat) : String :=
  let width := Amount.orElse format.width e.settings.defaultWidth
  let height := Amount.orElse format.height e.settings.defaultHeight
  s!"{width.text}x{height.text}"

/-- The arguments that turn a picture into a clip. -/
def pictureArgs (e : Engine) (input : String) (format : ClipFormat) : List String :=
  let seconds := Amount.orElse format.imageDuration e.settings.defaultImageDuration
  ["-loop", "1", "-t", seconds.text, "-i", input, "-an", "-pix_fmt", "yuv420p",
    "-r", e.settings.outputFps.text, "-s", e.clipSize format, "-vcodec", "libx264"]

/-- The arguments that turn a video into a clip. -/
def videoArgs (e : Engine) (input : String) (format : ClipFormat) : List String :=
  ["-i", input, "-crf", e.settings.crf.text, "-preset", "fast", "-s", e.clipSize format,
    "-vcodec", "libx264"]

/-- Converts a file into a clip and gives back its path. -/
def convert (e : Engine) (input output : String) (isImage : Bool) (format : ClipFormat) :
    Act String := do
  let args := if isImage then e.pictureArgs input format else e.videoArgs input format
  let finished ← call (.convert output) (e.binary :: args ++ [output, "-y"])
  if finished.status = 0 then return output
  else
    let words ← Act.orFailure
      ((complaint finished.stderr "Unknown ffmpeg error").mapError .fault)
    throw (.problem (.conversionFailed words))

end Engine

end Splice
