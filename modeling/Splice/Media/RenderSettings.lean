/-!
# Render settings

The container, the size and the frame rate of the video to be produced, and how much effort the
encoder spends on it.
-/

namespace Splice

/-- The container of the produced video. -/
inductive OutputFormat
  | mp4
  | webm
  deriving DecidableEq, Repr

namespace OutputFormat

/-- The name of a container, which is also the extension of its files. -/
def name : OutputFormat → String
  | mp4 => "mp4"
  | webm => "webm"

/-- Every container. -/
def all : List OutputFormat := [mp4, webm]

/-- The content type of a file in this container. -/
def contentType : OutputFormat → String
  | mp4 => "video/mp4"
  | webm => "video/webm"

end OutputFormat

/-- How much effort the encoder spends. -/
inductive EncodePreset
  | fast
  | medium
  | slow
  deriving DecidableEq, Repr

namespace EncodePreset

/-- The word for a preset. -/
def name : EncodePreset → String
  | fast => "fast"
  | medium => "medium"
  | slow => "slow"

/-- Every preset. -/
def all : List EncodePreset := [fast, medium, slow]

end EncodePreset

/-- What the produced video is to look like. -/
structure RenderSettings where
  format : OutputFormat
  width : Int
  height : Int
  preset : EncodePreset
  frameRate : Int
  deriving DecidableEq, Repr

end Splice
