import Splice.Text.Lowercase

/-!
# Kinds of media

A media file is a picture, a video or a sound. Uploads are classified by their content type, where
anything that is neither a picture nor a sound counts as a video.
-/

namespace Splice

/-- What a media file holds. -/
inductive MediaKind
  | image
  | video
  | audio
  deriving DecidableEq, Repr

namespace MediaKind

/-- The word for a kind. -/
def name : MediaKind → String
  | image => "image"
  | video => "video"
  | audio => "audio"

/-- Every kind, in the order in which the kinds are listed to a client. -/
def all : List MediaKind := [image, video, audio]

/-- The kind of a file with the given content type; without one it is a video. -/
def ofContentType (contentType : Option String) : MediaKind :=
  let type := (Text.lower (contentType.getD "")).toList
  if "image/".toList.isPrefixOf type then image
  else if "audio/".toList.isPrefixOf type then audio
  else video

end MediaKind

end Splice
