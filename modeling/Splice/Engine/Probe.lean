import Splice.Engine.Basic
import Splice.Number.Reading

/-!
# Describing a media file

The engine describes a file by a JSON object: its format, with a duration, and its streams, each
of some type. The object is taken as it comes. What has not the expected shape is a fault, found in
the order in which the parts are looked at: the duration first, then the streams, once for pictures
and once for sound.
-/

namespace Splice

/-- What is known about a media file. -/
structure Description where
  duration : Option Float
  hasVideo : Bool
  hasAudio : Bool
  deriving Repr

namespace Description

/-- The field of a value that must be an object. -/
def field? (name : String) : Json → Except Fault (Option Json)
  | .object fields => .ok (Table.get? fields name)
  | value => .error (.notObject value)

/-- The items of a value that must be a sequence: those of a list, the characters of a text, or the
names of an object's fields. -/
def items : Json → Except Fault (List Json)
  | .list items => .ok items
  | .text s => .ok (s.toList.map fun c => .text (String.singleton c))
  | .object fields => .ok (fields.map fun field => .text field.1)
  | value => .error (.notList value)

/-- The number that a value gives as a duration. -/
def seconds : Json → Except Fault Float
  | .float x => .ok x
  | .int n =>
    match Binary64.ofInt? n with
    | some x => .ok x
    | none => .error .oversizedInteger
  | .bool b => .ok (if b then 1.0 else 0.0)
  | .text s =>
    match Number.ofSetting? s with
    | some x => .ok x
    | none => .error (.unreadableNumber s)
  | value => .error (.notNumber value)

/-- The duration, if one is given. -/
def readDuration (description : Json) : Except Fault (Option Float) := do
  let format := (← field? "format" description).getD (.object [])
  match ← field? "duration" format with
  | none => return none
  | some .null => return none
  | some value => some <$> seconds value

/-- Whether a stream has a type. -/
def hasType (type : String) (stream : Json) : Except Fault Bool := do
  match ← field? "codec_type" stream with
  | some (.text t) => return t == type
  | _ => return false

/-- Whether one of some streams has a type; those behind it are not looked at. -/
def anyOfType (type : String) : List Json → Except Fault Bool
  | [] => .ok false
  | stream :: rest =>
    match hasType type stream with
    | .error fault => .error fault
    | .ok true => .ok true
    | .ok false => anyOfType type rest

/-- The description that a JSON value gives. -/
def ofJson (value : Json) : Except Fault Description := do
  let streams := (← field? "streams" value).getD (.list [])
  let duration ← readDuration value
  let streams ← items streams
  let hasVideo ← anyOfType "video" streams
  let hasAudio ← anyOfType "audio" streams
  return { duration, hasVideo, hasAudio }

/-- The description that the engine writes. -/
def ofOutput (room : Nat) (stdout : Bytes) : Except Fault Description := do
  let text ← (Utf8.strict stdout).mapError .encoding
  ofJson (← (Json.read room text).mapError .ofRefusal)

end Description

/-- Describes a media file. -/
def Engine.probe (e : Engine) (path : String) : Act Description := do
  let finished ← call (.probe path)
    [e.probeBinary, "-show_format", "-show_streams", "-of", "json", path]
  if finished.status = 0 then
    Act.orFailure
      ((Description.ofOutput e.settings.descriptionRoom finished.stdout).mapError .fault)
  else
    let words ← Act.orFailure
      ((complaint finished.stderr "Unknown ffprobe error").mapError .fault)
    throw (.problem (.probeFailed words))

end Splice
