import Splice.Media.Asset
import Splice.Plan.Join

/-!
# Plans

A plan tells the engine how to render a timeline in one run: which files it reads, which stages of
filters it wires together by labels, and how it encodes the two streams that leave the graph. The
text of the graph, and the command line around it, exist only once a plan is written out.

* `Stage.render`, `Plan.graphText` write the graph.
* `Plan.command` is the engine's command line, given where each asset's file lies.
-/

namespace Splice

/-- One input of the engine: an asset's file, and the options that apply to reading it. -/
structure InputDeclaration where
  index : Int
  mediaId : String
  kind : MediaKind
  /-- The timeline entry that the input is for; the music has none. -/
  entryId : Option String
  options : List String
  deriving DecidableEq, Repr

/-- A filter with its positional arguments and its named parameters. -/
structure Filter where
  name : String
  args : List String
  params : List (String × String)
  deriving DecidableEq, Repr

/-- What a stage is there for. -/
inductive StageKind
  | normalize
  | passthrough
  | concat
  | transition
  | audioMix
  | audioVolume
  deriving DecidableEq, Repr

namespace StageKind

/-- The word for a kind of stage. -/
def name : StageKind → String
  | normalize => "normalize"
  | passthrough => "passthrough"
  | concat => "concat"
  | transition => "transition"
  | audioMix => "audio_mix"
  | audioVolume => "audio_volume"

/-- Every kind of stage. -/
def all : List StageKind := [normalize, passthrough, concat, transition, audioMix, audioVolume]

end StageKind

/-- A chain of filters from some labelled streams to one. -/
structure Stage where
  kind : StageKind
  inputs : List String
  output : String
  filters : List Filter
  join : Option Join
  entryIds : List String
  deriving Repr

/-- How the engine renders a timeline. -/
structure Plan where
  inputs : List InputDeclaration
  stages : List Stage
  videoOutput : String
  audioOutput : Option String
  encodeArgs : List String
  /-- How long the result is meant to be, in seconds. -/
  nominalDuration : Float
  format : String
  deriving Repr

/-! ## The graph -/

namespace InputDeclaration

/-- The label of the input's picture. -/
def videoPad (d : InputDeclaration) : String := s!"{d.index}:v"

/-- The label of the input's sound. -/
def audioPad (d : InputDeclaration) : String := s!"{d.index}:a"

end InputDeclaration

namespace Filter

/-- The options of a filter as they are written. -/
def options (f : Filter) : List String :=
  f.args ++ f.params.map fun (key, value) => key ++ "=" ++ value

/-- A filter as it is written. -/
def render (f : Filter) : String :=
  match f.options with
  | [] => f.name
  | options => f.name ++ "=" ++ ":".intercalate options

end Filter

/-- A label as it is written. -/
def bracketed (label : String) : String := "[" ++ label ++ "]"

/-- A stage as it is written. -/
def Stage.render (s : Stage) : String :=
  String.join (s.inputs.map bracketed) ++ ",".intercalate (s.filters.map Filter.render)
    ++ bracketed s.output

namespace Plan

/-- The text of the graph. -/
def graphText (p : Plan) : String := ";".intercalate (p.stages.map Stage.render)

/-- The streams that go into the result: the picture, and the sound if there is any. -/
def mappings (p : Plan) : List String :=
  bracketed p.videoOutput ::
    match p.audioOutput with
    | none => []
    | some "" => []
    | some label => [bracketed label]

/-- The stages of one kind. -/
def stagesOf (p : Plan) (kind : StageKind) : List Stage := p.stages.filter fun s => s.kind == kind

/-! ## The command line -/

/-- The arguments for one input, if the place of its file is known. -/
def inputArgs (locations : String → Option String) (d : InputDeclaration) :
    Except Fault (List String) :=
  match locations d.mediaId with
  | some path => .ok (d.options ++ ["-i", path])
  | none => .error (.noLocation d.mediaId)

/-- The arguments for all inputs in order. -/
def allInputArgs (locations : String → Option String) :
    List InputDeclaration → Except Fault (List String)
  | [] => .ok []
  | d :: rest =>
    match inputArgs locations d with
    | .error fault => .error fault
    | .ok args => (allInputArgs locations rest).map (args ++ ·)

/-- The engine's command line for a plan. -/
def command (p : Plan) (locations : String → Option String) (output : String) (binary : String)
    (progress : Bool) : Except Fault (List String) :=
  (allInputArgs locations p.inputs).map fun inputArgs =>
    [binary, "-y", "-hide_banner"] ++ inputArgs ++ ["-filter_complex", p.graphText]
      ++ p.mappings.flatMap (fun mapping => ["-map", mapping]) ++ p.encodeArgs
      ++ (if progress then ["-progress", "pipe:1", "-nostats"] else []) ++ [output]

end Plan

end Splice
