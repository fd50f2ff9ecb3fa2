import Splice.Plan.Basic
import Splice.Timeline.Entry

/-!
# Well-formed plans

The stages of a plan are wired together by labels. `Plan.WellFormed` says what makes a graph of
them: every label is given once and, unless it is one of the two that leave the graph, taken once,
by a later stage; the streams of the inputs are taken at most once.
-/

namespace Splice

namespace Plan

/-- The labels that the stages give, in order. -/
def outputs (p : Plan) : List String := p.stages.map Stage.output

/-- The labels that the stages take, in order and each as often as it is taken. -/
def consumed (p : Plan) : List String := p.stages.flatMap Stage.inputs

/-- A plan whose stages make a graph of the inputs of some entries, and of music if there is any. -/
structure WellFormed (p : Plan) (entries : List Entry) (music : Bool) : Prop where
  /-- No label is given twice. -/
  outputs_nodup : p.outputs.Nodup
  /-- A stage takes streams of inputs and labels that stages before it give. -/
  grounded : ∀ before stage after, p.stages = before ++ stage :: after → ∀ label ∈ stage.inputs,
    (∃ d ∈ p.inputs, label = d.videoPad ∨ label = d.audioPad) ∨ label ∈ before.map Stage.output
  /-- No stage gives a stream of an input. -/
  inputs_not_given : ∀ d ∈ p.inputs, d.videoPad ∉ p.outputs ∧ d.audioPad ∉ p.outputs
  /-- Whatever does not leave the graph is taken once. -/
  inner_once : ∀ label ∈ p.outputs, label ≠ "vout" → label ≠ "aout" → p.consumed.count label = 1
  /-- The finished picture is given once and not taken. -/
  picture_leaves : p.outputs.count "vout" = 1 ∧ "vout" ∉ p.consumed
  /-- The finished sound is given once and not taken, if there is music. -/
  sound_leaves : music = true → p.outputs.count "aout" = 1 ∧ "aout" ∉ p.consumed
  /-- Without music there is no finished sound. -/
  no_sound : music = false → "aout" ∉ p.outputs ∧ "aout" ∉ p.consumed
  /-- The inputs are numbered from zero. -/
  index_eq : ∀ (k : Nat) (d : InputDeclaration), p.inputs[k]? = some d → d.index = k
  /-- There is one input for each entry, and one for the music behind them. -/
  map_entryId : p.inputs.map InputDeclaration.entryId =
    entries.map (fun e => some e.id) ++ if music then [none] else []
  /-- The picture of each entry's input is taken once. -/
  picture_once : ∀ d ∈ p.inputs, d.entryId ≠ none → p.consumed.count d.videoPad = 1
  /-- The picture of the music's input is not taken. -/
  music_unseen : ∀ d ∈ p.inputs, d.entryId = none → d.videoPad ∉ p.consumed
  /-- No sound is taken twice. -/
  sound_once : ∀ d ∈ p.inputs, p.consumed.count d.audioPad ≤ 1
  /-- What goes into the result is what leaves the graph. -/
  mappings_eq : p.mappings =
    (p.outputs.filter fun label => label = "vout" ∨ label = "aout").map bracketed

end Plan

end Splice
