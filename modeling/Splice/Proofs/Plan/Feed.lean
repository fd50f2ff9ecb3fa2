import Mathlib.Data.List.Induction
import Mathlib.Data.List.Nodup
import Mathlib.Logic.Function.Basic
import Splice.Proofs.Plan.WellFormed

/-!
# What labels stand for

A label stands for a stream of an input, or for what a stage makes of the things that its inputs
stand for. `Plan.feed` follows the stages in order and keeps what each label stands for. In a plan
that is well formed the order does not matter: what a stage gives is always the stage's work on what
its inputs stand for (`Plan.WellFormed.feed_output`), and nothing else has this property
(`Plan.WellFormed.eq_feed_of_solves`): `Plan.feed` is the expansion of a label through all stages.
-/

namespace Splice

/-- What a label stands for. -/
inductive Feed
  /-- A stream that no stage gives. -/
  | stream (label : String)
  /-- The work of a stage on some feeds. -/
  | made (kind : StageKind) (filters : List Filter) (join : Option Join) (entryIds : List String)
    (inputs : List Feed)

mutual

/-- The streams in a feed, from left to right and each as often as it occurs. -/
def Feed.streams : Feed → List String
  | .stream label => [label]
  | .made _ _ _ _ inputs => streamsOfAll inputs

/-- The streams in several feeds. -/
def streamsOfAll : List Feed → List String
  | [] => []
  | feed :: rest => feed.streams ++ streamsOfAll rest

end

/-- What a stage makes, if it is known what labels stand for. -/
def Stage.feed (env : String → Feed) (stage : Stage) : Feed :=
  .made stage.kind stage.filters stage.join stage.entryIds (stage.inputs.map env)

/-- What labels stand for after some stages. -/
def feedsAfter (env : String → Feed) : List Stage → String → Feed
  | [] => env
  | stage :: rest => feedsAfter (Function.update env stage.output (stage.feed env)) rest

/-- What a label of a plan stands for. -/
def Plan.feed (p : Plan) : String → Feed := feedsAfter .stream p.stages

/-- What labels stand for solves the equations that some stages make. -/
def Solves (feed : String → Feed) (stages : List Stage) : Prop :=
  ∀ stage ∈ stages, feed stage.output = stage.feed feed

theorem Solves.tail {feed : String → Feed} {stage : Stage} {stages : List Stage}
    (h : Solves feed (stage :: stages)) : Solves feed stages :=
  fun other mem => h other (List.mem_cons_of_mem _ mem)

/-! ## Following the stages -/

theorem Stage.feed_congr {env env' : String → Feed} {stage : Stage}
    (h : ∀ label ∈ stage.inputs, env label = env' label) : stage.feed env = stage.feed env' := by
  rw [Stage.feed, Stage.feed, List.map_congr_left h]

theorem feedsAfter_append (env : String → Feed) (stages later : List Stage) :
    feedsAfter env (stages ++ later) = feedsAfter (feedsAfter env stages) later := by
  induction stages generalizing env with
  | nil => rfl
  | cons stage rest ih => exact ih _

/-- Stages leave alone what they do not give. -/
theorem feedsAfter_of_not_mem (env : String → Feed) {stages : List Stage} {label : String}
    (h : label ∉ stages.map Stage.output) : feedsAfter env stages label = env label := by
  induction stages generalizing env with
  | nil => rfl
  | cons stage rest ih =>
    rw [List.map_cons, List.mem_cons, not_or] at h
    rw [feedsAfter, ih _ h.2, Function.update_of_ne h.1]

namespace Plan

variable {p : Plan} {entries : List Entry} {music : Bool}

theorem feed_of_not_mem {label : String} (h : label ∉ p.outputs) : p.feed label = .stream label :=
  feedsAfter_of_not_mem .stream h

/-- What stands among the inputs of a stage is given by no later stage, nor by the stage itself. -/
theorem WellFormed.not_mem_of_mem_inputs (wired : p.WellFormed entries music)
    {before : List Stage} {stage : Stage} {after : List Stage}
    (split : p.stages = before ++ stage :: after) {label : String} (taken : label ∈ stage.inputs) :
    label ∉ (stage :: after).map Stage.output := by
  have outputs : p.outputs = before.map Stage.output ++ (stage :: after).map Stage.output := by
    rw [Plan.outputs, split, List.map_append]
  rcases wired.grounded before stage after split label taken with ⟨d, declared, pad⟩ | given
  · have apart := wired.inputs_not_given d declared
    rw [outputs] at apart
    rcases pad with rfl | rfl
    · exact fun mem => apart.1 (List.mem_append_right _ mem)
    · exact fun mem => apart.2 (List.mem_append_right _ mem)
  · have distinct := wired.outputs_nodup
    rw [outputs] at distinct
    exact fun mem => List.disjoint_left.1 (List.nodup_append'.1 distinct).2.2 given mem

/-- In a well-formed plan a stage works on what its inputs stand for at the end of all stages. -/
theorem WellFormed.feed_output (wired : p.WellFormed entries music) {stage : Stage}
    (mem : stage ∈ p.stages) : p.feed stage.output = stage.feed p.feed := by
  obtain ⟨before, after, split⟩ := List.append_of_mem mem
  have follow (label : String) : p.feed label =
      feedsAfter (feedsAfter .stream before) (stage :: after) label := by
    rw [Plan.feed, split, feedsAfter_append]
  have once : stage.output ∉ after.map Stage.output := by
    have distinct := wired.outputs_nodup
    rw [Plan.outputs, split, List.map_append, List.map_cons] at distinct
    exact (List.nodup_cons.1 (List.nodup_append'.1 distinct).2.1).1
  rw [follow, feedsAfter, feedsAfter_of_not_mem _ once, Function.update_self]
  refine Stage.feed_congr fun label taken => ?_
  rw [follow, feedsAfter_of_not_mem _ (wired.not_mem_of_mem_inputs split taken)]

/-- What labels stand for in a well-formed plan is the only solution of its stages' equations in
which every label that no stage gives is a stream. -/
theorem WellFormed.eq_feed_of_solves (wired : p.WellFormed entries music) {feed : String → Feed}
    (solves : Solves feed p.stages) (streams : ∀ label ∉ p.outputs, feed label = .stream label) :
    feed = p.feed := by
  -- stage by stage: what the stages before have given is settled already
  have settled (before after : List Stage) (split : p.stages = before ++ after) :
      ∀ label ∈ before.map Stage.output, feed label = p.feed label := by
    induction before using List.reverseRecOn generalizing after with
    | nil => simp
    | append_singleton before stage ih =>
      rw [List.append_assoc, List.singleton_append] at split
      have earlier := ih _ split
      have mem : stage ∈ p.stages := by
        rw [split]
        exact List.mem_append_right _ List.mem_cons_self
      have here : feed stage.output = p.feed stage.output := by
        rw [solves stage mem, wired.feed_output mem]
        refine Stage.feed_congr fun label taken => ?_
        by_cases given : label ∈ before.map Stage.output
        · exact earlier label given
        · have fresh : label ∉ p.outputs := by
            rw [Plan.outputs, split, List.map_append, List.mem_append, not_or]
            exact ⟨given, wired.not_mem_of_mem_inputs split taken⟩
          rw [streams label fresh, feed_of_not_mem fresh]
      intro label given
      rw [List.map_append, List.map_singleton, List.mem_append, List.mem_singleton] at given
      rcases given with given | rfl
      · exact earlier label given
      · exact here
  funext label
  by_cases given : label ∈ p.outputs
  · exact settled p.stages [] (List.append_nil _).symm label given
  · rw [streams label given, feed_of_not_mem given]

end Plan

end Splice
