import Splice.Plan.Basic
import Splice.Proofs.Text.Separated

/-!
# Reading the text of a graph

The text of a graph is nothing but names and numbers between six marks; nothing in it is escaped.
`readGraph?` reads such a text: stages between semicolons, in each of them bracketed labels in front
and one at the end, between those filters with commas, and in a filter options with colons, of which
those with an equals sign are parameters.

Main statement: a graph whose stages are legible is read back from its text
(`Plan.readGraph?_graphText`). A stage is legible if no mark stands in its names, options and
labels, where a label may have a colon.
-/

namespace Splice

/-- What the text of a stage tells of it: how it is wired and what it does, but not what for. -/
structure Wiring where
  inputs : List String
  filters : List Filter
  output : String
  deriving DecidableEq, Repr

/-- The wiring of a stage. -/
def Stage.wiring (s : Stage) : Wiring := ⟨s.inputs, s.filters, s.output⟩

/-! ## The reader -/

/-- Whether an option is a parameter. -/
def isParameter (option : String) : Bool := option.toList.contains '='

/-- The filter that a text writes. -/
def readFilter (text : String) : Filter :=
  let (name, rest) := Text.cutAt '=' text
  let options := if isParameter text then Text.partsAt ':' rest else []
  { name
    args := options.filter fun option => !isParameter option
    params := (options.filter isParameter).map (Text.cutAt '=') }

/-- Whether a piece of a text starts with an opening bracket. -/
def isOpened (piece : String) : Bool := piece.toList.head? == some '['

/-- The stage that a text writes. Of the pieces that end in a closing bracket those in front are
whole labels; the last one is the chain of filters with the label behind it. -/
def readStage? (text : String) : Option Wiring :=
  let pieces := Text.partsAt ']' text
  let labels := pieces.takeWhile isOpened
  match pieces.drop labels.length with
  | [body, ""] =>
    let (chain, output) := Text.cutAt '[' body
    some
      { inputs := labels.map fun piece => (Text.cutAt '[' piece).2
        filters := (Text.partsAt ',' chain).map readFilter
        output }
  | _ => none

/-- The stages that the text of a graph writes. -/
def readGraph? (text : String) : Option (List Wiring) := (Text.partsAt ';' text).mapM readStage?

/-! ## Legible graphs -/

/-- The characters that have a meaning in the text of a graph. -/
def marks : List Char := ['[', ']', ',', ';', ':', '=']

/-- A text without marks. -/
def Unmarked (text : String) : Prop := ∀ c ∈ text.toList, c ∉ marks

instance (text : String) : Decidable (Unmarked text) :=
  List.decidableBAll (fun c => c ∉ marks) text.toList

/-- A text with no other mark than a colon, as labels of inputs' streams have one. -/
def LegibleLabel (label : String) : Prop := ∀ c ∈ label.toList, c ∈ marks → c = ':'

instance (label : String) : Decidable (LegibleLabel label) :=
  List.decidableBAll (fun c => c ∈ marks → c = ':') label.toList

theorem Unmarked.legibleLabel {text : String} (h : Unmarked text) : LegibleLabel text :=
  fun c mem mark => absurd mark (h c mem)

theorem LegibleLabel.not_mem {label : String} (h : LegibleLabel label) {c : Char} (mark : c ∈ marks)
    (other : c ≠ ':') : c ∉ label.toList := fun mem => other (h c mem mark)

theorem Unmarked.append {s t : String} (hs : Unmarked s) (ht : Unmarked t) : Unmarked (s ++ t) := by
  intro c mem
  rw [String.toList_append, List.mem_append] at mem
  exact mem.elim (hs c) (ht c)

/-- A filter whose text can be read: it has a name, and no mark stands anywhere in it. -/
structure Filter.Legible (f : Filter) : Prop where
  named : f.name ≠ ""
  name : Unmarked f.name
  args : ∀ option ∈ f.args, Unmarked option
  params : ∀ pair ∈ f.params, Unmarked pair.1 ∧ Unmarked pair.2

/-- A stage whose text can be read. -/
structure Stage.Legible (s : Stage) : Prop where
  inputs : ∀ label ∈ s.inputs, LegibleLabel label
  output : LegibleLabel s.output
  filled : s.filters ≠ []
  filters : ∀ f ∈ s.filters, f.Legible

/-! ## Filters -/

theorem isParameter_of_unmarked {option : String} (h : Unmarked option) :
    isParameter option = false := by
  rw [isParameter, ← Bool.not_eq_true, List.contains_iff_mem]
  exact fun mem => h _ mem (by decide)

theorem isParameter_pair (key value : String) : isParameter (key ++ "=" ++ value) = true := by
  simp [isParameter]

namespace Filter

variable {f : Filter}

theorem Legible.mark_of_mem_options (h : f.Legible) {option : String} (mem : option ∈ f.options)
    {c : Char} (inside : c ∈ option.toList) (mark : c ∈ marks) : c = '=' := by
  rw [options, List.mem_append, List.mem_map] at mem
  rcases mem with arg | ⟨⟨key, value⟩, param, rfl⟩
  · exact absurd mark (h.args option arg c inside)
  · obtain ⟨plainKey, plainValue⟩ := h.params _ param
    rw [String.toList_append, String.toList_append, List.mem_append, List.mem_append] at inside
    rcases inside with (inKey | equals) | inValue
    · exact absurd mark (plainKey c inKey)
    · simpa using equals
    · exact absurd mark (plainValue c inValue)

/-- The only marks in the text of a filter are colons and equals signs. -/
theorem Legible.mark_of_mem_render (h : f.Legible) {c : Char} (mem : c ∈ f.render.toList)
    (mark : c ∈ marks) : c = ':' ∨ c = '=' := by
  unfold render at mem
  split at mem
  case h_1 => exact absurd mark (h.name c mem)
  case h_2 =>
    rw [String.toList_append, String.toList_append, List.mem_append, List.mem_append] at mem
    rcases mem with (inName | equals) | later
    · exact absurd mark (h.name c inName)
    · exact .inr (by simpa using equals)
    · rcases Text.mem_of_mem_intercalate later with colon | ⟨option, mem, inside⟩
      · exact .inl (by simpa using colon)
      · exact .inr (h.mark_of_mem_options mem inside mark)

theorem Legible.filter_args (h : f.Legible) :
    f.options.filter (fun option => !isParameter option) = f.args := by
  have args : f.args.filter (fun option => !isParameter option) = f.args := by
    rw [List.filter_eq_self]
    intro option mem
    rw [isParameter_of_unmarked (h.args option mem)]
    rfl
  have params : (f.params.map fun (key, value) => key ++ "=" ++ value).filter
      (fun option => !isParameter option) = [] := by
    rw [List.filter_eq_nil_iff]
    intro option mem
    obtain ⟨⟨key, value⟩, -, rfl⟩ := List.mem_map.1 mem
    simp [isParameter_pair]
  rw [options, List.filter_append, args, params, List.append_nil]

theorem Legible.map_cutAt_params (h : f.Legible) :
    (f.options.filter isParameter).map (Text.cutAt '=') = f.params := by
  have args : f.args.filter isParameter = [] := by
    rw [List.filter_eq_nil_iff]
    intro option mem
    rw [isParameter_of_unmarked (h.args option mem)]
    exact Bool.false_ne_true
  have params : (f.params.map fun (key, value) => key ++ "=" ++ value).filter isParameter =
      f.params.map fun (key, value) => key ++ "=" ++ value := by
    rw [List.filter_eq_self]
    intro option mem
    obtain ⟨⟨key, value⟩, -, rfl⟩ := List.mem_map.1 mem
    exact isParameter_pair key value
  rw [options, List.filter_append, args, params, List.nil_append, List.map_map]
  refine (List.map_congr_left fun pair mem => ?_).trans (List.map_id f.params)
  exact Text.cutAt_append rfl fun inside => (h.params pair mem).1 _ inside (by decide)

theorem Legible.readFilter_render (h : f.Legible) : readFilter f.render = f := by
  have unnamed : '=' ∉ f.name.toList := fun mem => h.name _ mem (by decide)
  unfold render
  split
  -- A filter without options is its name, and then no equals sign stands in its text.
  case h_1 none =>
    have args := h.filter_args
    have params := h.map_cutAt_params
    rw [none] at args params
    rw [readFilter, Text.cutAt_of_not_mem unnamed, isParameter_of_unmarked h.name]
    cases f
    cases args
    cases params
    rfl
  case h_2 some =>
    have parts : Text.partsAt ':' (":".intercalate f.options) = f.options := by
      refine Text.partsAt_intercalate rfl some fun option mem inside => ?_
      exact absurd (h.mark_of_mem_options mem inside (by decide)) (by decide)
    have cut : Text.cutAt '=' (f.name ++ "=" ++ ":".intercalate f.options) =
        (f.name, ":".intercalate f.options) := Text.cutAt_append rfl unnamed
    simp only [readFilter, cut, isParameter_pair, if_true, parts, h.filter_args,
      h.map_cutAt_params]

theorem Legible.exists_head_render (h : f.Legible) :
    ∃ c, f.render.toList.head? = some c ∧ c ≠ '[' := by
  have filled : f.name.toList ≠ [] := fun none => h.named (String.toList_eq_nil_iff.1 none)
  obtain ⟨c, rest, name⟩ := List.exists_cons_of_ne_nil filled
  have plain : c ≠ '[' := by
    rintro rfl
    exact h.name '[' (by rw [name]; exact List.mem_cons_self) (by decide)
  refine ⟨c, ?_, plain⟩
  unfold render
  split
  · rw [name, List.head?_cons]
  · simp [name]

end Filter

/-! ## Stages -/

/-- The chain of filters as it is written. -/
def chainText (filters : List Filter) : String := ",".intercalate (filters.map Filter.render)

theorem mark_of_mem_chainText {filters : List Filter} (h : ∀ f ∈ filters, f.Legible) {c : Char}
    (mem : c ∈ (chainText filters).toList) (mark : c ∈ marks) : c = ',' ∨ c = ':' ∨ c = '=' := by
  rcases Text.mem_of_mem_intercalate mem with comma | ⟨text, written, inside⟩
  · exact .inl (by simpa using comma)
  · obtain ⟨f, member, rfl⟩ := List.mem_map.1 written
    exact .inr ((h f member).mark_of_mem_render inside mark)

theorem map_readFilter_partsAt_chainText {filters : List Filter} (h : ∀ f ∈ filters, f.Legible)
    (filled : filters ≠ []) : (Text.partsAt ',' (chainText filters)).map readFilter = filters := by
  have parts : Text.partsAt ',' (chainText filters) = filters.map Filter.render := by
    refine Text.partsAt_intercalate rfl (by simpa using filled) fun text written inside => ?_
    obtain ⟨f, member, rfl⟩ := List.mem_map.1 written
    exact absurd ((h f member).mark_of_mem_render inside (by decide)) (by decide)
  rw [parts, List.map_map]
  exact (List.map_congr_left fun f member => (h f member).readFilter_render).trans (List.map_id _)

theorem exists_head_chainText {filters : List Filter} (h : ∀ f ∈ filters, f.Legible)
    (filled : filters ≠ []) : ∃ c, (chainText filters).toList.head? = some c ∧ c ≠ '[' := by
  obtain ⟨f, rest, rfl⟩ := List.exists_cons_of_ne_nil filled
  obtain ⟨c, first, plain⟩ := (h f List.mem_cons_self).exists_head_render
  refine ⟨c, ?_, plain⟩
  cases rest with
  | nil => simpa [chainText] using first
  | cons next rest => simp [chainText, first]

namespace Stage

/-- The pieces of a stage's text that end in a closing bracket, and the rest behind the last. -/
def pieces (s : Stage) : List String :=
  s.inputs.map ("[" ++ ·) ++ [chainText s.filters ++ "[" ++ s.output, ""]

theorem render_eq_intercalate (s : Stage) : s.render = "]".intercalate s.pieces := by
  have labels : ∀ (inputs : List String) (body : String),
      String.join (inputs.map bracketed) ++ body ++ "]" =
        "]".intercalate (inputs.map ("[" ++ ·) ++ [body, ""]) := by
    intro inputs body
    induction inputs with
    | nil => simp [String.intercalate_cons_cons]
    | cons label rest ih =>
      have filled : rest.map ("[" ++ ·) ++ [body, ""] ≠ [] := by simp
      rw [List.map_cons, List.map_cons, List.cons_append,
        String.intercalate_cons_of_ne_nil filled, ← ih, String.join_cons, bracketed]
      simp only [String.append_assoc]
  rw [pieces, ← labels, render, bracketed, chainText]
  simp only [String.append_assoc]

variable {s : Stage}

theorem Legible.chain_apart (h : s.Legible) {c : Char} (mark : c ∈ marks)
    (other : c ≠ ',' ∧ c ≠ ':' ∧ c ≠ '=') : c ∉ (chainText s.filters).toList := by
  intro mem
  rcases mark_of_mem_chainText h.filters mem mark with same | same | same
  · exact other.1 same
  · exact other.2.1 same
  · exact other.2.2 same

theorem Legible.partsAt_render (h : s.Legible) : Text.partsAt ']' s.render = s.pieces := by
  rw [render_eq_intercalate]
  refine Text.partsAt_intercalate rfl (by simp [pieces]) fun piece mem => ?_
  rw [pieces, List.mem_append, List.mem_map, List.mem_cons, List.mem_singleton] at mem
  rcases mem with ⟨label, source, rfl⟩ | rfl | rfl
  · have plain : ']' ∉ label.toList := (h.inputs label source).not_mem (by decide) (by decide)
    simpa using plain
  · have chain := h.chain_apart (c := ']') (by decide) (by decide)
    have plain : ']' ∉ s.output.toList := h.output.not_mem (by decide) (by decide)
    simpa using ⟨chain, plain⟩
  · simp

/-- A stage's text has no semicolon. -/
theorem Legible.not_mem_render (h : s.Legible) : ';' ∉ s.render.toList := by
  rw [render_eq_intercalate]
  intro mem
  rcases Text.mem_of_mem_intercalate mem with closing | ⟨piece, piece_mem, inside⟩
  · exact absurd closing (by decide)
  · rw [pieces, List.mem_append, List.mem_map, List.mem_cons, List.mem_singleton] at piece_mem
    rcases piece_mem with ⟨label, source, rfl⟩ | rfl | rfl
    · have plain : ';' ∉ label.toList := (h.inputs label source).not_mem (by decide) (by decide)
      exact plain (by simpa using inside)
    · have chain := h.chain_apart (c := ';') (by decide) (by decide)
      have plain : ';' ∉ s.output.toList := h.output.not_mem (by decide) (by decide)
      simp [chain, plain] at inside
    · exact absurd inside (by decide)

theorem Legible.takeWhile_pieces (h : s.Legible) :
    s.pieces.takeWhile isOpened = s.inputs.map ("[" ++ ·) := by
  obtain ⟨c, first, plain⟩ := exists_head_chainText h.filters h.filled
  have opened : ∀ piece ∈ s.inputs.map ("[" ++ ·), isOpened piece = true := by
    intro piece mem
    obtain ⟨label, -, rfl⟩ := List.mem_map.1 mem
    simp [isOpened]
  have body : ¬ isOpened (chainText s.filters ++ "[" ++ s.output) = true := by
    simp [isOpened, first, plain]
  rw [pieces, List.takeWhile_append_of_pos opened, List.takeWhile_cons_of_neg body,
    List.append_nil]

theorem Legible.readStage?_render (h : s.Legible) : readStage? s.render = some s.wiring := by
  have rest : s.pieces.drop (s.inputs.map ("[" ++ ·)).length =
      [chainText s.filters ++ "[" ++ s.output, ""] := by
    rw [pieces, List.drop_left]
  have cut : Text.cutAt '[' (chainText s.filters ++ "[" ++ s.output) =
      (chainText s.filters, s.output) :=
    Text.cutAt_append rfl (h.chain_apart (by decide) (by decide))
  have labels : (s.inputs.map ("[" ++ ·)).map (fun piece => (Text.cutAt '[' piece).2) =
      s.inputs := by
    rw [List.map_map]
    refine (List.map_congr_left fun label _ => ?_).trans (List.map_id s.inputs)
    have opened : "[" ++ label = "" ++ "[" ++ label := by simp
    simp only [Function.comp_apply, opened, id_eq]
    rw [Text.cutAt_append rfl (by simp)]
  simp only [readStage?, h.partsAt_render, h.takeWhile_pieces, rest, cut, labels,
    map_readFilter_partsAt_chainText h.filters h.filled]
  rfl

theorem mapM_readStage?_render {stages : List Stage} (h : ∀ s ∈ stages, s.Legible) :
    (stages.map Stage.render).mapM readStage? = some (stages.map Stage.wiring) := by
  induction stages with
  | nil => rfl
  | cons s rest ih =>
    rw [List.forall_mem_cons] at h
    rw [List.map_cons, List.mapM_cons, h.1.readStage?_render, ih h.2]
    rfl

end Stage

namespace Plan

/-- **A graph of legible stages is read back from its text.** -/
theorem readGraph?_graphText {p : Plan} (filled : p.stages ≠ [])
    (h : ∀ s ∈ p.stages, s.Legible) :
    readGraph? p.graphText = some (p.stages.map Stage.wiring) := by
  have parts : Text.partsAt ';' p.graphText = p.stages.map Stage.render := by
    refine Text.partsAt_intercalate rfl (by simpa using filled) fun text mem => ?_
    obtain ⟨s, stage, rfl⟩ := List.mem_map.1 mem
    exact (h s stage).not_mem_render
  rw [readGraph?, parts, Stage.mapM_readStage?_render h]

end Plan

example : readGraph? "[0:v]scale=640:-2,copy[v0];[v0][1:a]xfade=transition=fade:offset=2.5[vout]" =
    some
      [⟨["0:v"], [⟨"scale", ["640", "-2"], []⟩, ⟨"copy", [], []⟩], "v0"⟩,
        ⟨["v0", "1:a"], [⟨"xfade", [], [("transition", "fade"), ("offset", "2.5")]⟩], "vout"⟩] := by
  decide +kernel

end Splice
