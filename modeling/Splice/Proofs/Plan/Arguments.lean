import Splice.Plan.Basic

/-!
# Reading the inputs of a command line

In front of the graph the engine's command line says which files are read: for each input the
options that apply to reading it, in pairs of a name and a value, and then its file. `readInputs`
reads them off, in order, as the engine counts them.

Main statement: the inputs of a plan are read off its command line (`Plan.readInputs_command`),
provided that the place of every file is known and that no option has the name of a mark.
-/

namespace Splice

/-- An input on a command line: the options for reading a file, and the file.
-/
structure InputFile where
  options : List String
  path : String
  deriving DecidableEq, Repr

/-! ## The reader -/

/-- Reads inputs up to the graph; `options` are those read so far for the next file. -/
def readInputsAfter (options : List String) : List String → List InputFile
  | "-i" :: path :: rest => ⟨options, path⟩ :: readInputsAfter [] rest
  | "-filter_complex" :: _ => []
  | name :: value :: rest => readInputsAfter (options ++ [name, value]) rest
  | _ => []

/-- The inputs of a command line, behind the program and its two flags. -/
def readInputs : List String → List InputFile
  | _ :: "-y" :: "-hide_banner" :: rest => readInputsAfter [] rest
  | _ => []

/-! ## What is read back -/

/-- The arguments of an input. -/
def InputFile.args (file : InputFile) : List String := file.options ++ ["-i", file.path]

/-- Options in pairs, none of them named as what ends the options or the inputs. -/
inductive Paired : List String → Prop
  | nil : Paired []
  | cons {name value : String} {rest : List String} (inner : name ≠ "-i")
      (input : name ≠ "-filter_complex") (others : Paired rest) : Paired (name :: value :: rest)

theorem readInputsAfter_options {options : List String} (paired : Paired options)
    (before rest : List String) :
    readInputsAfter before (options ++ rest) = readInputsAfter (before ++ options) rest := by
  induction paired generalizing before with
  | nil => rw [List.nil_append, List.append_nil]
  | @cons name value others inner input _ ih =>
    rw [List.cons_append, List.cons_append, readInputsAfter, ih, List.append_assoc]
    · rfl
    · exact inner
    · exact input

/-- Inputs in front of a graph are read back. -/
theorem readInputsAfter_files {files : List InputFile} (paired : ∀ f ∈ files, Paired f.options)
    (rest : List String) :
    readInputsAfter [] (files.flatMap InputFile.args ++ "-filter_complex" :: rest) = files := by
  induction files with
  | nil => rfl
  | cons f files ih =>
    rw [List.forall_mem_cons] at paired
    rw [List.flatMap_cons, InputFile.args, List.append_assoc, List.append_assoc,
      readInputsAfter_options paired.1]
    exact congrArg (f :: ·) (ih paired.2)

namespace Plan

/-- Inputs with their files, where these are known. -/
def files (locations : String → Option String) (inputs : List InputDeclaration) : List InputFile :=
  inputs.map fun d => ⟨d.options, (locations d.mediaId).getD ""⟩

theorem allInputArgs_eq {locations : String → Option String} {inputs : List InputDeclaration}
    (located : ∀ d ∈ inputs, (locations d.mediaId).isSome) :
    allInputArgs locations inputs = .ok ((files locations inputs).flatMap InputFile.args) := by
  induction inputs with
  | nil => rfl
  | cons d rest ih =>
    rw [List.forall_mem_cons] at located
    obtain ⟨path, here⟩ := Option.isSome_iff_exists.1 located.1
    have first : files locations (d :: rest) = ⟨d.options, path⟩ :: files locations rest := by
      simp [files, here]
    rw [allInputArgs, inputArgs, here, ih located.2, first]
    rfl

/-- **The inputs of a plan are read off its command line**, if the place of every file is known. -/
theorem readInputs_command {p : Plan} {locations : String → Option String}
    (located : ∀ d ∈ p.inputs, (locations d.mediaId).isSome)
    (paired : ∀ d ∈ p.inputs, Paired d.options) (output binary : String) (progress : Bool) :
    ∃ argv, p.command locations output binary progress = .ok argv ∧
      readInputs argv = files locations p.inputs := by
  have options : ∀ f ∈ files locations p.inputs, Paired f.options := by
    intro f mem
    obtain ⟨d, declared, rfl⟩ := List.mem_map.1 mem
    exact paired d declared
  unfold command
  rw [allInputArgs_eq located]
  refine ⟨_, rfl, ?_⟩
  simp only [List.append_assoc, List.cons_append, List.nil_append, readInputs]
  exact readInputsAfter_files options _

end Plan

end Splice
