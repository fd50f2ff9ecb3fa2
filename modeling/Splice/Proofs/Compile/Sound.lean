import Splice.Proofs.Compile.Legible
import Splice.Proofs.Compile.Wiring

/-!
# The sound of a plan

What a plan does with the sound of the clips and the music. The clips with a voice are the videos
with sound of their own; with the music they are mixed, or the music stands alone. `Sounds` says
what the stages must be for that, in terms of nothing but the plan, and `compile_sounds` that every
plan with music is such a plan.

* `soundingInputs_eq_voiced` finds the compiler's choice of inputs again from the plan's inputs and
  the rows of the timeline.
* `stagesOf_audioMix_assemble` finds the one stage that may mix, and `not_mem_of_alone` says that
  the sounds of the clips occur nowhere when the music stands alone.
* `readOptions_encodeArgs` reads the options of the encoder back from its arguments.
-/

namespace Splice.Compile

/-! ## The clips with a voice -/

/-- Whether an asset is a video with sound of its own. -/
def hasVoice (asset : MediaAsset) : Bool := asset.kind == .video && asset.hasAudio

/-- Those of the inputs whose rows show a video with sound of its own, in the order of the rows. -/
def voiced (assets : AssetTable) (inputs : List InputDeclaration) (rows : List Row) :
    List InputDeclaration :=
  ((inputs.zip rows).filter fun (_, row) => (assets.get? row.entry.mediaId).any hasVoice).map
    Prod.fst

theorem soundingInputs_eq_voiced {assets : AssetTable} (settings : RenderSettings) (index : Nat)
    {clips : List Clip}
    (found : ∀ clip ∈ clips, assets.get? clip.row.entry.mediaId = some clip.asset) :
    soundingInputs ((clipInputs settings index clips).zip clips) =
      voiced assets (clipInputs settings index clips) (clips.map Clip.row) := by
  induction clips generalizing index with
  | nil => rfl
  | cons clip rest ih =>
    rw [List.forall_mem_cons] at found
    have behind := ih (index + 1) found.2
    have same : ((clipInput settings index clip).kind == .video && clip.asset.hasAudio) =
        (assets.get? clip.row.entry.mediaId).any hasVoice := by
      rw [found.1]
      rfl
    unfold soundingInputs voiced at behind ⊢
    simp only [clipInputs_cons, List.zip_cons_cons, List.map_cons, List.filter_cons, same]
    split
    · rw [List.map_cons, List.map_cons, behind]
    · exact behind

/-! ## The stages of the picture -/

section Picture

variable {settings : RenderSettings} {clips : List Clip} {joins : List Join}

/-- The stages of the picture. -/
def pictureStages (settings : RenderSettings) (clips : List Clip) (joins : List Join) :
    List Stage :=
  (normalizing settings clips).1 ++ (joining settings clips joins).1

theorem kind_of_mem_normalize {labels : Labels} {pairs : List (InputDeclaration × Clip)}
    {stage : Stage} (mem : stage ∈ (normalize settings labels pairs).1) :
    stage.kind = .normalize := by
  induction pairs generalizing labels with
  | nil => cases mem
  | cons pair rest ih =>
    rw [normalize_cons] at mem
    rcases List.mem_cons.1 mem with rfl | behind
    · rfl
    · exact ih behind

theorem kind_of_mem_joinAll {labels : Labels} {previous before : String}
    {pairs : List (Join × Normalized)} {stage : Stage}
    (mem : stage ∈ (joinAll labels previous before pairs).1) :
    stage.kind = .transition ∨ stage.kind = .concat := by
  have either : ∀ (join : Join) (a b c : String) (ids : List String),
      (joinStage join a b c ids).kind = .transition ∨ (joinStage join a b c ids).kind = .concat := by
    intro join a b c ids
    cases blend : join.isBlend <;> simp [joinStage, blend]
  induction pairs generalizing labels previous before with
  | nil => cases mem
  | cons pair rest ih =>
    cases rest with
    | nil =>
      rw [joinAll, List.mem_singleton] at mem
      rw [mem]
      exact either ..
    | cons next rest =>
      rw [joinAll_cons_cons] at mem
      rcases List.mem_cons.1 mem with rfl | behind
      · exact either ..
      · exact ih behind

/-- None of the picture's stages is there for the sound. -/
theorem kind_of_mem_pictureStages {stage : Stage}
    (mem : stage ∈ pictureStages settings clips joins) :
    stage.kind ≠ .audioMix ∧ stage.kind ≠ .audioVolume := by
  have kinds : stage.kind ∈ [.normalize, .passthrough, .transition, .concat] := by
    rcases List.mem_append.1 mem with single | joined
    · simp [kind_of_mem_normalize single]
    · unfold joining joinClips at joined
      split at joined
      · cases joined
      · rw [List.mem_singleton.1 joined]
        simp [soleStage]
      · rcases kind_of_mem_joinAll joined with kind | kind <;> simp [kind]
  constructor <;> intro sound <;> simp [sound] at kinds

end Picture

/-! ## What the stages of the sound must be -/

/-- The filter that mixes so many sounds with weights. -/
def amix (count : Nat) (weights : String) : Filter :=
  ⟨"amix", [], [("inputs", toString count), ("duration", "longest"), ("weights", weights)]⟩

/-- The filter that sets a volume. -/
def volume (level : Float) : Filter := ⟨"volume", [Thousandths.text level], []⟩

/-- What a plan with music does with the sounds: those of the clips with a voice are mixed with the
music in one stage, or the music stands alone; the master volume is set behind that, or not at
all. -/
structure Sounds (plan : Plan) (track : AudioTrack) (clips : List InputDeclaration)
    (voices : List InputDeclaration) (music : InputDeclaration) (picture : List Stage)
    (first : Stage) (mastering : List Stage) : Prop where
  stages : plan.stages = picture ++ first :: mastering
  silent : ∀ stage ∈ picture, stage.kind ≠ .audioMix ∧ stage.kind ≠ .audioVolume
  mixed : track.mixMode = .mix ∧ voices ≠ [] →
    plan.stagesOf .audioMix = [first] ∧
    first.inputs = voices.map InputDeclaration.audioPad ++ [music.audioPad] ∧
    ∃ weights, first.filters = [amix first.inputs.length weights] ∧
      (Text.partsAt ' ' weights).length = first.inputs.length ∧
      Text.partsAt ' ' weights = voices.map (fun _ => Thousandths.text track.videoVolume) ++
        [Thousandths.text track.musicVolume]
  alone : ¬ (track.mixMode = .mix ∧ voices ≠ []) →
    plan.stagesOf .audioMix = [] ∧
    first.kind = .audioVolume ∧ first.inputs = [music.audioPad] ∧
    first.filters = [volume track.musicVolume] ∧
    ∀ clip ∈ clips, clip.audioPad ∉ plan.consumed ∧ clip.audioPad ∉ plan.outputs
  mastered : track.masterVolume != 1.0 → ∃ last, mastering = [last] ∧ last.kind = .audioVolume ∧
    last.inputs = [first.output] ∧ last.output = "aout" ∧
    last.filters = [volume track.masterVolume]
  unmastered : ¬ (track.masterVolume != 1.0) → mastering = [] ∧ first.output = "aout"

/-! ## What they are -/

section Mixing

variable (labels : Labels) (track : AudioTrack) (sounding : List InputDeclaration)
  (music : InputDeclaration)

/-- The label of the sound before the master volume is set. -/
def mixedLabel : String :=
  if track.masterVolume != 1.0 then (labels.allocate "a").1 else Labels.audio

/-- The stages that set the master volume. -/
def masterStages : List Stage :=
  if track.masterVolume != 1.0 then
    [volumeStage (mixedLabel labels track) Labels.audio track.masterVolume]
  else []

theorem mixAudio_eq_cons : mixAudio labels track sounding music =
    mixOrMusic track sounding music (mixedLabel labels track) :: masterStages labels track := by
  rw [mixAudio_eq, masterStages, mixedLabel]
  split <;> rfl

theorem weights_mixStage (output : String) :
    ∃ weights, (mixStage track sounding music output).filters =
        [amix (mixStage track sounding music output).inputs.length weights] ∧
      Text.partsAt ' ' weights = sounding.map (fun _ => Thousandths.text track.videoVolume) ++
        [Thousandths.text track.musicVolume] := by
  have blankless : ∀ x : Float, ' ' ∉ (Thousandths.text x).toList := by
    intro x mem
    rcases Thousandths.mem_text mem with digit | other
    · exact absurd digit (by decide)
    · exact absurd other (by decide)
  refine ⟨" ".intercalate (sounding.map (fun _ => Thousandths.text track.videoVolume) ++
    [Thousandths.text track.musicVolume]), ?_, ?_⟩
  · simp [mixStage, amix, List.map_const']
  · refine Text.partsAt_intercalate rfl (by simp) fun part mem => ?_
    simp only [List.mem_append, List.mem_map, List.mem_singleton] at mem
    rcases mem with ⟨_, -, rfl⟩ | rfl <;> exact blankless _

end Mixing

section Assembled

/-- The first stage of the sound. -/
def firstSound (settings : RenderSettings) (clips : List Clip) (joins : List Join)
    (track : AudioTrack) (asset : MediaAsset) : Stage :=
  mixOrMusic track (soundingInputs ((clipInputs settings 0 clips).zip clips))
    (musicInput clips.length asset) (mixedLabel (joining settings clips joins).2 track)

variable (encoding : Encoding) (settings : RenderSettings) (total : Float) {clips : List Clip}
  {joins : List Join} (track : AudioTrack) (asset : MediaAsset)

/-- The stages of the sound stand behind those of the picture. -/
theorem stages_assemble_some :
    (assemble encoding settings total clips joins (some (track, asset))).stages =
      pictureStages settings clips joins ++ firstSound settings clips joins track asset ::
        masterStages (joining settings clips joins).2 track := by
  rw [stages_assemble, mixing, mixAudio_eq_cons, pictureStages, firstSound]

theorem kind_of_mem_masterStages {labels : Labels} {stage : Stage}
    (mem : stage ∈ masterStages labels track) : stage.kind = .audioVolume := by
  unfold masterStages at mem
  split at mem
  · rw [List.mem_singleton.1 mem]
    rfl
  · cases mem

/-- Of all stages only the first of the sound may mix. -/
theorem stagesOf_audioMix_assemble :
    (assemble encoding settings total clips joins (some (track, asset))).stagesOf .audioMix =
      if (firstSound settings clips joins track asset).kind = .audioMix then
        [firstSound settings clips joins track asset] else [] := by
  have pictures :
      (pictureStages settings clips joins).filter (fun stage => stage.kind == .audioMix) = [] := by
    refine List.filter_eq_nil_iff.2 fun stage mem => ?_
    simp [(kind_of_mem_pictureStages mem).1]
  have masters : (masterStages (joining settings clips joins).2 track).filter
      (fun stage => stage.kind == .audioMix) = [] := by
    refine List.filter_eq_nil_iff.2 fun stage mem => ?_
    simp [kind_of_mem_masterStages track mem]
  rw [Plan.stagesOf, stages_assemble_some, List.filter_append, pictures, List.nil_append,
    List.filter_cons, masters]
  simp only [beq_iff_eq]

variable (filled : clips ≠ []) (enough : joins.length = clips.length - 1)
include filled enough

/-- Where the music stands alone, the sounds of the inputs of clips occur nowhere. -/
theorem not_mem_of_alone
    (alone : takenSounds settings clips (some (track, asset)) =
      [(musicInput clips.length asset).audioPad])
    {clip : InputDeclaration} (mem : clip ∈ clipInputs settings 0 clips) :
    clip.audioPad ∉ (assemble encoding settings total clips joins (some (track, asset))).consumed ∧
      clip.audioPad ∉
        (assemble encoding settings total clips joins (some (track, asset))).outputs := by
  obtain ⟨before, behind, account⟩ :=
    exists_account_assemble encoding settings total (some (track, asset)) filled enough
  have listed := List.mem_map_of_mem (f := InputDeclaration.audioPad) mem
  rw [map_audioPad_clipInputs, List.mem_map] at listed
  obtain ⟨k, inside, pad⟩ := listed
  have music : (musicInput clips.length asset).audioPad = soundPad clips.length :=
    InputDeclaration.audioPad_eq rfl
  have apart : soundPad k ∉ [soundPad clips.length] := by
    rw [List.mem_singleton]
    exact fun same => (List.mem_range.1 inside).ne (soundPad_injective same)
  rw [← pad]
  constructor
  · rw [← List.count_eq_zero, account.count_consumed_soundPad, alone, music, List.count_eq_zero]
    exact apart
  · exact fun given => not_plain_soundPad k (account.plain_of_mem_outputs given)

theorem sounds_assemble {assets : AssetTable}
    (found : ∀ clip ∈ clips, assets.get? clip.row.entry.mediaId = some clip.asset) :
    Sounds (assemble encoding settings total clips joins (some (track, asset))) track
      (clipInputs settings 0 clips)
      (voiced assets (clipInputs settings 0 clips) (clips.map Clip.row))
      (musicInput clips.length asset) (pictureStages settings clips joins)
      (firstSound settings clips joins track asset)
      (masterStages (joining settings clips joins).2 track) := by
  rw [← soundingInputs_eq_voiced settings 0 found]
  have mixes := @stagesOf_audioMix_assemble encoding settings total clips joins track asset
  have output : (firstSound settings clips joins track asset).output =
      mixedLabel (joining settings clips joins).2 track := output_mixOrMusic ..
  refine ⟨stages_assemble_some encoding settings total track asset,
    fun _ => kind_of_mem_pictureStages, fun mixed => ?_, fun alone => ?_, fun master => ?_,
    fun plain => ?_⟩
  · have first : firstSound settings clips joins track asset =
        mixStage track (soundingInputs ((clipInputs settings 0 clips).zip clips))
          (musicInput clips.length asset) (mixedLabel (joining settings clips joins).2 track) := by
      rw [firstSound, mixOrMusic, if_pos]
      simpa using mixed
    obtain ⟨weights, filters, parts⟩ := weights_mixStage track
      (soundingInputs ((clipInputs settings 0 clips).zip clips)) (musicInput clips.length asset)
      (mixedLabel (joining settings clips joins).2 track)
    rw [mixes, first]
    refine ⟨rfl, rfl, weights, filters, ?_, parts⟩
    rw [parts]
    simp [mixStage]
  · have first : firstSound settings clips joins track asset =
        volumeStage (musicInput clips.length asset).audioPad
          (mixedLabel (joining settings clips joins).2 track) track.musicVolume := by
      rw [firstSound, mixOrMusic, if_neg]
      simpa using alone
    have sole : (firstSound settings clips joins track asset).inputs =
        [(musicInput clips.length asset).audioPad] := by
      rw [first]
      rfl
    have nowhere := fun clip (mem : clip ∈ clipInputs settings 0 clips) =>
      not_mem_of_alone encoding settings total track asset filled enough
        ((inputs_mixOrMusic ..).symm.trans sole) mem
    refine ⟨?_, ?_, sole, ?_, nowhere⟩
    · rw [mixes, first]
      rfl
    · rw [first]
      rfl
    · rw [first]
      rfl
  · refine ⟨_, if_pos master, rfl, ?_, rfl, rfl⟩
    rw [output]
    rfl
  · refine ⟨if_neg plain, ?_⟩
    rw [output, mixedLabel, if_neg plain]
    rfl

end Assembled

/-! ## The options of the encoder -/

/-- The options of the encoder, read from its arguments: `-an` stands alone, every other option
takes the argument behind it. -/
def readOptions : List String → List (String × Option String)
  | [] => []
  | [name] => [(name, none)]
  | name :: value :: rest =>
    if name = "-an" then (name, none) :: readOptions (value :: rest)
    else (name, some value) :: readOptions rest

/-- The options for the sound. -/
def soundOptions (encoding : Encoding) (settings : RenderSettings) (withAudio : Bool) :
    List (String × Option String) :=
  if withAudio then
    [("-c:a", some (audioCodec settings.format)), ("-b:a", some encoding.audioBitrate)]
  else [("-an", none)]

/-- The options that are for the sound, or for its absence. -/
def soundOptionNames : List String := ["-c:a", "-b:a", "-an"]

/-- Of all options of the encoder, those for the sound stand last, and no other is among them. -/
theorem readOptions_encodeArgs (encoding : Encoding) (settings : RenderSettings)
    (withAudio : Bool) :
    (readOptions (encodeArgs encoding settings withAudio)).filter
        (fun option => soundOptionNames.contains option.1) =
      soundOptions encoding settings withAudio := by
  obtain ⟨format, width, height, preset, frameRate⟩ := settings
  cases format <;> cases preset <;> cases withAudio <;>
    simp [encodeArgs, effortArgs, readOptions, soundOptions, soundOptionNames]

/-! ## The main statement -/

/-- **What every plan does with the sounds.** A plan with music declares the inputs of the entries
and then that of the music, and its stages treat their sounds as `Sounds` says, the voices being
those of the entries whose asset is a video with sound. Of the encoder's options, codec and bit rate
of the sound are given exactly with music, and `-an` exactly without. -/
theorem compile_sounds {encoding : Encoding} {t : Timeline} {assets : AssetTable}
    {track : Option AudioTrack} {settings : RenderSettings} {plan : Plan}
    (h : compile encoding t assets track settings = .ok plan) :
    (∀ playing ∈ track, ∃ clips music picture first mastering,
      plan.inputs = clips ++ [music] ∧
      clips.map InputDeclaration.entryId = t.rows.map (fun row => some row.entry.id) ∧
      Sounds plan playing clips (voiced assets clips t.rows) music picture first mastering) ∧
    (readOptions plan.encodeArgs).filter (fun option => soundOptionNames.contains option.1) =
      soundOptions encoding settings track.isSome := by
  obtain ⟨clips, music, joins, some_, visuals, found, resolved, rfl⟩ := exists_parts_of_compile h
  obtain ⟨rows, assigned⟩ := map_row_of_findVisuals visuals
  refine ⟨?_, ?_⟩
  · intro playing given
    cases given
    have present := isSome_of_findMusic? found
    obtain ⟨⟨playing, asset⟩, rfl⟩ := Option.isSome_iff_exists.1 present
    obtain ⟨same, -⟩ := get?_of_findMusic? found _ rfl
    cases same
    have filled : clips ≠ [] := by
      rintro rfl
      exact some_ rows.symm
    have enough : joins.length = clips.length - 1 := by
      rw [length_of_resolveJoins resolved, ← rows, List.length_map]
    have sounds := sounds_assemble encoding settings t.total playing asset filled enough assigned
    have ids := map_entryId_clipInputs settings clips
    rw [rows] at sounds
    refine ⟨_, _, _, _, _, inputs_assemble .., ?_, sounds⟩
    rw [ids, ← rows, List.map_map]
    rfl
  · have args : (assemble encoding settings t.total clips joins music).encodeArgs =
        encodeArgs encoding settings music.isSome := by
      cases music <;> rfl
    rw [args, readOptions_encodeArgs, isSome_of_findMusic? found]

/-- A film and a picture, with the sound of the film twice: as its own, and as the music. -/
theorem compile_sounds_two_clips :
    let entries : List Entry := [⟨"a", "film", 4.0, .known .cut, .real 1.0⟩,
      ⟨"b", "still", 2.5, .known .cut, .real 1.0⟩]
    let assets : AssetTable := [("film", ⟨"film", .video, "film.mp4", some 9.0, true⟩),
      ("still", ⟨"still", .image, "still.png", none, false⟩)]
    let track : AudioTrack := ⟨"film", .mix, 0.5, 1.0, 1.0⟩
    ∃ plan a b music mix, compile ⟨.whole 23, "192k"⟩ (.layOut entries) assets (some track)
        ⟨.mp4, 1280, 720, .fast, 30⟩ = .ok plan ∧ plan.inputs = [a, b, music] ∧
      plan.stagesOf .audioMix = [mix] ∧ mix.inputs = [a.audioPad, music.audioPad] ∧
      mix.output = "aout" ∧
      (readOptions plan.encodeArgs).filter (fun option => soundOptionNames.contains option.1) =
        [("-c:a", some "aac"), ("-b:a", some "192k")] := by
  intro entries assets track
  have admissible : Admissible entries assets true (some track) := by
    refine ⟨by decide, by decide, by simp [entries], ?_, ?_, by simp [entries, TransitionKind.isBlending]⟩
    · simp [entries, assets, Table.get?]
    · simp [track, assets, Table.get?]
  obtain ⟨plan, made⟩ := exists_compileEntries_eq_ok_iff.2 admissible
  have compiled := compile_of_compileEntries made
  obtain ⟨sounding, options⟩ := compile_sounds compiled
  obtain ⟨clips, music, picture, mix, mastering, inputs, ids, sounds⟩ := sounding track rfl
  have rows : (Timeline.layOut entries).rows.map (fun row => some row.entry.id) =
      [some "a", some "b"] := rfl
  have two : ∃ a b, clips = [a, b] := by
    rw [← List.length_eq_two, ← List.length_map InputDeclaration.entryId, ids, rows]
    rfl
  obtain ⟨a, b, rfl⟩ := two
  have voices : voiced assets [a, b] (Timeline.layOut entries).rows = [a] := by
    simp [voiced, Timeline.layOut, schedule, scheduleFrom, entries, assets, Table.get?, hasVoice]
  rw [voices] at sounds
  obtain ⟨sole, taken, -⟩ := sounds.mixed ⟨rfl, List.cons_ne_nil _ _⟩
  have plain : ¬ (track.masterVolume != 1.0) := by decide
  exact ⟨plan, a, b, music, mix, compiled, inputs, sole, taken, (sounds.unmastered plain).2, options⟩

end Splice.Compile
