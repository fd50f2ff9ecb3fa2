import Mathlib.Data.List.Nodup
import Splice.Proofs.Compile.Acceptance
import Splice.Proofs.Compile.Labels

/-!
# The parts of a plan

What each part of the compiler gives, said once for the statements about whole plans.

* `exists_parts_of_compile` takes a plan apart into the clips, the music and the joins that passed the
  checks, and `exists_passed_of_compile` a plan for the timeline of some entries.
* `exists_kinds_of_resolveJoins` says what the joins are, and `clipInputs_eq` how the inputs are
  numbered.
* `used_normalize`, `exists_fresh_joinClips`, `exists_mixed_mixAudio` and their like say which labels
  the stages of each part give and take, in terms of the labels that were handed out for them.
* `stages_assemble`, `inputs_assemble` put the parts together again.
-/

namespace Splice.Compile

/-! ## What has passed the checks -/

/-- The clips, the music and the joins that the checks give. -/
structure Passed (entries : List Entry) (assets : AssetTable) (track : Option AudioTrack)
    (clips : List Clip) (music : Option (AudioTrack × MediaAsset)) (joins : List Join) : Prop where
  nonempty : entries ≠ []
  visuals : findVisuals assets true (schedule entries) = .ok clips
  found : findMusic? assets track = .ok music
  resolved : resolveJoins (schedule entries) = .ok joins

theorem exists_parts_of_compile {encoding : Encoding} {t : Timeline} {assets : AssetTable}
    {track : Option AudioTrack} {settings : RenderSettings} {plan : Plan}
    (h : compile encoding t assets track settings = .ok plan) :
    ∃ clips music joins, t.rows ≠ [] ∧ findVisuals assets true t.rows = .ok clips ∧
      findMusic? assets track = .ok music ∧ resolveJoins t.rows = .ok joins ∧
      plan = assemble encoding settings t.total clips joins music := by
  unfold compile at h
  split at h
  case isTrue => cases h
  case isFalse filled =>
    obtain ⟨clips, visuals, h⟩ := bind_eq_ok_iff.1 h
    obtain ⟨music, found, h⟩ := bind_eq_ok_iff.1 h
    obtain ⟨joins, resolved, h⟩ := bind_eq_ok_iff.1 h
    cases h
    refine ⟨clips, music, joins, ?_, visuals, found, resolved, rfl⟩
    exact fun none => filled (by rw [none]; rfl)

/-- A list of entries is compiled as the timeline that it makes. -/
theorem compile_of_compileEntries {encoding : Encoding} {entries : List Entry}
    {assets : AssetTable} {track : Option AudioTrack} {settings : RenderSettings} {plan : Plan}
    (h : compileEntries encoding entries assets track settings = .ok plan) :
    compile encoding (Timeline.layOut entries) assets track settings = .ok plan := by
  obtain ⟨t, made, h⟩ := bind_eq_ok_iff.1 h
  obtain ⟨rfl, -⟩ := Timeline.ofEntries_eq_ok_iff.1 made
  exact h

theorem exists_passed_of_compile {encoding : Encoding} {entries : List Entry}
    {assets : AssetTable} {track : Option AudioTrack} {settings : RenderSettings} {plan : Plan}
    (h : compile encoding (.layOut entries) assets track settings = .ok plan) :
    ∃ clips music joins, Passed entries assets track clips music joins ∧
      plan = assemble encoding settings (scheduleEnd (schedule entries)) clips joins music := by
  obtain ⟨clips, music, joins, filled, visuals, found, resolved, same⟩ := exists_parts_of_compile h
  refine ⟨clips, music, joins, ⟨?_, visuals, found, resolved⟩, same⟩
  rintro rfl
  exact filled rfl

theorem exists_passed_of_compileEntries {encoding : Encoding} {entries : List Entry}
    {assets : AssetTable} {track : Option AudioTrack} {settings : RenderSettings} {plan : Plan}
    (h : compileEntries encoding entries assets track settings = .ok plan) :
    ∃ clips music joins, Passed entries assets track clips music joins ∧
      plan = assemble encoding settings (scheduleEnd (schedule entries)) clips joins music :=
  exists_passed_of_compile (compile_of_compileEntries h)

theorem row_of_findVisual {assets : AssetTable} {lengths : Bool} {row : Row} {clip : Clip}
    (h : findVisual assets lengths row = .ok clip) :
    clip.row = row ∧ assets.get? row.entry.mediaId = some clip.asset := by
  unfold findVisual at h
  split at h
  case h_1 => cases h
  case h_2 asset found =>
    split at h
    case isTrue => cases h
    case isFalse =>
      split at h
      case isTrue => cases h
      case isFalse =>
        cases h
        exact ⟨rfl, found⟩

theorem findVisuals_cons (assets : AssetTable) (lengths : Bool) (row : Row) (rest : List Row) :
    findVisuals assets lengths (row :: rest) =
      findVisual assets lengths row >>= fun clip =>
        (findVisuals assets lengths rest).map (clip :: ·) := by
  rw [findVisuals]
  cases findVisual assets lengths row <;> rfl

theorem map_row_of_findVisuals {assets : AssetTable} {lengths : Bool} {rows : List Row}
    {clips : List Clip} (h : findVisuals assets lengths rows = .ok clips) :
    clips.map Clip.row = rows ∧
      ∀ clip ∈ clips, assets.get? clip.row.entry.mediaId = some clip.asset := by
  induction rows generalizing clips with
  | nil =>
    cases h
    simp
  | cons row rest ih =>
    rw [findVisuals_cons] at h
    obtain ⟨clip, first, h⟩ := bind_eq_ok_iff.1 h
    obtain ⟨others, behind, rfl⟩ := map_eq_ok_iff.1 h
    obtain ⟨rows, assigned⟩ := ih behind
    obtain ⟨same, found⟩ := row_of_findVisual first
    refine ⟨by rw [List.map_cons, same, rows], ?_⟩
    rintro other mem
    rcases List.mem_cons.1 mem with rfl | mem
    · rwa [same]
    · exact assigned other mem

section

variable {entries : List Entry} {assets : AssetTable} {track : Option AudioTrack}
  {clips : List Clip} {music : Option (AudioTrack × MediaAsset)} {joins : List Join}

theorem Passed.map_row (passed : Passed entries assets track clips music joins) :
    clips.map Clip.row = schedule entries :=
  (map_row_of_findVisuals passed.visuals).1

theorem Passed.map_entry (passed : Passed entries assets track clips music joins) :
    clips.map (fun clip => clip.row.entry) = entries := by
  rw [← map_entry_schedule entries, ← passed.map_row, List.map_map]
  rfl

end

theorem isSome_of_findMusic? {assets : AssetTable} {track : Option AudioTrack}
    {music : Option (AudioTrack × MediaAsset)} (h : findMusic? assets track = .ok music) :
    music.isSome = track.isSome := by
  cases track with
  | none =>
    cases h
    rfl
  | some track =>
    obtain ⟨asset, -, rfl⟩ := map_eq_ok_iff.1 h
    rfl

theorem get?_of_findMusic {assets : AssetTable} {track : AudioTrack} {asset : MediaAsset}
    (h : findMusic assets track = .ok asset) : assets.get? track.mediaId = some asset := by
  unfold findMusic at h
  split at h
  case h_1 => cases h
  case h_2 found =>
    repeat' split at h
    all_goals cases h
    exact found

/-- The music is that of the track, and is found under its id. -/
theorem get?_of_findMusic? {assets : AssetTable} {track : Option AudioTrack}
    {music : Option (AudioTrack × MediaAsset)} (h : findMusic? assets track = .ok music) :
    ∀ pair ∈ music, track = some pair.1 ∧ assets.get? pair.1.mediaId = some pair.2 := by
  cases track with
  | none =>
    cases h
    exact nofun
  | some track =>
    obtain ⟨asset, found, rfl⟩ := map_eq_ok_iff.1 h
    rintro pair ⟨⟩
    exact ⟨rfl, get?_of_findMusic found⟩

/-- The join that a kind of transition makes behind a row. -/
def joinBehind (kind : TransitionKind) (before : Row) : Join :=
  match kind.engineName? with
  | none => ⟨kind, 0.0, before.stop, none⟩
  | some engineName => ⟨kind, before.entry.transitionDuration.value, before.stop, some engineName⟩

theorem eq_joinBehind_of_resolve {before : Row} {join : Join}
    (h : Join.resolve before.entry.transition (some before.entry.transitionDuration) before.stop =
      .ok join) :
    ∃ kind, before.entry.transition = .known kind ∧ join = joinBehind kind before := by
  unfold Join.resolve at h
  cases asked : before.entry.transition with
  | unknown text => simp [asked] at h
  | known kind =>
    refine ⟨kind, rfl, ?_⟩
    rw [joinBehind]
    cases name : kind.engineName? with
    | none =>
      simp only [asked, name] at h
      cases h
      rfl
    | some engineName =>
      simp only [asked, name] at h
      split at h
      case isTrue => cases h
      case isFalse =>
        cases h
        rfl

/-- Joins that were resolved come from the kinds of the transitions, one behind each row but the
last. -/
theorem exists_kinds_of_resolveJoins {rows : List Row} {joins : List Join}
    (h : resolveJoins rows = .ok joins) :
    ∃ kinds : List TransitionKind,
      rows.dropLast.map (fun row => row.entry.transition) = kinds.map Transition.known ∧
        joins = List.zipWith joinBehind kinds rows := by
  induction rows generalizing joins with
  | nil =>
    cases h
    exact ⟨[], rfl, rfl⟩
  | cons before rest ih =>
    cases rest with
    | nil =>
      cases h
      exact ⟨[], rfl, rfl⟩
    | cons after rest =>
      rw [resolveJoins] at h
      split at h
      case h_1 => cases h
      case h_2 join resolved =>
        obtain ⟨others, behind, rfl⟩ := map_eq_ok_iff.1 h
        obtain ⟨kind, asked, rfl⟩ := eq_joinBehind_of_resolve resolved
        obtain ⟨kinds, transitions, rfl⟩ := ih behind
        refine ⟨kind :: kinds, ?_, rfl⟩
        rw [List.dropLast_cons_cons, List.map_cons, asked, transitions, List.map_cons]

theorem length_of_resolveJoins {rows : List Row} {joins : List Join}
    (h : resolveJoins rows = .ok joins) : joins.length = rows.length - 1 := by
  obtain ⟨kinds, transitions, rfl⟩ := exists_kinds_of_resolveJoins h
  have lengths := congrArg List.length transitions
  rw [List.length_map, List.length_map, List.length_dropLast] at lengths
  rw [List.length_zipWith]
  omega

/-! ## Inputs -/

/-- The input of a clip with a number. -/
def clipInput (settings : RenderSettings) (index : Nat) (clip : Clip) : InputDeclaration where
  index := index
  mediaId := clip.asset.id
  kind := clip.asset.kind
  entryId := some clip.row.entry.id
  options := readingOptions settings clip

theorem clipInputs_cons (settings : RenderSettings) (index : Nat) (clip : Clip)
    (rest : List Clip) :
    clipInputs settings index (clip :: rest) =
      clipInput settings index clip :: clipInputs settings (index + 1) rest := rfl

theorem clipInputs_eq (settings : RenderSettings) (index : Nat) (clips : List Clip) :
    clipInputs settings index clips =
      (clips.zipIdx index).map fun (clip, i) => clipInput settings i clip := by
  induction clips generalizing index with
  | nil => rfl
  | cons clip rest ih => rw [clipInputs_cons, ih, List.zipIdx_cons, List.map_cons]

theorem zip_clipInputs (settings : RenderSettings) (index : Nat) (clips : List Clip) :
    (clipInputs settings index clips).zip clips =
      (clips.zipIdx index).map fun (clip, i) => (clipInput settings i clip, clip) := by
  induction clips generalizing index with
  | nil => rfl
  | cons clip rest ih =>
    rw [clipInputs_cons, List.zip_cons_cons, ih, List.zipIdx_cons, List.map_cons]

/-! ## The labels of the picture's stages -/

theorem normalize_cons (settings : RenderSettings) (labels : Labels) (input : InputDeclaration)
    (clip : Clip) (rest : List (InputDeclaration × Clip)) :
    normalize settings labels ((input, clip) :: rest) =
      let fresh := labels.allocate "v"
      let later := normalize settings fresh.2 rest
      (normalizingStage settings input clip fresh.1 :: later.1, later.2) := rfl

theorem length_normalize (settings : RenderSettings) (labels : Labels)
    (pairs : List (InputDeclaration × Clip)) :
    (normalize settings labels pairs).1.length = pairs.length := by
  induction pairs generalizing labels with
  | nil => rfl
  | cons pair rest ih => rw [normalize, List.length_cons, ih, List.length_cons]

theorem flatMap_inputs_normalize (settings : RenderSettings) (labels : Labels)
    (pairs : List (InputDeclaration × Clip)) :
    (normalize settings labels pairs).1.flatMap Stage.inputs = pairs.map (·.1.videoPad) := by
  induction pairs generalizing labels with
  | nil => rfl
  | cons pair rest ih => rw [normalize, List.flatMap_cons, ih]; rfl

theorem used_normalize (settings : RenderSettings) (labels : Labels)
    (pairs : List (InputDeclaration × Clip)) :
    (normalize settings labels pairs).2.used =
      ((normalize settings labels pairs).1.map Stage.output).reverse ++ labels.used := by
  induction pairs generalizing labels with
  | nil => rfl
  | cons pair rest ih =>
    rw [normalize, ih, Labels.allocate_used, List.map_cons, List.reverse_cons, List.append_assoc]
    rfl

theorem sound_normalize (settings : RenderSettings) {labels : Labels} (h : labels.Sound)
    (pairs : List (InputDeclaration × Clip)) : (normalize settings labels pairs).2.Sound := by
  induction pairs generalizing labels with
  | nil => exact h
  | cons pair rest ih => exact ih (h.allocate (by decide))

/-- The stem of the labels for the stage of a join. -/
def joinStem (join : Join) : String := if join.isBlend then "x" else "c"

theorem plain_joinStem (join : Join) : Labels.Plain (joinStem join) := by
  unfold joinStem
  split <;> decide

theorem joinAll_cons_cons (labels : Labels) (previous before : String) (join : Join)
    (clip : Normalized) (next : Join × Normalized) (rest : List (Join × Normalized)) :
    joinAll labels previous before ((join, clip) :: next :: rest) =
      let fresh := labels.allocate (joinStem join)
      let later := joinAll fresh.2 fresh.1 clip.entryId (next :: rest)
      (joinStage join previous clip.label fresh.1 [before, clip.entryId] :: later.1, later.2) := rfl

/-- The labels that a chain of joins gives and takes: `fresh` are those between two joins. -/
theorem exists_fresh_joinAll (labels : Labels) (previous before : String)
    {pairs : List (Join × Normalized)} (filled : pairs ≠ []) :
    ∃ fresh, (joinAll labels previous before pairs).1.map Stage.output = fresh ++ [Labels.video] ∧
      ((joinAll labels previous before pairs).1.flatMap Stage.inputs).Perm
        (previous :: pairs.map (·.2.label) ++ fresh) ∧
      (joinAll labels previous before pairs).2.used = fresh.reverse ++ labels.used := by
  induction pairs generalizing labels previous before with
  | nil => exact absurd rfl filled
  | cons pair rest ih =>
    obtain ⟨join, clip⟩ := pair
    cases rest with
    | nil => exact ⟨[], rfl, .refl _, rfl⟩
    | cons next rest =>
      obtain ⟨fresh, outputs, inputs, used⟩ := ih (labels.allocate (joinStem join)).2
        (labels.allocate (joinStem join)).1 clip.entryId (by simp)
      rw [joinAll_cons_cons]
      refine ⟨(labels.allocate (joinStem join)).1 :: fresh, ?_, ?_, ?_⟩
      · exact congrArg ((labels.allocate (joinStem join)).1 :: ·) outputs
      · refine (inputs.append_left [previous, clip.label]).trans ?_
        exact ((List.perm_middle.symm).cons clip.label).cons previous
      · rw [used, Labels.allocate_used, List.reverse_cons, List.append_assoc]
        rfl

theorem sound_joinAll {labels : Labels} (h : labels.Sound) (previous before : String)
    (pairs : List (Join × Normalized)) : (joinAll labels previous before pairs).2.Sound := by
  induction pairs generalizing labels previous before with
  | nil => exact h
  | cons pair rest ih =>
    cases rest with
    | nil => exact h
    | cons next rest => exact ih (h.allocate (plain_joinStem pair.1)) _ _

theorem joinClips_cons_cons (labels : Labels) (clip next : Normalized) (rest : List Normalized)
    (joins : List Join) :
    joinClips labels (clip :: next :: rest) joins =
      joinAll labels clip.label clip.entryId (joins.zip (next :: rest)) := rfl

theorem exists_fresh_joinClips (labels : Labels) {clips : List Normalized} {joins : List Join}
    (filled : clips ≠ []) (enough : joins.length = clips.length - 1) :
    ∃ fresh, (joinClips labels clips joins).1.map Stage.output = fresh ++ [Labels.video] ∧
      ((joinClips labels clips joins).1.flatMap Stage.inputs).Perm
        (clips.map Normalized.label ++ fresh) ∧
      (joinClips labels clips joins).2.used = fresh.reverse ++ labels.used := by
  cases clips with
  | nil => exact absurd rfl filled
  | cons clip rest =>
    cases rest with
    | nil => exact ⟨[], rfl, .refl _, rfl⟩
    | cons next rest =>
      have pairs : (joins.zip (next :: rest)).map (·.2.label) =
          (next :: rest).map Normalized.label := by
        have lengths : (next :: rest).length ≤ joins.length := by
          simp only [enough, List.length_cons]
          omega
        have seconds := List.map_snd_zip lengths
        conv_rhs => rw [← seconds, List.map_map]
        rfl
      have nonempty : joins.zip (next :: rest) ≠ [] := by
        intro none
        rw [none] at pairs
        cases pairs
      obtain ⟨fresh, outputs, inputs, used⟩ :=
        exists_fresh_joinAll labels clip.label clip.entryId nonempty
      rw [pairs] at inputs
      exact ⟨fresh, outputs, inputs, used⟩

theorem sound_joinClips {labels : Labels} (h : labels.Sound) (clips : List Normalized)
    (joins : List Join) : (joinClips labels clips joins).2.Sound := by
  match clips with
  | [] => exact h
  | [_] => exact h
  | clip :: next :: rest => exact sound_joinAll h clip.label clip.entryId _

/-! ## The labels of the sound's stages -/

/-- The sounds that are mixed: those of the clips, if they are asked for, and the music. -/
def mixedPads (track : AudioTrack) (sounding : List InputDeclaration) (music : InputDeclaration) :
    List String :=
  (if track.mixMode = .mix then sounding.map InputDeclaration.audioPad else []) ++ [music.audioPad]

/-- The stage that mixes the sounds, or sets the volume of the music where it stands alone. -/
def mixOrMusic (track : AudioTrack) (sounding : List InputDeclaration) (music : InputDeclaration)
    (output : String) : Stage :=
  if track.mixMode = .mix ∧ !sounding.isEmpty then mixStage track sounding music output
  else volumeStage music.audioPad output track.musicVolume

theorem inputs_mixOrMusic (track : AudioTrack) (sounding : List InputDeclaration)
    (music : InputDeclaration) (output : String) :
    (mixOrMusic track sounding music output).inputs = mixedPads track sounding music := by
  unfold mixOrMusic mixedPads
  cases track.mixMode with
  | replace => rfl
  | mix => cases sounding <;> rfl

theorem output_mixOrMusic (track : AudioTrack) (sounding : List InputDeclaration)
    (music : InputDeclaration) (output : String) :
    (mixOrMusic track sounding music output).output = output := by
  unfold mixOrMusic
  split <;> rfl

/-- The stages of the sound: without a master volume one, with it a second behind the first. -/
theorem mixAudio_eq (labels : Labels) (track : AudioTrack) (sounding : List InputDeclaration)
    (music : InputDeclaration) :
    mixAudio labels track sounding music =
      if track.masterVolume != 1.0 then
        [mixOrMusic track sounding music (labels.allocate "a").1,
          volumeStage (labels.allocate "a").1 Labels.audio track.masterVolume]
      else [mixOrMusic track sounding music Labels.audio] := by
  unfold mixAudio
  cases track.masterVolume != 1.0 <;> rfl

/-- The labels that the stages of the sound give and take: `mixed` is the one between the two
stages, if there are two. -/
theorem exists_mixed_mixAudio {labels : Labels} (h : labels.Sound) (track : AudioTrack)
    (sounding : List InputDeclaration) (music : InputDeclaration) :
    ∃ mixed, (mixAudio labels track sounding music).map Stage.output = mixed ++ [Labels.audio] ∧
      (mixAudio labels track sounding music).flatMap Stage.inputs =
        mixedPads track sounding music ++ mixed ∧
      Labels.Sound ⟨mixed ++ labels.used, []⟩ := by
  rw [mixAudio_eq]
  split
  · have later := h.allocate (show Labels.Plain "a" by decide)
    refine ⟨[(labels.allocate "a").1], ?_, ?_, later.nodup, later.plain⟩
    · rw [List.map_cons, output_mixOrMusic]
      rfl
    · rw [List.flatMap_cons, inputs_mixOrMusic]
      rfl
  · refine ⟨[], ?_, ?_, h.nodup, h.plain⟩
    · rw [List.map_singleton, output_mixOrMusic]
      rfl
    · rw [List.flatMap_singleton, inputs_mixOrMusic, List.append_nil]

/-! ## The whole plan -/

/-- The normalized clips: the labels of the stages with the ids of the entries. -/
def normalizedClips (stages : List Stage) (clips : List Clip) : List Normalized :=
  (stages.zip clips).map fun (stage, clip) => ⟨stage.output, clip.row.entry.id⟩

theorem map_label_normalizedClips {stages : List Stage} {clips : List Clip}
    (same : stages.length = clips.length) :
    (normalizedClips stages clips).map Normalized.label = stages.map Stage.output := by
  have firsts := List.map_fst_zip same.le
  conv_rhs => rw [← firsts, List.map_map]
  rw [normalizedClips, List.map_map]
  rfl

/-- The stages that normalize the clips, and the labels after them. -/
def normalizing (settings : RenderSettings) (clips : List Clip) : List Stage × Labels :=
  normalize settings .start ((clipInputs settings 0 clips).zip clips)

/-- The stages that join the clips, and the labels after them. -/
def joining (settings : RenderSettings) (clips : List Clip) (joins : List Join) :
    List Stage × Labels :=
  joinClips (normalizing settings clips).2
    (normalizedClips (normalizing settings clips).1 clips) joins

/-- The stages of the sound, if there is music. -/
def mixing (settings : RenderSettings) (clips : List Clip) (joins : List Join)
    (music : Option (AudioTrack × MediaAsset)) : List Stage :=
  match music with
  | none => []
  | some (track, asset) =>
    mixAudio (joining settings clips joins).2 track
      (soundingInputs ((clipInputs settings 0 clips).zip clips)) (musicInput clips.length asset)

/-- The input of the music, if there is music. -/
def musicInputs (index : Nat) (music : Option (AudioTrack × MediaAsset)) : List InputDeclaration :=
  music.toList.map fun (_, asset) => musicInput index asset

section Assembled

variable (encoding : Encoding) (settings : RenderSettings) (total : Float) (clips : List Clip)
  (joins : List Join) (music : Option (AudioTrack × MediaAsset))

theorem stages_assemble :
    (assemble encoding settings total clips joins music).stages =
      (normalizing settings clips).1 ++ (joining settings clips joins).1 ++
        mixing settings clips joins music := by
  cases music <;> rfl

theorem inputs_assemble :
    (assemble encoding settings total clips joins music).inputs =
      clipInputs settings 0 clips ++ musicInputs clips.length music := by
  cases music <;> rfl

theorem length_normalizing : (normalizing settings clips).1.length = clips.length := by
  rw [normalizing, length_normalize, zip_clipInputs, List.length_map, List.length_zipIdx]

end Assembled

end Splice.Compile
