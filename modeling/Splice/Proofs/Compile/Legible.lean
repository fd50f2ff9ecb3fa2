import Splice.Proofs.Compile.Parts
import Splice.Proofs.Number.Numeral
import Splice.Proofs.Plan.GraphText

/-!
# The text of every plan can be read back

Nothing in the text of a graph is escaped, so that it can be read back rests on what the compiler
writes into it: fixed words, labels of a stem and a number, the labels of inputs' streams, and
numbers. No mark stands in any of these, whatever the number is: an infinite one and one that is no
number are written in letters.

Main statement: `Compiled.graphText_reads_back`.
-/

namespace Splice

/-! ## Texts without marks -/

theorem not_mem_marks_of_isDigit {c : Char} (digit : c.isDigit) : c ∉ marks := by
  have none : ∀ mark ∈ marks, ¬ mark.isDigit := List.all_iff_forall_prop.1 (by decide)
  exact fun mem => none c mem digit

theorem unmarked_text (x : Float) : Unmarked (Thousandths.text x) := by
  have others : ∀ c ∈ Thousandths.otherChars, c ∉ marks := List.all_iff_forall_prop.1 (by decide)
  exact fun c mem => (Thousandths.mem_text mem).elim not_mem_marks_of_isDigit (others c)

theorem unmarked_int (n : Int) : Unmarked (toString n) := by
  have sign : '-' ∉ marks := by decide
  exact fun c mem => (mem_toString_int mem).elim not_mem_marks_of_isDigit fun same => same ▸ sign

theorem unmarked_nat (n : Nat) : Unmarked (toString n) := unmarked_int n

theorem unmarked_intercalate {separator : String} {parts : List String}
    (between : Unmarked separator) (each : ∀ part ∈ parts, Unmarked part) :
    Unmarked (separator.intercalate parts) := by
  intro c mem
  rcases Text.mem_of_mem_intercalate mem with inside | ⟨part, member, inside⟩
  · exact between c inside
  · exact each part member c inside

theorem unmarked_allocate {stem : String} (h : Unmarked stem) (labels : Labels) :
    Unmarked (labels.allocate stem).1 := h.append (unmarked_nat _)

namespace InputDeclaration

theorem legibleLabel_pad (d : InputDeclaration) (behind : String) (h : LegibleLabel behind) :
    LegibleLabel (toString d.index ++ behind) := by
  intro c mem mark
  rw [String.toList_append, List.mem_append] at mem
  exact mem.elim (fun number => absurd mark (unmarked_int d.index c number)) (h c · mark)

theorem legibleLabel_videoPad (d : InputDeclaration) : LegibleLabel d.videoPad :=
  d.legibleLabel_pad ":v" (by decide)

theorem legibleLabel_audioPad (d : InputDeclaration) : LegibleLabel d.audioPad :=
  d.legibleLabel_pad ":a" (by decide)

end InputDeclaration

namespace Compile

/-! ## The filters of the compiler -/

/-- A filter with a fixed name and texts without marks. -/
theorem legible_filter {name : String} {args : List String} {params : List (String × String)}
    (named : name ≠ "" ∧ Unmarked name) (texts : ∀ option ∈ args, Unmarked option)
    (pairs : ∀ pair ∈ params, Unmarked pair.1 ∧ Unmarked pair.2) :
    Filter.Legible ⟨name, args, params⟩ := ⟨named.1, named.2, texts, pairs⟩

theorem legible_normalizingFilters (settings : RenderSettings) :
    ∀ f ∈ normalizingFilters settings, f.Legible := by
  have width := unmarked_int settings.width
  have height := unmarked_int settings.height
  have rate := unmarked_int settings.frameRate
  simp only [normalizingFilters, List.forall_mem_cons]
  refine ⟨legible_filter (by decide) ?_ (by decide), legible_filter (by decide) ?_ (by decide),
    legible_filter (by decide) (by decide) (by decide), legible_filter (by decide) ?_ (by decide),
    legible_filter (by decide) (by decide) (by decide), by simp⟩
  · simpa using ⟨width, height⟩
  · simp only [List.forall_mem_cons]
    exact ⟨width, height, by decide, by decide, by simp⟩
  · simpa using rate

/-- A join whose name for the engine can be written. -/
def Nameable (join : Join) : Prop := ∀ engineName ∈ join.engineName, Unmarked engineName

theorem nameable_joinBehind (kind : TransitionKind) (before : Row) :
    Nameable (joinBehind kind before) := by
  cases kind <;> intro engineName named <;> cases named <;> decide

theorem nameable_of_resolveJoins {rows : List Row} {joins : List Join}
    (h : resolveJoins rows = .ok joins) : ∀ join ∈ joins, Nameable join := by
  obtain ⟨kinds, -, rfl⟩ := exists_kinds_of_resolveJoins h
  intro join mem
  rw [← List.map_uncurry_zip_eq_zipWith] at mem
  obtain ⟨⟨kind, before⟩, -, rfl⟩ := List.mem_map.1 mem
  exact nameable_joinBehind kind before

theorem legible_joinFilter {join : Join} (h : Nameable join) : (joinFilter join).Legible := by
  unfold joinFilter
  split
  case h_1 engineName named =>
    refine legible_filter (by decide) (by simp) ?_
    simp only [List.forall_mem_cons]
    exact ⟨⟨by decide, h engineName named⟩, ⟨by decide, unmarked_text join.duration⟩,
      ⟨by decide, unmarked_text join.offset⟩, by simp⟩
  case h_2 => exact legible_filter (by decide) (by decide) (by decide)

/-! ## The stages of the compiler -/

/-- A stage with a single filter. -/
theorem legible_stage {s : Stage} {f : Filter} (sole : s.filters = [f]) (h : f.Legible)
    (inputs : ∀ label ∈ s.inputs, LegibleLabel label) (output : Unmarked s.output) :
    s.Legible where
  inputs := inputs
  output := output.legibleLabel
  filled := by simp [sole]
  filters := by simpa [sole] using h

theorem legible_normalize (settings : RenderSettings) (labels : Labels)
    (pairs : List (InputDeclaration × Clip)) :
    ∀ s ∈ (normalize settings labels pairs).1, s.Legible ∧ Unmarked s.output := by
  induction pairs generalizing labels with
  | nil => simp [normalize]
  | cons pair rest ih =>
    obtain ⟨input, clip⟩ := pair
    have fresh : Unmarked (labels.allocate "v").1 := unmarked_allocate (by decide) labels
    rw [normalize_cons]
    refine List.forall_mem_cons.2 ⟨⟨⟨?_, fresh.legibleLabel, ?_, ?_⟩, fresh⟩, ih _⟩
    · simpa [normalizingStage] using input.legibleLabel_videoPad
    · simp [normalizingStage, normalizingFilters]
    · exact legible_normalizingFilters settings

theorem legible_joinStage {join : Join} (h : Nameable join) {previous next output : String}
    (before : Unmarked previous) (behind : Unmarked next) (fresh : Unmarked output)
    (entryIds : List String) : (joinStage join previous next output entryIds).Legible := by
  refine legible_stage rfl (legible_joinFilter h) ?_ fresh
  simpa [joinStage] using ⟨before.legibleLabel, behind.legibleLabel⟩

theorem legible_joinAll (labels : Labels) {previous : String} (before : String)
    {pairs : List (Join × Normalized)} (start : Unmarked previous)
    (joins : ∀ pair ∈ pairs, Nameable pair.1) (clips : ∀ pair ∈ pairs, Unmarked pair.2.label) :
    ∀ s ∈ (joinAll labels previous before pairs).1, s.Legible := by
  induction pairs generalizing labels previous before with
  | nil => simp [joinAll]
  | cons pair rest ih =>
    obtain ⟨join, clip⟩ := pair
    rw [List.forall_mem_cons] at joins clips
    -- The last join writes the label of the finished picture, every other one a fresh label.
    cases rest with
    | nil =>
      have last := legible_joinStage joins.1 start clips.1
        (show Unmarked Labels.video by decide) [before, clip.entryId]
      simpa [joinAll] using last
    | cons next rest =>
      have stem : Unmarked (joinStem join) := by
        unfold joinStem
        split <;> decide
      have fresh := unmarked_allocate stem labels
      rw [joinAll_cons_cons]
      exact List.forall_mem_cons.2 ⟨legible_joinStage joins.1 start clips.1 fresh _,
        ih _ _ fresh joins.2 clips.2⟩

theorem legible_joinClips (labels : Labels) {clips : List Normalized} {joins : List Join}
    (nameable : ∀ join ∈ joins, Nameable join) (unmarked : ∀ clip ∈ clips, Unmarked clip.label) :
    ∀ s ∈ (joinClips labels clips joins).1, s.Legible := by
  match clips with
  | [] => simp [joinClips]
  | [clip] =>
    have copy : Filter.Legible ⟨"copy", [], []⟩ :=
      legible_filter (by decide) (by decide) (by decide)
    have label := (unmarked clip List.mem_cons_self).legibleLabel
    have sole : (soleStage clip).Legible :=
      legible_stage rfl copy (by simpa [soleStage] using label) (show Unmarked Labels.video by decide)
    simpa [joinClips] using sole
  | clip :: next :: rest =>
    rw [List.forall_mem_cons] at unmarked
    refine legible_joinAll labels clip.entryId unmarked.1 (fun pair mem => ?_) fun pair mem => ?_
    · exact nameable pair.1 (List.of_mem_zip mem).1
    · exact unmarked.2 pair.2 (List.of_mem_zip mem).2

theorem legible_volumeStage {input output : String} (source : LegibleLabel input)
    (fresh : Unmarked output) (volume : Float) : (volumeStage input output volume).Legible := by
  have filter : Filter.Legible ⟨"volume", [Thousandths.text volume], []⟩ :=
    legible_filter (by decide) (by simpa using unmarked_text volume) (by decide)
  exact legible_stage rfl filter (by simpa [volumeStage] using source) fresh

theorem legible_mixStage (track : AudioTrack) (sounding : List InputDeclaration)
    (music : InputDeclaration) {output : String} (fresh : Unmarked output) :
    (mixStage track sounding music output).Legible := by
  have weights : Unmarked (" ".intercalate
      (List.replicate sounding.length (Thousandths.text track.videoVolume) ++
        [Thousandths.text track.musicVolume])) := by
    refine unmarked_intercalate (by decide) fun part mem => ?_
    rw [List.mem_append, List.mem_singleton] at mem
    rcases mem with copy | rfl
    · rw [List.eq_of_mem_replicate copy]
      exact unmarked_text _
    · exact unmarked_text _
  refine legible_stage rfl (legible_filter (by decide) (by simp) ?_) ?_ fresh
  · simp only [List.forall_mem_cons]
    exact ⟨⟨by decide, unmarked_nat _⟩, ⟨by decide, by decide⟩, ⟨by decide, weights⟩, by simp⟩
  · intro label mem
    simp only [mixStage, List.mem_append, List.mem_map, List.mem_singleton] at mem
    rcases mem with ⟨d, -, rfl⟩ | rfl
    · exact d.legibleLabel_audioPad
    · exact music.legibleLabel_audioPad

theorem legible_mixAudio (labels : Labels) (track : AudioTrack) (sounding : List InputDeclaration)
    (music : InputDeclaration) : ∀ s ∈ mixAudio labels track sounding music, s.Legible := by
  have first : ∀ {output}, Unmarked output →
      (mixOrMusic track sounding music output).Legible := by
    intro output fresh
    unfold mixOrMusic
    split
    · exact legible_mixStage track sounding music fresh
    · exact legible_volumeStage music.legibleLabel_audioPad fresh track.musicVolume
  have fresh : Unmarked (labels.allocate "a").1 := unmarked_allocate (by decide) labels
  have last : Unmarked Labels.audio := by decide
  rw [mixAudio_eq]
  split
  · simpa using ⟨first fresh, legible_volumeStage fresh.legibleLabel last track.masterVolume⟩
  · simpa using first last

theorem legible_assemble (encoding : Encoding) (settings : RenderSettings) (total : Float)
    (clips : List Clip) {joins : List Join} (nameable : ∀ join ∈ joins, Nameable join)
    (music : Option (AudioTrack × MediaAsset)) :
    ∀ s ∈ (assemble encoding settings total clips joins music).stages, s.Legible := by
  have pictures := legible_normalize settings .start ((clipInputs settings 0 clips).zip clips)
  have normalized : ∀ clip ∈ normalizedClips (normalizing settings clips).1 clips,
      Unmarked clip.label := by
    intro clip mem
    obtain ⟨⟨stage, source⟩, both, rfl⟩ := List.mem_map.1 mem
    exact (pictures stage (List.of_mem_zip both).1).2
  rw [stages_assemble, List.forall_mem_append, List.forall_mem_append]
  refine ⟨⟨fun s mem => (pictures s mem).1, legible_joinClips _ nameable normalized⟩, ?_⟩
  cases music with
  | none => simp [mixing]
  | some both => exact legible_mixAudio _ both.1 _ _

/-! ## Plans of the compiler -/

/-- The plans that the compiler gives, for a timeline or for a list of entries. -/
inductive Compiled (plan : Plan) : Prop
  | ofTimeline {encoding : Encoding} {t : Timeline} {assets : AssetTable}
      {track : Option AudioTrack} {settings : RenderSettings}
      (h : compile encoding t assets track settings = .ok plan)
  | ofEntries {encoding : Encoding} {entries : List Entry} {assets : AssetTable}
      {track : Option AudioTrack} {settings : RenderSettings}
      (h : compileEntries encoding entries assets track settings = .ok plan)

theorem Compiled.exists_timeline {plan : Plan} (h : Compiled plan) :
    ∃ encoding t assets track settings, compile encoding t assets track settings = .ok plan := by
  cases h with
  | ofTimeline h => exact ⟨_, _, _, _, _, h⟩
  | ofEntries h => exact ⟨_, _, _, _, _, compile_of_compileEntries h⟩

theorem Compiled.legible {plan : Plan} (h : Compiled plan) :
    plan.stages ≠ [] ∧ ∀ s ∈ plan.stages, s.Legible := by
  obtain ⟨encoding, t, assets, track, settings, h⟩ := h.exists_timeline
  obtain ⟨clips, music, joins, filled, visuals, -, resolved, rfl⟩ := exists_parts_of_compile h
  refine ⟨?_, legible_assemble _ _ _ _ (nameable_of_resolveJoins resolved) _⟩
  have some : clips ≠ [] := by
    rintro rfl
    exact filled (map_row_of_findVisuals visuals).1.symm
  rw [stages_assemble, ← List.length_pos_iff, List.length_append, List.length_append,
    length_normalizing]
  exact Nat.add_pos_left (Nat.add_pos_left (List.length_pos_iff.2 some) _) _

/-- **The text of every plan's graph is read back** into the stages of the plan: their inputs and
outputs, and their filters with all arguments and parameters, in order. So plans with the same text
have the same stages, but for what the stages are there for. -/
theorem Compiled.graphText_reads_back {plan : Plan} (h : Compiled plan) :
    readGraph? plan.graphText = some (plan.stages.map Stage.wiring) ∧
      ∀ other, Compiled other → other.graphText = plan.graphText →
        other.stages.map Stage.wiring = plan.stages.map Stage.wiring := by
  have read : ∀ {p : Plan}, Compiled p → readGraph? p.graphText = some (p.stages.map Stage.wiring) :=
    fun compiled => Plan.readGraph?_graphText compiled.legible.1 compiled.legible.2
  refine ⟨read h, fun other compiled same => ?_⟩
  have back := read compiled
  rw [same, read h] at back
  exact (Option.some.inj back).symm

/-- A picture that is shown for ever is faded out of a film. -/
theorem graphText_reads_back_two_clips :
    let entries : List Entry := [⟨"a", "film", 0.5, .known .fade, .real 0.25⟩,
      ⟨"b", "still", Binary64.infinity false, .known .cut, .real 1.0⟩]
    let assets : AssetTable := [("film", ⟨"film", .video, "film.mp4", some 9.0, true⟩),
      ("still", ⟨"still", .image, "still.png", none, false⟩)]
    ∃ plan, compileEntries ⟨.whole 23, "192k"⟩ entries assets none ⟨.mp4, 1280, -720, .fast, 30⟩ =
      .ok plan ∧ readGraph? plan.graphText = some (plan.stages.map Stage.wiring) := by
  intro entries assets
  have admissible : Admissible entries assets true none := by
    refine ⟨by decide, by decide +kernel, by simp [entries], ?_, by simp, ?_⟩
    · simp [entries, assets, Table.get?]
    · have lasting : ¬ (0.25 : Float) ≤ 0 := by decide
      simp [entries, Amount.value, lasting]
  obtain ⟨plan, made⟩ := exists_compileEntries_eq_ok_iff.2 admissible
  exact ⟨plan, made, (Compiled.graphText_reads_back (.ofEntries made)).1⟩

end Compile

end Splice
