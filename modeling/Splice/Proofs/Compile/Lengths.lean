import Splice.Proofs.Compile.Parts
import Splice.Proofs.Number.Numeral

/-!
# The lengths that the engine is given

A plan writes lengths in three places: how long a picture is shown, how long a blend lasts, and when
it begins. `compile_lengths` says which numbers these are, and that the engine is given only lengths
above zero exactly if each of the numbers is finite and above half a thousandth.

The checks of a timeline ask for less. They refuse what is at most zero, so an infinity, what is no
number, and a number that rounds to nothing all pass (`compileEntries_written`,
`compileEntries_three_stills`).
-/

namespace Splice

/-- The option behind a flag. -/
def valueAfter (flag : String) (options : List String) : Option String :=
  ((options.dropWhile (· != flag)).drop 1).head?

/-- The filters that blend two clips. -/
def blendFilters (stages : List Stage) : List Filter :=
  (stages.flatMap Stage.filters).filter fun f => f.name == "xfade"

/-- The texts of the lengths in a plan: of every picture how long it is shown, and of every blend
how long it lasts and when it begins. -/
def Plan.lengthTexts (p : Plan) : List (Option String) :=
  (p.inputs.filter fun d => d.kind == .image).map (fun d => valueAfter "-t" d.options) ++
    (blendFilters p.stages).flatMap fun f => [f.params.lookup "duration", f.params.lookup "offset"]

/-- All lengths in a plan are there, and above zero. -/
def Plan.PositiveLengths (p : Plan) : Prop :=
  ∀ text ∈ p.lengthTexts, ∃ written ∈ text, Numeral.Positive written

namespace Compile

/-! ## The lengths on a timeline -/

/-- Whether a row shows a picture. -/
def showsPicture (assets : AssetTable) (row : Row) : Bool :=
  (assets.get? row.entry.mediaId).any fun asset => asset.kind == .image

/-- Whether the clip of a row is blended into the next. -/
def blends (row : Row) : Bool :=
  match row.entry.transition with
  | .known kind => kind.isBlending
  | .unknown _ => false

/-- How long the blend behind a row lasts, and when it begins. -/
def blendLengths (row : Row) : List Float := [row.entry.transitionDuration.value, row.stop]

/-- How long the pictures on a timeline are shown, and the lengths of the blends between its clips. -/
def lengths (assets : AssetTable) (rows : List Row) : List Float :=
  (rows.filter (showsPicture assets)).map (·.entry.duration) ++
    (rows.dropLast.filter blends).flatMap blendLengths

/-! ## Pictures -/

theorem valueAfter_readingOptions {settings : RenderSettings} {clip : Clip}
    (picture : clip.asset.kind = .image) :
    valueAfter "-t" (readingOptions settings clip) =
      some (Thousandths.text clip.row.entry.duration) := by
  have rate : toString settings.frameRate ≠ "-t" := by
    intro same
    have inside : 't' ∈ (toString settings.frameRate).toList := by rw [same]; decide
    exact absurd (mem_toString_int inside) (by decide)
  rw [readingOptions, if_pos picture]
  generalize toString settings.frameRate = text at rate
  simp [valueAfter, rate]

theorem map_valueAfter_clipInputs {assets : AssetTable} (settings : RenderSettings) (number : Nat)
    {clips : List Clip}
    (found : ∀ clip ∈ clips, assets.get? clip.row.entry.mediaId = some clip.asset) :
    ((clipInputs settings number clips).filter fun d => d.kind == .image).map
        (fun d => valueAfter "-t" d.options) =
      ((clips.map Clip.row).filter (showsPicture assets)).map fun row =>
        some (Thousandths.text row.entry.duration) := by
  induction clips generalizing number with
  | nil => rfl
  | cons clip rest ih =>
    rw [List.forall_mem_cons] at found
    have shows : showsPicture assets clip.row = (clip.asset.kind == .image) := by
      rw [showsPicture, found.1]
      rfl
    rw [clipInputs_cons, List.map_cons, List.filter_cons, List.filter_cons, shows]
    show (if (clip.asset.kind == .image) = true then _ else _ : List InputDeclaration).map _ = _
    split
    case isTrue picture =>
      rw [List.map_cons, List.map_cons, ih (number + 1) found.2]
      exact congrArg (· :: _) (valueAfter_readingOptions (by simpa using picture))
    case isFalse => exact ih (number + 1) found.2

/-- Music is never a picture. -/
theorem filter_musicInputs {assets : AssetTable} {track : Option AudioTrack}
    {music : Option (AudioTrack × MediaAsset)} (h : findMusic? assets track = .ok music)
    (number : Nat) : (musicInputs number music).filter (fun d => d.kind == .image) = [] := by
  cases track with
  | none =>
    cases h
    rfl
  | some track =>
    rw [findMusic?, findMusic] at h
    split at h
    case h_1 => cases h
    case h_2 asset found =>
      split at h
      case isTrue => cases h
      case isFalse sound =>
        split at h
        case isTrue => cases h
        case isFalse =>
          cases h
          simpa [musicInputs, musicInput] using sound

/-! ## Blends -/

theorem blendFilters_append (stages later : List Stage) :
    blendFilters (stages ++ later) = blendFilters stages ++ blendFilters later := by
  rw [blendFilters, List.flatMap_append, List.filter_append]
  rfl

theorem blendFilters_cons (s : Stage) (rest : List Stage) :
    blendFilters (s :: rest) = (s.filters.filter fun f => f.name == "xfade") ++ blendFilters rest :=
  blendFilters_append [s] rest |>.trans (by simp [blendFilters])

theorem blendFilters_normalize (settings : RenderSettings) (labels : Labels)
    (pairs : List (InputDeclaration × Clip)) :
    blendFilters (normalize settings labels pairs).1 = [] := by
  induction pairs generalizing labels with
  | nil => rfl
  | cons pair rest ih =>
    rw [normalize_cons, blendFilters_cons, ih]
    rfl

theorem blendFilters_joinStage {later : List Stage} {joins : List Join}
    (rest : blendFilters later = (joins.filter Join.isBlend).map joinFilter) (join : Join)
    (previous next output : String) (entryIds : List String) :
    blendFilters (joinStage join previous next output entryIds :: later) =
      ((join :: joins).filter Join.isBlend).map joinFilter := by
  rw [blendFilters_cons, rest]
  cases named : join.engineName <;> simp [joinStage, joinFilter, Join.isBlend, named]

theorem blendFilters_joinAll (labels : Labels) (previous before : String)
    (pairs : List (Join × Normalized)) :
    blendFilters (joinAll labels previous before pairs).1 =
      ((pairs.map Prod.fst).filter Join.isBlend).map joinFilter := by
  induction pairs generalizing labels previous before with
  | nil => rfl
  | cons pair rest ih =>
    cases rest with
    | nil => exact blendFilters_joinStage rfl pair.1 _ _ _ _
    | cons next rest => exact blendFilters_joinStage (ih _ _ _) pair.1 _ _ _ _

theorem blendFilters_joinClips (labels : Labels) {clips : List Normalized} {joins : List Join}
    (enough : joins.length = clips.length - 1) :
    blendFilters (joinClips labels clips joins).1 = (joins.filter Join.isBlend).map joinFilter := by
  match clips with
  | [] =>
    rw [List.length_eq_zero_iff.1 enough]
    rfl
  | [clip] =>
    rw [List.length_eq_zero_iff.1 enough]
    rfl
  | clip :: next :: rest =>
    have all : (joins.zip (next :: rest)).map Prod.fst = joins :=
      List.map_fst_zip (by simp [enough])
    rw [joinClips_cons_cons, blendFilters_joinAll, all]

theorem blendFilters_mixing (settings : RenderSettings) (clips : List Clip) (joins : List Join)
    (music : Option (AudioTrack × MediaAsset)) :
    blendFilters (mixing settings clips joins music) = [] := by
  cases music with
  | none => rfl
  | some both =>
    have first : ∀ sounding input output,
        (mixOrMusic both.1 sounding input output).filters.filter (fun f => f.name == "xfade") =
          [] := by
      intro sounding input output
      unfold mixOrMusic
      split <;> rfl
    show blendFilters (mixAudio _ _ _ _) = []
    rw [mixAudio_eq]
    split <;> rw [blendFilters_cons, first] <;> rfl

/-- The lengths that the filter of a join writes. -/
def joinTexts (join : Join) : List (Option String) :=
  [(joinFilter join).params.lookup "duration", (joinFilter join).params.lookup "offset"]

theorem joinTexts_joinBehind {kind : TransitionKind} (blending : kind.isBlending)
    (before : Row) :
    joinTexts (joinBehind kind before) =
      (blendLengths before).map fun x => some (Thousandths.text x) := by
  cases kind with
  | cut => exact absurd blending (by decide)
  | crossfade | fade | slideLeft | slideRight | wipe => rfl

theorem isBlend_joinBehind (kind : TransitionKind) (before : Row) :
    (joinBehind kind before).isBlend = kind.isBlending := by
  cases kind <;> rfl

theorem flatMap_joinTexts {kinds : List TransitionKind} {rows : List Row}
    (transitions : rows.dropLast.map (fun row => row.entry.transition) =
      kinds.map Transition.known) :
    ((List.zipWith joinBehind kinds rows).filter Join.isBlend).flatMap joinTexts =
      ((rows.dropLast.filter blends).flatMap blendLengths).map fun x =>
        some (Thousandths.text x) := by
  induction rows generalizing kinds with
  | nil => rw [List.zipWith_nil_right]; rfl
  | cons before rest ih =>
    cases rest with
    | nil =>
      obtain rfl : kinds = [] := List.map_eq_nil_iff.1 transitions.symm
      rfl
    | cons after rest =>
      cases kinds with
      | nil => cases transitions
      | cons kind kinds =>
        rw [List.dropLast_cons_cons, List.map_cons, List.map_cons, List.cons.injEq] at transitions
        have same : blends before = kind.isBlending := by rw [blends, transitions.1]
        rw [List.zipWith_cons_cons, List.dropLast_cons_cons, List.filter_cons, List.filter_cons,
          isBlend_joinBehind, same]
        split
        case isTrue blending =>
          rw [List.flatMap_cons, List.flatMap_cons, List.map_append, ih transitions.2,
            joinTexts_joinBehind blending]
        case isFalse => exact ih transitions.2

/-! ## Plans of the compiler -/

theorem lengthTexts_assemble (encoding : Encoding) (settings : RenderSettings) (total : Float)
    {assets : AssetTable} {track : Option AudioTrack} {rows : List Row} {clips : List Clip}
    {music : Option (AudioTrack × MediaAsset)} {joins : List Join}
    (visuals : findVisuals assets true rows = .ok clips)
    (found : findMusic? assets track = .ok music) (resolved : resolveJoins rows = .ok joins) :
    (assemble encoding settings total clips joins music).lengthTexts =
      (lengths assets rows).map fun x => some (Thousandths.text x) := by
  obtain ⟨same, assigned⟩ := map_row_of_findVisuals visuals
  obtain ⟨kinds, transitions, rfl⟩ := exists_kinds_of_resolveJoins resolved
  have enough : (List.zipWith joinBehind kinds rows).length =
      (normalizedClips (normalizing settings clips).1 clips).length - 1 := by
    rw [length_of_resolveJoins resolved, normalizedClips, List.length_map, List.length_zip,
      length_normalizing, Nat.min_self, ← same, List.length_map]
  have pictures := map_valueAfter_clipInputs settings 0 assigned
  rw [same] at pictures
  have joined : blendFilters (joining settings clips (List.zipWith joinBehind kinds rows)).1 = _ :=
    blendFilters_joinClips _ enough
  rw [Plan.lengthTexts, inputs_assemble, stages_assemble, List.filter_append,
    filter_musicInputs found, List.append_nil, pictures, blendFilters_append, blendFilters_append,
    normalizing, blendFilters_normalize, List.nil_append, joined, blendFilters_mixing,
    List.append_nil, List.flatMap_map, lengths, List.map_append, List.map_map]
  exact congrArg (_ ++ ·) (flatMap_joinTexts transitions)

theorem lengthTexts_of_compile {encoding : Encoding} {t : Timeline} {assets : AssetTable}
    {track : Option AudioTrack} {settings : RenderSettings} {plan : Plan}
    (h : compile encoding t assets track settings = .ok plan) :
    plan.lengthTexts = (lengths assets t.rows).map fun x => some (Thousandths.text x) := by
  obtain ⟨clips, music, joins, -, visuals, found, resolved, rfl⟩ := exists_parts_of_compile h
  exact lengthTexts_assemble encoding settings t.total visuals found resolved

/-- **The lengths that a plan writes** are the texts of those on its timeline, and they are all
above zero exactly if each of the numbers is finite and above half a thousandth. -/
theorem compile_lengths {encoding : Encoding} {t : Timeline} {assets : AssetTable}
    {track : Option AudioTrack} {settings : RenderSettings} {plan : Plan}
    (h : compile encoding t assets track settings = .ok plan) :
    plan.lengthTexts = (lengths assets t.rows).map (fun x => some (Thousandths.text x)) ∧
      (plan.PositiveLengths ↔
        ∀ x ∈ lengths assets t.rows, ∃ v ∈ Binary64.value? x, 1 / 2000 < v) := by
  have texts := lengthTexts_of_compile h
  refine ⟨texts, ?_⟩
  rw [Plan.PositiveLengths, texts, List.forall_mem_map]
  refine forall₂_congr fun x _ => ?_
  simp only [Option.mem_def, Option.some.injEq, exists_eq_left']
  exact Thousandths.positive_text_iff

/-- A picture is faded into another one. -/
theorem compile_lengths_two_stills :
    let entries : List Entry := [⟨"a", "still", 2.5, .known .fade, .real 0.5⟩,
      ⟨"b", "still", 3.0, .known .cut, .real 1.0⟩]
    let assets : AssetTable := [("still", ⟨"still", .image, "still.png", none, false⟩)]
    ∃ plan, compile ⟨.whole 23, "192k"⟩ (.layOut entries) assets none
      ⟨.mp4, 1280, 720, .fast, 30⟩ = .ok plan ∧ plan.PositiveLengths := by
  intro entries assets
  have admissible : Admissible entries assets true none := by
    refine ⟨by decide, by decide +kernel, by simp [entries], ?_, by simp, ?_⟩
    · simp [entries, assets, Table.get?]
    · have lasting : ¬ (0.5 : Float) ≤ 0 := by decide
      simp [entries, Amount.value, lasting]
  obtain ⟨plan, made⟩ := exists_compileEntries_eq_ok_iff.2 admissible
  have compiled := compile_of_compileEntries made
  exact ⟨plan, compiled, (compile_lengths compiled).2.2 (by decide +kernel)⟩

/-! ## What passes the checks -/

/-- The checks let through what is written as a length above zero, and the three exceptions. -/
theorem compileEntries_written {encoding : Encoding} {entries : List Entry} {assets : AssetTable}
    {track : Option AudioTrack} {settings : RenderSettings} {plan : Plan}
    (h : compileEntries encoding entries assets track settings = .ok plan) :
    (∀ e ∈ entries, Numeral.Positive (Thousandths.text e.duration) ∨
      Thousandths.text e.duration ∈ ["nan", "inf", "0"]) ∧
    ∀ e ∈ entries.dropLast, ∀ kind, e.transition = .known kind → kind.isBlending →
      Numeral.Positive (Thousandths.text e.transitionDuration.value) ∨
        Thousandths.text e.transitionDuration.value ∈ ["nan", "inf", "0"] := by
  have admissible := exists_compileEntries_eq_ok_iff.1 ⟨plan, h⟩
  refine ⟨fun e mem => Thousandths.text_of_not_le_zero (admissible.lasting e mem), ?_⟩
  intro e mem kind asked blending
  obtain ⟨same, known, lasting⟩ := admissible.joined e mem
  cases known.symm.trans asked
  exact Thousandths.text_of_not_le_zero (lasting blending)

/-- Three pictures that pass the checks, and each of the exceptions. -/
theorem compileEntries_three_stills :
    let entries : List Entry := [⟨"a", "still", Binary64.notANumber, .known .cut, .real 1.0⟩,
      ⟨"b", "still", Binary64.infinity false, .known .cut, .real 1.0⟩,
      ⟨"c", "still", 0.0004, .known .cut, .real 1.0⟩]
    let assets : AssetTable := [("still", ⟨"still", .image, "still.png", none, false⟩)]
    ∃ plan, compileEntries ⟨.whole 23, "192k"⟩ entries assets none ⟨.mp4, 1280, 720, .fast, 30⟩ =
      .ok plan ∧ plan.lengthTexts = [some "nan", some "inf", some "0"] ∧ ¬ plan.PositiveLengths := by
  intro entries assets
  have admissible : Admissible entries assets true none := by
    refine ⟨by decide, by decide +kernel, by simp [entries], ?_, by simp, ?_⟩
    · simp [entries, assets, Table.get?]
    · simp [entries, TransitionKind.isBlending]
  obtain ⟨plan, made⟩ := exists_compileEntries_eq_ok_iff.2 admissible
  have texts : plan.lengthTexts = [some "nan", some "inf", some "0"] := by
    rw [lengthTexts_of_compile (compile_of_compileEntries made)]
    decide +kernel
  refine ⟨plan, made, texts, fun positive => ?_⟩
  obtain ⟨written, here, above⟩ := positive (some "nan") (by simp [texts])
  cases here
  exact absurd above (by decide +kernel)

end Compile

end Splice
