import Splice.Proofs.Compile.Wiring
import Splice.Proofs.Plan.Feed

/-!
# The finished picture

What the label of the finished picture stands for in a plan, in terms of the schedule alone: the
picture of the first clip, joined with that of the second, the result with that of the third, and so
on (`picture`). The statement about every plan is `compileEntries_picture`.

The labels between the stages do not occur in it. A plan that is well formed solves the equations
that its stages make (`Plan.WellFormed.feed_output`), and every solution of the equations of a chain
of joins gives the finished picture (`feed_video_of_joinAll`).
-/

namespace Splice.Compile

/-! ## The picture of a schedule -/

/-- The picture of the clip with a number: scaled into the frame, put into its middle, with square
pixels, at the rate and in the pixel format of the result. -/
def clipPicture (settings : RenderSettings) (number : Nat) (entry : Entry) : Feed :=
  let width := toString settings.width
  let height := toString settings.height
  .made .normalize
    [⟨"scale", [width, height], [("force_original_aspect_ratio", "decrease")]⟩,
     ⟨"pad", [width, height, "(ow-iw)/2", "(oh-ih)/2"], []⟩,
     ⟨"setsar", ["1"], []⟩,
     ⟨"fps", [toString settings.frameRate], []⟩,
     ⟨"format", ["yuv420p"], []⟩]
    none [entry.id] [.stream s!"{number}:v"]

/-- What came before, joined with the next clip by a kind of transition behind the row `before`. -/
def joined (kind : TransitionKind) (before after : Row) (sofar next : Feed) : Feed :=
  match kind.engineName? with
  | none =>
    .made .concat [⟨"concat", [], [("n", "2"), ("v", "1"), ("a", "0")]⟩]
      (some ⟨kind, 0.0, before.stop, none⟩) [before.entry.id, after.entry.id] [sofar, next]
  | some engineName =>
    let seconds := before.entry.transitionDuration.value
    .made .transition
      [⟨"xfade", [], [("transition", engineName), ("duration", Thousandths.text seconds),
        ("offset", Thousandths.text before.stop)]⟩]
      (some ⟨kind, seconds, before.stop, some engineName⟩) [before.entry.id, after.entry.id]
      [sofar, next]

/-- What came before, which ends with the row `before`, joined with the next clips one after the
other; the first of these has the number `number`. -/
def joinedFrom (settings : RenderSettings) (number : Nat) (sofar : Feed) (before : Row) :
    List (TransitionKind × Row) → Feed
  | [] => sofar
  | (kind, after) :: rest =>
    joinedFrom settings (number + 1)
      (joined kind before after sofar (clipPicture settings number after.entry)) after rest

/-- The finished picture of the rows `first :: rest`, where `kinds` are the kinds of the transitions
between them. -/
def picture (settings : RenderSettings) (first : Row) (rest : List Row)
    (kinds : List TransitionKind) : Feed :=
  if rest = [] then
    .made .passthrough [⟨"copy", [], []⟩] none [first.entry.id] [clipPicture settings 0 first.entry]
  else joinedFrom settings 1 (clipPicture settings 0 first.entry) first (kinds.zip rest)

/-! ## Its streams -/

theorem streams_clipPicture (settings : RenderSettings) (number : Nat) (entry : Entry) :
    (clipPicture settings number entry).streams = [picturePad number] := rfl

theorem streams_joined (kind : TransitionKind) (before after : Row) (sofar next : Feed) :
    (joined kind before after sofar next).streams = sofar.streams ++ next.streams := by
  have both : streamsOfAll [sofar, next] = sofar.streams ++ next.streams := by
    rw [streamsOfAll, streamsOfAll, streamsOfAll, List.append_nil]
  unfold joined
  split <;> exact both

theorem streams_joinedFrom (settings : RenderSettings) (number : Nat) (sofar : Feed) (before : Row)
    (pairs : List (TransitionKind × Row)) :
    (joinedFrom settings number sofar before pairs).streams =
      sofar.streams ++ (List.range' number pairs.length).map picturePad := by
  induction pairs generalizing number sofar before with
  | nil => rw [joinedFrom, List.length_nil, List.range'_zero, List.map_nil, List.append_nil]
  | cons pair rest ih =>
    rw [joinedFrom, ih, streams_joined, streams_clipPicture, List.length_cons, List.range'_succ,
      List.map_cons, List.append_assoc]
    rfl

/-- Every clip is shown once, in the order of the timeline. -/
theorem streams_picture (settings : RenderSettings) (first : Row) {rest : List Row}
    {kinds : List TransitionKind} (lengths : kinds.length = rest.length) :
    (picture settings first rest kinds).streams =
      (List.range (rest.length + 1)).map picturePad := by
  unfold picture
  split
  case isTrue none =>
    subst none
    rfl
  case isFalse =>
    rw [streams_joinedFrom, streams_clipPicture, List.length_zip, lengths, Nat.min_self,
      List.range_eq_range', List.range'_succ]
    rfl

/-! ## What solves the equations of the stages -/

section Solutions

variable {feed : String → Feed} {settings : RenderSettings}

theorem feed_normalizingStage {number : Nat} {clip : Clip} {output : String}
    (stream : feed (clipInput settings number clip).videoPad =
      .stream (clipInput settings number clip).videoPad) :
    (normalizingStage settings (clipInput settings number clip) clip output).feed feed =
      clipPicture settings number clip.row.entry := by
  rw [Stage.feed, normalizingStage, List.map_singleton, stream]
  rfl

theorem feed_joinStage (feed : String → Feed) (kind : TransitionKind) (before after : Row)
    (previous next output : String) :
    (joinStage (joinBehind kind before) previous next output
      [before.entry.id, after.entry.id]).feed feed =
        joined kind before after (feed previous) (feed next) := by
  cases kind <;> rfl

/-- Clips whose labels stand for the pictures of rows, numbered from `number` on. -/
def Shows (feed : String → Feed) (settings : RenderSettings) (number : Nat)
    (clips : List Normalized) (rows : List Row) : Prop :=
  clips.map (fun clip => (clip.entryId, feed clip.label)) =
    (rows.zipIdx number).map fun (row, i) => (row.entry.id, clipPicture settings i row.entry)

theorem Shows.cons {number : Nat} {clip : Normalized} {clips : List Normalized} {row : Row}
    {rows : List Row} (same : clip.entryId = row.entry.id)
    (here : feed clip.label = clipPicture settings number row.entry)
    (later : Shows feed settings (number + 1) clips rows) :
    Shows feed settings number (clip :: clips) (row :: rows) := by
  rw [Shows] at later
  rw [Shows, List.map_cons, List.zipIdx_cons, List.map_cons, later, same, here]

theorem Shows.of_cons {number : Nat} {clips : List Normalized} {row : Row} {rows : List Row}
    (h : Shows feed settings number clips (row :: rows)) :
    ∃ clip others, clips = clip :: others ∧ clip.entryId = row.entry.id ∧
      feed clip.label = clipPicture settings number row.entry ∧
      Shows feed settings (number + 1) others rows := by
  cases clips with
  | nil => cases h
  | cons clip others =>
    rw [Shows, List.map_cons, List.zipIdx_cons, List.map_cons, List.cons.injEq,
      Prod.mk.injEq] at h
    exact ⟨clip, others, rfl, h.1.1, h.1.2, h.2⟩

/-- The chain of joins gives the finished picture, whatever labels it uses on the way. -/
theorem feed_video_of_joinAll {labels : Labels} {previous : String} {before : Row} {number : Nat}
    {kinds : List TransitionKind} {rest : List Row} {clips : List Normalized}
    (solves : Solves feed (joinAll labels previous before.entry.id
      ((List.zipWith joinBehind kinds (before :: rest)).zip clips)).1)
    (shows : Shows feed settings number clips rest) (lengths : kinds.length = rest.length)
    (filled : rest ≠ []) :
    feed Labels.video = joinedFrom settings number (feed previous) before (kinds.zip rest) := by
  -- on the rows to come; `previous` stands for all that is joined so far
  induction rest generalizing labels previous before number kinds clips with
  | nil => exact absurd rfl filled
  | cons after rest ih =>
    obtain ⟨clip, others, rfl, same, here, later⟩ := shows.of_cons
    cases kinds with
    | nil => cases lengths
    | cons kind kinds =>
      rw [List.length_cons, List.length_cons, Nat.add_right_cancel_iff] at lengths
      rw [List.zip_cons_cons, joinedFrom, ← here]
      cases rest with
      | nil =>
        have joins : joinAll labels previous before.entry.id
            ((List.zipWith joinBehind (kind :: kinds) [before, after]).zip (clip :: others)) =
              ([joinStage (joinBehind kind before) previous clip.label Labels.video
                [before.entry.id, after.entry.id]], labels) := by
          cases kinds with
          | nil => rw [← same]; rfl
          | cons => cases lengths
        rw [joins] at solves
        rw [List.zip_nil_right, joinedFrom, ← feed_joinStage feed kind before after]
        exact solves _ List.mem_cons_self
      | cons next rest =>
        -- two more clips have to be in sight for the join not to be the last
        obtain ⟨clip', others, rfl, -, -, -⟩ := later.of_cons
        obtain ⟨kind', kinds, rfl⟩ := List.exists_cons_of_length_eq_add_one lengths
        rw [List.zipWith_cons_cons, List.zipWith_cons_cons, List.zip_cons_cons, List.zip_cons_cons,
          joinAll_cons_cons, same] at solves
        rw [← feed_joinStage feed kind before after, ← solves _ List.mem_cons_self]
        exact ih solves.tail later lengths (List.cons_ne_nil _ _)

theorem feed_video_of_joinClips {labels : Labels} {first : Row} {rest : List Row}
    {kinds : List TransitionKind} {clips : List Normalized}
    (solves : Solves feed
      (joinClips labels clips (List.zipWith joinBehind kinds (first :: rest))).1)
    (shows : Shows feed settings 0 clips (first :: rest)) (lengths : kinds.length = rest.length) :
    feed Labels.video = picture settings first rest kinds := by
  obtain ⟨clip, others, rfl, same, here, later⟩ := shows.of_cons
  cases rest with
  | nil =>
    have alone : others = [] := by
      have none := congrArg List.length later
      rw [List.length_map] at none
      exact List.length_eq_zero_iff.1 none
    subst alone
    rw [picture, if_pos rfl, ← here, ← same]
    exact solves _ List.mem_cons_self
  | cons next rest =>
    obtain ⟨clip', others, rfl, -, -, -⟩ := later.of_cons
    rw [picture, if_neg (List.cons_ne_nil _ _), ← here]
    rw [joinClips_cons_cons, same] at solves
    exact feed_video_of_joinAll solves later lengths (List.cons_ne_nil _ _)

/-- The labels of the normalized clips stand for the clips' pictures. -/
theorem shows_normalize {labels : Labels} {number : Nat} {clips : List Clip}
    (solves : Solves feed
      (normalize settings labels ((clipInputs settings number clips).zip clips)).1)
    (streams : ∀ d ∈ clipInputs settings number clips, feed d.videoPad = .stream d.videoPad) :
    Shows feed settings number
      (normalizedClips
        (normalize settings labels ((clipInputs settings number clips).zip clips)).1 clips)
      (clips.map Clip.row) := by
  induction clips generalizing labels number with
  | nil => rfl
  | cons clip rest ih =>
    rw [clipInputs_cons, List.zip_cons_cons, normalize_cons] at solves ⊢
    rw [clipInputs_cons, List.forall_mem_cons] at streams
    have here := solves _ List.mem_cons_self
    rw [feed_normalizingStage streams.1] at here
    exact Shows.cons rfl here (ih solves.tail streams.2)

theorem feed_video_of_solves {clips : List Clip} {first : Row} {rest : List Row}
    {kinds : List TransitionKind} (rows : clips.map Clip.row = first :: rest)
    (lengths : kinds.length = rest.length)
    (normalizes : Solves feed (normalizing settings clips).1)
    (joins : Solves feed
      (joining settings clips (List.zipWith joinBehind kinds (first :: rest))).1)
    (streams : ∀ d ∈ clipInputs settings 0 clips, feed d.videoPad = .stream d.videoPad) :
    feed Labels.video = picture settings first rest kinds := by
  have shows := shows_normalize normalizes streams
  rw [rows] at shows
  exact feed_video_of_joinClips joins shows lengths

end Solutions

/-! ## Plans of the compiler -/

theorem feed_video_of_passed {entries : List Entry} {assets : AssetTable}
    {track : Option AudioTrack} {clips : List Clip} {music : Option (AudioTrack × MediaAsset)}
    {joins : List Join} (passed : Passed entries assets track clips music joins)
    (encoding : Encoding) (settings : RenderSettings) (total : Float) :
    ∃ first rest kinds, schedule entries = first :: rest ∧ kinds.length = rest.length ∧
      entries.dropLast.map Entry.transition = kinds.map Transition.known ∧
      (assemble encoding settings total clips joins music).feed Labels.video =
        picture settings first rest kinds := by
  have wired := passed.wellFormed encoding settings total
  obtain ⟨kinds, transitions, rfl⟩ := exists_kinds_of_resolveJoins passed.resolved
  obtain ⟨first, rest, split⟩ :=
    List.exists_cons_of_ne_nil (mt schedule_eq_nil_iff.1 passed.nonempty)
  have lengths : kinds.length = rest.length := by
    have same := congrArg List.length transitions
    rw [split, List.length_map, List.length_map, List.length_dropLast, List.length_cons] at same
    omega
  refine ⟨first, rest, kinds, split, lengths, ?_, ?_⟩
  · rw [← transitions]
    conv_lhs => rw [← map_entry_schedule entries, ← List.map_dropLast, List.map_map]
    rfl
  rw [split] at wired ⊢
  have stages := stages_assemble encoding settings total clips
    (List.zipWith joinBehind kinds (first :: rest)) music
  have inputs := inputs_assemble encoding settings total clips
    (List.zipWith joinBehind kinds (first :: rest)) music
  generalize assemble encoding settings total clips
    (List.zipWith joinBehind kinds (first :: rest)) music = plan at *
  refine feed_video_of_solves (passed.map_row.trans split) lengths ?_ ?_ fun d mem => ?_
  · intro stage mem
    refine wired.feed_output ?_
    rw [stages]
    exact List.mem_append_left _ (List.mem_append_left _ mem)
  · intro stage mem
    refine wired.feed_output ?_
    rw [stages]
    exact List.mem_append_left _ (List.mem_append_right _ mem)
  · refine Plan.feed_of_not_mem (wired.inputs_not_given d ?_).1
    rw [inputs]
    exact List.mem_append_left _ mem

/-- Each entry has the input at its own place, for the asset that it refers to. -/
theorem exists_input_of_passed {entries : List Entry} {assets : AssetTable}
    {track : Option AudioTrack} {clips : List Clip} {music : Option (AudioTrack × MediaAsset)}
    {joins : List Join} (passed : Passed entries assets track clips music joins)
    (encoding : Encoding) (settings : RenderSettings) (total : Float) {i : Nat} {e : Entry}
    (here : entries[i]? = some e) :
    ∃ asset d, assets.get? e.mediaId = some asset ∧
      (assemble encoding settings total clips joins music).inputs[i]? = some d ∧ d.index = i ∧
      d.mediaId = asset.id ∧ d.kind = asset.kind ∧ d.entryId = some e.id := by
  obtain ⟨-, found⟩ := map_row_of_findVisuals passed.visuals
  rw [← passed.map_entry, List.getElem?_map, Option.map_eq_some_iff] at here
  obtain ⟨clip, at_i, rfl⟩ := here
  have declared := (getElem?_inputs_assemble_eq_some_iff encoding settings total clips joins
    music).2 (.inl ⟨clip, at_i, rfl⟩)
  exact ⟨clip.asset, _, found clip (List.mem_of_getElem? at_i), declared, rfl, rfl, rfl, rfl⟩

/-- **The picture of every plan is that of its schedule.** The label of the finished picture stands
for the pictures of the clips, joined from left to right as the transitions between them say; a
blend begins where the clip before it ends and the one behind it starts. Every clip is taken once,
in the order of the timeline, from the input for its own entry. -/
theorem compileEntries_picture {encoding : Encoding} {entries : List Entry} {assets : AssetTable}
    {track : Option AudioTrack} {settings : RenderSettings} {plan : Plan}
    (h : compileEntries encoding entries assets track settings = .ok plan) :
    ∃ first rest kinds, schedule entries = first :: rest ∧ (first :: rest).IsChain Row.Meets ∧
      entries.dropLast.map Entry.transition = kinds.map Transition.known ∧
      plan.videoOutput = "vout" ∧ plan.feed "vout" = picture settings first rest kinds ∧
      (plan.feed "vout").streams = (List.range entries.length).map (fun i => s!"{i}:v") ∧
      ∀ (i : Nat) (e : Entry), entries[i]? = some e →
        ∃ asset d, assets.get? e.mediaId = some asset ∧ plan.inputs[i]? = some d ∧ d.index = i ∧
          d.mediaId = asset.id ∧ d.kind = asset.kind ∧ d.entryId = some e.id := by
  obtain ⟨clips, music, joins, passed, rfl⟩ := exists_passed_of_compileEntries h
  obtain ⟨first, rest, kinds, split, lengths, transitions, finished⟩ :=
    feed_video_of_passed passed encoding settings (scheduleEnd (schedule entries))
  have meets := isChain_schedule entries
  have number : rest.length + 1 = entries.length := by
    rw [← length_schedule, split, List.length_cons]
  refine ⟨first, rest, kinds, split, split ▸ meets, transitions, rfl, finished, ?_,
    fun i e here => exists_input_of_passed passed encoding settings _ here⟩
  rw [← number]
  exact (congrArg Feed.streams finished).trans (streams_picture settings first lengths)

/-- A film is shown twice, blended with itself and then cut to a picture. -/
theorem compileEntries_picture_three_clips :
    let entries : List Entry := [⟨"a", "film", 4.0, .known .wipe, .real 1.0⟩,
      ⟨"b", "film", 2.5, .known .cut, .real 1.0⟩, ⟨"c", "still", 3.0, .unknown "?", .real 1.0⟩]
    let assets : AssetTable := [("film", ⟨"film", .video, "film.mp4", some 9.0, true⟩),
      ("still", ⟨"still", .image, "still.png", none, false⟩)]
    ∃ plan, compileEntries ⟨.whole 23, "192k"⟩ entries assets none ⟨.mp4, 1280, 720, .fast, 30⟩ =
      .ok plan ∧ (plan.feed plan.videoOutput).streams = ["0:v", "1:v", "2:v"] := by
  intro entries assets
  have admissible : Admissible entries assets true none := by
    refine ⟨by decide, by decide, by simp [entries], ?_, by simp, ?_⟩
    · simp [entries, assets, Table.get?]
    · have lasting : ¬ (1.0 : Float) ≤ 0 := by decide
      simp [entries, Amount.value, lasting]
  obtain ⟨plan, made⟩ := exists_compileEntries_eq_ok_iff.2 admissible
  obtain ⟨first, rest, kinds, -, -, -, output, -, streams, -⟩ := compileEntries_picture made
  refine ⟨plan, made, ?_⟩
  rw [output, streams]
  decide +kernel

end Splice.Compile
