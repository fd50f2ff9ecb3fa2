import Splice.Proofs.Compile.Legible
import Splice.Proofs.Compile.Wiring
import Splice.Proofs.Export.Calls
import Splice.Proofs.Plan.Arguments

/-!
# The files that the engine reads

Between the uploads of an export and the command line of its rendering a file goes by several names:
the editor's id of it, the key of its asset, the id in an input's declaration, and the place that is
known for that id. All along it is the same file (`ExportService.render_reads`): the engine's `k`-th
input is the file of the `k`-th clip, behind the clips comes the first sound if there is one, and
the labels in the text of the graph count in the same way.
-/

namespace Splice

open Compile

/-- The input that an asset's file makes when it is shown for some seconds. -/
def MediaAsset.shown (asset : MediaAsset) (settings : RenderSettings) (seconds : Float) :
    InputFile where
  options :=
    if asset.kind = .image then
      ["-loop", "1", "-framerate", toString settings.frameRate, "-t", Thousandths.text seconds]
    else []
  path := asset.source

/-- The input that an asset's file makes when it is played as music. -/
def MediaAsset.played (asset : MediaAsset) : InputFile := ⟨[], asset.source⟩

/-- The places of the files of a table's assets. -/
abbrev AssetTable.places (assets : AssetTable) (key : String) : Option String :=
  (assets.get? key).map MediaAsset.source

/-- The first sound of a table. -/
def AssetTable.firstSound? (assets : AssetTable) : Option MediaAsset :=
  (assets.find? fun row => row.2.kind = .audio).map Prod.snd

/-- What a description leaves alone is all that an input shows. -/
theorem MediaAsset.Described.shown_eq {asset later : MediaAsset} (h : asset.Described later) :
    later.shown = asset.shown := by
  unfold MediaAsset.shown
  rw [h.kind_eq, h.source_eq]

/-! ## From the plan to the files -/

section

variable {assets : AssetTable} {track : Option AudioTrack} {entries : List Entry}
  {clips : List Clip} {music : Option (AudioTrack × MediaAsset)} {joins : List Join}

theorem paired_readingOptions (settings : RenderSettings) (clip : Clip) :
    Paired (readingOptions settings clip) := by
  unfold readingOptions
  split
  · exact .cons (by decide) (by decide) (.cons (by decide) (by decide)
      (.cons (by decide) (by decide) .nil))
  · exact .nil

theorem paired_of_mem_inputs {encoding : Encoding} {settings : RenderSettings} {total : Float}
    {d : InputDeclaration}
    (mem : d ∈ (assemble encoding settings total clips joins music).inputs) : Paired d.options := by
  obtain ⟨k, here⟩ := List.mem_iff_getElem?.1 mem
  rcases (getElem?_inputs_assemble_eq_some_iff _ _ _ _ _ _).1 here with
    ⟨clip, -, rfl⟩ | ⟨-, pair, -, rfl⟩
  · exact paired_readingOptions settings clip
  · exact .nil

/-- What a clip shows, and what is played, is found under its own id. -/
theorem places_of_passed (keyed : assets.Keyed)
    (passed : Passed entries assets track clips music joins) :
    (∀ clip ∈ clips, assets.places clip.asset.id = some clip.asset.source) ∧
      ∀ pair ∈ music, assets.places pair.2.id = some pair.2.source := by
  have place {key : String} {asset : MediaAsset} (found : assets.get? key = some asset) :
      assets.places asset.id = some asset.source := by
    unfold AssetTable.places
    rw [keyed.id_eq found, found]
    rfl
  exact ⟨fun clip mem => place ((map_row_of_findVisuals passed.visuals).2 clip mem),
    fun pair mem => place (get?_of_findMusic? passed.found pair mem).2⟩

theorem isSome_places_of_mem_inputs (keyed : assets.Keyed)
    (passed : Passed entries assets track clips music joins) {encoding : Encoding}
    {settings : RenderSettings} {total : Float} {d : InputDeclaration}
    (mem : d ∈ (assemble encoding settings total clips joins music).inputs) :
    (assets.places d.mediaId).isSome := by
  obtain ⟨seen, heard⟩ := places_of_passed keyed passed
  obtain ⟨k, here⟩ := List.mem_iff_getElem?.1 mem
  rcases (getElem?_inputs_assemble_eq_some_iff _ _ _ _ _ _).1 here with
    ⟨clip, there, rfl⟩ | ⟨-, pair, there, rfl⟩
  · exact Option.isSome_of_eq_some (seen clip (List.mem_of_getElem? there))
  · exact Option.isSome_of_eq_some (heard pair there)

/-- The files of a plan's inputs: those of the clips in order, and that of the music. -/
theorem files_assemble (keyed : assets.Keyed)
    (passed : Passed entries assets track clips music joins) (encoding : Encoding)
    (settings : RenderSettings) (total : Float) :
    Plan.files assets.places (assemble encoding settings total clips joins music).inputs =
      clips.map (fun clip => clip.asset.shown settings clip.row.entry.duration) ++
        (music.map fun pair => pair.2.played).toList := by
  obtain ⟨seen, heard⟩ := places_of_passed keyed passed
  have firsts : clips.zipIdx.map Prod.fst = clips := List.zipIdx_map_fst 0 clips
  rw [inputs_assemble, Plan.files, List.map_append]
  congr 1
  · conv_rhs => rw [← firsts, List.map_map]
    rw [clipInputs_eq, List.map_map]
    refine List.map_congr_left fun pair mem => ?_
    have here := seen pair.1 (firsts ▸ List.mem_map_of_mem mem)
    simp only [Function.comp_apply, clipInput, here, Option.getD_some]
    rfl
  · cases music with
    | none => rfl
    | some pair =>
      have here := heard pair rfl
      simp only [musicInputs, Option.toList_some, List.map_cons, List.map_nil, musicInput, here,
        Option.getD_some, Option.map_some]
      rfl

/-- What is played is the first sound of the assets. -/
theorem map_played_of_passed {request : ExportRequest} (keyed : assets.Keyed)
    (passed : Passed entries assets (ExportService.musicTrack assets request) clips music joins) :
    music.map (fun pair => pair.2.played) = assets.firstSound?.map MediaAsset.played := by
  unfold AssetTable.firstSound?
  have some := isSome_of_findMusic? passed.found
  cases chosen : ExportService.musicTrack assets request with
  | none =>
    have silent := Option.map_eq_none_iff.1 chosen
    rw [chosen, Option.isSome_none, Option.isSome_eq_false_iff, Option.isNone_iff_eq_none] at some
    rw [some, silent]
    rfl
  | some track =>
    obtain ⟨key, asset, first, found, -⟩ := ExportService.exists_of_musicTrack keyed chosen
    rw [chosen, Option.isSome_some, Option.isSome_iff_exists] at some
    obtain ⟨pair, rfl⟩ := some
    obtain ⟨same, there⟩ := get?_of_findMusic? passed.found pair rfl
    cases chosen.symm.trans same
    cases found.symm.trans there
    rw [first]
    rfl

end

/-- The first sound is played in the same way, whatever has been asked about it. -/
theorem AssetTable.Described.map_played_firstSound? {assets described : AssetTable}
    (h : assets.Described described) :
    described.firstSound?.map MediaAsset.played = assets.firstSound?.map MediaAsset.played := by
  unfold AssetTable.firstSound?
  have rel := h.rel_find?_audio
  generalize (assets.find? fun row => row.2.kind = .audio) = before at rel ⊢
  generalize (described.find? fun row => row.2.kind = .audio) = after at rel ⊢
  cases rel with
  | none => rfl
  | some step =>
    simp only [Option.map_some, MediaAsset.played, step.2.source_eq]

/-! ## The files of a request -/

/-- The files that are read for a request, in the order of the engine's inputs: for every clip the
stored file of its asset, shown for as long as the clip lasts if it is a picture, and behind them
the first sound, if there is one. -/
structure ExportRequest.ReadFrom (request : ExportRequest) (stored : List StoredFile)
    (settings : RenderSettings) (files : List InputFile) : Prop where
  clip : ∀ (k : Nat) (item : TimelineItem), request.timeline[k]? = some item →
    ∃ asset, (AssetTable.ofStored stored request.mediaFiles).get? item.mediaId = some asset ∧
      (∃ f ∈ stored, f.path = asset.source) ∧ files[k]? = some (asset.shown settings item.duration)
  music : files.drop request.timeline.length =
    ((AssetTable.ofStored stored request.mediaFiles).firstSound?.map MediaAsset.played).toList

namespace ExportService

variable {x : ExportService} {stored : List StoredFile} {request : ExportRequest}

/-- The files of a plan that is compiled from what the engine has described are those of the
request. -/
theorem readFrom_of_passed {described : AssetTable} {clips : List Clip}
    {music : Option (AudioTrack × MediaAsset)} {joins : List Join}
    (h : (AssetTable.ofStored stored request.mediaFiles).Described described)
    (passed : Passed (x.entriesOf request) described (musicTrack described request) clips music
      joins)
    (encoding : Encoding) (settings : RenderSettings) (total : Float) :
    request.ReadFrom stored settings (Plan.files described.places
      (assemble encoding settings total clips joins music).inputs) := by
  have keyed := h.keyed (AssetTable.keyed_ofStored stored request.mediaFiles)
  have entries := passed.map_entry
  have lengths : clips.length = request.timeline.length := by
    simpa using congrArg List.length entries
  rw [files_assemble keyed passed]
  refine ⟨fun k item here => ?_, ?_⟩
  · have entry : (x.entriesOf request)[k]? = some (item.toEntry x.settings) := by
      rw [List.getElem?_map, here]
      rfl
    rw [← entries, List.getElem?_map] at entry
    obtain ⟨clip, there, same⟩ := Option.map_eq_some_iff.1 entry
    have found := (map_row_of_findVisuals passed.visuals).2 clip (List.mem_of_getElem? there)
    rw [same] at found
    obtain ⟨asset, assigned, step⟩ := h.exists_of_get?_eq_some found
    refine ⟨asset, assigned, AssetTable.madeOf_ofStored _ _ _ _ assigned, ?_⟩
    have inside : k < (clips.map fun clip =>
        clip.asset.shown settings clip.row.entry.duration).length := by
      rw [List.length_map]
      exact (List.getElem?_eq_some_iff.1 there).1
    rw [List.getElem?_append_left inside, List.getElem?_map, there, Option.map_some, same,
      step.shown_eq]
    rfl
  · rw [map_played_of_passed keyed passed, h.map_played_firstSound?, ← lengths]
    exact List.drop_left' (List.length_map _)

/-- A rendering that an export calls for is that of a plan which the compiler has made of the assets
that the engine has described. -/
theorem exists_compiled_of_rendering {assets : AssetTable} {timeline : Timeline}
    (valid : x.validate stored request = .ok (assets, timeline)) {attendance polled : Attendance}
    {w : World} {plan : Plan} {locations : String → Option String} {output : String}
    {outcome : Except Failure String}
    (rendered : ⟨.render plan locations output polled, outcome⟩ ∈
      x.history stored request attendance w) :
    ∃ described settings, assets.Described described ∧ locations = described.places ∧
      request.exportSettings.toRenderSettings x.settings = .ok settings ∧
      compile x.encoding timeline described (musicTrack described request) settings = .ok plan := by
  have recorded {exchange : Exchange} (mem : exchange ∈ x.history stored request attendance w) :=
    Dialogue.exists_run_of_mem_history mem
  obtain ⟨orderly, -⟩ := orderly_history valid attendance w
  have last := Dialogue.getLast?_of_renders orderly rendered trivial
  generalize x.history stored request attendance w = history at *
  cases orderly with
  | arriving => cases last
  | asking calls => exact absurd trivial (Dialogue.of_mem_asked calls rendered).2.1
  | compiling =>
    rw [List.getLast?_append] at last
    cases last
  | @rendering asked described settings plan output outcome calls answers given =>
    rw [List.getLast?_append] at last
    cases last
    refine ⟨described, settings, answers, rfl, given, ?_⟩
    obtain ⟨before, after, ran⟩ := recorded
      (List.mem_append_right (_ :: asked) List.mem_cons_self)
    have made := congrArg Prod.fst ran
    rw [Call.act] at made
    cases compiled : compile x.encoding timeline described (musicTrack described request)
      settings with
    | error problem =>
      rw [compiled] at made
      cases made
    | ok other =>
      rw [compiled] at made
      cases made
      rfl

/-- **The engine reads the files that the request is about.** Whenever an export calls for a
rendering, the command line can be written, and it names for every clip in order the stored file of
its asset, with the options of a still where the asset is a picture, and behind these the first
sound if there is one, and nothing else. The streams that the text of the graph takes from inputs
are those of these files. -/
theorem render_reads {attendance polled : Attendance} {w : World} {plan : Plan}
    {locations : String → Option String} {output : String} {outcome : Except Failure String}
    (rendered : ⟨.render plan locations output polled, outcome⟩ ∈
      x.history stored request attendance w) (binary : String) (progress : Bool) :
    ∃ argv settings wirings, plan.command locations output binary progress = .ok argv ∧
      request.exportSettings.toRenderSettings x.settings = .ok settings ∧
      request.ReadFrom stored settings (readInputs argv) ∧
      readGraph? plan.graphText = some wirings ∧
      ∀ wiring ∈ wirings, ∀ label ∈ wiring.inputs, ∀ k,
        label = picturePad k ∨ label = soundPad k → k < (readInputs argv).length := by
  cases valid : x.validate stored request with
  | error p =>
    rw [(history_of_invalid valid attendance w).1] at rendered
    cases rendered
  | ok validated =>
    obtain ⟨described, settings, answers, rfl, given, compiled⟩ :=
      exists_compiled_of_rendering valid rendered
    have legible := (Compiled.ofTimeline compiled).legible
    obtain ⟨same, made, -⟩ := admissible_of_validate valid
    rw [same] at answers
    rw [made] at compiled
    obtain ⟨clips, music, joins, passed, rfl⟩ := exists_passed_of_compile compiled
    have keyed := answers.keyed (AssetTable.keyed_ofStored stored request.mediaFiles)
    obtain ⟨argv, written, read⟩ := Plan.readInputs_command
      (fun d mem => isSome_places_of_mem_inputs keyed passed mem)
      (fun d mem => paired_of_mem_inputs mem) output binary progress
    have graph := Plan.readGraph?_graphText legible.1 legible.2
    refine ⟨argv, settings, _, written, given, ?_, graph, ?_⟩
    · rw [read]
      exact readFrom_of_passed answers passed x.encoding settings _
    · rw [List.forall_mem_map, read, Plan.files, List.length_map]
      intro stage mem label taken k pad
      exact passed.lt_length_inputs x.encoding settings _ mem taken pad

/-- A picture is shown twice, and a song is played. -/
theorem render_reads_still_twice :
    let engine : EngineAccess := ⟨"ffmpeg", pure true, fun _ => pure [],
      fun _ => pure ⟨some 60.0, true, true⟩, fun _ output _ _ => pure output,
      fun _ _ output _ => pure output⟩
    let x := { ExportService.ofSettings (.standard "data" "uploads" "output") with
      engine := engine }
    let stored : List StoredFile := [⟨"1", "1.mp3", "song.mp3", "uploads/1.mp3", 1, "audio/mpeg"⟩,
      ⟨"2", "2.png", "a.png", "uploads/2.png", 1, "image/png"⟩]
    let request : ExportRequest := ⟨[⟨"1", "A", 2.0, none, none, none, none⟩,
      ⟨"2", "A", 0.5, some "fade", some 0.25, none, none⟩], none, .standard,
      some [⟨"A", "a.png", .image, none⟩]⟩
    let w : World := ⟨⟨⟨[]⟩, 0.0, 0⟩, ⟨⟨true, .error .notFound, fun _ => .error .notFound,
      .error .notFound, .error .notFound, false⟩, .never, []⟩⟩
    ∃ plan locations output polled outcome argv,
      ⟨.render plan locations output polled, outcome⟩ ∈
        x.history stored request ⟨false, false⟩ w ∧
      plan.command locations output "ffmpeg" true = .ok argv ∧
      readInputs argv = [⟨["-loop", "1", "-framerate", "30", "-t", "2"], "uploads/2.png"⟩,
        ⟨["-loop", "1", "-framerate", "30", "-t", "0.5"], "uploads/2.png"⟩,
        ⟨[], "uploads/1.mp3"⟩] := by
  intro engine x stored request w
  have calls : ∃ exchange ∈ x.history stored request ⟨false, false⟩ w, exchange.call.Renders := by
    decide +kernel
  obtain ⟨⟨call, outcome⟩, rendered, renders⟩ := calls
  cases call with
  | isAvailable | probe path | compile => cases renders
  | render plan locations output polled =>
    obtain ⟨argv, settings, -, written, given, ⟨clip, music⟩, -⟩ :=
      render_reads rendered "ffmpeg" true
    refine ⟨plan, locations, output, polled, outcome, argv, rendered, written, ?_⟩
    cases given
    obtain ⟨_, ⟨⟩, -, first⟩ := clip 0 _ rfl
    obtain ⟨_, ⟨⟩, -, second⟩ := clip 1 _ rfl
    have third : (readInputs argv).drop 2 = [⟨[], "uploads/1.mp3"⟩] := music
    have texts : Thousandths.text 2.0 = "2" ∧ Thousandths.text 0.5 = "0.5" := by decide +kernel
    simp only [MediaAsset.shown, texts] at first second
    match files : readInputs argv with
    | [] | [_] => simp [files] at second
    | one :: two :: rest =>
      rw [files] at first second third
      cases first
      cases second
      cases third
      rfl

end ExportService

end Splice
