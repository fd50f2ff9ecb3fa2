import Splice.Proofs.Compile.Acceptance
import Splice.Proofs.Export.Described

/-!
# The check before the engine is asked, and the check behind it

An export checks its timeline twice: before the engine is asked about the files, with the assets as
the uploads made them and without music, and when it compiles, with the assets as the engine has
described them and with the first sound among them as music. What has passed the first check can
only fail the second for a length that is still not known (`ExportService.compile_described`): the
assets are the same under the same ids (`AssetTable.Described`), and the music is an asset of the
table that is a sound.
-/

namespace Splice

open Compile

/-- The problems of lengths that are not known: that of a video on the timeline, or that of the
first sound. -/
inductive AssetTable.Unmeasured (assets : AssetTable) (timeline : Timeline) : Problem → Prop
  | video {row : Row} {asset : MediaAsset} (shown : row ∈ timeline.rows)
      (found : assets.get? row.entry.mediaId = some asset) (video : asset.kind = .video)
      (unknown : asset.duration = none) : Unmeasured assets timeline (.unknownVideoLength asset.id)
  | music {key : String} {asset : MediaAsset}
      (first : (assets.find? fun row => row.2.kind = .audio) = some (key, asset))
      (unknown : asset.duration = none) : Unmeasured assets timeline (.unknownMusicLength asset.id)

theorem AssetTable.Unmeasured.kind_eq {assets : AssetTable} {timeline : Timeline}
    {problem : Problem} (h : assets.Unmeasured timeline problem) :
    problem.kind = .invalidDuration := by
  cases h <;> rfl

namespace ExportService

variable {x : ExportService} {stored : List StoredFile} {request : ExportRequest}
  {assets described : AssetTable} {timeline : Timeline}

/-! ## What has passed the first check -/

/-- The entries of a request. -/
abbrev entriesOf (x : ExportService) (request : ExportRequest) : List Entry :=
  request.timeline.map (TimelineItem.toEntry x.settings)

/-- The assets of a request that passes the first check are those of its files, and its entries are
admissible and make the timeline. -/
theorem admissible_of_validate (valid : x.validate stored request = .ok (assets, timeline)) :
    assets = .ofStored stored request.mediaFiles ∧ timeline = .layOut (x.entriesOf request) ∧
      Admissible (x.entriesOf request) assets false none := by
  dsimp only [validate] at valid
  cases passed : validateEntries (x.entriesOf request) (.ofStored stored request.mediaFiles) with
  | error problem =>
    rw [passed] at valid
    cases valid
  | ok made =>
    rw [passed] at valid
    cases valid
    refine ⟨rfl, eq_layOut_of_validateEntries passed, ?_⟩
    rw [← objections_eq_nil_iff, ← List.head?_eq_none_iff, ← refusal?_validateEntries, passed]
    rfl

/-! ## What the second check can object to -/

/-- The entries of a timeline that has passed refer to described assets that are no sounds, so the
only objection to one of them is that its length is not known. -/
theorem unmeasured_of_assetObjection? {entries : List Entry}
    (visual : Admissible entries assets false none) (h : assets.Described described) {e : Entry}
    (mem : e ∈ entries) {problem : Problem}
    (objection : assetObjection? described true e = some problem) :
    described.Unmeasured (.layOut entries) problem := by
  obtain ⟨asset, found, seen, -⟩ := visual.visual e mem
  obtain ⟨later, there, step⟩ := h.get?_eq_some found
  have seen : later.kind ≠ .audio := step.kind_eq ▸ seen
  obtain ⟨row, shown, rfl⟩ : ∃ row ∈ schedule entries, row.entry = e := by
    rwa [← List.mem_map, map_entry_schedule]
  unfold assetObjection? at objection
  rw [there] at objection
  cases kind : later.kind <;> cases length : later.duration <;>
    simp only [kind, length, if_true, reduceCtorEq] at objection
  case audio.none | audio.some => exact absurd kind seen
  case video.none =>
    cases objection
    exact .video shown there kind length

/-- The music of a table is its first sound, and is found under its id. -/
theorem exists_of_musicTrack (keyed : described.Keyed) {track : AudioTrack}
    (chosen : musicTrack described request = some track) :
    ∃ key asset, (described.find? fun row => row.2.kind = .audio) = some (key, asset) ∧
      described.get? track.mediaId = some asset ∧ asset.kind = .audio := by
  obtain ⟨⟨key, asset⟩, first, rfl⟩ := Option.map_eq_some_iff.1 chosen
  exact ⟨key, asset, first, keyed.get?_id (List.mem_of_find?_eq_some first),
    by simpa using List.find?_some first⟩

/-- So the only objection to the music is that its length is not known. -/
theorem unmeasured_of_musicObjection? (keyed : described.Keyed) {track : AudioTrack}
    (chosen : musicTrack described request = some track) {problem : Problem}
    (objection : musicObjection? described track = some problem) :
    described.Unmeasured timeline problem := by
  obtain ⟨key, asset, first, found, sound⟩ := exists_of_musicTrack keyed chosen
  unfold musicObjection? at objection
  rw [found] at objection
  cases length : asset.duration <;> simp only [sound, length, reduceCtorEq] at objection
  case none =>
    cases objection
    exact .music first length

/-- Whatever the compiler reports of a timeline that has passed the first check is a length that is
not known. -/
theorem unmeasured_of_compile (valid : x.validate stored request = .ok (assets, timeline))
    (h : assets.Described described) {settings : RenderSettings} {problem : Problem}
    (refused : compile x.encoding timeline described (musicTrack described request) settings =
      .error problem) : described.Unmeasured timeline problem := by
  obtain ⟨rfl, rfl, visual⟩ := admissible_of_validate valid
  have first := (refusal?_compile _ _ _ _ _).symm.trans (refusal?_eq_some_iff.2 refused)
  have listed := List.mem_of_mem_head? first
  simp only [laterObjections, List.mem_append, List.mem_filterMap, or_assoc] at listed
  rcases listed with empty | ⟨e, mem, objection⟩ | ⟨track, chosen, objection⟩ |
    ⟨⟨before, after⟩, mem, objection⟩
  · rw [if_neg visual.nonempty] at empty
    cases empty
  · exact unmeasured_of_assetObjection? visual h mem objection
  · exact unmeasured_of_musicObjection? (h.keyed (AssetTable.keyed_ofStored _ _))
      (Option.mem_toList.1 chosen) objection
  · have inner : before ∈ (x.entriesOf request).dropLast := by
      rw [← map_fst_zip_tail]
      exact List.mem_map_of_mem mem
    have joined : transitionObjection? before after = none :=
      transitionObjection?_eq_none_iff.2 (visual.joined before inner)
    cases joined.symm.trans objection

/-- Conversely nothing is compiled as long as such a length is not known. -/
theorem compile_ne_ok_of_unmeasured {encoding : Encoding} {settings : RenderSettings}
    (keyed : described.Keyed) {entries : List Entry} {problem : Problem}
    (lacking : described.Unmeasured (.layOut entries) problem) (plan : Plan) :
    compile encoding (.layOut entries) described (musicTrack described request) settings ≠
      .ok plan := by
  intro made
  have fine := refusal?_eq_none_iff.2 ⟨plan, made⟩
  rw [refusal?_compile, List.head?_eq_none_iff, laterObjections_eq_nil_iff] at fine
  obtain ⟨-, visual, audible, -⟩ := fine
  cases lacking with
  | @video row asset shown found video unknown =>
    have mem : row.entry ∈ entries := map_entry_schedule entries ▸ List.mem_map_of_mem shown
    obtain ⟨other, there, -, known⟩ := visual _ mem
    cases found.symm.trans there
    simpa [unknown] using known rfl video
  | @music key asset first unknown =>
    have chosen : musicTrack described request = some
        ((request.audioSettings.getD .standard).toTrack asset.id) := by
      unfold musicTrack
      rw [first]
      rfl
    obtain ⟨other, there, -, known⟩ := audible _ chosen
    cases (keyed.get?_id (List.mem_of_find?_eq_some first)).symm.trans there
    simp [unknown] at known

/-! ## The two checks agree -/

/-- **What has passed the first check fails the second only for a length that is not known.** When
the engine has been asked about the assets of a request that has passed, however it has answered, a
plan is made of what it has described, with the first sound as music, unless the length of a video
on the timeline or of that sound is still not known; and then that is what is reported. -/
theorem compile_described (x : ExportService) {stored : List StoredFile} {request : ExportRequest}
    {assets described : AssetTable} {timeline : Timeline} {w later : World}
    (valid : x.validate stored request = .ok (assets, timeline))
    (asked : w.run (x.describeAll assets).run = (.ok described, later))
    (settings : RenderSettings) :
    let outcome := compile x.encoding timeline described (musicTrack described request) settings
    ((∃ plan, outcome = .ok plan) ↔ ∀ problem, ¬ described.Unmeasured timeline problem) ∧
      ∀ problem, outcome = .error problem →
        described.Unmeasured timeline problem ∧ problem.kind = .invalidDuration := by
  intro outcome
  have answers := x.ensures_describeAll_described assets w
  unfold Act.Ensures at answers
  rw [asked] at answers
  have h : assets.Described described := answers described rfl
  obtain ⟨rfl, rfl, -⟩ := admissible_of_validate valid
  refine ⟨⟨?_, fun measured => ?_⟩, fun problem refused => ?_⟩
  · rintro ⟨plan, made⟩ problem lacking
    exact compile_ne_ok_of_unmeasured (h.keyed (AssetTable.keyed_ofStored _ _)) lacking plan made
  · cases result : outcome with
    | ok plan => exact ⟨plan, rfl⟩
    | error problem => exact absurd (unmeasured_of_compile valid h result) (measured problem)
  · have lacking := unmeasured_of_compile valid h refused
    exact ⟨lacking, lacking.kind_eq⟩

/-- Two videos, of which the manifest gives the length of one, and a sound. The engine gives none:
the request has passed, and the other video is reported. -/
theorem compile_described_unknown :
    let engine : EngineAccess := ⟨"ffmpeg", pure true, fun _ => pure [],
      fun _ => pure ⟨none, true, true⟩, fun _ output _ _ => pure output,
      fun _ _ output _ => pure output⟩
    let x := { ExportService.ofSettings (.standard "data" "uploads" "output") with
      engine := engine }
    let stored : List StoredFile := [⟨"1", "1.mp4", "a.mp4", "uploads/1.mp4", 1, "video/mp4"⟩,
      ⟨"2", "2.mp4", "b.mp4", "uploads/2.mp4", 1, "video/mp4"⟩,
      ⟨"3", "3.mp3", "c.mp3", "uploads/3.mp3", 1, "audio/mpeg"⟩]
    let request : ExportRequest := ⟨[⟨"1", "A", 1.0, none, none, none, none⟩,
      ⟨"2", "b.mp4", 2.0, none, none, none, none⟩], none, .standard,
      some [⟨"A", "a.mp4", .video, some 5.0⟩]⟩
    let w : World := ⟨⟨⟨[]⟩, 0.0, 0⟩, ⟨⟨true, .error .notFound, fun _ => .error .notFound,
      .error .notFound, .error .notFound, false⟩, .never, []⟩⟩
    let settings : RenderSettings := ⟨.mp4, 1920, 1080, .medium, 30⟩
    let described : AssetTable := [("A", ⟨"A", .video, "uploads/1.mp4", some 5.0, true⟩),
      ("b.mp4", ⟨"b.mp4", .video, "uploads/2.mp4", none, true⟩),
      ("c.mp3", ⟨"c.mp3", .audio, "uploads/3.mp3", none, true⟩)]
    ∃ assets timeline, x.validate stored request = .ok (assets, timeline) ∧
      w.run (x.describeAll assets).run = (.ok described, w) ∧
      ∃ problem, compile x.encoding timeline described (musicTrack described request) settings =
        .error problem ∧ described.Unmeasured timeline problem := by
  intro engine x stored request w settings described
  obtain ⟨⟨assets, timeline⟩, valid⟩ : ∃ passed, x.validate stored request = .ok passed :=
    isOk_iff_exists.1 (by decide +kernel)
  obtain ⟨rfl, rfl, -⟩ := admissible_of_validate valid
  have asked : w.run (x.describeAll (.ofStored stored request.mediaFiles)).run =
      (.ok described, w) := rfl
  obtain ⟨-, reported⟩ := compile_described x valid asked settings
  have refused : compile x.encoding (.layOut (x.entriesOf request)) described
    (musicTrack described request) settings = .error (.unknownVideoLength "b.mp4") := rfl
  exact ⟨_, _, valid, asked, _, refused, (reported _ refused).1⟩

end ExportService

end Splice
