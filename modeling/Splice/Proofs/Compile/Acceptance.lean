import Mathlib.Data.List.Basic
import Splice.Compile.Basic
import Splice.Proofs.Timeline.Schedule

/-!
# What the compiler accepts, and what it reports first

`objections` lists everything that is wrong with what the compiler is given, check by check and in
each check from the first entry on; `Admissible` says outright what must hold. The compiler reports
the first objection and nothing else (`refusal?_compileEntries`), and without an objection it gives
a plan. The check made before the files are looked at is the same one without the music and the
lengths of videos (`refusal?_validateEntries`).
-/

namespace Splice.Compile

/-! ## Refusals -/

/-- The reason why something was refused, if it was. -/
def refusal? {ε α : Type} : Except ε α → Option ε
  | .ok _ => none
  | .error reason => some reason

section Refusals

variable {ε α β : Type}

theorem refusal?_eq_some_iff {x : Except ε α} {reason : ε} :
    refusal? x = some reason ↔ x = .error reason := by
  cases x <;> simp [refusal?]

theorem refusal?_eq_none_iff {x : Except ε α} : refusal? x = none ↔ ∃ a, x = .ok a := by
  cases x <;> simp [refusal?]

theorem refusal?_map (f : α → β) (x : Except ε α) : refusal? (x.map f) = refusal? x := by
  cases x <;> rfl

/-- Of two steps the first refuses first; what the second one refuses must not depend on the value
of the first. -/
theorem refusal?_bind {x : Except ε α} {next : α → Except ε β} {later : Option ε}
    (h : ∀ a, x = .ok a → refusal? (next a) = later) :
    refusal? (x >>= next) = (refusal? x).or later := by
  cases x with
  | error reason => rfl
  | ok a => exact h a rfl

theorem head?_filterMap_cons (f : α → Option β) (a : α) (l : List α) :
    ((a :: l).filterMap f).head? = (f a).or (l.filterMap f).head? := by
  rw [List.filterMap_cons]
  cases f a <;> rfl

end Refusals

/-! ## The objections -/

/-- What is wrong with an entry that stands behind others. -/
def entryObjection? (before : List Entry) (e : Entry) : Option Problem :=
  if e.id ∈ before.map Entry.id then some (.duplicateEntry e.id)
  else if e.duration ≤ 0 then some (.duration (.entry e.id) (some (.real e.duration)))
  else none

/-- What is wrong with the asset of an entry; `lengths` asks for the lengths of videos too. -/
def assetObjection? (assets : AssetTable) (lengths : Bool) (e : Entry) : Option Problem :=
  match assets.get? e.mediaId with
  | none => some (.unknownAsset e.id e.mediaId)
  | some asset =>
    match asset.kind, asset.duration with
    | .audio, _ => some (.audioOnVideoTrack asset.id)
    | .video, none => if lengths then some (.unknownVideoLength asset.id) else none
    | _, _ => none

/-- What is wrong with the asset of the music. -/
def musicObjection? (assets : AssetTable) (track : AudioTrack) : Option Problem :=
  match assets.get? track.mediaId with
  | none => some (.unknownMusic track.mediaId)
  | some asset =>
    match asset.kind, asset.duration with
    | .image, _ => some (.imageAsMusic asset.id)
    | _, none => some (.unknownMusicLength asset.id)
    | _, some _ => none

/-- What is wrong with the transition from an entry to the one behind it. -/
def transitionObjection? (before after : Entry) : Option Problem :=
  match before.transition with
  | .unknown text => some (.unresolved before.id after.id (.unknown text))
  | .known kind =>
    if kind.isBlending ∧ before.transitionDuration.value ≤ 0 then
      some (.unresolved before.id after.id (.noDuration kind (some before.transitionDuration)))
    else none

/-- Everything that is wrong, in the order of the checks and in each from the first entry on. -/
def objections (entries : List Entry) (assets : AssetTable) (lengths : Bool)
    (track : Option AudioTrack) : List Problem :=
  (entries.zipIdx.filterMap fun (e, i) => entryObjection? (entries.take i) e)
    ++ (if entries = [] then [.emptyTimeline] else [])
    ++ entries.filterMap (assetObjection? assets lengths)
    ++ track.toList.filterMap (musicObjection? assets)
    ++ (entries.zip entries.tail).filterMap fun (before, after) => transitionObjection? before after

/-- What entries, assets and music must satisfy. -/
structure Admissible (entries : List Entry) (assets : AssetTable) (lengths : Bool)
    (track : Option AudioTrack) : Prop where
  distinct : (entries.map Entry.id).Nodup
  lasting : ∀ e ∈ entries, ¬ e.duration ≤ 0
  nonempty : entries ≠ []
  visual : ∀ e ∈ entries, ∃ asset, assets.get? e.mediaId = some asset ∧ asset.kind ≠ .audio ∧
    (lengths → asset.kind = .video → asset.duration.isSome)
  audible : ∀ music ∈ track, ∃ asset, assets.get? music.mediaId = some asset ∧
    asset.kind ≠ .image ∧ asset.duration.isSome
  joined : ∀ e ∈ entries.dropLast, ∃ kind, e.transition = .known kind ∧
    (kind.isBlending → ¬ e.transitionDuration.value ≤ 0)

/-! ## Each check refuses with its first objection -/

theorem refusal?_checkNew (before : List Entry) (e : Entry) :
    refusal? (Timeline.checkNew before e) = entryObjection? before e := by
  have taken : (before.any fun other => other.id == e.id) = true ↔ e.id ∈ before.map Entry.id := by
    simp
  by_cases clash : e.id ∈ before.map Entry.id
  · rw [Timeline.checkNew, if_pos (taken.2 clash), entryObjection?, if_pos clash]
    rfl
  · rw [Timeline.checkNew, if_neg (fun h => clash (taken.1 h)), refusal?_map, entryObjection?,
      if_neg clash]
    by_cases short : e.duration ≤ 0
    · simp [checkDuration, Amount.value, short, refusal?]
    · simp [checkDuration, Amount.value, short, refusal?]

/-- The entries are taken one after the other, each checked against those before it. -/
theorem refusal?_acceptEach (before entries : List Entry) :
    refusal? (Timeline.acceptEach before entries) =
      (entries.zipIdx.filterMap
        fun (e, i) => entryObjection? (before ++ entries.take i) e).head? := by
  induction entries generalizing before with
  | nil => rfl
  | cons e rest ih =>
    have shifted : ((rest.zipIdx 1).filterMap fun (other, i) =>
        entryObjection? (before ++ (e :: rest).take i) other) =
          rest.zipIdx.filterMap fun (other, i) =>
            entryObjection? (before ++ [e] ++ rest.take i) other := by
      rw [List.zipIdx_succ, List.filterMap_map]
      simp [Function.comp_def]
    have first : refusal? (Timeline.checkNew before e) = entryObjection? (before ++ []) e := by
      rw [List.append_nil, refusal?_checkNew]
    rw [Timeline.acceptEach, List.zipIdx_cons, head?_filterMap_cons, shifted]
    change _ = (entryObjection? (before ++ []) e).or _
    rw [← first]
    cases Timeline.checkNew before e with
    | error problem => rfl
    | ok => exact ih (before ++ [e])

theorem refusal?_ofEntries (entries : List Entry) :
    refusal? (Timeline.ofEntries entries) =
      (entries.zipIdx.filterMap fun (e, i) => entryObjection? (entries.take i) e).head? := by
  rw [Timeline.ofEntries, refusal?_map, refusal?_acceptEach]
  rfl

theorem refusal?_findVisual (assets : AssetTable) (lengths : Bool) (row : Row) :
    refusal? (findVisual assets lengths row) = assetObjection? assets lengths row.entry := by
  unfold findVisual assetObjection?
  cases assets.get? row.entry.mediaId with
  | none => rfl
  | some asset =>
    obtain ⟨id, kind, source, duration, hasAudio⟩ := asset
    cases kind <;> cases duration <;> cases lengths <;> rfl

theorem refusal?_findVisuals (assets : AssetTable) (lengths : Bool) (rows : List Row) :
    refusal? (findVisuals assets lengths rows) =
      ((rows.map Row.entry).filterMap (assetObjection? assets lengths)).head? := by
  induction rows with
  | nil => rfl
  | cons row rest ih =>
    rw [findVisuals, List.map_cons, head?_filterMap_cons, ← refusal?_findVisual]
    cases findVisual assets lengths row with
    | error problem => rfl
    | ok clip => exact (refusal?_map _ _).trans ih

theorem refusal?_findMusic? (assets : AssetTable) (track : Option AudioTrack) :
    refusal? (findMusic? assets track) =
      (track.toList.filterMap (musicObjection? assets)).head? := by
  cases track with
  | none => rfl
  | some track =>
    rw [findMusic?, refusal?_map, findMusic, Option.toList_some, head?_filterMap_cons,
      musicObjection?]
    cases assets.get? track.mediaId with
    | none => rfl
    | some asset =>
      obtain ⟨id, kind, source, duration, hasAudio⟩ := asset
      cases kind <;> cases duration <;> rfl

/-- The join that a row asks for at its end. -/
theorem refusal?_resolve (before after : Row) :
    (refusal? (Join.resolve before.entry.transition (some before.entry.transitionDuration)
        before.stop)).map (Problem.unresolved before.entry.id after.entry.id) =
      transitionObjection? before.entry after.entry := by
  unfold Join.resolve transitionObjection?
  cases before.entry.transition with
  | unknown text => rfl
  | known kind =>
    by_cases short : before.entry.transitionDuration.value ≤ 0 <;>
      cases kind <;> simp [TransitionKind.engineName?, TransitionKind.isBlending, short, refusal?]

theorem refusal?_resolveJoins (rows : List Row) :
    refusal? (resolveJoins rows) =
      (((rows.map Row.entry).zip (rows.map Row.entry).tail).filterMap fun (before, after) =>
        transitionObjection? before after).head? := by
  induction rows with
  | nil => rfl
  | cons before rest ih =>
    cases rest with
    | nil => rfl
    | cons after rest =>
      rw [resolveJoins]
      simp only [List.map_cons, List.tail_cons, List.zip_cons_cons, head?_filterMap_cons] at ih ⊢
      rw [← refusal?_resolve]
      cases Join.resolve before.entry.transition (some before.entry.transitionDuration)
          before.stop with
      | error cause => rfl
      | ok join => exact (refusal?_map _ _).trans ih

/-! ## The compiler refuses with its first objection -/

/-- What is wrong with a timeline that could be made of its entries. -/
def laterObjections (entries : List Entry) (assets : AssetTable) (lengths : Bool)
    (track : Option AudioTrack) : List Problem :=
  (if entries = [] then [.emptyTimeline] else [])
    ++ entries.filterMap (assetObjection? assets lengths)
    ++ track.toList.filterMap (musicObjection? assets)
    ++ (entries.zip entries.tail).filterMap fun (before, after) => transitionObjection? before after

theorem head?_objections (entries : List Entry) (assets : AssetTable) (lengths : Bool)
    (track : Option AudioTrack) :
    (objections entries assets lengths track).head? =
      (refusal? (Timeline.ofEntries entries)).or
        (laterObjections entries assets lengths track).head? := by
  rw [refusal?_ofEntries, ← List.head?_append]
  simp only [objections, laterObjections, List.append_assoc]

theorem isEmpty_rows_layOut {entries : List Entry} (h : entries ≠ []) :
    ¬ (Timeline.layOut entries).rows.isEmpty := by
  simpa [Timeline.layOut, List.isEmpty_iff, schedule_eq_nil_iff] using h

theorem refusal?_compile (encoding : Encoding) (entries : List Entry) (assets : AssetTable)
    (track : Option AudioTrack) (settings : RenderSettings) :
    refusal? (compile encoding (.layOut entries) assets track settings) =
      (laterObjections entries assets true track).head? := by
  have visuals := refusal?_findVisuals assets true (schedule entries)
  have joins := refusal?_resolveJoins (schedule entries)
  rw [map_entry_schedule] at visuals joins
  by_cases empty : entries = []
  · subst empty
    rfl
  · rw [compile, if_neg (isEmpty_rows_layOut empty), laterObjections, if_neg empty, List.nil_append,
      List.append_assoc, List.head?_append, List.head?_append, ← visuals, ← joins,
      ← refusal?_findMusic?]
    refine refusal?_bind fun clips _ => refusal?_bind fun music _ => ?_
    change refusal? (resolveJoins (schedule entries) >>= _) = _
    cases resolveJoins (schedule entries) <;> rfl

theorem refusal?_validate (entries : List Entry) (assets : AssetTable) :
    refusal? (validate (.layOut entries) assets) =
      (laterObjections entries assets false none).head? := by
  have visuals := refusal?_findVisuals assets false (schedule entries)
  have joins := refusal?_resolveJoins (schedule entries)
  rw [map_entry_schedule] at visuals joins
  by_cases empty : entries = []
  · subst empty
    rfl
  · rw [validate, if_neg (isEmpty_rows_layOut empty), laterObjections, if_neg empty,
      List.nil_append, Option.toList_none, List.filterMap_nil, List.append_nil, List.head?_append,
      ← visuals, ← joins]
    refine refusal?_bind fun clips _ => ?_
    change refusal? (resolveJoins (schedule entries) >>= _) = _
    cases resolveJoins (schedule entries) <;> rfl

theorem refusal?_compileEntries (encoding : Encoding) (entries : List Entry) (assets : AssetTable)
    (track : Option AudioTrack) (settings : RenderSettings) :
    refusal? (compileEntries encoding entries assets track settings) =
      (objections entries assets true track).head? := by
  rw [head?_objections]
  refine refusal?_bind fun t made => ?_
  obtain ⟨rfl, -⟩ := Timeline.ofEntries_eq_ok_iff.1 made
  exact refusal?_compile encoding entries assets track settings

theorem refusal?_validateEntries (entries : List Entry) (assets : AssetTable) :
    refusal? (validateEntries entries assets) = (objections entries assets false none).head? := by
  rw [head?_objections]
  refine refusal?_bind fun t made => ?_
  obtain ⟨rfl, -⟩ := Timeline.ofEntries_eq_ok_iff.1 made
  exact refusal?_validate entries assets

theorem eq_layOut_of_validateEntries {entries : List Entry} {assets : AssetTable} {t : Timeline}
    (h : validateEntries entries assets = .ok t) : t = .layOut entries := by
  obtain ⟨start, made, h⟩ := bind_eq_ok_iff.1 h
  obtain ⟨rfl, -⟩ := Timeline.ofEntries_eq_ok_iff.1 made
  unfold validate at h
  split at h
  case isTrue => cases h
  case isFalse =>
    obtain ⟨_, -, h⟩ := bind_eq_ok_iff.1 h
    obtain ⟨_, -, h⟩ := bind_eq_ok_iff.1 h
    cases h
    rfl

/-! ## No objection -/

theorem assetObjection?_eq_none_iff {assets : AssetTable} {lengths : Bool} {e : Entry} :
    assetObjection? assets lengths e = none ↔ ∃ asset, assets.get? e.mediaId = some asset ∧
      asset.kind ≠ .audio ∧ (lengths → asset.kind = .video → asset.duration.isSome) := by
  unfold assetObjection?
  cases assets.get? e.mediaId with
  | none => simp
  | some asset =>
    obtain ⟨id, kind, source, duration, hasAudio⟩ := asset
    cases kind <;> cases duration <;> cases lengths <;> simp

theorem musicObjection?_eq_none_iff {assets : AssetTable} {track : AudioTrack} :
    musicObjection? assets track = none ↔ ∃ asset, assets.get? track.mediaId = some asset ∧
      asset.kind ≠ .image ∧ asset.duration.isSome := by
  unfold musicObjection?
  cases assets.get? track.mediaId with
  | none => simp
  | some asset =>
    obtain ⟨id, kind, source, duration, hasAudio⟩ := asset
    cases kind <;> cases duration <;> simp

theorem transitionObjection?_eq_none_iff {before after : Entry} :
    transitionObjection? before after = none ↔ ∃ kind, before.transition = .known kind ∧
      (kind.isBlending → ¬ before.transitionDuration.value ≤ 0) := by
  unfold transitionObjection?
  cases before.transition with
  | unknown text => simp
  | known kind => simp

/-- Every entry but the last has one behind it. -/
theorem map_fst_zip_tail {α : Type} (l : List α) : (l.zip l.tail).map Prod.fst = l.dropLast := by
  induction l with
  | nil => rfl
  | cons a rest ih =>
    cases rest with
    | nil => rfl
    | cons b rest =>
      rw [List.tail_cons, List.zip_cons_cons, List.map_cons, List.dropLast_cons_cons, ← ih]
      rfl

theorem laterObjections_eq_nil_iff {entries : List Entry} {assets : AssetTable} {lengths : Bool}
    {track : Option AudioTrack} :
    laterObjections entries assets lengths track = [] ↔
      entries ≠ [] ∧
      (∀ e ∈ entries, ∃ asset, assets.get? e.mediaId = some asset ∧ asset.kind ≠ .audio ∧
        (lengths → asset.kind = .video → asset.duration.isSome)) ∧
      (∀ music ∈ track, ∃ asset, assets.get? music.mediaId = some asset ∧ asset.kind ≠ .image ∧
        asset.duration.isSome) ∧
      ∀ e ∈ entries.dropLast, ∃ kind, e.transition = .known kind ∧
        (kind.isBlending → ¬ e.transitionDuration.value ≤ 0) := by
  have joined : ((entries.zip entries.tail).filterMap fun (before, after) =>
      transitionObjection? before after) = [] ↔
        ∀ e ∈ entries.dropLast, ∃ kind, e.transition = .known kind ∧
          (kind.isBlending → ¬ e.transitionDuration.value ≤ 0) := by
    rw [List.filterMap_eq_nil_iff, ← map_fst_zip_tail]
    constructor
    · intro none e mem
      obtain ⟨⟨before, after⟩, pair, rfl⟩ := List.mem_map.1 mem
      exact transitionObjection?_eq_none_iff.1 (none _ pair)
    · rintro fine ⟨before, after⟩ pair
      exact transitionObjection?_eq_none_iff.2 (fine before (List.mem_map_of_mem pair))
  have nonempty : (if entries = [] then [Problem.emptyTimeline] else []) = [] ↔ entries ≠ [] := by
    by_cases empty : entries = [] <;> simp [empty]
  simp only [laterObjections, List.append_eq_nil_iff, joined, nonempty, List.filterMap_eq_nil_iff,
    assetObjection?_eq_none_iff, musicObjection?_eq_none_iff, Option.mem_toList, Option.mem_def,
    and_assoc]

theorem objections_eq_nil_iff {entries : List Entry} {assets : AssetTable} {lengths : Bool}
    {track : Option AudioTrack} :
    objections entries assets lengths track = [] ↔ Admissible entries assets lengths track := by
  rw [← List.head?_eq_none_iff, head?_objections, Option.or_eq_none_iff, refusal?_eq_none_iff,
    List.head?_eq_none_iff, laterObjections_eq_nil_iff]
  constructor
  · rintro ⟨⟨t, made⟩, nonempty, visual, audible, joined⟩
    obtain ⟨-, distinct, lasting⟩ := Timeline.ofEntries_eq_ok_iff.1 made
    exact ⟨distinct, lasting, nonempty, visual, audible, joined⟩
  · rintro ⟨distinct, lasting, nonempty, visual, audible, joined⟩
    exact ⟨⟨_, Timeline.ofEntries_eq_ok_iff.2 ⟨rfl, distinct, lasting⟩⟩, nonempty, visual, audible,
      joined⟩

/-! ## The kinds of objections -/

/-- The kinds under which the compiler reports what is wrong. -/
def objectionKinds : List ReportKind :=
  [.validation, .invalidDuration, .emptyTimeline, .missingMediaAsset, .invalidMediaKind,
   .unresolvedTransition]

theorem kind_of_entryObjection? {before : List Entry} {e : Entry} {problem : Problem}
    (h : entryObjection? before e = some problem) : problem.kind ∈ objectionKinds := by
  unfold entryObjection? at h
  by_cases clash : e.id ∈ before.map Entry.id
  · rw [if_pos clash] at h
    cases h
    simp [Problem.kind, objectionKinds]
  · rw [if_neg clash] at h
    by_cases short : e.duration ≤ 0
    · rw [if_pos short] at h
      cases h
      simp [Problem.kind, objectionKinds]
    · rw [if_neg short] at h
      cases h

theorem kind_of_assetObjection? {assets : AssetTable} {lengths : Bool} {e : Entry}
    {problem : Problem} (h : assetObjection? assets lengths e = some problem) :
    problem.kind ∈ objectionKinds := by
  unfold assetObjection? at h
  repeat' split at h
  all_goals cases h
  all_goals simp [Problem.kind, objectionKinds]

theorem kind_of_musicObjection? {assets : AssetTable} {track : AudioTrack} {problem : Problem}
    (h : musicObjection? assets track = some problem) : problem.kind ∈ objectionKinds := by
  unfold musicObjection? at h
  repeat' split at h
  all_goals cases h
  all_goals simp [Problem.kind, objectionKinds]

theorem kind_of_transitionObjection? {before after : Entry} {problem : Problem}
    (h : transitionObjection? before after = some problem) : problem.kind ∈ objectionKinds := by
  unfold transitionObjection? at h
  repeat' split at h
  all_goals cases h
  all_goals simp [Problem.kind, objectionKinds]

theorem map_kind_objections_subset (entries : List Entry) (assets : AssetTable) (lengths : Bool)
    (track : Option AudioTrack) :
    (objections entries assets lengths track).map Problem.kind ⊆ objectionKinds := by
  intro kind mem
  obtain ⟨problem, listed, rfl⟩ := List.mem_map.1 mem
  simp only [objections, List.mem_append, List.mem_filterMap, or_assoc] at listed
  rcases listed with ⟨_, _, h⟩ | h | ⟨_, _, h⟩ | ⟨_, _, h⟩ | ⟨_, _, h⟩
  · exact kind_of_entryObjection? h
  · split at h
    · rw [List.mem_singleton.1 h]
      decide
    · cases h
  · exact kind_of_assetObjection? h
  · exact kind_of_musicObjection? h
  · exact kind_of_transitionObjection? h

/-! ## The main statement -/

theorem exists_compileEntries_eq_ok_iff {encoding : Encoding} {entries : List Entry}
    {assets : AssetTable} {track : Option AudioTrack} {settings : RenderSettings} :
    (∃ plan, compileEntries encoding entries assets track settings = .ok plan) ↔
      Admissible entries assets true track := by
  rw [← refusal?_eq_none_iff, refusal?_compileEntries, List.head?_eq_none_iff,
    objections_eq_nil_iff]

/-- **What is compiled, and what is reported otherwise.** A plan is given exactly for admissible
input, and what is reported otherwise is the first objection. The check before the files are looked
at does the same, but asks neither for music nor for the lengths of videos; it gives the timeline of
the entries. Every report is of one of six kinds. -/
theorem compileEntries_exact (encoding : Encoding) (entries : List Entry) (assets : AssetTable)
    (track : Option AudioTrack) (settings : RenderSettings) :
    ((∃ plan, compileEntries encoding entries assets track settings = .ok plan) ↔
        Admissible entries assets true track) ∧
      (∀ problem, compileEntries encoding entries assets track settings = .error problem ↔
        (objections entries assets true track).head? = some problem) ∧
      (∀ t, validateEntries entries assets = .ok t ↔
        t = .layOut entries ∧ Admissible entries assets false none) ∧
      (∀ problem, validateEntries entries assets = .error problem ↔
        (objections entries assets false none).head? = some problem) ∧
      (objections entries assets true track).map Problem.kind ⊆ objectionKinds ∧
      (objections entries assets false none).map Problem.kind ⊆ objectionKinds := by
  refine ⟨exists_compileEntries_eq_ok_iff, fun problem => ?_, fun t => ?_, fun problem => ?_,
    map_kind_objections_subset _ _ _ _, map_kind_objections_subset _ _ _ _⟩
  · rw [← refusal?_eq_some_iff, refusal?_compileEntries]
  · rw [← objections_eq_nil_iff, ← List.head?_eq_none_iff, ← refusal?_validateEntries]
    constructor
    · intro passed
      exact ⟨eq_layOut_of_validateEntries passed, by rw [passed]; rfl⟩
    · rintro ⟨rfl, passed⟩
      obtain ⟨t, valid⟩ := refusal?_eq_none_iff.1 passed
      rw [valid, eq_layOut_of_validateEntries valid]
  · rw [← refusal?_eq_some_iff, refusal?_validateEntries]

end Splice.Compile
