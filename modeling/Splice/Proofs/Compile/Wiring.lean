import Mathlib.Data.List.Count
import Splice.Proofs.Compile.Parts
import Splice.Proofs.Plan.WellFormed

/-!
# The wiring of the compiler's plans

Every plan that the compiler gives is well formed (`compileEntries_wellFormed`).

* `Grounded` says that stages take only what is there when they come; it holds of the stages of each
  part, and of all of them one after the other (`grounded_assemble`).
* `Account` is one account of all labels of a plan: what is given is what is taken between the
  stages, together with the labels of the result, and what is taken is that together with the streams
  of the inputs. How often a label is given and taken can be read off it.
-/

namespace Splice.Compile

/-! ## Earlier stages -/

/-- Every stage takes only labels that are known or that a stage before it gives. -/
def Grounded (known : List String) : List Stage → Prop
  | [] => True
  | stage :: rest => stage.inputs ⊆ known ∧ Grounded (stage.output :: known) rest

theorem Grounded.mono {known others : List String} {stages : List Stage}
    (h : Grounded known stages) (more : known ⊆ others) : Grounded others stages := by
  induction stages generalizing known others with
  | nil => trivial
  | cons stage rest ih => exact ⟨List.Subset.trans h.1 more, ih h.2 (List.cons_subset_cons _ more)⟩

theorem Grounded.append {known : List String} {stages later : List Stage}
    (h : Grounded known stages) (h' : Grounded (stages.map Stage.output ++ known) later) :
    Grounded known (stages ++ later) := by
  induction stages generalizing known with
  | nil => exact h'
  | cons stage rest ih =>
    refine ⟨h.1, ih h.2 (h'.mono ?_)⟩
    intro label
    simp only [List.map_cons, List.cons_append, List.mem_cons, List.mem_append]
    tauto

theorem Grounded.mem {known : List String} {before : List Stage} {stage : Stage}
    {after : List Stage} (h : Grounded known (before ++ stage :: after)) {label : String}
    (taken : label ∈ stage.inputs) : label ∈ known ∨ label ∈ before.map Stage.output := by
  induction before generalizing known with
  | nil => exact .inl (h.1 taken)
  | cons first rest ih =>
    rcases ih h.2 with mem | mem
    · rcases List.mem_cons.1 mem with rfl | mem
      · exact .inr List.mem_cons_self
      · exact .inl mem
    · exact .inr (List.mem_cons_of_mem _ mem)

theorem grounded_normalize {known : List String} (settings : RenderSettings) (labels : Labels)
    {pairs : List (InputDeclaration × Clip)} (pads : pairs.map (·.1.videoPad) ⊆ known) :
    Grounded known (normalize settings labels pairs).1 := by
  induction pairs generalizing known labels with
  | nil => trivial
  | cons pair rest ih =>
    rw [List.map_cons, List.cons_subset] at pads
    refine ⟨?_, ih _ (List.Subset.trans pads.2 (List.subset_cons_self _ _))⟩
    exact List.cons_subset.2 ⟨pads.1, List.nil_subset _⟩

theorem grounded_joinAll {known : List String} (labels : Labels) {previous : String}
    (before : String) {pairs : List (Join × Normalized)} (here : previous ∈ known)
    (clips : pairs.map (·.2.label) ⊆ known) :
    Grounded known (joinAll labels previous before pairs).1 := by
  induction pairs generalizing known labels previous before with
  | nil => trivial
  | cons pair rest ih =>
    obtain ⟨join, clip⟩ := pair
    rw [List.map_cons, List.cons_subset] at clips
    have sources : [previous, clip.label] ⊆ known :=
      List.cons_subset.2 ⟨here, List.cons_subset.2 ⟨clips.1, List.nil_subset _⟩⟩
    cases rest with
    | nil => exact ⟨sources, trivial⟩
    | cons next rest =>
      rw [joinAll_cons_cons]
      refine ⟨sources, ih _ _ List.mem_cons_self ?_⟩
      exact List.Subset.trans clips.2 (List.subset_cons_self _ _)

theorem grounded_joinClips {known : List String} (labels : Labels) {clips : List Normalized}
    (joins : List Join) (here : clips.map Normalized.label ⊆ known) :
    Grounded known (joinClips labels clips joins).1 := by
  match clips with
  | [] => trivial
  | [clip] => exact ⟨here, trivial⟩
  | clip :: next :: rest =>
    rw [List.map_cons, List.cons_subset] at here
    refine grounded_joinAll labels clip.entryId here.1 ?_
    intro label mem
    obtain ⟨⟨join, other⟩, pair, rfl⟩ := List.mem_map.1 mem
    exact here.2 (List.mem_map_of_mem (List.of_mem_zip pair).2)

theorem grounded_mixAudio {known : List String} (labels : Labels) (track : AudioTrack)
    (sounding : List InputDeclaration) (music : InputDeclaration)
    (pads : mixedPads track sounding music ⊆ known) :
    Grounded known (mixAudio labels track sounding music) := by
  have first (output : String) :
      (mixOrMusic track sounding music output).inputs ⊆ known := by
    rw [inputs_mixOrMusic]
    exact pads
  rw [mixAudio_eq]
  split
  · refine ⟨first _, ?_, trivial⟩
    rw [output_mixOrMusic]
    exact List.cons_subset.2 ⟨List.mem_cons_self, List.nil_subset _⟩
  · exact ⟨first _, trivial⟩

/-! ## The labels of the streams that are taken -/

/-- What depends on nothing but the number of an input, for all inputs of clips. -/
theorem map_clipInputs {β : Type} (settings : RenderSettings) (clips : List Clip)
    {f : InputDeclaration → β} {g : Nat → β} (h : ∀ i clip, f (clipInput settings i clip) = g i) :
    (clipInputs settings 0 clips).map f = (List.range clips.length).map g := by
  have numbers : (clips.zipIdx).map Prod.snd = List.range clips.length := by
    rw [List.zipIdx_map_snd, List.range_eq_range']
  rw [clipInputs_eq, ← numbers, List.map_map, List.map_map]
  exact List.map_congr_left fun pair _ => h pair.2 pair.1

theorem map_videoPad_clipInputs (settings : RenderSettings) (clips : List Clip) :
    (clipInputs settings 0 clips).map InputDeclaration.videoPad =
      (List.range clips.length).map picturePad :=
  map_clipInputs settings clips fun _ _ => InputDeclaration.videoPad_eq rfl

theorem map_audioPad_clipInputs (settings : RenderSettings) (clips : List Clip) :
    (clipInputs settings 0 clips).map InputDeclaration.audioPad =
      (List.range clips.length).map soundPad :=
  map_clipInputs settings clips fun _ _ => InputDeclaration.audioPad_eq rfl

theorem map_entryId_clipInputs (settings : RenderSettings) (clips : List Clip) :
    (clipInputs settings 0 clips).map InputDeclaration.entryId =
      clips.map fun clip => some clip.row.entry.id := by
  have firsts : clips.zipIdx.map Prod.fst = clips := List.zipIdx_map_fst 0 clips
  conv_rhs => rw [← firsts, List.map_map]
  rw [clipInputs_eq, List.map_map]
  rfl

theorem length_clipInputs (settings : RenderSettings) (clips : List Clip) :
    (clipInputs settings 0 clips).length = clips.length := by
  rw [clipInputs_eq, List.length_map, List.length_zipIdx]

theorem map_fst_zip_clipInputs (settings : RenderSettings) (clips : List Clip) :
    ((clipInputs settings 0 clips).zip clips).map Prod.fst = clipInputs settings 0 clips :=
  List.map_fst_zip (length_clipInputs settings clips).le

/-- The sounds that are mixed are among the sounds of the inputs, in order. -/
theorem mixedPads_sublist (settings : RenderSettings) (clips : List Clip) (track : AudioTrack)
    (asset : MediaAsset) :
    (mixedPads track (soundingInputs ((clipInputs settings 0 clips).zip clips))
      (musicInput clips.length asset)).Sublist ((List.range (clips.length + 1)).map soundPad) := by
  have sounding : (soundingInputs ((clipInputs settings 0 clips).zip clips)).Sublist
      (clipInputs settings 0 clips) := by
    have chosen := (List.filter_sublist (p := fun (pair : InputDeclaration × Clip) =>
      pair.1.kind == .video && pair.2.asset.hasAudio)
      (l := (clipInputs settings 0 clips).zip clips)).map Prod.fst
    rwa [map_fst_zip_clipInputs] at chosen
  have music : (musicInput clips.length asset).audioPad = soundPad clips.length :=
    InputDeclaration.audioPad_eq rfl
  rw [List.range_succ, List.map_append, List.map_singleton, mixedPads, music]
  refine List.Sublist.append ?_ (List.Sublist.refl _)
  split
  · rw [← map_audioPad_clipInputs settings]
    exact sounding.map _
  · exact List.nil_sublist _

/-- The sounds of inputs that the stages of a plan take. -/
def takenSounds (settings : RenderSettings) (clips : List Clip) :
    Option (AudioTrack × MediaAsset) → List String
  | none => []
  | some (track, asset) =>
    mixedPads track (soundingInputs ((clipInputs settings 0 clips).zip clips))
      (musicInput clips.length asset)

theorem takenSounds_sublist (settings : RenderSettings) (clips : List Clip)
    (music : Option (AudioTrack × MediaAsset)) :
    (takenSounds settings clips music).Sublist ((List.range (clips.length + 1)).map soundPad) := by
  cases music with
  | none => exact List.nil_sublist _
  | some pair => exact mixedPads_sublist settings clips pair.1 pair.2

theorem flatMap_inputs_normalizing (settings : RenderSettings) (clips : List Clip) :
    (normalizing settings clips).1.flatMap Stage.inputs =
      (List.range clips.length).map picturePad := by
  rw [normalizing, flatMap_inputs_normalize, ← map_videoPad_clipInputs settings]
  conv_rhs => rw [← map_fst_zip_clipInputs settings clips, List.map_map]
  rfl

/-! ## The account of a plan's labels -/

/-- All labels of a plan for `n` clips. Those before the finished picture are given and taken, and
so are those behind it, but for the finished sound; what is taken besides are streams of inputs. -/
structure Account (p : Plan) (n : Nat) (music : Bool) (before behind sounds : List String) :
    Prop where
  outputs_eq : p.outputs =
    before ++ Labels.video :: (behind ++ if music then [Labels.audio] else [])
  consumed_perm :
    p.consumed.Perm ((List.range n).map picturePad ++ sounds ++ (before ++ behind))
  sound : Labels.Sound ⟨before ++ behind ++ [Labels.video, Labels.audio], []⟩
  sounds_sublist : sounds.Sublist ((List.range (n + 1)).map soundPad)

/-- What joining the clips adds to the labels of the clips. -/
theorem exists_fresh_joining (settings : RenderSettings) {clips : List Clip} {joins : List Join}
    (filled : clips ≠ []) (enough : joins.length = clips.length - 1) :
    ∃ fresh, (joining settings clips joins).1.map Stage.output = fresh ++ [Labels.video] ∧
      ((joining settings clips joins).1.flatMap Stage.inputs).Perm
        ((normalizing settings clips).1.map Stage.output ++ fresh) ∧
      (joining settings clips joins).2.used =
        fresh.reverse ++ ((normalizing settings clips).1.map Stage.output).reverse ++
          [Labels.video, Labels.audio] := by
  have lengths := length_normalizing settings clips
  have labels := map_label_normalizedClips lengths
  have same : (normalizedClips (normalizing settings clips).1 clips).length = clips.length := by
    rw [← List.length_map Normalized.label, labels, List.length_map, lengths]
  have nonempty : normalizedClips (normalizing settings clips).1 clips ≠ [] := by
    rw [← List.length_pos_iff, same]
    exact List.length_pos_iff.2 filled
  obtain ⟨fresh, given, taken, used⟩ := exists_fresh_joinClips (normalizing settings clips).2
    nonempty (by rw [enough, same])
  refine ⟨fresh, given, by rwa [labels] at taken, used.trans ?_⟩
  rw [normalizing, used_normalize, List.append_assoc]
  rfl

theorem sound_joining (settings : RenderSettings) (clips : List Clip) (joins : List Join) :
    (joining settings clips joins).2.Sound :=
  sound_joinClips (sound_normalize settings Labels.sound_start _) _ joins

/-- What the music adds to the labels of the picture. -/
theorem exists_mixed_mixing (settings : RenderSettings) (clips : List Clip) (joins : List Join)
    (music : Option (AudioTrack × MediaAsset)) :
    ∃ mixed,
      (mixing settings clips joins music).map Stage.output =
        mixed ++ (if music.isSome then [Labels.audio] else []) ∧
      (mixing settings clips joins music).flatMap Stage.inputs =
        takenSounds settings clips music ++ mixed ∧
      Labels.Sound ⟨mixed ++ (joining settings clips joins).2.used, []⟩ := by
  have labels := sound_joining settings clips joins
  cases music with
  | none => exact ⟨[], rfl, rfl, labels.nodup, labels.plain⟩
  | some pair =>
    obtain ⟨track, asset⟩ := pair
    exact exists_mixed_mixAudio labels track
      (soundingInputs ((clipInputs settings 0 clips).zip clips)) (musicInput clips.length asset)

theorem exists_account_assemble (encoding : Encoding) (settings : RenderSettings) (total : Float)
    {clips : List Clip} {joins : List Join} (music : Option (AudioTrack × MediaAsset))
    (filled : clips ≠ []) (enough : joins.length = clips.length - 1) :
    ∃ before behind, Account (assemble encoding settings total clips joins music)
      clips.length music.isSome before behind (takenSounds settings clips music) := by
  obtain ⟨fresh, given, taken, used⟩ := exists_fresh_joining settings filled enough
  obtain ⟨mixed, givenBehind, takenBehind, sound⟩ :=
    exists_mixed_mixing settings clips joins music
  -- labels were handed out last first, but all that matters is how often each occurs
  have reordered : (mixed ++ (joining settings clips joins).2.used).Perm
      ((normalizing settings clips).1.map Stage.output ++ fresh ++ mixed ++
        [Labels.video, Labels.audio]) := by
    rw [used, List.perm_iff_count]
    intro label
    simp only [List.count_append, List.count_reverse]
    omega
  refine ⟨(normalizing settings clips).1.map Stage.output ++ fresh, mixed, ?_, ?_, ?_,
    takenSounds_sublist settings clips music⟩
  · rw [Plan.outputs, stages_assemble, List.map_append, List.map_append, given, givenBehind]
    simp only [List.append_assoc, List.cons_append, List.nil_append]
  · rw [Plan.consumed, stages_assemble, List.flatMap_append, List.flatMap_append,
      flatMap_inputs_normalizing, takenBehind, List.perm_iff_count]
    intro label
    have counts := taken.count_eq label
    simp only [List.count_append] at counts ⊢
    omega
  · exact ⟨reordered.nodup_iff.1 sound.nodup, fun label mem =>
      sound.plain label (reordered.mem_iff.2 mem)⟩

namespace Account

variable {p : Plan} {n : Nat} {music : Bool} {before behind sounds : List String}
  (account : Account p n music before behind sounds)

include account

theorem count_consumed (label : String) :
    p.consumed.count label = ((List.range n).map picturePad).count label + sounds.count label +
      (before ++ behind).count label := by
  rw [account.consumed_perm.count_eq, List.count_append, List.count_append]

theorem eq_soundPad_of_mem {label : String} (mem : label ∈ sounds) : ∃ k, label = soundPad k := by
  obtain ⟨k, -, rfl⟩ := List.mem_map.1 (account.sounds_sublist.subset mem)
  exact ⟨k, rfl⟩

theorem plain_of_mem {label : String} (mem : label ∈ before ++ behind) : Labels.Plain label :=
  account.sound.plain label (List.mem_append_left _ mem)

/-- A label that is no stream of an input is taken as often as it stands between the stages. -/
theorem count_consumed_of_plain {label : String} (plain : Labels.Plain label) :
    p.consumed.count label = (before ++ behind).count label := by
  have noPicture : label ∉ (List.range n).map picturePad := by
    intro mem
    obtain ⟨k, -, rfl⟩ := List.mem_map.1 mem
    exact not_plain_picturePad k plain
  have noSound : label ∉ sounds := by
    intro mem
    obtain ⟨k, rfl⟩ := account.eq_soundPad_of_mem mem
    exact not_plain_soundPad k plain
  rw [account.count_consumed, List.count_eq_zero_of_not_mem noPicture,
    List.count_eq_zero_of_not_mem noSound]
  omega

theorem count_consumed_picturePad (k : Nat) :
    p.consumed.count (picturePad k) = if k < n then 1 else 0 := by
  have noSound : picturePad k ∉ sounds := by
    intro mem
    obtain ⟨j, same⟩ := account.eq_soundPad_of_mem mem
    exact picturePad_ne_soundPad k j same
  have noLabel : picturePad k ∉ before ++ behind := fun mem =>
    not_plain_picturePad k (account.plain_of_mem mem)
  have pictures : ((List.range n).map picturePad).count (picturePad k) = (List.range n).count k :=
    List.count_map_of_injective _ _ picturePad_injective _
  rw [account.count_consumed, List.count_eq_zero_of_not_mem noSound,
    List.count_eq_zero_of_not_mem noLabel, pictures, List.nodup_range.count]
  simp only [List.mem_range, Nat.add_zero]

theorem count_consumed_soundPad (k : Nat) :
    p.consumed.count (soundPad k) = sounds.count (soundPad k) := by
  have noPicture : soundPad k ∉ (List.range n).map picturePad := by
    intro mem
    obtain ⟨j, -, same⟩ := List.mem_map.1 mem
    exact picturePad_ne_soundPad j k same
  have noLabel : soundPad k ∉ before ++ behind := fun mem =>
    not_plain_soundPad k (account.plain_of_mem mem)
  rw [account.count_consumed, List.count_eq_zero_of_not_mem noPicture,
    List.count_eq_zero_of_not_mem noLabel, Nat.zero_add, Nat.add_zero]

theorem count_consumed_soundPad_le (k : Nat) : p.consumed.count (soundPad k) ≤ 1 := by
  rw [account.count_consumed_soundPad]
  have distinct : sounds.Nodup :=
    account.sounds_sublist.nodup (List.nodup_range.map soundPad_injective)
  exact List.nodup_iff_count_le_one.1 distinct (soundPad k)

/-- What leaves the graph stands nowhere between the stages. -/
theorem not_mem_of_leaves {label : String} (leaves : label = Labels.video ∨ label = Labels.audio) :
    label ∉ before ++ behind := by
  intro mem
  have apart := (List.nodup_append'.1 account.sound.nodup).2.2
  refine List.disjoint_left.1 apart mem ?_
  rcases leaves with rfl | rfl <;> simp

theorem not_mem_consumed_of_leaves {label : String}
    (leaves : label = Labels.video ∨ label = Labels.audio) : label ∉ p.consumed := by
  have plain : Labels.Plain label := by rcases leaves with rfl | rfl <;> decide
  rw [← List.count_eq_zero, account.count_consumed_of_plain plain]
  exact List.count_eq_zero_of_not_mem (account.not_mem_of_leaves leaves)

theorem count_outputs (label : String) :
    p.outputs.count label = (before ++ behind).count label +
      [Labels.video].count label + (if music then [Labels.audio] else []).count label := by
  rw [account.outputs_eq]
  simp only [List.count_append, List.count_cons, List.count_nil]
  omega

theorem outputs_nodup : p.outputs.Nodup := by
  refine List.nodup_iff_count_le_one.2 fun label => ?_
  have once := List.nodup_iff_count_le_one.1 account.sound.nodup label
  have fewer : (if music then [Labels.audio] else []).count label ≤ [Labels.audio].count label := by
    cases music with
    | false => exact Nat.zero_le _
    | true => exact le_rfl
  have both : [Labels.video, Labels.audio].count label =
      [Labels.video].count label + [Labels.audio].count label := by
    rw [← List.count_append]
    rfl
  rw [List.count_append, both] at once
  rw [account.count_outputs]
  omega

theorem mem_outputs_iff {label : String} : label ∈ p.outputs ↔
    label ∈ before ++ behind ∨ label = Labels.video ∨ music = true ∧ label = Labels.audio := by
  rw [account.outputs_eq]
  cases music <;> simp <;> tauto

theorem plain_of_mem_outputs {label : String} (given : label ∈ p.outputs) :
    Labels.Plain label := by
  rcases account.mem_outputs_iff.1 given with mem | rfl | ⟨-, rfl⟩
  · exact account.plain_of_mem mem
  · decide
  · decide

theorem count_consumed_of_mem_outputs {label : String} (given : label ∈ p.outputs)
    (noVideo : label ≠ Labels.video) (noAudio : label ≠ Labels.audio) :
    p.consumed.count label = 1 := by
  rcases account.mem_outputs_iff.1 given with mem | rfl | ⟨-, rfl⟩
  · rw [account.count_consumed_of_plain (account.plain_of_mem mem)]
    exact List.count_eq_one_of_mem (List.nodup_append'.1 account.sound.nodup).1 mem
  · exact absurd rfl noVideo
  · exact absurd rfl noAudio

theorem count_outputs_video : p.outputs.count Labels.video = 1 :=
  List.count_eq_one_of_mem account.outputs_nodup (account.mem_outputs_iff.2 (.inr (.inl rfl)))

theorem count_outputs_audio (some : music = true) : p.outputs.count Labels.audio = 1 :=
  List.count_eq_one_of_mem account.outputs_nodup
    (account.mem_outputs_iff.2 (.inr (.inr ⟨some, rfl⟩)))

theorem audio_not_mem_outputs (none : music = false) : Labels.audio ∉ p.outputs := by
  intro given
  rcases account.mem_outputs_iff.1 given with mem | same | ⟨some, -⟩
  · exact account.not_mem_of_leaves (.inr rfl) mem
  · exact absurd same (by decide)
  · rw [none] at some
    cases some

/-- What leaves the graph, in the order in which it is given. -/
theorem filter_outputs :
    (p.outputs.filter fun label => label = Labels.video ∨ label = Labels.audio) =
      Labels.video :: if music then [Labels.audio] else [] := by
  have inside : ∀ labels ⊆ before ++ behind,
      (labels.filter fun label => label = Labels.video ∨ label = Labels.audio) = [] := by
    intro labels some
    refine List.filter_eq_nil_iff.2 fun label mem => ?_
    rw [decide_eq_true_eq]
    exact fun leaves => account.not_mem_of_leaves leaves (some mem)
  rw [account.outputs_eq, List.filter_append, inside before (List.subset_append_left _ _),
    List.filter_cons_of_pos (by decide), List.filter_append,
    inside behind (List.subset_append_right _ _)]
  cases music <;> rfl

end Account

/-! ## Plans of the compiler -/

section Assembled

variable (encoding : Encoding) (settings : RenderSettings) (total : Float) (clips : List Clip)
  (joins : List Join) (music : Option (AudioTrack × MediaAsset))

/-- The inputs are those of the clips, and that of the music behind them. -/
theorem getElem?_inputs_assemble_eq_some_iff {k : Nat} {d : InputDeclaration} :
    (assemble encoding settings total clips joins music).inputs[k]? = some d ↔
      (∃ clip, clips[k]? = some clip ∧ d = clipInput settings k clip) ∨
        k = clips.length ∧ ∃ pair, music = some pair ∧ d = musicInput k pair.2 := by
  rw [inputs_assemble]
  rcases lt_or_ge k clips.length with inside | beyond
  · rw [List.getElem?_append_left (by rwa [length_clipInputs]), clipInputs_eq, List.getElem?_map,
      List.getElem?_zipIdx, List.getElem?_eq_getElem inside]
    constructor
    · rintro ⟨⟩
      exact .inl ⟨clips[k], rfl, by simp⟩
    · rintro (⟨clip, here, rfl⟩ | ⟨rfl, -⟩)
      · cases here
        simp
      · omega
  · rw [List.getElem?_append_right (by rwa [length_clipInputs]), length_clipInputs,
      List.getElem?_eq_none beyond]
    cases music with
    | none => simp [musicInputs]
    | some pair =>
      rw [musicInputs, Option.toList_some, List.map_singleton, List.getElem?_singleton]
      constructor
      · intro here
        split at here
        case isTrue last =>
          cases here
          have same : k = clips.length := by omega
          exact .inr ⟨same, pair, rfl, by rw [same]⟩
        case isFalse => cases here
      · rintro (⟨clip, ⟨⟩, -⟩ | ⟨rfl, other, ⟨⟩, rfl⟩)
        simp

theorem map_entryId_inputs_assemble :
    (assemble encoding settings total clips joins music).inputs.map InputDeclaration.entryId =
      clips.map (fun clip => some clip.row.entry.id) ++ if music.isSome then [none] else [] := by
  rw [inputs_assemble, List.map_append, map_entryId_clipInputs]
  cases music <;> rfl

/-- Every stage takes only streams of inputs and labels of stages before it. -/
theorem grounded_assemble {p : Plan}
    (made : p = assemble encoding settings total clips joins music) :
    Grounded (p.inputs.map InputDeclaration.videoPad ++ p.inputs.map InputDeclaration.audioPad)
      p.stages := by
  have inputs : p.inputs = clipInputs settings 0 clips ++ musicInputs clips.length music := by
    rw [made, inputs_assemble]
  have pictures : (clipInputs settings 0 clips).map InputDeclaration.videoPad ⊆
      p.inputs.map InputDeclaration.videoPad := by
    rw [inputs]
    exact List.map_subset _ (List.subset_append_left _ _)
  have stages := stages_assemble encoding settings total clips joins music
  rw [← made, List.append_assoc] at stages
  rw [stages]
  refine Grounded.append (grounded_normalize settings _ ?_) (Grounded.append ?_ ?_)
  · rw [← map_fst_zip_clipInputs settings clips, List.map_map] at pictures
    exact List.Subset.trans pictures (List.subset_append_left _ _)
  · refine grounded_joinClips _ joins ?_
    rw [map_label_normalizedClips (length_normalizing settings clips)]
    exact List.subset_append_left _ _
  · cases music with
    | none => trivial
    | some pair =>
      refine grounded_mixAudio _ pair.1 _ _ ?_
      have sounds : mixedPads pair.1 (soundingInputs ((clipInputs settings 0 clips).zip clips))
          (musicInput clips.length pair.2) ⊆ p.inputs.map InputDeclaration.audioPad := by
        rw [inputs, List.map_append, map_audioPad_clipInputs,
          show (musicInputs clips.length (some pair)).map InputDeclaration.audioPad =
            [soundPad clips.length] from rfl, ← List.map_singleton, ← List.map_append,
          ← List.range_succ]
        exact (mixedPads_sublist settings clips pair.1 pair.2).subset
      intro label mem
      exact List.mem_append_right _ (List.mem_append_right _ (List.mem_append_right _ (sounds mem)))

end Assembled

/-- The plan for clips is well formed, if there are as many joins as places between them. -/
theorem wellFormed_assemble (encoding : Encoding) (settings : RenderSettings) (total : Float)
    {clips : List Clip} {joins : List Join} (music : Option (AudioTrack × MediaAsset))
    (filled : clips ≠ []) (enough : joins.length = clips.length - 1) :
    (assemble encoding settings total clips joins music).WellFormed
      (clips.map fun clip => clip.row.entry) music.isSome := by
  have grounded := grounded_assemble encoding settings total clips joins music rfl
  have numbered (k : Nat) (d : InputDeclaration) :=
    getElem?_inputs_assemble_eq_some_iff encoding settings total clips joins music (k := k) (d := d)
  have ids := map_entryId_inputs_assemble encoding settings total clips joins music
  have mappings : (assemble encoding settings total clips joins music).mappings =
      (Labels.video :: if music.isSome then [Labels.audio] else []).map bracketed := by
    cases music <;> rfl
  obtain ⟨before, behind, account⟩ :=
    exists_account_assemble encoding settings total music filled enough
  generalize assemble encoding settings total clips joins music = p at *
  have indexed (k : Nat) (d : InputDeclaration) (here : p.inputs[k]? = some d) : d.index = k := by
    rcases (numbered k d).1 here with ⟨clip, -, rfl⟩ | ⟨-, pair, -, rfl⟩
    · rfl
    · rfl
  have inputs {d : InputDeclaration} (mem : d ∈ p.inputs) :
      (∃ k clip, clips[k]? = some clip ∧ d = clipInput settings k clip) ∨
        ∃ pair, music = some pair ∧ d = musicInput clips.length pair.2 := by
    obtain ⟨k, here⟩ := List.mem_iff_getElem?.1 mem
    rcases (numbered k d).1 here with ⟨clip, at_k, rfl⟩ | ⟨rfl, last⟩
    · exact .inl ⟨k, clip, at_k, rfl⟩
    · exact .inr last
  constructor
  case outputs_nodup => exact account.outputs_nodup
  case grounded =>
    intro before stage after split label taken
    rw [split] at grounded
    rcases grounded.mem taken with known | given
    · refine .inl ?_
      rcases List.mem_append.1 known with mem | mem
      · obtain ⟨d, declared, rfl⟩ := List.mem_map.1 mem
        exact ⟨d, declared, .inl rfl⟩
      · obtain ⟨d, declared, rfl⟩ := List.mem_map.1 mem
        exact ⟨d, declared, .inr rfl⟩
    · exact .inr given
  case inputs_not_given =>
    intro d mem
    obtain ⟨k, here⟩ := List.mem_iff_getElem?.1 mem
    rw [InputDeclaration.videoPad_eq (indexed k d here),
      InputDeclaration.audioPad_eq (indexed k d here)]
    exact ⟨fun given => not_plain_picturePad k (account.plain_of_mem_outputs given),
      fun given => not_plain_soundPad k (account.plain_of_mem_outputs given)⟩
  case inner_once => exact fun label => account.count_consumed_of_mem_outputs
  case picture_leaves =>
    exact ⟨account.count_outputs_video, account.not_mem_consumed_of_leaves (.inl rfl)⟩
  case sound_leaves =>
    exact fun some =>
      ⟨account.count_outputs_audio some, account.not_mem_consumed_of_leaves (.inr rfl)⟩
  case no_sound =>
    exact fun none =>
      ⟨account.audio_not_mem_outputs none, account.not_mem_consumed_of_leaves (.inr rfl)⟩
  case index_eq => exact indexed
  case map_entryId =>
    rw [ids, List.map_map]
    rfl
  case picture_once =>
    intro d mem ofEntry
    rcases inputs mem with ⟨k, clip, at_k, rfl⟩ | ⟨pair, -, rfl⟩
    · obtain ⟨inside, -⟩ := List.getElem?_eq_some_iff.1 at_k
      rw [InputDeclaration.videoPad_eq (k := k) rfl, account.count_consumed_picturePad,
        if_pos inside]
    · exact absurd rfl ofEntry
  case music_unseen =>
    intro d mem ofMusic
    rcases inputs mem with ⟨k, clip, -, rfl⟩ | ⟨pair, -, rfl⟩
    · cases ofMusic
    · rw [← List.count_eq_zero, InputDeclaration.videoPad_eq (k := clips.length) rfl,
        account.count_consumed_picturePad, if_neg (lt_irrefl _)]
  case sound_once =>
    intro d mem
    rcases inputs mem with ⟨k, clip, -, rfl⟩ | ⟨pair, -, rfl⟩
    · exact account.count_consumed_soundPad_le k
    · exact account.count_consumed_soundPad_le clips.length
  case mappings_eq =>
    rw [mappings, ← account.filter_outputs]
    rfl

section

variable {entries : List Entry} {assets : AssetTable} {track : Option AudioTrack}
  {clips : List Clip} {music : Option (AudioTrack × MediaAsset)} {joins : List Join}
  (passed : Passed entries assets track clips music joins) (encoding : Encoding)
  (settings : RenderSettings) (total : Float)
include passed

/-- There are clips, and a join at every place between two of them. -/
theorem Passed.filled : clips ≠ [] ∧ joins.length = clips.length - 1 := by
  have lengths : clips.length = (schedule entries).length := by
    rw [← passed.map_row, List.length_map]
  refine ⟨?_, by rw [length_of_resolveJoins passed.resolved, lengths]⟩
  rw [← List.length_pos_iff, lengths, length_schedule]
  exact List.length_pos_iff.2 passed.nonempty

theorem Passed.wellFormed :
    (assemble encoding settings total clips joins music).WellFormed entries track.isSome := by
  have wired := wellFormed_assemble encoding settings total music passed.filled.1 passed.filled.2
  rwa [passed.map_entry, isSome_of_findMusic? passed.found] at wired

/-- A stream of an input that a stage takes is that of an input of the plan. -/
theorem Passed.lt_length_inputs {stage : Stage}
    (mem : stage ∈ (assemble encoding settings total clips joins music).stages) {label : String}
    (taken : label ∈ stage.inputs) {k : Nat} (pad : label = picturePad k ∨ label = soundPad k) :
    k < (assemble encoding settings total clips joins music).inputs.length := by
  have wired := passed.wellFormed encoding settings total
  obtain ⟨before, behind, account⟩ :=
    exists_account_assemble encoding settings total music passed.filled.1 passed.filled.2
  generalize assemble encoding settings total clips joins music = p at *
  obtain ⟨earlier, later, split⟩ := List.append_of_mem mem
  rcases wired.grounded earlier stage later split label taken with ⟨d, declared, ofInput⟩ | given
  · obtain ⟨j, here⟩ := List.mem_iff_getElem?.1 declared
    obtain ⟨inside, -⟩ := List.getElem?_eq_some_iff.1 here
    have index := wired.index_eq j d here
    rw [d.videoPad_eq index, d.audioPad_eq index] at ofInput
    have same : k = j := by
      rcases pad with rfl | rfl <;> rcases ofInput with pad | pad
      · exact picturePad_injective pad
      · exact absurd pad (picturePad_ne_soundPad k j)
      · exact absurd pad.symm (picturePad_ne_soundPad j k)
      · exact soundPad_injective pad
    rwa [same]
  · have listed : label ∈ p.outputs := by
      rw [Plan.outputs, split, List.map_append]
      exact List.mem_append_left _ given
    have plain := account.plain_of_mem_outputs listed
    rcases pad with rfl | rfl
    · exact absurd plain (not_plain_picturePad k)
    · exact absurd plain (not_plain_soundPad k)

end

/-- **The graph of every plan is well formed**, however long the timeline is and however its clips
are joined and its sounds are mixed. -/
theorem compileEntries_wellFormed {encoding : Encoding} {entries : List Entry}
    {assets : AssetTable} {track : Option AudioTrack} {settings : RenderSettings} {plan : Plan}
    (h : compileEntries encoding entries assets track settings = .ok plan) :
    plan.WellFormed entries track.isSome := by
  obtain ⟨clips, music, joins, passed, rfl⟩ := exists_passed_of_compileEntries h
  exact passed.wellFormed encoding settings _

/-- Two clips of a video are blended, a picture is put behind them, and music is mixed in. -/
theorem compileEntries_wellFormed_three_clips :
    let blend : Transition := .known .crossfade
    let entries : List Entry := [⟨"a", "film", 4.0, blend, .real 1.0⟩,
      ⟨"b", "film", 2.5, .known .cut, .real 1.0⟩, ⟨"c", "still", 3.0, .unknown "?", .real 1.0⟩]
    let assets : AssetTable := [("film", ⟨"film", .video, "film.mp4", some 9.0, true⟩),
      ("still", ⟨"still", .image, "still.png", none, false⟩),
      ("song", ⟨"song", .audio, "song.mp3", some 60.0, true⟩)]
    let track : AudioTrack := ⟨"song", .mix, 0.8, 1.0, 0.5⟩
    ∃ plan, compileEntries ⟨.whole 23, "192k"⟩ entries assets (some track)
      ⟨.mp4, 1280, 720, .fast, 30⟩ = .ok plan ∧ plan.WellFormed entries true := by
  intro blend entries assets track
  have admissible : Admissible entries assets true (some track) := by
    refine ⟨by decide, by decide, by simp [entries], ?_, ?_, ?_⟩
    · simp [entries, assets, Table.get?]
    · simp [track, assets, Table.get?]
    · have lasting : ¬ (1.0 : Float) ≤ 0 := by decide
      simp [entries, blend, Amount.value, lasting]
  obtain ⟨plan, made⟩ := exists_compileEntries_eq_ok_iff.2 admissible
  exact ⟨plan, made, compileEntries_wellFormed made⟩

end Splice.Compile
