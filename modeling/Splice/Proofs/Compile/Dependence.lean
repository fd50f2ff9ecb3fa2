import Mathlib.Data.List.Forall2
import Mathlib.Logic.Relation
import Splice.Export.Request
import Splice.Proofs.Compile.Parts

/-!
# What a plan depends on

Two calls of the compiler are compared. They agree if they cannot be told apart by what a plan may
depend on: where the entries stand, how all but the last go over into the next, what is known of
the assets that are referred to, the music and the render settings. Calls that agree give the same
plan, or both are refused with problems of one kind (`outcome_alike`).

The comparison follows the compiler: `Alike` relates two outcomes, `Alike.bind` two sequences of
steps, and each part of the compiler takes related arguments to related outcomes (`alike_ofEntries`,
`alike_findVisuals`, `alike_resolveJoins`, `alike_compile`). `Immaterial` lists the changes that a
plan must not notice; each of them leads to a call that agrees (`agree_of_immaterial`).
-/

namespace Splice

/-- The ways to spell a kind of transition: its word in any case and between blanks, and for a cut
also nothing, the empty text and `none`. -/
def TransitionKind.Spells (kind : TransitionKind) (text : Option String) : Prop :=
  (kind = .cut ∧ (text = none ∨ text = some "")) ∨
    ∃ word ∈ text, Text.lower (Text.trim word) = kind.name ∨
      kind = .cut ∧ Text.lower (Text.trim word) = "none"

theorem TransitionKind.lower_trim_name (kind : TransitionKind) :
    Text.lower (Text.trim kind.name) = kind.name := by
  cases kind <;> decide +kernel

theorem TransitionKind.ofName?_eq_some_iff {word : String} {kind : TransitionKind} :
    ofName? word = some kind ↔ word = kind.name := by
  constructor
  · intro found
    have named := List.find?_some found
    exact (beq_iff_eq.1 named).symm
  · rintro rfl
    cases kind <;> rfl

/-- A text is read without regard to case and surrounding blanks. -/
theorem TransitionKind.read?_eq (text : String) :
    read? text = if Text.lower (Text.trim text) = "none" then some .cut
      else ofName? (Text.lower (Text.trim text)) := by
  unfold read?
  cases exact_ : ofName? text with
  | some kind =>
    obtain rfl := ofName?_eq_some_iff.1 exact_
    rw [lower_trim_name, exact_]
    cases kind <;> rfl
  | none => simp

theorem Transition.ofText_eq_known_iff {text : String} {kind : TransitionKind} :
    ofText text = .known kind ↔ TransitionKind.read? text = some kind := by
  unfold ofText
  cases TransitionKind.read? text <;> simp

theorem Transition.ofRequest_of_spells {kind : TransitionKind} {text : Option String}
    (spelled : kind.Spells text) : ofRequest text = .known kind := by
  rcases spelled with ⟨rfl, rfl | rfl⟩ | ⟨word, rfl, plain⟩
  · rfl
  · rfl
  · have nonempty : word ≠ "" := by
      rintro rfl
      rcases plain with plain | ⟨-, plain⟩
      · cases kind <;> exact absurd plain (by decide +kernel)
      · exact absurd plain (by decide +kernel)
    have read : TransitionKind.read? word = some kind := by
      rw [TransitionKind.read?_eq]
      rcases plain with plain | ⟨rfl, plain⟩
      · rw [plain]
        cases kind <;> rfl
      · rw [if_pos plain]
    unfold ofRequest
    split
    case h_1 none_ => cases none_
    case h_2 empty => exact absurd (Option.some.inj empty) nonempty
    case h_3 text some_ =>
      cases some_
      exact ofText_eq_known_iff.2 read

theorem Transition.spells_of_ofRequest {kind : TransitionKind} {text : Option String}
    (asked : ofRequest text = .known kind) : kind.Spells text := by
  unfold ofRequest at asked
  split at asked
  case h_1 =>
    cases asked
    exact .inl ⟨rfl, .inl rfl⟩
  case h_2 =>
    cases asked
    exact .inl ⟨rfl, .inr rfl⟩
  case h_3 word _ =>
    rw [ofText_eq_known_iff, TransitionKind.read?_eq] at asked
    refine .inr ⟨word, rfl, ?_⟩
    split at asked
    case isTrue plain => exact .inr ⟨(Option.some.inj asked).symm, plain⟩
    case isFalse => exact .inl (TransitionKind.ofName?_eq_some_iff.1 asked)

/-- A client means a kind by exactly its spellings. -/
theorem Transition.ofRequest_eq_known_iff {kind : TransitionKind} {text : Option String} :
    ofRequest text = .known kind ↔ kind.Spells text :=
  ⟨spells_of_ofRequest, ofRequest_of_spells⟩

namespace Compile

/-! ## Outcomes that are alike -/

section Alike

variable {α β γ δ : Type} {R : α → β → Prop} {S : γ → δ → Prop}

/-- Two outcomes are alike if both are results that are related, or both are problems of one
kind. -/
def Alike (R : α → β → Prop) : Except Problem α → Except Problem β → Prop
  | .ok a, .ok b => R a b
  | .error p, .error q => p.kind = q.kind
  | _, _ => False

theorem Alike.ok {a : α} {b : β} (related : R a b) : Alike R (.ok a) (.ok b) := related

theorem Alike.error {p q : Problem} (same : p.kind = q.kind) :
    Alike R (.error p : Except Problem α) (.error q : Except Problem β) := same

/-- Steps that are alike, with alike steps behind them, are alike. -/
theorem Alike.bind {x : Except Problem α} {y : Except Problem β} {f : α → Except Problem γ}
    {g : β → Except Problem δ} (first : Alike R x y)
    (next : ∀ a b, R a b → Alike S (f a) (g b)) : Alike S (x >>= f) (y >>= g) := by
  cases x with
  | error p =>
    cases y with
    | error q => exact first
    | ok b => exact first.elim
  | ok a =>
    cases y with
    | error q => exact first.elim
    | ok b => exact next a b first

theorem Alike.map {x : Except Problem α} {y : Except Problem β} {f : α → γ} {g : β → δ}
    (first : Alike R x y) (next : ∀ a b, R a b → S (f a) (g b)) :
    Alike S (x.map f) (y.map g) :=
  first.bind (f := fun a => .ok (f a)) (g := fun b => .ok (g b)) next

/-- Outcomes are alike exactly if they are one result, or two problems of one kind. -/
theorem alike_eq_iff {x y : Except Problem α} :
    Alike Eq x y ↔
      (∃ a, x = .ok a ∧ y = .ok a) ∨ ∃ p q, x = .error p ∧ y = .error q ∧ p.kind = q.kind := by
  cases x <;> cases y <;> simp [Alike, eq_comm]

end Alike

/-! ## What is compared -/

/-- Two entries stand in one place: they have one id, show one asset, and last equally long. -/
structure SameEntry (e f : Entry) : Prop where
  id : e.id = f.id
  mediaId : e.mediaId = f.mediaId
  duration : e.duration = f.duration

/-- Two rows of schedules hold entries in one place, at the same time. -/
structure SameRow (r s : Row) : Prop where
  entry : SameEntry r.entry s.entry
  stop : r.stop = s.stop

/-- What a plan may know of an asset: its id, what it holds, and whether its length is known. -/
structure SameAsset (a b : MediaAsset) : Prop where
  id : a.id = b.id
  kind : a.kind = b.kind
  hasAudio : a.hasAudio = b.hasAudio
  known : a.duration.isSome = b.duration.isSome

/-- Two clips show one asset in one place. -/
structure SameClip (c d : Clip) : Prop where
  row : SameRow c.row d.row
  asset : SameAsset c.asset d.asset

/-- What is heeded of the way in which an entry goes over into the next: the kind, and the duration
of a kind that blends; nothing if the kind is unknown. -/
def heeded? (e : Entry) : Option (TransitionKind × Option Float) :=
  match e.transition with
  | .unknown _ => none
  | .known kind => some (kind, if kind.isBlending then some e.transitionDuration.value else none)

/-! ## The timeline -/

theorem alike_checkDuration (subject : DurationSubject) (seconds : Option Amount) :
    Alike Eq (checkDuration subject seconds) (checkDuration subject seconds) := by
  cases checkDuration subject seconds <;> rfl

theorem alike_checkNew {before others : List Entry} {e f : Entry}
    (same : before.Forall₂ SameEntry others) (entry : SameEntry e f) :
    Alike Eq (Timeline.checkNew before e) (Timeline.checkNew others f) := by
  have taken : (before.any fun other => other.id == e.id) =
      others.any fun other => other.id == f.id := by
    induction same with
    | nil => rfl
    | cons first rest ih => rw [List.any_cons, List.any_cons, ih, first.id, entry.id]
  unfold Timeline.checkNew
  rw [taken, entry.id, entry.duration]
  split
  · exact .error rfl
  · exact (alike_checkDuration _ _).map fun _ _ _ => rfl

/-- Entries in the same places are all accepted, or are refused with problems of one kind. -/
theorem alike_acceptEach {before others first second : List Entry}
    (earlier : before.Forall₂ SameEntry others) (same : first.Forall₂ SameEntry second) :
    Alike (fun all also => all = before ++ first ∧ also = others ++ second)
      (Timeline.acceptEach before first) (Timeline.acceptEach others second) := by
  induction same generalizing before others with
  | nil => exact .ok ⟨(List.append_nil _).symm, (List.append_nil _).symm⟩
  | cons entry rest ih =>
    rw [Timeline.acceptEach_cons, Timeline.acceptEach_cons]
    refine (alike_checkNew earlier entry).bind fun _ _ _ => ?_
    have behind := ih (List.rel_append earlier (.cons entry .nil))
    simpa only [List.append_assoc, List.singleton_append] using behind

theorem alike_ofEntries {first second : List Entry} (same : first.Forall₂ SameEntry second) :
    Alike (fun t u => t = .layOut first ∧ u = .layOut second) (Timeline.ofEntries first)
      (Timeline.ofEntries second) :=
  (alike_acceptEach .nil same).map fun _ _ all => all.imp (congrArg _) (congrArg _)

theorem forall₂_schedule {first second : List Entry} (same : first.Forall₂ SameEntry second) :
    (schedule first).Forall₂ SameRow (schedule second) := by
  have from_ : ∀ moment, (scheduleFrom moment first).Forall₂ SameRow (scheduleFrom moment second) := by
    induction same with
    | nil => exact fun _ => .nil
    | cons entry rest ih =>
      intro moment
      rw [scheduleFrom, scheduleFrom, entry.duration]
      exact .cons ⟨entry, rfl⟩ (ih _)
  exact from_ 0.0

theorem scheduleEnd_congr {rows others : List Row} (same : rows.Forall₂ SameRow others) :
    scheduleEnd rows = scheduleEnd others := by
  have stops : rows.map Row.stop = others.map Row.stop := by
    induction same with
    | nil => rfl
    | cons row rest ih => rw [List.map_cons, List.map_cons, ih, row.stop]
  rw [scheduleEnd, scheduleEnd, ← List.getLast?_map, ← List.getLast?_map, stops]

/-! ## The checks -/

section Checks

variable {assets others : AssetTable}

theorem alike_findVisual {lengths : Bool} {row other : Row} (same : SameRow row other)
    (known : Option.Rel SameAsset (assets.get? row.entry.mediaId)
      (others.get? row.entry.mediaId)) :
    Alike SameClip (findVisual assets lengths row) (findVisual others lengths other) := by
  unfold findVisual
  rw [← same.entry.mediaId]
  generalize assets.get? row.entry.mediaId = found, others.get? row.entry.mediaId = also at known ⊢
  cases known with
  | none => exact .error rfl
  | some asset =>
    simp only [asset.kind, ← Option.not_isSome, asset.known]
    split
    · exact .error rfl
    · split
      · exact .error rfl
      · exact .ok ⟨same, asset⟩

theorem alike_findVisuals {lengths : Bool} {rows later : List Row}
    (same : rows.Forall₂ SameRow later)
    (known : ∀ row ∈ rows, Option.Rel SameAsset (assets.get? row.entry.mediaId)
      (others.get? row.entry.mediaId)) :
    Alike (List.Forall₂ SameClip) (findVisuals assets lengths rows)
      (findVisuals others lengths later) := by
  induction same with
  | nil => exact .ok .nil
  | cons row rest ih =>
    rw [findVisuals_cons, findVisuals_cons]
    have first : Alike SameClip (findVisual assets lengths _) (findVisual others lengths _) :=
      alike_findVisual row (known _ (List.mem_cons_self ..))
    have behind := ih fun row mem => known row (List.mem_cons_of_mem _ mem)
    exact first.bind fun clip other shown => behind.map fun _ _ => List.Forall₂.cons shown

/-- The music is the track's, with an asset of which the same is known. -/
def SameMusic (m n : AudioTrack × MediaAsset) : Prop := m.1 = n.1 ∧ SameAsset m.2 n.2

theorem alike_findMusic? {track : Option AudioTrack}
    (known : ∀ music ∈ track, Option.Rel SameAsset (assets.get? music.mediaId)
      (others.get? music.mediaId)) :
    Alike (Option.Rel SameMusic) (findMusic? assets track) (findMusic? others track) := by
  cases track with
  | none => exact .ok .none
  | some track =>
    have found : Alike SameAsset (findMusic assets track) (findMusic others track) := by
      have known := known track rfl
      unfold findMusic
      generalize assets.get? track.mediaId = found, others.get? track.mediaId = also at known ⊢
      cases known with
      | none => exact .error rfl
      | some asset =>
        simp only [asset.kind, ← Option.not_isSome, asset.known]
        split
        · exact .error rfl
        · split
          · exact .error rfl
          · exact .ok asset
    exact found.map fun _ _ asset => .some ⟨rfl, asset⟩

/-- What is heeded of a transition decides whether there is a join, and which one. -/
theorem resolve_of_heeded {e f : Entry} (same : heeded? e = heeded? f) (offset : Float) :
    (∃ join, Join.resolve e.transition (some e.transitionDuration) offset = .ok join ∧
        Join.resolve f.transition (some f.transitionDuration) offset = .ok join) ∨
      ∃ cause other, Join.resolve e.transition (some e.transitionDuration) offset = .error cause ∧
        Join.resolve f.transition (some f.transitionDuration) offset = .error other := by
  obtain ⟨_, _, _, asked, seconds⟩ := e
  obtain ⟨_, _, _, also, others⟩ := f
  cases asked with
  | unknown text =>
    cases also with
    | unknown other => exact .inr ⟨_, _, rfl, rfl⟩
    | known kind => cases same
  | known kind =>
    cases also with
    | unknown other => cases same
    | known kind' =>
      simp only [heeded?, Option.some.injEq, Prod.mk.injEq] at same
      obtain ⟨rfl, durations⟩ := same
      unfold Join.resolve
      cases kind with
      | cut => exact .inl ⟨_, rfl, rfl⟩
      | crossfade | fade | slideLeft | slideRight | wipe =>
        have values : seconds.value = others.value := Option.some.inj durations
        simp only [TransitionKind.engineName?, values]
        split
        · exact .inr ⟨_, _, rfl, rfl⟩
        · exact .inl ⟨_, rfl, rfl⟩

theorem alike_resolveJoins {rows later : List Row} (same : rows.Forall₂ SameRow later)
    (joins : rows.dropLast.map (fun row => heeded? row.entry) =
      later.dropLast.map fun row => heeded? row.entry) :
    Alike Eq (resolveJoins rows) (resolveJoins later) := by
  induction same with
  | nil => exact .ok rfl
  | @cons row other rest others pair pairs ih =>
    cases pairs with
    | nil => exact .ok rfl
    | cons next pairs =>
      simp only [List.dropLast_cons_cons, List.map_cons, List.cons.injEq] at joins
      have behind := ih joins.2
      rw [resolveJoins, resolveJoins, ← pair.stop]
      rcases resolve_of_heeded joins.1 row.stop with ⟨join, left, right⟩ | ⟨_, _, left, right⟩
      · rw [left, right]
        exact behind.map fun _ _ => congrArg _
      · rw [left, right]
        exact .error rfl

end Checks

/-! ## The plan -/

section Assembled

variable {first second : List Clip}

theorem clipInput_congr (settings : RenderSettings) (index : Nat) {clip other : Clip}
    (same : SameClip clip other) :
    clipInput settings index clip = clipInput settings index other := by
  simp only [clipInput, readingOptions, same.asset.id, same.asset.kind, same.row.entry.id,
    same.row.entry.duration]

theorem clipInputs_congr (settings : RenderSettings) (index : Nat)
    (same : first.Forall₂ SameClip second) :
    clipInputs settings index first = clipInputs settings index second := by
  induction same generalizing index with
  | nil => rfl
  | cons clip rest ih =>
    rw [clipInputs_cons, clipInputs_cons, ih, clipInput_congr settings index clip]

/-- Two clips show one asset in one place, and stand beside one and the same thing. -/
inductive SameBeside {κ : Type} : κ × Clip → κ × Clip → Prop
  | mk (key : κ) {c d : Clip} (same : SameClip c d) : SameBeside (key, c) (key, d)

theorem forall₂_zip {κ : Type} (keys : List κ) (same : first.Forall₂ SameClip second) :
    (keys.zip first).Forall₂ SameBeside (keys.zip second) := by
  induction same generalizing keys with
  | nil => simp
  | cons clip rest ih =>
    cases keys with
    | nil => exact .nil
    | cons key keys => exact .cons (.mk key clip) (ih keys)

theorem normalize_congr (settings : RenderSettings) (labels : Labels)
    {pairs others : List (InputDeclaration × Clip)} (same : pairs.Forall₂ SameBeside others) :
    normalize settings labels pairs = normalize settings labels others := by
  induction same generalizing labels with
  | nil => rfl
  | cons pair rest ih =>
    obtain ⟨input, same⟩ := pair
    simp only [normalize_cons, normalizingStage, ih, same.row.entry.id]

theorem normalizedClips_congr (stages : List Stage) (same : first.Forall₂ SameClip second) :
    normalizedClips stages first = normalizedClips stages second := by
  have beside := forall₂_zip stages same
  unfold normalizedClips
  generalize stages.zip first = pairs, stages.zip second = others at beside
  induction beside with
  | nil => rfl
  | cons pair rest ih =>
    obtain ⟨stage, same⟩ := pair
    simp only [List.map_cons, ih, same.row.entry.id]

theorem soundingInputs_congr {pairs others : List (InputDeclaration × Clip)}
    (same : pairs.Forall₂ SameBeside others) : soundingInputs pairs = soundingInputs others := by
  unfold soundingInputs
  induction same with
  | nil => rfl
  | cons pair rest ih =>
    obtain ⟨input, same⟩ := pair
    simp only [List.filter_cons, same.asset.hasAudio]
    split
    · rw [List.map_cons, List.map_cons, ih]
    · exact ih

theorem joining_congr (settings : RenderSettings) (joins : List Join)
    (same : first.Forall₂ SameClip second) :
    normalizing settings first = normalizing settings second ∧
      joining settings first joins = joining settings second joins := by
  have normal : normalizing settings first = normalizing settings second := by
    rw [normalizing, normalizing, clipInputs_congr settings 0 same,
      normalize_congr settings _ (forall₂_zip _ same)]
  refine ⟨normal, ?_⟩
  rw [joining, joining, normal, normalizedClips_congr _ same]

variable {music other : Option (AudioTrack × MediaAsset)}

theorem musicInputs_congr (index : Nat) (played : Option.Rel SameMusic music other) :
    musicInputs index music = musicInputs index other := by
  cases played with
  | none => rfl
  | some same => simp [musicInputs, musicInput, same.2.id, same.2.kind]

theorem mixing_congr (settings : RenderSettings) (joins : List Join)
    (same : first.Forall₂ SameClip second) (played : Option.Rel SameMusic music other) :
    mixing settings first joins music = mixing settings second joins other := by
  cases played with
  | none => rfl
  | some also =>
    unfold mixing
    simp only [(joining_congr settings joins same).2, clipInputs_congr settings 0 same,
      soundingInputs_congr (forall₂_zip _ same), same.length_eq, musicInput, also.1, also.2.id, also.2.kind]

/-- A plan put together from its parts. -/
theorem assemble_eq (encoding : Encoding) (settings : RenderSettings) (total : Float)
    (clips : List Clip) (joins : List Join) (music : Option (AudioTrack × MediaAsset)) :
    assemble encoding settings total clips joins music =
      { inputs := clipInputs settings 0 clips ++ musicInputs clips.length music
        stages := (normalizing settings clips).1 ++ (joining settings clips joins).1 ++
          mixing settings clips joins music
        videoOutput := Labels.video
        audioOutput := if music.isSome then some Labels.audio else none
        encodeArgs := encodeArgs encoding settings music.isSome
        nominalDuration := total
        format := settings.format.name } := by
  cases music <;> rfl

theorem assemble_congr (encoding : Encoding) (settings : RenderSettings) (total : Float)
    (joins : List Join) (same : first.Forall₂ SameClip second)
    (played : Option.Rel SameMusic music other) :
    assemble encoding settings total first joins music =
      assemble encoding settings total second joins other := by
  obtain ⟨normal, joined⟩ := joining_congr settings joins same
  have present : music.isSome = other.isSome := by
    cases played <;> rfl
  rw [assemble_eq, assemble_eq, clipInputs_congr settings 0 same, musicInputs_congr _ played,
    normal, joined, mixing_congr settings joins same played, same.length_eq, present]

end Assembled

/-- Timelines of entries in the same places, of whose assets and transitions the same is known, are
compiled alike. -/
theorem alike_compile (encoding : Encoding) {entries later : List Entry}
    {assets others : AssetTable} {track : Option AudioTrack} (settings : RenderSettings)
    (same : entries.Forall₂ SameEntry later)
    (joins : entries.dropLast.map heeded? = later.dropLast.map heeded?)
    (shown : ∀ e ∈ entries, Option.Rel SameAsset (assets.get? e.mediaId) (others.get? e.mediaId))
    (played : ∀ music ∈ track, Option.Rel SameAsset (assets.get? music.mediaId)
      (others.get? music.mediaId)) :
    Alike Eq (compile encoding (.layOut entries) assets track settings)
      (compile encoding (.layOut later) others track settings) := by
  have rows := forall₂_schedule same
  have total := scheduleEnd_congr rows
  have visuals : Alike (List.Forall₂ SameClip) (findVisuals assets true (schedule entries))
      (findVisuals others true (schedule later)) := by
    refine alike_findVisuals rows fun row mem => shown row.entry ?_
    rw [← map_entry_schedule entries]
    exact List.mem_map_of_mem mem
  have resolved : Alike Eq (resolveJoins (schedule entries)) (resolveJoins (schedule later)) := by
    refine alike_resolveJoins rows ?_
    have heeded : ∀ list : List Entry, (schedule list).dropLast.map (fun row => heeded? row.entry) =
        list.dropLast.map heeded? := by
      intro list
      conv_rhs => rw [← map_entry_schedule list, ← List.map_dropLast, List.map_map]
      rfl
    rw [heeded, heeded, joins]
  have filled : (schedule entries).isEmpty = (schedule later).isEmpty := by
    rw [Bool.eq_iff_iff, List.isEmpty_iff, List.isEmpty_iff, ← List.length_eq_zero_iff,
      ← List.length_eq_zero_iff, rows.length_eq]
  change Alike Eq (if (schedule entries).isEmpty then _ else _)
    (if (schedule later).isEmpty then _ else _)
  rw [filled]
  split
  · exact .error rfl
  · refine visuals.bind fun clips clips' clip => ?_
    refine (alike_findMusic? played).bind fun music music' sound => ?_
    refine resolved.bind fun joins joins' same => ?_
    subst same
    change assemble encoding settings (scheduleEnd (schedule entries)) clips joins music =
      assemble encoding settings (scheduleEnd (schedule later)) clips' joins music'
    rw [total, assemble_congr encoding settings _ joins clip sound]

/-! ## Calls -/

/-- What the compiler is called with for a client. -/
structure Call where
  items : List TimelineItem
  assets : AssetTable
  track : Option AudioTrack
  settings : RenderSettings

namespace Call

/-- The entries that a call's items stand for. -/
def entries (standing : Settings) (call : Call) : List Entry :=
  call.items.map (TimelineItem.toEntry standing)

/-- What the compiler answers to a call. -/
def outcome (encoding : Encoding) (standing : Settings) (call : Call) : Except Problem Plan :=
  compileEntries encoding (call.entries standing) call.assets call.track call.settings

/-- Whether an entry or the music of a call refers to an asset. -/
def Refers (call : Call) (id : String) : Prop :=
  (∃ item ∈ call.items, item.mediaId = id) ∨ ∃ music ∈ call.track, music.mediaId = id

/-- Two calls agree in everything that a plan may depend on. -/
structure Agree (standing : Settings) (call other : Call) : Prop where
  placed : call.items.map (fun item => (item.id, item.mediaId, item.duration)) =
    other.items.map fun item => (item.id, item.mediaId, item.duration)
  joins : (call.entries standing).dropLast.map heeded? = (other.entries standing).dropLast.map heeded?
  assets : ∀ id, call.Refers id → Option.Rel SameAsset (call.assets.get? id) (other.assets.get? id)
  track : call.track = other.track
  settings : call.settings = other.settings

theorem Agree.forall₂_entries {standing : Settings} {call other : Call}
    (agree : call.Agree standing other) :
    (call.entries standing).Forall₂ SameEntry (other.entries standing) := by
  have places := agree.placed
  rw [← List.forall₂_eq_eq_eq, List.forall₂_map_left_iff, List.forall₂_map_right_iff] at places
  unfold entries
  rw [List.forall₂_map_left_iff, List.forall₂_map_right_iff]
  refine places.imp fun item also same => ?_
  simp only [Prod.mk.injEq] at same
  exact ⟨same.1, same.2.1, same.2.2⟩

theorem Agree.alike_outcome {standing : Settings} {call other : Call}
    (agree : call.Agree standing other) (encoding : Encoding) :
    Alike Eq (call.outcome encoding standing) (other.outcome encoding standing) := by
  have same := agree.forall₂_entries
  have shown : ∀ e ∈ call.entries standing,
      Option.Rel SameAsset (call.assets.get? e.mediaId) (other.assets.get? e.mediaId) := by
    intro e mem
    obtain ⟨item, listed, rfl⟩ := List.mem_map.1 mem
    exact agree.assets _ (.inl ⟨item, listed, rfl⟩)
  have played : ∀ music ∈ call.track,
      Option.Rel SameAsset (call.assets.get? music.mediaId) (other.assets.get? music.mediaId) :=
    fun music playing => agree.assets _ (.inr ⟨music, playing, rfl⟩)
  unfold outcome compileEntries
  rw [← agree.track, ← agree.settings]
  refine (alike_ofEntries same).bind fun t u made => ?_
  obtain ⟨rfl, rfl⟩ := made
  exact alike_compile encoding call.settings same agree.joins shown played

/-! ### Changes that a plan does not notice -/

/-- A change of a call that a plan does not notice. -/
inductive Immaterial : Call → Call → Prop
  /-- The times that the client displays. -/
  | times (call : Call) (before after : List TimelineItem) (item : TimelineItem)
      (start stop : Option Float) :
      Immaterial { call with items := before ++ item :: after }
        { call with items := before ++ { item with startTime := start, endTime := stop } :: after }
  /-- The transition behind the last clip, even one that means nothing, and its duration. -/
  | last (call : Call) (before : List TimelineItem) (item : TimelineItem) (text : Option String)
      (seconds : Option Float) :
      Immaterial { call with items := before ++ [item] }
        { call with
          items := before ++ [{ item with transition := text, transitionDuration := seconds }] }
  /-- The duration of a cut. -/
  | cut (call : Call) (before after : List TimelineItem) (item : TimelineItem)
      (seconds : Option Float) (spelled : TransitionKind.cut.Spells item.transition) :
      Immaterial { call with items := before ++ item :: after }
        { call with items := before ++ { item with transitionDuration := seconds } :: after }
  /-- The way in which a kind of transition is spelled. -/
  | spelling (call : Call) (before after : List TimelineItem) (item : TimelineItem)
      (text : Option String) (kind : TransitionKind) (spelled : kind.Spells item.transition)
      (also : kind.Spells text) :
      Immaterial { call with items := before ++ item :: after }
        { call with items := before ++ { item with transition := text } :: after }
  /-- What the table of assets says under ids that are not referred to. -/
  | unreferenced (call : Call) (assets : AssetTable)
      (same : ∀ id, call.Refers id → assets.get? id = call.assets.get? id) :
      Immaterial call { call with assets }
  /-- Where an asset's file lies. -/
  | source (call : Call) (key : String) (asset : MediaAsset) (path : String)
      (found : call.assets.get? key = some asset) :
      Immaterial call { call with assets := call.assets.put key { asset with source := path } }
  /-- The length of an asset's file, so long as it is known. -/
  | length (call : Call) (key : String) (asset : MediaAsset) (seconds other : Float)
      (found : call.assets.get? key = some asset) (known : asset.duration = some seconds) :
      Immaterial call { call with assets := call.assets.put key { asset with duration := some other } }

theorem refers_iff_of_agree {standing : Settings} {call other : Call}
    (agree : call.Agree standing other) (id : String) : call.Refers id ↔ other.Refers id := by
  have ids : call.items.map TimelineItem.mediaId = other.items.map TimelineItem.mediaId := by
    have seconds := congrArg (List.map fun place => place.2.1) agree.placed
    rwa [List.map_map, List.map_map] at seconds
  have listed : ∀ c : Call, (∃ item ∈ c.items, item.mediaId = id) ↔
      id ∈ c.items.map TimelineItem.mediaId := fun _ => List.mem_map.symm
  rw [Refers, Refers, listed, listed, ids, agree.track]

/-- Of an asset the same is known as of itself. -/
theorem rel_sameAsset_refl (found : Option MediaAsset) : Option.Rel SameAsset found found := by
  cases found with
  | none => exact .none
  | some asset => exact .some ⟨rfl, rfl, rfl, rfl⟩

theorem agree_refl (standing : Settings) (call : Call) : call.Agree standing call :=
  ⟨rfl, rfl, fun _ _ => rel_sameAsset_refl _, rfl, rfl⟩

theorem Agree.trans {standing : Settings} {first second third : Call}
    (agree : first.Agree standing second) (further : second.Agree standing third) :
    first.Agree standing third := by
  refine ⟨agree.placed.trans further.placed, agree.joins.trans further.joins, fun id refers => ?_,
    agree.track.trans further.track, agree.settings.trans further.settings⟩
  have left := agree.assets id refers
  have right := further.assets id ((refers_iff_of_agree agree id).1 refers)
  generalize first.assets.get? id = a, second.assets.get? id = b, third.assets.get? id = c
    at left right ⊢
  cases left with
  | none => exact right
  | some same =>
    cases right with
    | some also =>
      exact .some ⟨same.id.trans also.id, same.kind.trans also.kind,
        same.hasAudio.trans also.hasAudio, same.known.trans also.known⟩

/-- Calls whose items differ in one that stands in the same place and is heeded alike agree. -/
theorem agree_of_item (standing : Settings) (call : Call) (before after : List TimelineItem)
    {item other : TimelineItem}
    (place : (item.id, item.mediaId, item.duration) = (other.id, other.mediaId, other.duration))
    (heeded : heeded? (item.toEntry standing) = heeded? (other.toEntry standing)) :
    ({ call with items := before ++ item :: after } : Call).Agree standing
      { call with items := before ++ other :: after } where
  placed := by simp only [List.map_append, List.map_cons, place]
  joins := by
    simp only [entries, List.map_dropLast, List.map_append, List.map_cons, heeded]
  assets _ _ := rel_sameAsset_refl _
  track := rfl
  settings := rfl

/-- Calls with other assets agree, if the same is known of those that are referred to. -/
theorem agree_of_assets (standing : Settings) (call : Call) {assets : AssetTable}
    (same : ∀ id, call.Refers id → Option.Rel SameAsset (call.assets.get? id) (assets.get? id)) :
    call.Agree standing { call with assets } :=
  ⟨rfl, rfl, same, rfl, rfl⟩

theorem agree_of_put (standing : Settings) (call : Call) {key : String} {asset other : MediaAsset}
    (found : call.assets.get? key = some asset) (same : SameAsset asset other) :
    call.Agree standing { call with assets := call.assets.put key other } := by
  refine agree_of_assets standing call fun id _ => ?_
  rw [Table.get?_put]
  split
  case isTrue here =>
    rw [← here, found]
    exact .some same
  case isFalse => exact rel_sameAsset_refl _

/-- A change that a plan does not notice leads to a call that agrees. -/
theorem agree_of_immaterial (standing : Settings) {call other : Call}
    (changed : Immaterial call other) : call.Agree standing other := by
  cases changed with
  | times call before after item start stop =>
    exact agree_of_item standing call before after rfl rfl
  | last call before item text seconds =>
    exact ⟨by simp, by simp [entries], fun _ _ => rel_sameAsset_refl _, rfl, rfl⟩
  | cut call before after item seconds spelled =>
    refine agree_of_item standing call before after rfl ?_
    simp only [heeded?, TimelineItem.toEntry, Transition.ofRequest_eq_known_iff.2 spelled]
    rfl
  | spelling call before after item text kind spelled also =>
    refine agree_of_item standing call before after rfl ?_
    simp only [heeded?, TimelineItem.toEntry, Transition.ofRequest_eq_known_iff.2 spelled,
      Transition.ofRequest_eq_known_iff.2 also]
  | unreferenced call assets same =>
    refine agree_of_assets standing call fun id refers => ?_
    rw [same id refers]
    exact rel_sameAsset_refl _
  | source call key asset path found =>
    exact agree_of_put standing call found ⟨rfl, rfl, rfl, rfl⟩
  | length call key asset seconds other found known =>
    refine agree_of_put standing call found ⟨rfl, rfl, rfl, ?_⟩
    rw [known]
    rfl

theorem agree_of_immaterials (standing : Settings) {call other : Call}
    (changed : Relation.ReflTransGen Immaterial call other) : call.Agree standing other := by
  induction changed with
  | refl => exact agree_refl standing call
  | tail _ change ih => exact ih.trans (agree_of_immaterial standing change)

/-- **A plan depends on nothing that it should ignore.** Two calls that agree give one and the same
plan, or are both refused with problems of one kind. Calls agree whenever any number of the changes
listed in `Immaterial` leads from one to the other. -/
theorem outcome_alike (encoding : Encoding) (standing : Settings) (call other : Call) :
    (call.Agree standing other →
      (∃ plan, call.outcome encoding standing = .ok plan ∧
        other.outcome encoding standing = .ok plan) ∨
      ∃ p q, call.outcome encoding standing = .error p ∧
        other.outcome encoding standing = .error q ∧ p.kind = q.kind) ∧
    (Relation.ReflTransGen Immaterial call other → call.Agree standing other) :=
  ⟨fun agree => alike_eq_iff.1 (agree.alike_outcome encoding), agree_of_immaterials standing⟩

/-- Three clips as two clients may send them. -/
theorem outcome_alike_three_clips :
    let call : Call :=
      { items := [⟨"a", "film", 4.0, some "wipe", some 1.0, some 0.0, some 4.0⟩,
          ⟨"b", "film", 2.5, some "none", some 3.0, none, none⟩,
          ⟨"c", "still", 3.0, none, none, none, none⟩]
        assets := [("film", ⟨"film", .video, "film.mp4", some 9.0, true⟩),
          ("still", ⟨"still", .image, "still.png", none, false⟩)]
        track := some ⟨"film", .mix, 0.5, 1.0, 1.0⟩
        settings := ⟨.mp4, 1280, 720, .fast, 30⟩ }
    let other : Call :=
      { call with
        items := [⟨"a", "film", 4.0, some " Wipe ", some 1.0, none, some 7.0⟩,
          ⟨"b", "film", 2.5, some "", none, some 9.0, none⟩,
          ⟨"c", "still", 3.0, some "?", some 0.0, none, none⟩]
        assets := [("song", ⟨"song", .audio, "song.mp3", some 60.0, true⟩),
          ("film", ⟨"film", .video, "other.mp4", some 2.0, true⟩),
          ("still", ⟨"still", .image, "other.png", none, false⟩)] }
    let standing := Settings.standard "/data" "/data/uploads" "/data/output"
    call.Agree standing other ∧ ∃ plan, call.outcome ⟨.whole 23, "192k"⟩ standing = .ok plan ∧
      other.outcome ⟨.whole 23, "192k"⟩ standing = .ok plan := by
  intro call other standing
  have wipe : Transition.ofRequest (some " Wipe ") = .known .wipe :=
    Transition.ofRequest_eq_known_iff.2 (.inr ⟨_, rfl, .inl (by decide +kernel)⟩)
  have cut : Transition.ofRequest (some "none") = .known .cut :=
    Transition.ofRequest_eq_known_iff.2 (.inr ⟨_, rfl, .inr ⟨rfl, by decide +kernel⟩⟩)
  have empty : Transition.ofRequest (some "") = .known .cut := rfl
  have unknown : Transition.ofRequest (some "?") = .unknown "?" := by decide +kernel
  have entries : call.entries standing = [⟨"a", "film", 4.0, .known .wipe, .real 1.0⟩,
      ⟨"b", "film", 2.5, .known .cut, .real 3.0⟩, ⟨"c", "still", 3.0, .known .cut, .real 1.0⟩] := by
    simp only [Call.entries, call, List.map_cons, TimelineItem.toEntry, cut]
    rfl
  have others : other.entries standing = [⟨"a", "film", 4.0, .known .wipe, .real 1.0⟩,
      ⟨"b", "film", 2.5, .known .cut, .real 1.0⟩, ⟨"c", "still", 3.0, .unknown "?", .real 0.0⟩] := by
    simp only [Call.entries, other, List.map_cons, TimelineItem.toEntry, wipe, empty, unknown]
    rfl
  have agree : call.Agree standing other := by
    refine ⟨rfl, ?_, fun id refers => ?_, rfl, rfl⟩
    · simp [entries, others, heeded?, TransitionKind.isBlending]
    · simp only [Refers, call, List.exists_mem_cons_iff, Option.mem_some_iff, exists_eq_left',
        List.not_mem_nil, false_and, exists_false, or_false] at refers
      have film : Option.Rel SameAsset (call.assets.get? "film") (other.assets.get? "film") := by
        simp only [call, other, Table.get?_cons]
        exact .some ⟨rfl, rfl, rfl, by simp⟩
      have still : Option.Rel SameAsset (call.assets.get? "still") (other.assets.get? "still") := by
        simp only [call, other, Table.get?_cons]
        exact .some ⟨rfl, rfl, rfl, by simp⟩
      rcases refers with (rfl | rfl | rfl) | rfl
      exacts [film, film, still, film]
  refine ⟨agree, ?_⟩
  have admissible : Admissible (call.entries standing) call.assets true call.track := by
    rw [entries]
    refine ⟨by decide, by decide, by simp, ?_, ?_, ?_⟩
    · simp [call, Table.get?]
    · simp [call, Table.get?]
    · have lasting : ¬ (1.0 : Float) ≤ 0 := by decide
      simp [TransitionKind.isBlending, Amount.value, lasting]
  obtain ⟨plan, made⟩ := exists_compileEntries_eq_ok_iff.2 admissible
  rcases (outcome_alike ⟨.whole 23, "192k"⟩ standing call other).1 agree with done | ⟨p, _, refused, -⟩
  · exact done
  · cases made.symm.trans refused

end Call

end Compile

end Splice
