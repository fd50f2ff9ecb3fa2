import Mathlib.Data.List.Nodup
import Splice.Export.Service
import Splice.Proofs.Surroundings.Run

/-!
# Assets before and after the engine has described them

The assets of stored files stand under their own ids, each id once (`AssetTable.keyed_ofStored`).
The engine is asked about every asset that is no picture, and what it answers fills in a length that
was not known and says whether there is sound; ids, kinds, files and the order stay
(`ExportService.ensures_describeAll_described`). So whatever is found under an id before is found
there afterwards, described, and nothing else (`AssetTable.Described.rel_get?`).
-/

namespace Splice

/-! ## Tables under the ids of their assets -/

/-- Whether every asset stands under its own id, and under no id two of them. -/
structure AssetTable.Keyed (assets : AssetTable) : Prop where
  own : ∀ row ∈ assets, row.2.id = row.1
  nodup : (assets.map Prod.fst).Nodup

namespace AssetTable

variable {assets : AssetTable}

theorem keyed_nil : Keyed [] := ⟨nofun, List.nodup_nil⟩

theorem Keyed.put (h : assets.Keyed) {key : String} {asset : MediaAsset} (own : asset.id = key) :
    Keyed (assets.put key asset) := by
  unfold Table.put
  split
  case isTrue =>
    have keys : (assets.map fun row => if row.1 == key then (key, asset) else row).map Prod.fst =
        assets.map Prod.fst := by
      rw [List.map_map]
      refine List.map_congr_left fun row _ => ?_
      by_cases same : row.1 = key <;> simp [same]
    refine ⟨fun row mem => ?_, keys ▸ h.nodup⟩
    obtain ⟨old, there, rfl⟩ := List.mem_map.1 mem
    split
    · exact own
    · exact h.own old there
  case isFalse absent =>
    have fresh : key ∉ assets.map Prod.fst := by
      intro mem
      obtain ⟨row, mem, same⟩ := List.mem_map.1 mem
      exact absent (List.any_eq_true.2 ⟨row, mem, beq_iff_eq.2 same⟩)
    refine ⟨fun row mem => ?_, ?_⟩
    · rcases List.mem_append.1 mem with mem | mem
      · exact h.own row mem
      · rw [List.mem_singleton.1 mem]
        exact own
    · rw [List.map_append, List.nodup_append]
      refine ⟨h.nodup, List.nodup_singleton _, fun other mem last here same => fresh ?_⟩
      obtain rfl : last = key := List.mem_singleton.1 here
      exact same ▸ mem

/-- An asset of the table is the one that is found under its id. -/
theorem Keyed.get?_id (h : assets.Keyed) {row : String × MediaAsset} (mem : row ∈ assets) :
    assets.get? row.2.id = some row.2 := by
  have there : (assets.find? fun other => other.1 == row.2.id).isSome :=
    List.find?_isSome.2 ⟨row, mem, beq_iff_eq.2 (h.own row mem).symm⟩
  obtain ⟨other, found⟩ := Option.isSome_iff_exists.1 there
  have same : (other.1 == row.2.id) = true :=
    List.find?_some (p := fun other : String × MediaAsset => other.1 == row.2.id) found
  have unique : other = row :=
    List.inj_on_of_nodup_map h.nodup (List.mem_of_find?_eq_some found) mem
      ((beq_iff_eq.1 same).trans (h.own row mem))
  rw [Table.get?, found, unique]
  rfl

/-- What is found under a key has that id. -/
theorem Keyed.id_eq (h : assets.Keyed) {key : String} {asset : MediaAsset}
    (found : assets.get? key = some asset) : asset.id = key := by
  obtain ⟨row, there, rfl⟩ := Option.map_eq_some_iff.1 found
  have same : (row.1 == key) = true :=
    List.find?_some (p := fun other : String × MediaAsset => other.1 == key) there
  exact (h.own row (List.mem_of_find?_eq_some there)).trans (beq_iff_eq.1 same)

/-- What holds of the empty table, and stays when an asset made of a stored file is put under its
own id, holds of the assets of stored files. -/
theorem ofStored_induction {P : AssetTable → Prop} {stored : List StoredFile}
    (manifest : Option (List ManifestItem)) (empty : P [])
    (put : ∀ assets, P assets → ∀ asset : MediaAsset, ∀ f ∈ stored, f.path = asset.source →
      P (assets.put asset.id asset)) : P (ofStored stored manifest) := by
  have claims (items : List ManifestItem) (c : Claims) (holds : P c.assets) :
      P (items.foldl (Claims.claim stored) c).assets := by
    induction items generalizing c with
    | nil => exact holds
    | cons item rest ih =>
      refine ih _ ?_
      unfold Claims.claim
      split
      · exact holds
      · exact put _ holds ⟨_, _, _, _, _⟩ _ (List.mem_of_find?_eq_some ‹_›) rfl
  have adopts (files : List StoredFile) (sub : files ⊆ stored) (c : Claims) (holds : P c.assets) :
      P (files.foldl Claims.adopt c).assets := by
    induction files generalizing c with
    | nil => exact holds
    | cons file rest ih =>
      obtain ⟨mem, sub⟩ := List.cons_subset.1 sub
      refine ih sub _ ?_
      unfold Claims.adopt
      split
      · exact holds
      · exact put _ holds ⟨_, _, _, _, _⟩ _ mem rfl
  exact adopts stored (List.Subset.refl _) _ (claims _ _ empty)

/-- The assets of stored files stand under their own ids. -/
theorem keyed_ofStored (stored : List StoredFile) (manifest : Option (List ManifestItem)) :
    (ofStored stored manifest).Keyed :=
  ofStored_induction manifest keyed_nil fun _ keyed _ _ _ _ => keyed.put rfl

end AssetTable

/-! ## Descriptions -/

/-- What can become of an asset when the engine is asked about it: a picture stays as it is, and of
anything else the engine says for how long it lasts, unless that is known, and whether it sounds. -/
inductive MediaAsset.Described (asset : MediaAsset) : MediaAsset → Prop
  | picture (image : asset.kind = .image) : Described asset asset
  | answered (timed : asset.kind ≠ .image) (description : Description) :
      Described asset { asset with
        duration := asset.duration.or description.duration
        hasAudio := description.hasAudio }

namespace MediaAsset.Described

variable {asset later : MediaAsset} (h : asset.Described later)
include h

theorem id_eq : later.id = asset.id := by cases h <;> rfl

theorem kind_eq : later.kind = asset.kind := by cases h <;> rfl

theorem source_eq : later.source = asset.source := by cases h <;> rfl

end MediaAsset.Described

/-- What can become of a table when the engine is asked about its assets. -/
def AssetTable.Described (assets later : AssetTable) : Prop :=
  List.Forall₂ (fun row after => after.1 = row.1 ∧ row.2.Described after.2) assets later

namespace AssetTable.Described

variable {assets later : AssetTable} (h : assets.Described later)
include h

/-- Under an id the same asset is found as before, described. -/
theorem rel_get? (key : String) :
    Option.Rel MediaAsset.Described (assets.get? key) (later.get? key) := by
  unfold AssetTable.Described at h
  induction h with
  | nil => exact .none
  | cons step _ ih =>
    rw [Table.get?_cons, Table.get?_cons, step.1]
    split
    · exact .some step.2
    · exact ih

theorem get?_eq_some {key : String} {asset : MediaAsset} (found : assets.get? key = some asset) :
    ∃ described, later.get? key = some described ∧ asset.Described described := by
  have rel := h.rel_get? key
  rw [found] at rel
  generalize later.get? key = there at rel
  cases rel with
  | some step => exact ⟨_, rfl, step⟩

theorem exists_of_get?_eq_some {key : String} {described : MediaAsset}
    (found : later.get? key = some described) :
    ∃ asset, assets.get? key = some asset ∧ asset.Described described := by
  have rel := h.rel_get? key
  rw [found] at rel
  generalize assets.get? key = there at rel
  cases rel with
  | some step => exact ⟨_, rfl, step⟩

/-- The first sound is the one that it was before. -/
theorem rel_find?_audio :
    Option.Rel (fun row after => after.1 = row.1 ∧ row.2.Described after.2)
      (assets.find? fun row => row.2.kind = .audio)
      (later.find? fun row => row.2.kind = .audio) := by
  unfold AssetTable.Described at h
  induction h with
  | nil => exact .none
  | cons step _ ih =>
    rw [List.find?_cons, List.find?_cons, step.2.kind_eq]
    split
    · exact .some step
    · exact ih

/-- Whatever descriptions leave alone is the same row by row. -/
theorem map_eq {β : Type} {f : String × MediaAsset → β}
    (alike : ∀ row after, after.1 = row.1 → row.2.Described after.2 → f after = f row) :
    later.map f = assets.map f := by
  unfold AssetTable.Described at h
  induction h with
  | nil => rfl
  | cons step _ ih => rw [List.map_cons, List.map_cons, alike _ _ step.1 step.2, ih]

theorem keyed (keyed : assets.Keyed) : later.Keyed := by
  have keys : later.map Prod.fst = assets.map Prod.fst := h.map_eq fun _ _ same _ => same
  have ids : (later.map fun row => row.2.id) = assets.map fun row => row.2.id :=
    h.map_eq fun _ _ _ step => step.id_eq
  have own : (assets.map fun row => row.2.id) = assets.map Prod.fst :=
    List.map_inj_left.2 keyed.own
  exact ⟨List.map_inj_left.1 (ids.trans (own.trans keys.symm)), keys ▸ keyed.nodup⟩

end AssetTable.Described

/-! ## What the engine is asked -/

namespace ExportService

theorem ensures_describe_described (x : ExportService) (asset : MediaAsset) (w : World) :
    ((Dialogue.describe asset).act x).Ensures w fun outcome _ =>
      ∀ described, outcome = .ok described → asset.Described described := by
  unfold Dialogue.describe
  split
  case isTrue image =>
    refine Act.ensures_pure.2 fun described same => ?_
    cases same
    exact .picture image
  case isFalse timed =>
    rw [Dialogue.act_bind, Act.ensures_bind]
    refine Act.ensures_run.mono fun outcome later _ => ?_
    cases outcome with
    | error failure => exact nofun
    | ok description =>
      refine Act.ensures_pure.2 fun described same => ?_
      cases same
      exact .answered timed description

/-- However the engine answers, the assets that come out are those that went in, described. -/
theorem ensures_describeAll_described (x : ExportService) (assets : AssetTable) (w : World) :
    (x.describeAll assets).Ensures w fun outcome _ =>
      ∀ described, outcome = .ok described → assets.Described described := by
  induction assets generalizing w with
  | nil =>
    refine Act.ensures_pure.2 fun described same => ?_
    cases same
    exact .nil
  | cons row rest ih =>
    rw [describeAll_cons, Act.ensures_bind]
    refine (x.ensures_describe_described row.2 w).mono fun outcome between first => ?_
    cases outcome with
    | error failure => exact nofun
    | ok asset =>
      dsimp only
      rw [Act.ensures_bind]
      refine (ih between).mono fun outcome later others => ?_
      cases outcome with
      | error failure => exact nofun
      | ok assets =>
        refine Act.ensures_pure.2 fun described same => ?_
        cases same
        exact .cons ⟨rfl, first asset rfl⟩ (others assets rfl)

end ExportService

end Splice
