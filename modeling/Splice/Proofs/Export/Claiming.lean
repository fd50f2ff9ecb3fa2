import Mathlib.Data.List.Induction
import Splice.Proofs.Export.Described

/-!
# Which file an item of the manifest claims

The items of a manifest claim their files one after the other, and an item can only have a file that
none before it has. So of the items and the files of one name the first belong together, then the
second, and so on (`filter_matched`), whatever stands between them. What is behind the longer of the
two goes without: such an item has no asset, and such a file goes by its own name.

Main statement: the table of assets in full (`AssetTable.ofStored_matched`). The invariant that
carries it is the list of all claims so far (`foldl_claim`), which tells of every file whether it
is still free (`mem_matched_iff`).
-/

namespace Splice

/-! ## Tables that grow -/

/-- Keys keep the order in which they came first. -/
theorem Table.map_fst_put {κ α : Type} [DecidableEq κ] (t : Table κ α) (key : κ) (value : α) :
    (t.put key value).map Prod.fst =
      if key ∈ t.map Prod.fst then t.map Prod.fst else t.map Prod.fst ++ [key] := by
  have found : (t.any fun row => row.1 == key) = true ↔ key ∈ t.map Prod.fst := by simp
  unfold put
  by_cases present : key ∈ t.map Prod.fst
  · rw [if_pos present, if_pos (found.2 present), List.map_map]
    refine List.map_congr_left fun row _ => ?_
    by_cases same : row.1 = key <;> simp [same]
  · rw [if_neg present, if_neg (mt found.1 present), List.map_append, List.map_singleton]

theorem Table.isSome_get?_iff {κ α : Type} [DecidableEq κ] (t : Table κ α) (key : κ) :
    (t.get? key).isSome ↔ key ∈ t.map Prod.fst := by
  rw [Option.isSome_iff_ne_none, Ne, get?_eq_none_iff]
  simp

/-- A list without repetitions grows by what it does not have yet. -/
theorem eraseDups_concat {α : Type} [BEq α] [LawfulBEq α] (as : List α) (a : α) :
    (as ++ [a]).eraseDups = if a ∈ as then as.eraseDups else as.eraseDups ++ [a] := by
  rw [List.eraseDups_append, List.removeAll]
  by_cases mem : a ∈ as <;> simp [mem, List.eraseDups_cons]

namespace AssetTable

theorem ofList_concat (assets : List MediaAsset) (asset : MediaAsset) :
    ofList (assets ++ [asset]) = (ofList assets).put asset.id asset :=
  List.foldl_concat _ _ _ _

/-- Of several assets with one id the last counts. -/
theorem get?_ofList (assets : List MediaAsset) (key : String) :
    (ofList assets).get? key = assets.findRev? (·.id == key) := by
  induction assets using List.reverseRecOn with
  | nil => rfl
  | append_singleton assets asset ih =>
    rw [List.findRev?_eq_find?_reverse] at ih ⊢
    rw [ofList_concat, Table.get?_put, List.reverse_append, List.reverse_singleton,
      List.singleton_append, ih]
    by_cases same : asset.id = key
    · rw [if_pos same]
      exact (List.find?_cons_of_pos (by simpa using same)).symm
    · rw [if_neg same]
      exact (List.find?_cons_of_neg (by simpa using same)).symm

theorem map_fst_ofList (assets : List MediaAsset) :
    (ofList assets).map Prod.fst = (assets.map MediaAsset.id).eraseDups := by
  induction assets using List.reverseRecOn with
  | nil => rfl
  | append_singleton assets asset ih =>
    rw [ofList_concat, Table.map_fst_put, ih, List.map_append, List.map_singleton, eraseDups_concat]
    simp only [List.mem_eraseDups]

end AssetTable

/-! ## Items with their files -/

/-- The asset that an item makes of its file. -/
def ManifestItem.asset (item : ManifestItem) (file : StoredFile) : MediaAsset where
  id := item.id
  kind := item.kind
  source := file.path
  duration := item.duration
  hasAudio := true

/-- The asset of a file that goes by its own name. -/
def StoredFile.asset (file : StoredFile) : MediaAsset where
  id := file.givenName
  kind := MediaKind.ofContentType (some file.contentType)
  source := file.path
  duration := none
  hasAudio := true

/-- The file that is an item's when some items stand before it: each of those that have its name has
one of the files of that name, and it has the next. -/
def ManifestItem.file? (stored : List StoredFile) (before : List ManifestItem)
    (item : ManifestItem) : Option StoredFile :=
  (stored.filter (·.givenName == item.name))[before.countP (·.name == item.name)]?

/-- The items that have a file, in the order of the manifest, each with its file. -/
def matched (stored : List StoredFile) (items : List ManifestItem) :
    List (ManifestItem × StoredFile) :=
  items.zipIdx.filterMap fun (item, k) => (item.file? stored (items.take k)).map (item, ·)

section

variable {stored : List StoredFile} {items before : List ManifestItem} {item : ManifestItem}
  {f : StoredFile}

theorem ManifestItem.mem_of_file? (found : item.file? stored before = some f) :
    f ∈ stored ∧ f.givenName = item.name := by
  simpa using List.mem_filter.1 (List.mem_of_getElem? found)

/-- One item more has the file that is its own behind all the others. -/
theorem matched_concat (stored : List StoredFile) (items : List ManifestItem)
    (item : ManifestItem) :
    matched stored (items ++ [item]) =
      matched stored items ++ ((item.file? stored items).map (item, ·)).toList := by
  unfold matched
  rw [List.zipIdx_append, List.filterMap_append]
  congr 1
  · refine List.filterMap_congr fun (other, k) mem => ?_
    have below : k < items.length := List.snd_lt_of_mem_zipIdx mem
    dsimp only
    rw [List.take_append_of_le_length below.le]
  · have all : (items ++ [item]).take items.length = items := List.take_left
    simp only [List.zipIdx_singleton, Nat.zero_add, List.filterMap_cons, List.filterMap_nil, all]
    cases item.file? stored items <;> rfl

/-- A file is taken if not more files of its name stand before it than there are items. -/
theorem mem_matched_iff :
    f ∈ (matched stored items).map Prod.snd ↔
      f ∈ (stored.filter (·.givenName == f.givenName)).take
        (items.countP (·.name == f.givenName)) := by
  induction items using List.reverseRecOn with
  | nil => simp [matched]
  | append_singleton items item ih =>
    rw [matched_concat, List.map_append, List.mem_append, ih, List.countP_append,
      List.countP_singleton]
    by_cases same : item.name = f.givenName
    · rw [if_pos (by simp [same]), List.take_add_one, List.mem_append, ManifestItem.file?, same]
      simp
    · rw [if_neg (by simp [same]), Nat.add_zero, or_iff_left]
      intro mem
      obtain ⟨pair, listed, rfl⟩ := List.mem_map.1 mem
      obtain ⟨file, found, rfl⟩ := Option.map_eq_some_iff.1 (Option.mem_toList.1 listed)
      exact same (ManifestItem.mem_of_file? found).2.symm

theorem mem_stored_of_mem_matched (mem : f ∈ (matched stored items).map Prod.snd) : f ∈ stored :=
  (List.mem_filter.1 (List.mem_of_mem_take (mem_matched_iff.1 mem))).1

end

/-- The files that are no item's, in the order in which they were stored. -/
def unmatched (stored : List StoredFile) (items : List ManifestItem) : List StoredFile :=
  stored.filter (· ∉ (matched stored items).map Prod.snd)

/-- An element of a list without repetitions does not stand before its place. -/
theorem not_mem_take_of_getElem? {α : Type} {l : List α} (nodup : l.Nodup) {k : Nat} {a : α}
    (there : l[k]? = some a) : a ∉ l.take k := by
  have longer : (l.take (k + 1)).Nodup := nodup.sublist (List.take_sublist _ _)
  rw [List.take_add_one, there, Option.toList_some, List.nodup_append] at longer
  exact fun mem => longer.2.2 a mem a (List.mem_singleton_self a) rfl

/-- The first element that is not one of the first `k` is the next one. -/
theorem find?_eq_getElem? {α : Type} {l : List α} (nodup : l.Nodup) (k : Nat) {p : α → Bool}
    (free : ∀ a ∈ l, p a = true ↔ a ∉ l.take k) : l.find? p = l[k]? := by
  have none : (l.take k).find? p = none := by
    rw [List.find?_eq_none]
    exact fun a mem chosen => (free a (List.mem_of_mem_take mem)).1 chosen mem
  rw [← List.head?_drop]
  conv_lhs => rw [← List.take_append_drop k l]
  rw [List.find?_append, none, Option.none_or]
  cases rest : l.drop k with
  | nil => rfl
  | cons a as =>
    have there : l[k]? = some a := by rw [← List.head?_drop, rest, List.head?_cons]
    have chosen := (free a (List.mem_of_getElem? there)).2 (not_mem_take_of_getElem? nodup there)
    rw [List.find?_cons_of_pos chosen, List.head?_cons]

/-- Two lists are matched one element further if the second is long enough. -/
theorem zip_concat {α β : Type} (as : List α) (a : α) (bs : List β) :
    (as ++ [a]).zip bs = as.zip bs ++ (bs[as.length]?.map (a, ·)).toList := by
  induction as generalizing bs with
  | nil => cases bs <;> rfl
  | cons first rest ih =>
    cases bs with
    | nil => rfl
    | cons b bs =>
      rw [List.cons_append, List.zip_cons_cons, ih, List.zip_cons_cons, List.cons_append,
        List.length_cons, List.getElem?_cons_succ]

/-- **The items and the files of one name are matched in order.** -/
theorem filter_matched (stored : List StoredFile) (items : List ManifestItem) (name : String) :
    ((matched stored items).filter fun pair => pair.1.name == name) =
      (items.filter (·.name == name)).zip (stored.filter (·.givenName == name)) := by
  induction items using List.reverseRecOn with
  | nil => rfl
  | append_singleton items item ih =>
    rw [matched_concat, List.filter_append, ih, List.filter_append]
    by_cases same : item.name = name
    · have one : [item].filter (·.name == name) = [item] := by simp [same]
      rw [one, zip_concat, ← List.countP_eq_length_filter, ManifestItem.file?, same]
      congr 1
      cases (stored.filter (·.givenName == name))[items.countP (·.name == name)]? <;> simp [same]
    · have none : [item].filter (·.name == name) = [] := by simp [same]
      rw [none, List.append_nil]
      cases item.file? stored items <;> simp [same]

/-! ## Claiming -/

section

variable {stored : List StoredFile} (distinct : (stored.map StoredFile.path).Nodup)
include distinct

/-- Files with one path are the same. -/
theorem eq_of_path_eq {f g : StoredFile} (mem : f ∈ stored) (mem' : g ∈ stored)
    (same : f.path = g.path) : f = g :=
  List.inj_on_of_nodup_map distinct mem mem' same

theorem nodup_matched (items : List ManifestItem) :
    ((matched stored items).map Prod.snd).Nodup := by
  induction items using List.reverseRecOn with
  | nil => exact List.nodup_nil
  | append_singleton items item ih =>
    rw [matched_concat, List.map_append, List.nodup_append]
    refine ⟨ih, ?_, ?_⟩
    · cases item.file? stored items <;> simp
    · rintro f taken g mem rfl
      obtain ⟨pair, listed, rfl⟩ := List.mem_map.1 mem
      obtain ⟨file, found, rfl⟩ := Option.map_eq_some_iff.1 (Option.mem_toList.1 listed)
      have named := (ManifestItem.mem_of_file? found).2
      have nodup : (stored.filter (·.givenName == item.name)).Nodup :=
        (List.Nodup.of_map _ distinct).filter _
      refine not_mem_take_of_getElem? nodup found ?_
      have taken := mem_matched_iff.1 taken
      rwa [named] at taken

theorem path_mem_matched_iff {f : StoredFile} (mem : f ∈ stored) (items : List ManifestItem) :
    f.path ∈ (matched stored items).map (·.2.path) ↔ f ∈ (matched stored items).map Prod.snd := by
  constructor
  · intro taken
    obtain ⟨pair, found, same⟩ := List.mem_map.1 taken
    have listed : pair.2 ∈ (matched stored items).map Prod.snd := List.mem_map_of_mem found
    exact eq_of_path_eq distinct (mem_stored_of_mem_matched listed) mem same ▸ listed
  · intro taken
    obtain ⟨pair, found, rfl⟩ := List.mem_map.1 taken
    exact List.mem_map_of_mem found

/-- What an item finds when the items before it have claimed their files. -/
theorem find?_free (items : List ManifestItem) (item : ManifestItem) :
    (stored.find? fun f => f.givenName == item.name &&
      !((matched stored items).map (·.2.path)).reverse.contains f.path) =
        item.file? stored items := by
  have nodup : (stored.filter (·.givenName == item.name)).Nodup :=
    (List.Nodup.of_map _ distinct).filter _
  rw [ManifestItem.file?, ← find?_eq_getElem? nodup (items.countP (·.name == item.name))
    (p := fun f => !((matched stored items).map (·.2.path)).reverse.contains f.path),
    List.find?_filter]
  · congr 1
    funext f
    by_cases named : f.givenName = item.name <;> simp [named]
  · intro f mem
    obtain ⟨listed, named⟩ := List.mem_filter.1 mem
    have named : f.givenName = item.name := beq_iff_eq.1 named
    rw [Bool.not_eq_true', ← Bool.not_eq_true, List.contains_iff_mem, List.mem_reverse,
      path_mem_matched_iff distinct listed, mem_matched_iff, named]

/-- All claims of the items of a manifest: those that have a file make assets of it, and these files
are no longer free. -/
theorem foldl_claim (items : List ManifestItem) :
    items.foldl (Claims.claim stored) ⟨[], []⟩ =
      ⟨.ofList ((matched stored items).map fun pair => pair.1.asset pair.2),
        ((matched stored items).map (·.2.path)).reverse⟩ := by
  induction items using List.reverseRecOn with
  | nil => rfl
  | append_singleton items item ih =>
    rw [List.foldl_concat, ih, matched_concat, Claims.claim, find?_free distinct]
    cases item.file? stored items with
    | none => simp
    | some file =>
      simp only [Option.map_some, Option.toList_some, List.map_append, List.map_singleton,
        AssetTable.ofList_concat, List.reverse_append, List.reverse_singleton, List.singleton_append]
      rfl

end

/-! ## Files that go by their own names -/

namespace Claims

/-- Whether nobody has claimed a file. -/
def isFree (claims : Claims) (file : StoredFile) : Bool := !claims.claimed.contains file.path

/-- A free file whose name is not taken goes by it. -/
theorem adopt_of_new {claims : Claims} {file : StoredFile} (free : claims.isFree file = true)
    (new : file.givenName ∉ claims.assets.map Prod.fst) :
    claims.adopt file =
      { claims with assets := claims.assets.put file.givenName file.asset } := by
  rw [← Table.isSome_get?_iff] at new
  rw [adopt, if_neg]
  · rfl
  · rw [Bool.or_eq_true]
    exact not_or.2 ⟨by simpa [isFree] using free, new⟩

/-- Nothing becomes of a file that somebody has claimed, or whose name is taken. -/
theorem adopt_of_not_new {claims : Claims} {file : StoredFile}
    (taken : claims.isFree file = true → file.givenName ∈ claims.assets.map Prod.fst) :
    claims.adopt file = claims := by
  rw [← Table.isSome_get?_iff] at taken
  rw [adopt, if_pos]
  rw [Bool.or_eq_true, or_iff_not_imp_left]
  exact fun free => taken (by simpa [isFree] using free)

theorem claimed_foldl_adopt (claims : Claims) (files : List StoredFile) :
    (files.foldl adopt claims).claimed = claims.claimed := by
  induction files generalizing claims with
  | nil => rfl
  | cons file rest ih =>
    rw [List.foldl_cons, ih, adopt]
    split <;> rfl

theorem isFree_foldl_adopt (claims : Claims) (files : List StoredFile) (file : StoredFile) :
    (files.foldl adopt claims).isFree file = claims.isFree file := by
  unfold isFree
  rw [claimed_foldl_adopt]

/-- Under a key that no item has the first free file of that name is found. -/
theorem get?_foldl_adopt (claims : Claims) (files : List StoredFile) (key : String) :
    (files.foldl adopt claims).assets.get? key =
      (claims.assets.get? key).or
        (((files.filter claims.isFree).find? (·.givenName == key)).map StoredFile.asset) := by
  induction files using List.reverseRecOn with
  | nil => simp
  | append_singleton files file ih =>
    have still := isFree_foldl_adopt claims files file
    rw [List.foldl_concat, List.filter_append, List.find?_append, Option.map_or, ← Option.or_assoc,
      ← ih]
    by_cases free : claims.isFree file = true
    · have one : [file].filter claims.isFree = [file] := by simp [free]
      rw [one, List.find?_singleton]
      by_cases new : file.givenName ∈ (files.foldl adopt claims).assets.map Prod.fst
      · rw [adopt_of_not_new fun _ => new]
        split
        case isTrue named =>
          rw [beq_iff_eq.1 named, ← Table.isSome_get?_iff] at new
          rw [Option.or_of_isSome new]
        case isFalse => simp
      · rw [adopt_of_new (still.trans free) new, Table.get?_put]
        by_cases named : file.givenName = key
        · rw [named, ← Table.isSome_get?_iff, Option.not_isSome_iff_eq_none] at new
          simp [named, new]
        · simp [named]
    · have none : [file].filter claims.isFree = [] := by simp [free]
      rw [none, adopt_of_not_new fun h => absurd (still.symm.trans h) free]
      simp

/-- The names of free files come behind the ids of the items that have one. -/
theorem map_fst_foldl_adopt {claims : Claims} {ids : List String}
    (keys : claims.assets.map Prod.fst = ids.eraseDups) (files : List StoredFile) :
    (files.foldl adopt claims).assets.map Prod.fst =
      (ids ++ (files.filter claims.isFree).map StoredFile.givenName).eraseDups := by
  induction files using List.reverseRecOn with
  | nil => simpa using keys
  | append_singleton files file ih =>
    have still := isFree_foldl_adopt claims files file
    rw [List.foldl_concat, List.filter_append]
    by_cases free : claims.isFree file = true
    · have one : [file].filter claims.isFree = [file] := by simp [free]
      rw [one, List.map_append, List.map_singleton, ← List.append_assoc, eraseDups_concat]
      split
      case isTrue taken =>
        rw [← List.mem_eraseDups, ← ih] at taken
        rw [adopt_of_not_new fun _ => taken, ih]
      case isFalse new =>
        rw [← List.mem_eraseDups, ← ih] at new
        rw [adopt_of_new (still.trans free) new, Table.map_fst_put, if_neg new, ih]
    · have none : [file].filter claims.isFree = [] := by simp [free]
      rw [none, List.append_nil, adopt_of_not_new fun h => absurd (still.symm.trans h) free, ih]

end Claims

/-! ## The table of assets -/

namespace AssetTable

section

variable {stored : List StoredFile} (distinct : (stored.map StoredFile.path).Nodup)
  (manifest : Option (List ManifestItem))
include distinct

/-- The files that are free when all items have claimed theirs. -/
theorem filter_isFree (items : List ManifestItem) :
    stored.filter (items.foldl (Claims.claim stored) ⟨[], []⟩).isFree = unmatched stored items := by
  refine List.filter_congr fun f mem => ?_
  rw [foldl_claim distinct, Claims.isFree, Bool.eq_iff_iff, Bool.not_eq_true', ← Bool.not_eq_true,
    List.contains_iff_mem, List.mem_reverse, path_mem_matched_iff distinct mem, decide_eq_true_iff]

theorem get?_ofStored (key : String) :
    (ofStored stored manifest).get? key =
      (((matched stored (manifest.getD [])).findRev? fun pair => pair.1.id == key).map
        fun pair => pair.1.asset pair.2).or
          (((unmatched stored (manifest.getD [])).find? (·.givenName == key)).map
            StoredFile.asset) := by
  rw [ofStored, Claims.get?_foldl_adopt, filter_isFree distinct, foldl_claim distinct, get?_ofList,
    List.findRev?_eq_find?_reverse, List.findRev?_eq_find?_reverse, ← List.map_reverse,
    List.find?_map]
  rfl

theorem map_fst_ofStored :
    (ofStored stored manifest).map Prod.fst =
      ((matched stored (manifest.getD [])).map (·.1.id) ++
        (unmatched stored (manifest.getD [])).map StoredFile.givenName).eraseDups := by
  have keys : ((manifest.getD []).foldl (Claims.claim stored) ⟨[], []⟩).assets.map Prod.fst =
      ((matched stored (manifest.getD [])).map (·.1.id)).eraseDups := by
    rw [foldl_claim distinct, map_fst_ofList, List.map_map]
    rfl
  rw [ofStored, Claims.map_fst_foldl_adopt keys, filter_isFree distinct]

/-- An asset is that of an item with its file, or that of a file that is no item's. -/
theorem exists_of_mem_ofStored {row : String × MediaAsset} (mem : row ∈ ofStored stored manifest) :
    (∃ pair ∈ matched stored (manifest.getD []), row = (pair.1.id, pair.1.asset pair.2)) ∨
      ∃ f ∈ unmatched stored (manifest.getD []), row = (f.givenName, f.asset) := by
  have keyed := keyed_ofStored stored manifest
  have found := keyed.get?_id mem
  have own := keyed.own row mem
  rw [get?_ofStored distinct, Option.or_eq_some_iff] at found
  rcases found with found | ⟨-, found⟩
  · obtain ⟨pair, chosen, made⟩ := Option.map_eq_some_iff.1 found
    rw [List.findRev?_eq_find?_reverse] at chosen
    refine .inl ⟨pair, List.mem_reverse.1 (List.mem_of_find?_eq_some chosen), ?_⟩
    exact Prod.ext (own.symm.trans (congrArg MediaAsset.id made).symm) made.symm
  · obtain ⟨f, chosen, made⟩ := Option.map_eq_some_iff.1 found
    refine .inr ⟨f, List.mem_of_find?_eq_some chosen, ?_⟩
    exact Prod.ext (own.symm.trans (congrArg MediaAsset.id made).symm) made.symm

/-- No two assets are made of one file. -/
theorem nodup_sources_ofStored :
    ((ofStored stored manifest).map fun row => row.2.source).Nodup := by
  have rows : (ofStored stored manifest).Nodup := (keyed_ofStored stored manifest).nodup.of_map _
  have listed {pair : ManifestItem × StoredFile}
      (mem : pair ∈ matched stored (manifest.getD [])) : pair.2 ∈ stored :=
    mem_stored_of_mem_matched (List.mem_map_of_mem mem)
  have apart {pair : ManifestItem × StoredFile} {f : StoredFile}
      (mem : pair ∈ matched stored (manifest.getD []))
      (mem' : f ∈ unmatched stored (manifest.getD [])) : pair.2.path ≠ f.path := by
    obtain ⟨stays, free⟩ := List.mem_filter.1 mem'
    intro same
    obtain rfl := eq_of_path_eq distinct (listed mem) stays same
    exact of_decide_eq_true free (List.mem_map_of_mem mem)
  refine rows.map_on fun row mem row' mem' same => ?_
  rcases exists_of_mem_ofStored distinct manifest mem with ⟨pair, claimed, rfl⟩ | ⟨f, free, rfl⟩ <;>
    rcases exists_of_mem_ofStored distinct manifest mem' with
      ⟨pair', claimed', rfl⟩ | ⟨f', free', rfl⟩
  · have files := eq_of_path_eq distinct (listed claimed) (listed claimed') same
    rw [List.inj_on_of_nodup_map (nodup_matched distinct _) claimed claimed' files]
  · exact absurd same (apart claimed free')
  · exact absurd same.symm (apart claimed' free)
  · rw [eq_of_path_eq distinct (List.mem_filter.1 free).1 (List.mem_filter.1 free').1 same]

end

/-- **The assets that stored files make with a manifest.** Of the items and the files of one name
the first belong together, then the second, and so on; an item that is left over has no file. What
is found under an id is the asset of the last item with that id that has a file; under any other
key it is the first file of that name that is no item's. The ids of the items come first, then the
names of the other files, each in the order in which it came first. Every key is the id of its
asset, and every asset has a stored file of its own. -/
theorem ofStored_matched {stored : List StoredFile}
    (distinct : (stored.map StoredFile.path).Nodup) (manifest : Option (List ManifestItem)) :
    let items := manifest.getD []
    let pairs := matched stored items
    let others := unmatched stored items
    let ids := pairs.map (·.1.id)
    let assets := ofStored stored manifest
    (items.foldl (Claims.claim stored) ⟨[], []⟩).claimed.reverse = pairs.map (·.2.path) ∧
    (∀ name, (pairs.filter fun pair => pair.1.name == name) =
      (items.filter (·.name == name)).zip (stored.filter (·.givenName == name))) ∧
    (∀ key, assets.get? key =
      ((pairs.findRev? fun pair => pair.1.id == key).map fun pair => pair.1.asset pair.2).or
        ((others.find? (·.givenName == key)).map StoredFile.asset)) ∧
    assets.map Prod.fst = ids.eraseDups ++
      ((others.map StoredFile.givenName).filter (· ∉ ids)).eraseDups ∧
    (∀ row ∈ assets, row.2.id = row.1 ∧ ∃ f ∈ stored, f.path = row.2.source) ∧
    (assets.map fun row => row.2.source).Nodup := by
  intro items pairs others ids assets
  have keyed := keyed_ofStored stored manifest
  refine ⟨?_, filter_matched stored items, get?_ofStored distinct manifest, ?_,
    fun row mem => ⟨keyed.own row mem, ?_⟩, nodup_sources_ofStored distinct manifest⟩
  · rw [foldl_claim distinct, List.reverse_reverse]
  · rw [map_fst_ofStored distinct, List.eraseDups_append, List.removeAll]
    simp [ids, others, pairs, items]
  · rcases exists_of_mem_ofStored distinct manifest mem with ⟨pair, claimed, rfl⟩ | ⟨f, free, rfl⟩
    · exact ⟨_, mem_stored_of_mem_matched (List.mem_map_of_mem claimed), rfl⟩
    · exact ⟨f, (List.mem_filter.1 free).1, rfl⟩

/-- Two items with one id and one name have the two files of that name, and the second counts; a
third item of that name has none. The id of an item can be the name of a file, which then has no
key of its own. -/
theorem ofStored_matched_repeated :
    let stored : List StoredFile := [⟨"1", "1.mp4", "a.mp4", "uploads/1.mp4", 1, "video/mp4"⟩,
      ⟨"2", "2.mp3", "c.mp3", "uploads/2.mp3", 1, "audio/mpeg"⟩,
      ⟨"3", "3.mp4", "a.mp4", "uploads/3.mp4", 1, "video/mp4"⟩,
      ⟨"4", "4.png", "b.png", "uploads/4.png", 1, "image/png"⟩,
      ⟨"5", "5.png", "d.png", "uploads/5.png", 1, "image/png"⟩]
    let manifest : Option (List ManifestItem) := some [⟨"x", "a.mp4", .video, none⟩,
      ⟨"x", "a.mp4", .audio, some 5.0⟩, ⟨"y", "a.mp4", .video, none⟩,
      ⟨"c.mp3", "b.png", .image, none⟩]
    let assets := ofStored stored manifest
    (stored.map StoredFile.path).Nodup ∧
      assets.map Prod.fst = ["x", "c.mp3", "d.png"] ∧
      assets.get? "x" = some ⟨"x", .audio, "uploads/3.mp4", some 5.0, true⟩ ∧
      assets.get? "y" = none ∧
      assets.get? "c.mp3" = some ⟨"c.mp3", .image, "uploads/4.png", none, true⟩ := by
  intro stored manifest assets
  have distinct : (stored.map StoredFile.path).Nodup := by decide
  obtain ⟨-, -, found, keys, -, -⟩ := ofStored_matched distinct manifest
  exact ⟨distinct, keys.trans (by decide), (found _).trans rfl, (found _).trans rfl,
    (found _).trans rfl⟩

end AssetTable

end Splice
