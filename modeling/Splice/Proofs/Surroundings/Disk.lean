import Splice.Proofs.Outcome
import Splice.Proofs.Text.Separated
import Splice.Surroundings.Disk

/-!
# Where paths lead, and what a change of a disk leaves alone

If a path ends in a name, every place to which it leads ends in that name (`Disk.getLast?_place`),
and two disks with the same directories lead a path to the same place (`Disk.SameBut.place_iff`).

Every change of a file leaves the disk the same but for the place of that file (`Disk.SameBut`).
`Disk.without` is the disk without the files to which some paths lead, as far as there are any. A
disk has some files *more* than another if nothing else differs (`Disk.More`); if they are removed
again, nothing differs (`Disk.More.without`).
-/

namespace Splice

/-! ## The last part of a path -/

namespace Path

/-- A text that leads one step further in when it is a part of a path. -/
structure IsName (name : String) : Prop where
  not_empty : name ≠ ""
  not_here : name ≠ "."
  not_outside : name ≠ ".."
  whole : '/' ∉ name.toList

theorem lastPart_of_not_mem {name : List Char} (whole : '/' ∉ name) : lastPart name = name := by
  have all : name.reverse.takeWhile (· != '/') = name.reverse := by
    refine List.takeWhile_eq_self_iff.2 fun c mem => ?_
    rw [bne_iff_ne]
    rintro rfl
    exact whole (List.mem_reverse.1 mem)
  rw [lastPart, all, List.reverse_reverse]

theorem lastPart_append {before name : List Char} (whole : '/' ∉ name) :
    lastPart (before ++ '/' :: name) = name := by
  have reversed : (before ++ '/' :: name).reverse = name.reverse ++ '/' :: before.reverse := by simp
  have all : ∀ c ∈ name.reverse, (c != '/') = true := by
    intro c mem
    rw [bne_iff_ne]
    rintro rfl
    exact whole (List.mem_reverse.1 mem)
  rw [lastPart, reversed, List.takeWhile_append_of_pos all, List.takeWhile_cons_of_neg (by simp),
    List.append_nil, List.reverse_reverse]

theorem slash_not_mem_baseName (path : String) : '/' ∉ (baseName path).toList := by
  rw [baseName, String.toList_ofList, lastPart, List.mem_reverse]
  intro mem
  simpa using List.mem_takeWhile_imp mem

theorem mem_of_mem_dotted {name : List Char} {c : Char} (mem : c ∈ dotted name) : c ∈ name := by
  unfold dotted at mem
  have word : ∀ a ∈ name.reverse.takeWhile (· != '.'), a ∈ name := fun a inside =>
    List.mem_reverse.1 ((List.takeWhile_sublist _).subset inside)
  dsimp only at mem
  split at mem
  case h_1 => cases mem
  case h_2 dot stem found =>
    have last : dot ∈ name := List.mem_reverse.1
      ((List.dropWhile_sublist _).subset (found ▸ List.mem_cons_self))
    split at mem
    · rcases List.mem_cons.1 mem with rfl | mem
      · exact last
      · exact word c (List.mem_reverse.1 mem)
    · cases mem

theorem slash_not_mem_extension (path : String) : '/' ∉ (extension path).toList := by
  intro mem
  rw [extension, String.toList_ofList] at mem
  refine slash_not_mem_baseName path ?_
  rw [baseName, String.toList_ofList]
  exact mem_of_mem_dotted mem

/-- A text with a slash in it is cut at the last one. -/
theorem exists_eq_append_slash {text : List Char} (inside : '/' ∈ text) :
    ∃ before name, text = before ++ '/' :: name ∧ '/' ∉ name := by
  obtain ⟨name, before, reversed, whole⟩ := List.eq_append_cons_of_mem (List.mem_reverse.2 inside)
  refine ⟨before.reverse, name.reverse, ?_, fun mem => whole (List.mem_reverse.1 mem)⟩
  rw [← List.reverse_reverse text, reversed]
  simp

/-- The last part of a path is the part behind its last slash. -/
theorem exists_parts_eq (path : String) : ∃ before, parts path = before ++ [baseName path] := by
  rw [parts, Text.partsAt, baseName, stretches_eq_splitOnP]
  by_cases inside : '/' ∈ path.toList
  · obtain ⟨before, name, text, whole⟩ := exists_eq_append_slash inside
    have single : ∀ c ∈ name, (c == '/') = false := fun c mem =>
      beq_eq_false_iff_ne.2 fun same => whole (same ▸ mem)
    rw [text, lastPart_append whole, List.splitOnP_append_cons (p := (· == '/')) _ _ rfl,
      List.splitOnP_eq_singleton single, List.map_append]
    exact ⟨_, rfl⟩
  · have single : ∀ c ∈ path.toList, (c == '/') = false := fun c mem =>
      beq_eq_false_iff_ne.2 fun same => inside (same ▸ mem)
    rw [lastPart_of_not_mem inside, List.splitOnP_eq_singleton single]
    exact ⟨[], rfl⟩

/-- A name in a directory is the last part of its path. -/
theorem baseName_join (directory : String) {name : String} (whole : '/' ∉ name.toList) :
    baseName (join directory name) = name := by
  have relative : name.startsWith '/' = false := by
    rw [String.startsWith_char_eq_head?, beq_eq_false_iff_ne]
    exact fun first => whole (List.mem_of_head? first)
  rw [join, relative, baseName, if_neg (by decide)]
  by_cases empty : directory = ""
  · rw [empty, if_pos (by decide), String.empty_append, lastPart_of_not_mem whole,
      String.ofList_toList]
  by_cases slash : directory.endsWith '/' = true
  · rw [if_pos (by simp [slash])]
    rw [String.endsWith_char_eq_getLast?, beq_iff_eq, List.getLast?_eq_some_iff] at slash
    obtain ⟨before, text⟩ := slash
    rw [String.toList_append, text, List.append_assoc, List.singleton_append, lastPart_append whole,
      String.ofList_toList]
  · have apart : (directory ++ "/" ++ name).toList = directory.toList ++ '/' :: name.toList := by
      simp
    rw [if_neg (by simp [empty, slash]), apart, lastPart_append whole, String.ofList_toList]

end Path

namespace Disk

/-! ## Where paths lead -/

variable {d before after : Disk} {path : String} {place p q : Place}

theorem refuseEntry_eq_ok_iff : d.refuseEntry p = .ok () ↔ d.at? p = some .directory := by
  unfold refuseEntry
  split <;> simp_all

/-- The place to which a part of a path leads from a directory. -/
def enter (here : Place) (part : String) : Place :=
  if part == "" || part == "." then here else if part == ".." then parent here else here ++ [part]

theorem follow_cons_eq_ok_iff {here : Place} {part : String} {rest : List String} :
    d.follow here (part :: rest) = .ok p ↔
      d.at? here = some .directory ∧ d.follow (enter here part) rest = .ok p := by
  rw [follow, ← refuseEntry_eq_ok_iff, enter]
  cases d.refuseEntry here with
  | error kind => simp
  | ok _ =>
    simp only [true_and]
    split
    · rfl
    · split <;> rfl

/-- Where a path leads depends on nothing but the directories of a disk. -/
theorem follow_iff (same : ∀ q, after.at? q = some .directory ↔ before.at? q = some .directory)
    (here : Place) (parts : List String) :
    after.follow here parts = .ok p ↔ before.follow here parts = .ok p := by
  induction parts generalizing here with
  | nil => rfl
  | cons part rest ih => rw [follow_cons_eq_ok_iff, follow_cons_eq_ok_iff, same, ih]

/-- The last name of a path is the last name of the place to which it leads. -/
theorem getLast?_follow {name : String} (proper : Path.IsName name) {here : Place}
    {parts : List String} (leads : d.follow here (parts ++ [name]) = .ok p) :
    p.getLast? = some name := by
  induction parts generalizing here with
  | nil =>
    rw [List.nil_append, follow_cons_eq_ok_iff, enter, if_neg (by
      simp [proper.not_empty, proper.not_here]), if_neg (by simp [proper.not_outside])] at leads
    obtain ⟨-, leads⟩ := leads
    cases leads
    exact List.getLast?_concat
  | cons part rest ih =>
    rw [List.cons_append, follow_cons_eq_ok_iff] at leads
    exact ih leads.2

theorem place_eq_ok_iff :
    d.place path = .ok p ↔ path ≠ "" ∧ d.follow (start path) (Path.parts path) = .ok p := by
  unfold place
  by_cases empty : path = "" <;> simp [empty]

theorem getLast?_place (proper : Path.IsName (Path.baseName path)) (leads : d.place path = .ok p) :
    p.getLast? = some (Path.baseName path) := by
  obtain ⟨parts, ends⟩ := Path.exists_parts_eq path
  rw [place_eq_ok_iff, ends] at leads
  exact getLast?_follow proper leads.2

/-- Whether a place is that of an entry of a directory. -/
def Entry (d : Disk) (directory : String) (p : Place) : Prop :=
  ∃ name, Path.IsName name ∧ d.place (Path.join directory name) = .ok p

/-! ## What stands at a place -/

/-- Whether a file stands at a place. -/
def IsFile (d : Disk) (p : Place) : Prop :=
  ∃ content modified, d.at? p = some (.file content modified)

theorem file_eq_ok_iff {found : Bytes × Timestamp} :
    d.file path = .ok found ↔
      ∃ p, d.place path = .ok p ∧ d.at? p = some (.file found.1 found.2) := by
  unfold file node
  cases d.place path with
  | error kind => simp
  | ok p =>
    cases standing : d.at? p with
    | none => simp [standing]
    | some node =>
      cases node with
      | directory => simp [standing]
      | file content modified => simp [standing, Prod.ext_iff]

theorem isOk_file_iff : (d.file path).isOk = true ↔ ∃ p, d.place path = .ok p ∧ d.IsFile p := by
  rw [isOk_iff_exists]
  constructor
  · rintro ⟨found, h⟩
    obtain ⟨p, leads, standing⟩ := file_eq_ok_iff.1 h
    exact ⟨p, leads, _, _, standing⟩
  · rintro ⟨p, leads, content, modified, standing⟩
    exact ⟨(content, modified), file_eq_ok_iff.2 ⟨p, leads, standing⟩⟩

theorem exists?_iff : d.exists? path = true ↔ ∃ p, d.place path = .ok p ∧ d.at? p ≠ none := by
  unfold exists? node
  cases d.place path with
  | error kind => simp [Except.isOk, Except.toBool]
  | ok p => cases standing : d.at? p <;> simp [standing, Except.isOk, Except.toBool]

/-- A file can be read only where something is. -/
theorem exists?_of_file {found : Bytes × Timestamp} (h : d.file path = .ok found) :
    d.exists? path = true := by
  obtain ⟨p, leads, standing⟩ := file_eq_ok_iff.1 h
  exact exists?_iff.2 ⟨p, leads, by rw [standing]; simp⟩

theorem at?_of_ne_directory (apart : d.at? p ≠ some .directory) (e : Disk) :
    e.at? p = e.nodes.get? p := by
  unfold at? at apart ⊢
  rw [if_neg]
  rintro start
  exact apart (if_pos start)

theorem at?_congr (same : after.nodes.get? q = before.nodes.get? q) :
    after.at? q = before.at? q := by
  unfold at?
  rw [same]

/-! ## Changes of files -/

/-- Two disks that are the same but for files at some places. -/
structure SameBut (touched : Place → Prop) (before after : Disk) : Prop where
  at?_eq : ∀ p, ¬ touched p → after.at? p = before.at? p
  directory_iff : ∀ p, after.at? p = some .directory ↔ before.at? p = some .directory

namespace SameBut

variable {touched more : Place → Prop}

theorem refl (d : Disk) : SameBut touched d d := ⟨fun _ _ => rfl, fun _ => .rfl⟩

theorem mono (h : SameBut touched before after) (wider : ∀ p, touched p → more p) :
    SameBut more before after :=
  ⟨fun p untouched => h.at?_eq p (mt (wider p) untouched), h.directory_iff⟩

theorem trans {between : Disk} (first : SameBut touched before between)
    (second : SameBut touched between after) : SameBut touched before after :=
  ⟨fun p untouched => (second.at?_eq p untouched).trans (first.at?_eq p untouched),
    fun p => (second.directory_iff p).trans (first.directory_iff p)⟩

theorem symm (h : SameBut touched before after) : SameBut touched after before :=
  ⟨fun p untouched => (h.at?_eq p untouched).symm, fun p => (h.directory_iff p).symm⟩

/-- A path leads to the same place. -/
theorem place_iff (h : SameBut touched before after) :
    after.place path = .ok p ↔ before.place path = .ok p := by
  rw [place_eq_ok_iff, place_eq_ok_iff, follow_iff h.directory_iff]

theorem entry (h : SameBut touched before after) {directory : String}
    (inside : after.Entry directory p) : before.Entry directory p := by
  obtain ⟨name, proper, leads⟩ := inside
  exact ⟨name, proper, h.place_iff.1 leads⟩

theorem set_file (apart : d.at? p ≠ some .directory) (content : Bytes) (modified : Timestamp) :
    SameBut (· = p) d (d.set p (.file content modified)) := by
  have elsewhere : ∀ q, q ≠ p → (d.set p (.file content modified)).at? q = d.at? q := fun q other =>
    at?_congr (by rw [set, Table.get?_put, if_neg (Ne.symm other)])
  refine ⟨elsewhere, fun q => ?_⟩
  by_cases here : q = p
  · subst here
    rw [at?_of_ne_directory apart, set, Table.get?_put, if_pos rfl]
    simpa using apart
  · rw [elsewhere q here]

theorem erase_file (file : d.IsFile p) : SameBut (· = p) d ⟨d.nodes.erase p⟩ := by
  have elsewhere : ∀ q, q ≠ p → (Disk.mk (d.nodes.erase p)).at? q = d.at? q := fun q other =>
    at?_congr (by rw [Table.get?_erase, if_neg (Ne.symm other)])
  refine ⟨elsewhere, fun q => ?_⟩
  obtain ⟨content, modified, standing⟩ := file
  by_cases here : q = p
  · subst here
    rw [at?_of_ne_directory (by rw [standing]; simp), Table.get?_erase, if_pos rfl, standing]
    simp
  · rw [elsewhere q here]

end SameBut

/-- Two disks of which the second has everything that the first has, and as many directories. -/
def Spares (before after : Disk) : Prop := SameBut (before.at? · = none) before after

theorem SameBut.spares {touched : Place → Prop} (h : SameBut touched before after)
    (new : ∀ p, touched p → before.at? p = none) : Spares before after := h.mono new

theorem Spares.at?_eq (h : Spares before after) (there : before.at? p ≠ none) :
    after.at? p = before.at? p := SameBut.at?_eq h p there

theorem Spares.trans {between : Disk} (first : Spares before between)
    (second : Spares between after) : Spares before after := by
  refine SameBut.trans first (SameBut.mono second fun p missing => ?_)
  by_contra there
  exact there ((first.at?_eq there).symm.trans missing)

/-- A file that was put at a place stands there. -/
theorem at?_set_file (apart : d.at? p ≠ some .directory) (content : Bytes) (modified : Timestamp) :
    (d.set p (.file content modified)).at? p = some (.file content modified) := by
  rw [at?_of_ne_directory apart, set, Table.get?_put, if_pos rfl]

/-- What a successful writing did. -/
theorem write_eq_ok {content : Bytes} {modified : Timestamp}
    (h : d.write path content modified = .ok after) :
    ∃ p, d.place path = .ok p ∧ d.at? p ≠ some .directory ∧
      after = d.set p (.file content modified) := by
  unfold write at h
  split at h
  case h_1 => cases h
  case h_2 p leads =>
    refine ⟨p, leads, ?_⟩
    split at h
    case h_1 => cases h
    case h_2 standing =>
      cases h
      exact ⟨by rw [standing]; simp, rfl⟩
    case h_3 standing =>
      refine ⟨by rw [standing]; simp, ?_⟩
      obtain ⟨_, -, rfl⟩ := map_eq_ok_iff.1 h
      rfl

/-- More content at the end of a file that is there. -/
theorem append_of_file {content more : Bytes} {modified old : Timestamp}
    (leads : d.place path = .ok p) (standing : d.at? p = some (.file content old)) :
    d.append path more modified = d.set p (.file (content ++ more) modified) := by
  have found : d.file path = .ok (content, old) := file_eq_ok_iff.2 ⟨p, leads, standing⟩
  have written : d.write path (content ++ more) modified =
      .ok (d.set p (.file (content ++ more) modified)) := by
    rw [write, leads]
    dsimp only
    rw [standing]
  rw [append, found]
  dsimp only
  rw [written]
  rfl

/-! ## Disks without some files -/

/-- The disk without a file, if there is one where a path leads. -/
def cleared (d : Disk) (path : String) : Disk := (d.remove path).toOption.getD d

/-- The disk without the files to which some paths lead, as far as there are any. -/
def without (d : Disk) (paths : List String) : Disk := paths.foldl cleared d

theorem cleared_of_file (leads : d.place path = .ok p) (file : d.IsFile p) :
    d.cleared path = ⟨d.nodes.erase p⟩ := by
  obtain ⟨content, modified, standing⟩ := file
  have found : d.file path = .ok (content, modified) := file_eq_ok_iff.2 ⟨p, leads, standing⟩
  rw [cleared, remove, found, leads]
  rfl

theorem cleared_of_no_file (none : ∀ p, d.place path = .ok p → ¬ d.IsFile p) :
    d.cleared path = d := by
  have absent : ∀ found, d.file path ≠ .ok found := by
    intro found h
    obtain ⟨p, leads, standing⟩ := file_eq_ok_iff.1 h
    exact none p leads ⟨_, _, standing⟩
  rw [cleared, remove]
  cases h : d.file path with
  | error kind => rfl
  | ok found => exact absurd h (absent found)

theorem cleared_of_missing (missing : d.exists? path = false) : d.cleared path = d := by
  refine cleared_of_no_file fun p leads file => ?_
  obtain ⟨content, modified, standing⟩ := file
  rw [exists?_iff.2 ⟨p, leads, by rw [standing]; simp⟩] at missing
  cases missing

theorem sameBut_cleared (d : Disk) (path : String) :
    SameBut (fun p => d.place path = .ok p ∧ d.IsFile p) d (d.cleared path) := by
  by_cases some : ∃ p, d.place path = .ok p ∧ d.IsFile p
  · obtain ⟨p, leads, file⟩ := some
    rw [cleared_of_file leads file]
    refine (SameBut.erase_file file).mono ?_
    rintro q rfl
    exact ⟨leads, file⟩
  · rw [cleared_of_no_file fun p leads file => some ⟨p, leads, file⟩]
    exact .refl d

theorem sameBut_without_singleton (leads : d.place path = .ok p) :
    SameBut (· = p) d (d.without [path]) := by
  refine (d.sameBut_cleared path).mono fun q inside => ?_
  rw [leads] at inside
  exact (Except.ok.inj inside.1).symm

theorem at?_cleared (leads : d.place path = .ok p) (file : d.IsFile p) :
    (d.cleared path).at? p = none := by
  obtain ⟨content, modified, standing⟩ := id file
  rw [cleared_of_file leads file, at?_of_ne_directory (by rw [standing]; simp), Table.get?_erase,
    if_pos rfl]

/-- Only the files to which the paths lead are missing. -/
theorem sameBut_without (d : Disk) (paths : List String) :
    SameBut (fun p => ∃ path ∈ paths, d.place path = .ok p ∧ d.IsFile p) d (d.without paths) := by
  induction paths generalizing d with
  | nil => exact .refl d
  | cons path rest ih =>
    have first := d.sameBut_cleared path
    refine (first.mono fun p h => ⟨path, List.mem_cons_self, h⟩).trans ?_
    refine (ih (d.cleared path)).mono ?_
    rintro p ⟨other, mem, leads, file⟩
    refine ⟨other, List.mem_cons_of_mem _ mem, first.place_iff.1 leads, ?_⟩
    by_cases gone : d.place path = .ok p ∧ d.IsFile p
    · exact gone.2
    · obtain ⟨content, modified, standing⟩ := file
      exact ⟨content, modified, (first.at?_eq p gone).symm.trans standing⟩

/-- The files to which the paths lead are missing. -/
theorem at?_without {paths : List String} (mem : path ∈ paths) (leads : d.place path = .ok p)
    (file : d.IsFile p) : (d.without paths).at? p = none := by
  induction paths generalizing d with
  | nil => cases mem
  | cons first rest ih =>
    have change := d.sameBut_cleared first
    by_cases gone : d.place first = .ok p ∧ d.IsFile p
    · -- What is missing already stays missing.
      have missing := at?_cleared gone.1 gone.2
      refine ((sameBut_without (d.cleared first) rest).at?_eq p ?_).trans missing
      rintro ⟨-, -, -, content, modified, standing⟩
      cases missing.symm.trans standing
    · rcases List.mem_cons.1 mem with rfl | mem
      · exact absurd ⟨leads, file⟩ gone
      · obtain ⟨content, modified, standing⟩ := file
        exact ih mem (change.place_iff.2 leads)
          ⟨content, modified, (change.at?_eq p gone).trans standing⟩

/-- No file is left where one of the paths leads. -/
theorem isOk_file_without {paths : List String} (mem : path ∈ paths) :
    ((d.without paths).file path).isOk = false := by
  have change := d.sameBut_without paths
  rw [Bool.eq_false_iff, Ne, isOk_file_iff]
  rintro ⟨p, leads, content, modified, standing⟩
  rw [change.place_iff] at leads
  by_cases file : d.IsFile p
  · cases (at?_without mem leads file).symm.trans standing
  · refine file ⟨content, modified, (change.at?_eq p ?_).symm.trans standing⟩
    rintro ⟨-, -, -, there⟩
    exact file there

theorem without_append (d : Disk) (first second : List String) :
    d.without (first ++ second) = (d.without first).without second :=
  List.foldl_append

/-- What is read when some files were removed could be read before. -/
theorem file_of_file_without {paths : List String} {found : Bytes × Timestamp}
    (read : (d.without paths).file path = .ok found) : d.file path = .ok found := by
  have change := d.sameBut_without paths
  obtain ⟨p, leads, standing⟩ := file_eq_ok_iff.1 read
  refine file_eq_ok_iff.2 ⟨p, change.place_iff.1 leads, ?_⟩
  rw [← standing]
  refine (change.at?_eq p ?_).symm
  rintro ⟨other, mem, there, file⟩
  cases (at?_without mem there file).symm.trans standing

/-! ## Disks with more files -/

/-- A disk that differs from another only in that files stand at some places where nothing stood. -/
structure More (extra : Place → Prop) (before after : Disk) : Prop where
  new : ∀ p, extra p → before.at? p = none
  files : ∀ p, extra p → after.IsFile p
  others : SameBut extra before after

namespace More

variable {extra further : Place → Prop}

theorem refl (d : Disk) : More (fun _ => False) d d :=
  ⟨fun _ h => h.elim, fun _ h => h.elim, .refl d⟩

theorem congr (h : More extra before after) (same : ∀ p, extra p ↔ further p) :
    More further before after :=
  (funext fun p => propext (same p) : extra = further) ▸ h

theorem trans {between : Disk} (first : More extra before between)
    (second : More further between after) :
    More (fun p => extra p ∨ further p) before after where
  new p h := by
    rcases h with h | h
    · exact first.new p h
    · by_cases inside : extra p
      · exact first.new p inside
      · rw [← first.others.at?_eq p inside]
        exact second.new p h
  files p h := by
    by_cases inside : further p
    · exact second.files p inside
    · obtain ⟨content, modified, standing⟩ := first.files p (h.resolve_right inside)
      exact ⟨content, modified, (second.others.at?_eq p inside).trans standing⟩
  others := (first.others.mono fun _ => .inl).trans (second.others.mono fun _ => .inr)

theorem spares (h : More extra before after) : Spares before after := h.others.spares h.new

/-- What stood somewhere still stands there. -/
theorem at?_eq (h : More extra before after) (there : before.at? p ≠ none) :
    after.at? p = before.at? p := h.spares.at?_eq there

/-- Where nothing stands now nothing stood. -/
theorem at?_eq_none (h : More extra before after) (missing : after.at? p = none) :
    before.at? p = none := by
  by_contra there
  exact there ((h.at?_eq there).symm.trans missing)

/-- Where nothing stood and now a file does, and nothing else differs. -/
theorem of_sameBut (new : before.at? p = none) (file : after.IsFile p)
    (others : SameBut (· = p) before after) : More (· = p) before after :=
  ⟨fun _ h => h ▸ new, fun _ h => h ▸ file, others⟩

/-- If files that are more are removed, the others of them are more. -/
theorem without (h : More extra before after) {paths : List String}
    (own : ∀ path ∈ paths, ∀ p, after.place path = .ok p → after.IsFile p → extra p) :
    More (fun p => extra p ∧ ∀ path ∈ paths, after.place path ≠ .ok p) before
      (after.without paths) := by
  have change := after.sameBut_without paths
  refine ⟨fun p inside => h.new p inside.1, fun p inside => ?_, fun p outside => ?_, fun p => ?_⟩
  · obtain ⟨content, modified, standing⟩ := h.files p inside.1
    refine ⟨content, modified, (change.at?_eq p ?_).trans standing⟩
    rintro ⟨path, mem, leads, -⟩
    exact inside.2 path mem leads
  · by_cases inside : extra p
    · by_cases named : ∃ path ∈ paths, after.place path = .ok p
      · obtain ⟨path, mem, leads⟩ := named
        rw [at?_without mem leads (h.files p inside), h.new p inside]
      · exact absurd ⟨inside, fun path mem leads => named ⟨path, mem, leads⟩⟩ outside
    · rw [← h.others.at?_eq p inside]
      refine change.at?_eq p ?_
      rintro ⟨path, mem, leads, file⟩
      exact inside (own path mem p leads file)
  · rw [change.directory_iff, h.others.directory_iff]

/-- If what is more can only be where a path leads, and nothing stood there, nothing is more once
that file is removed. -/
theorem cleared (h : More extra before after) (own : ∀ p, extra p → before.place path = .ok p)
    (new : ∀ p, before.place path = .ok p → before.at? p = none) :
    More (fun _ => False) before (after.cleared path) := by
  refine (h.without ?_ : More _ before (after.without [path])).congr fun p => ⟨?_, False.elim⟩
  · intro other listed p leads file
    obtain rfl := List.mem_singleton.1 listed
    by_contra outside
    obtain ⟨content, modified, standing⟩ := file
    rw [h.others.at?_eq p outside, new p (h.others.place_iff.1 leads)] at standing
    cases standing
  · rintro ⟨inside, away⟩
    exact away path (List.mem_singleton_self path) (h.others.place_iff.2 (own p inside))

end More

/-- If files are removed that are there, they are more than what is left. -/
theorem more_without (d : Disk) (paths : List String) :
    More (fun p => ∃ path ∈ paths, d.place path = .ok p ∧ d.IsFile p) (d.without paths) d where
  new p gone := by
    obtain ⟨path, mem, leads, file⟩ := gone
    exact at?_without mem leads file
  files p gone := by
    obtain ⟨-, -, -, file⟩ := gone
    exact file
  others := (d.sameBut_without paths).symm

theorem more_of_remove (leads : d.place path = .ok p) (removed : d.remove path = .ok after) :
    More (· = p) after d := by
  have whole : d.without [path] = after := by simp [without, cleared, removed, Except.toOption]
  have file : d.IsFile p := by
    unfold remove at removed
    split at removed
    case h_1 => cases removed
    case h_2 found read =>
      obtain ⟨q, leads', standing⟩ := file_eq_ok_iff.1 read
      cases leads.symm.trans leads'
      exact ⟨_, _, standing⟩
  rw [← whole]
  refine (d.more_without [path]).congr fun q => ?_
  simp only [List.mem_singleton, exists_eq_left, leads, Except.ok.injEq]
  constructor
  · rintro ⟨here, -⟩
    exact here.symm
  · rintro rfl
    exact ⟨rfl, file⟩

end Disk

end Splice
