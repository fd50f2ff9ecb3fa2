import Splice.Proofs.Storage.Names

/-!
# Whose a file is

Every name that is given out carries an id, and no name carries two (`Storage.Carries.eq`), whatever
their labels and times. So what stands under a name with an id belongs to whoever was given that id
(`Storage.Mine`). While the two directories of a storage are there (`Storage.Prepared`), the paths
of names lead into them (`Disk.place_join`), so that a path with such a name (`Storage.Owned`) leads
to a place that belongs to the same (`Storage.Owned.leads`).
-/

namespace Splice

/-! ## The text of a time -/

/-- The text of an integer is a sign, if it has one, and some digits. -/
theorem exists_toString_int_eq (n : Int) : ∃ sign digits,
    (toString n).toList = sign ++ digits ∧ (sign = [] ∨ sign = ['-']) ∧ digits ≠ [] ∧
      ∀ c ∈ digits, c.isDigit := by
  have natural (m : Nat) : (toString m).toList ≠ [] ∧ ∀ c ∈ (toString m).toList, c.isDigit := by
    rw [Nat.toString_eq_ofList_toDigits, String.toList_ofList]
    exact ⟨Nat.toDigits_ne_nil, fun c => Nat.isDigit_of_mem_toDigits (by decide) (by decide)⟩
  cases n with
  | ofNat m => exact ⟨[], _, rfl, .inl rfl, natural m⟩
  | negSucc m =>
    refine ⟨['-'], _, ?_, .inr rfl, natural (m + 1)⟩
    show ("-" ++ toString (m + 1)).toList = _
    rw [String.toList_append]
    rfl

/-- What stands behind an integer and a dash. -/
def behindNumber (cs : List Char) : List Char :=
  ((cs.dropWhile (· == '-')).dropWhile Char.isDigit).drop 1

theorem behindNumber_toString (n : Int) (rest : List Char) :
    behindNumber ((toString n).toList ++ '-' :: rest) = rest := by
  obtain ⟨sign, digits, text, signed, filled, all⟩ := exists_toString_int_eq n
  obtain ⟨d, ds, rfl⟩ := List.exists_cons_of_ne_nil filled
  have first : (d == '-') = false := by
    rw [beq_eq_false_iff_ne]
    rintro rfl
    exact absurd (all '-' List.mem_cons_self) (by decide)
  have unsigned : ((sign ++ d :: ds) ++ '-' :: rest).dropWhile (· == '-') =
      (d :: ds) ++ '-' :: rest := by
    rcases signed with rfl | rfl <;> simp [first]
  rw [behindNumber, text, unsigned, List.dropWhile_append_of_pos all]
  rfl

namespace Storage

/-! ## Names that carry an id -/

/-- The labels of the names that are given out: those of the files of an export, those of files that
are only uploaded, and those of results. -/
def labels : List String := ["files", "media", "export"]

/-- Whether a name carries an id: some front of that id stands at its start. -/
def Carries (n : Nat) (name : String) : Prop :=
  ∃ label ∈ labels, ∃ time, (front label time n).toList <+: name.toList

theorem carries_front {label : String} (mem : label ∈ labels) (time : Int) (n : Nat)
    (extension : String) : Carries n (front label time n ++ extension) :=
  ⟨label, mem, time, by rw [String.toList_append]; exact List.prefix_append _ _⟩

theorem toList_front (label : String) (time : Int) (n : Nat) :
    (front label time n).toList = label.toList ++ '-' :: ((toString time).toList ++
      '-' :: (Text.hexDigits 8 n ++ (Text.hexDigits 8 n).take 4)) := by
  simp [front, World.take_idText]

/-- Labels that are different differ in their first character. -/
theorem eq_of_labels {label label' : String} (mem : label ∈ labels) (mem' : label' ∈ labels)
    {rest rest' : List Char} (same : label.toList ++ rest = label'.toList ++ rest') :
    label = label' := by
  have finite : ∀ a ∈ labels, a.toList ≠ [] ∧
      ∀ b ∈ labels, a.toList.head? = b.toList.head? → a = b := by decide
  obtain ⟨filled, heads⟩ := finite label mem
  have first := congrArg List.head? same
  rw [List.head?_append_of_ne_nil _ filled,
    List.head?_append_of_ne_nil _ (finite label' mem').1] at first
  exact heads label' mem' first

/-- Names with one label have the same digits of an id if they are the same, whenever they were given
out. -/
theorem hexDigits_eq_of_front {label : String} {time time' : Int} {m n : Nat}
    {rest rest' : List Char}
    (same : (front label time m).toList ++ rest = (front label time' n).toList ++ rest') :
    Text.hexDigits 8 m = Text.hexDigits 8 n := by
  rw [toList_front, toList_front] at same
  simp only [List.append_cancel_left_eq, List.cons_append, List.cons.injEq, true_and,
    List.append_assoc] at same
  have behind := congrArg behindNumber same
  rw [behindNumber_toString, behindNumber_toString] at behind
  exact List.append_inj_left behind (by rw [Text.length_hexDigits, Text.length_hexDigits])

/-- No name carries two ids. -/
theorem Carries.eq {m n : Nat} {name : String} (few : m < 16 ^ 8) (few' : n < 16 ^ 8)
    (carries : Carries m name) (carries' : Carries n name) : m = n := by
  obtain ⟨label, mem, time, rest, front⟩ := carries
  obtain ⟨label', mem', time', rest', front'⟩ := carries'
  have same := front.trans front'.symm
  rw [toList_front, toList_front, List.append_assoc, List.append_assoc] at same
  obtain rfl := eq_of_labels mem mem' same
  exact Text.hexDigits_inj few few' (hexDigits_eq_of_front (front.trans front'.symm))

/-- Whether a place belongs to those who were given some ids: its name carries one of them. -/
def Mine (ids : List Nat) (p : Place) : Prop :=
  ∃ name, p.getLast? = some name ∧ ∃ n ∈ ids, Carries n name

theorem Mine.mono {ids more : List Nat} (sub : ids ⊆ more) {p : Place} (mine : Mine ids p) :
    Mine more p := by
  obtain ⟨name, last, n, mem, carries⟩ := mine
  exact ⟨name, last, n, sub mem, carries⟩

/-- A name that belongs to somebody starts with a label. -/
theorem Mine.exists_label {ids : List Nat} {p : Place} (mine : Mine ids p) :
    ∃ name ∈ p.getLast?, ∃ label ∈ labels, label.toList <+: name.toList := by
  obtain ⟨name, last, n, -, label, listed, time, front⟩ := mine
  rw [toList_front] at front
  exact ⟨name, last, label, listed, (List.prefix_append _ _).trans front⟩

theorem not_mine_nil (p : Place) : ¬ Mine [] p := by
  rintro ⟨-, -, n, mem, -⟩
  cases mem

end Storage

/-! ## Where the paths of names lead -/

namespace Path

theorem parts_append_slash (before name : List Char) (whole : '/' ∉ name) :
    parts (String.ofList (before ++ '/' :: name)) =
      parts (String.ofList before) ++ [String.ofList name] := by
  have single : ∀ c ∈ name, (c == '/') = false := fun c mem =>
    beq_eq_false_iff_ne.2 fun same => whole (same ▸ mem)
  rw [parts, parts, Text.partsAt, Text.partsAt, stretches_eq_splitOnP, stretches_eq_splitOnP,
    String.toList_ofList, String.toList_ofList,
    List.splitOnP_append_cons (p := (· == '/')) _ _ rfl, List.splitOnP_eq_singleton single,
    List.map_append]
  rfl

theorem start_append {directory : String} (filled : directory ≠ "") (rest : String) :
    Disk.start (directory ++ rest) = Disk.start directory := by
  have nonempty : directory.toList ≠ [] := by simpa using filled
  rw [Disk.start, Disk.start, String.startsWith_char_eq_head?, String.startsWith_char_eq_head?,
    String.toList_append, List.head?_append_of_ne_nil _ nonempty]

end Path

namespace Disk

variable {d : Disk} {p q : Place}

theorem follow_append_eq_ok_iff {here : Place} {parts more : List String} :
    d.follow here (parts ++ more) = .ok p ↔
      ∃ q, d.follow here parts = .ok q ∧ d.follow q more = .ok p := by
  induction parts generalizing here with
  | nil => simp [follow]
  | cons part rest ih =>
    rw [List.cons_append, follow_cons_eq_ok_iff, ih]
    simp only [follow_cons_eq_ok_iff, and_assoc, exists_and_left]

theorem follow_name {name : String} (proper : Path.IsName name)
    (directory : d.at? q = some .directory) : d.follow q [name] = .ok (q ++ [name]) := by
  rw [follow_cons_eq_ok_iff, enter, if_neg (by simp [proper.not_empty, proper.not_here]),
    if_neg (by simp [proper.not_outside])]
  exact ⟨directory, rfl⟩

/-- The path of a name in a directory that is there leads into it. -/
theorem place_join {directory name : String} (proper : Path.IsName name)
    (leads : d.place directory = .ok q) (there : d.at? q = some .directory) :
    d.place (Path.join directory name) = .ok (q ++ [name]) := by
  obtain ⟨filled, follows⟩ := place_eq_ok_iff.1 leads
  have relative : name.startsWith '/' = false := by
    rw [String.startsWith_char_eq_head?, beq_eq_false_iff_ne]
    exact fun first => proper.whole (List.mem_of_head? first)
  have text : directory = String.ofList directory.toList := String.ofList_toList.symm
  rw [Path.join, relative, if_neg (by decide), place_eq_ok_iff]
  by_cases slash : directory.endsWith '/' = true
  · rw [if_pos (by simp [slash]), Path.start_append filled]
    rw [String.endsWith_char_eq_getLast?, beq_iff_eq, List.getLast?_eq_some_iff] at slash
    obtain ⟨before, ends⟩ := slash
    have parts : Path.parts directory = Path.parts (String.ofList before) ++ [""] := by
      rw [text, ends, Path.parts_append_slash before [] List.not_mem_nil]
    have parts' : Path.parts (directory ++ name) = Path.parts (String.ofList before) ++ [name] := by
      rw [← String.ofList_toList (s := directory ++ name), String.toList_append, ends,
        List.append_assoc, List.singleton_append, Path.parts_append_slash _ _ proper.whole,
        String.ofList_toList]
    rw [parts, follow_append_eq_ok_iff] at follows
    obtain ⟨q', before', here⟩ := follows
    rw [follow_cons_eq_ok_iff] at here
    obtain ⟨-, here⟩ := here
    cases here
    refine ⟨by simp [filled], ?_⟩
    rw [parts', follow_append_eq_ok_iff]
    exact ⟨q', before', follow_name proper there⟩
  · rw [if_neg (by simp [filled, slash])]
    have parts : Path.parts (directory ++ "/" ++ name) = Path.parts directory ++ [name] := by
      have apart : directory ++ "/" ++ name =
          String.ofList (directory.toList ++ '/' :: name.toList) := by
        rw [← String.ofList_toList (s := directory ++ "/" ++ name)]
        simp
      rw [apart, Path.parts_append_slash _ _ proper.whole, String.ofList_toList,
        String.ofList_toList]
    rw [parts, String.append_assoc, Path.start_append filled, follow_append_eq_ok_iff]
    exact ⟨by simp, q, follows, follow_name proper there⟩

theorem parent_snoc {name : String} (proper : Path.IsName name) : parent (q ++ [name]) = q := by
  have other : q ++ [name] ≠ root := by
    intro same
    obtain ⟨-, last⟩ := List.append_inj' (show q ++ [name] = [] ++ ["/"] from same) rfl
    refine proper.whole ?_
    rw [List.singleton_inj.1 last]
    decide
  rw [parent, if_neg other, List.dropLast_concat]

/-- A path leads to a place in a directory that is there. -/
structure Leads (d : Disk) (path : String) (p : Place) : Prop where
  place : d.place path = .ok p
  around : d.at? (parent p) = some .directory

end Disk

namespace Storage

variable {s : Storage} {d : Disk}

/-- Whether a path leads to a directory. -/
def IsDirectory (d : Disk) (directory : String) : Prop :=
  ∃ q, d.place directory = .ok q ∧ d.at? q = some .directory

/-- Whether the two directories of a storage are there. -/
structure Prepared (s : Storage) (d : Disk) : Prop where
  uploads : IsDirectory d s.uploadDir
  results : IsDirectory d s.outputDir

theorem Prepared.of_sameBut {touched : Place → Prop} {e : Disk} (prepared : s.Prepared d)
    (same : Disk.SameBut touched d e) : s.Prepared e := by
  have kept {directory : String} (h : IsDirectory d directory) : IsDirectory e directory := by
    obtain ⟨q, leads, there⟩ := h
    exact ⟨q, same.place_iff.2 leads, (same.directory_iff q).2 there⟩
  exact ⟨kept prepared.uploads, kept prepared.results⟩

/-- Whether a path is one of those who were given some ids: that of a name with one of the ids in
one of the two directories. -/
def Owned (s : Storage) (ids : List Nat) (path : String) : Prop :=
  ∃ directory name, (directory = s.uploadDir ∨ directory = s.outputDir) ∧ Path.IsName name ∧
    (∃ n ∈ ids, Carries n name) ∧ path = Path.join directory name

theorem Owned.mono {ids more : List Nat} (sub : ids ⊆ more) {path : String}
    (owned : s.Owned ids path) : s.Owned more path := by
  obtain ⟨directory, name, inside, proper, ⟨n, mem, carries⟩, same⟩ := owned
  exact ⟨directory, name, inside, proper, ⟨n, sub mem, carries⟩, same⟩

/-- A path leads to a place that belongs to those whose path it is. -/
theorem Owned.leads {ids : List Nat} {path : String} (owned : s.Owned ids path)
    (prepared : s.Prepared d) : ∃ p, d.Leads path p ∧ Mine ids p := by
  obtain ⟨directory, name, inside, proper, carried, rfl⟩ := owned
  obtain ⟨q, leads, there⟩ : IsDirectory d directory := by
    rcases inside with rfl | rfl
    · exact prepared.uploads
    · exact prepared.results
  refine ⟨q ++ [name], ⟨Disk.place_join proper leads there, ?_⟩, name, List.getLast?_concat,
    carried⟩
  rw [Disk.parent_snoc proper]
  exact there

end Storage

end Splice
