import Splice.Proofs.Storage.Records
import Splice.Proofs.Traffic.Operations

/-!
# Uploads stay in the directory for uploads

All that the sender of an upload has a say in is the extension of the name under which it is kept.
There is no slash in it, and a front stands before it, so that it is a name whatever the sender has
called the upload (`Storage.isName_nextName`). A path made of the directory for uploads and a
name leads to an entry of that directory, and nothing else on the disk is touched, whatever comes in
the way (`Storage.ensures_store_sameBut`).

Main statement: `Storage.store_inside`.
-/

namespace Splice

/-- A path ends in what stands behind its last slash. -/
theorem Path.eq_baseName_or (path : String) :
    path = baseName path ∨ ∃ before, path = before ++ "/" ++ baseName path := by
  unfold baseName
  by_cases inside : '/' ∈ path.toList
  · obtain ⟨before, name, text, whole⟩ := exists_eq_append_slash inside
    refine .inr ⟨String.ofList before, ?_⟩
    rw [text, lastPart_append whole, ← String.toList_inj, text]
    simp
  · exact .inl (by rw [lastPart_of_not_mem inside, String.ofList_toList])

namespace Storage

open Act World Disk

variable {s : Storage} {label : String}

/-! ## What is touched -/

/-- Nothing but the file that is written is touched, however the writing ends. -/
theorem ensures_pour_sameBut (path given : String) {p : Place}
    (reads : List (Except SystemError Bytes)) {size : Nat} {w : World}
    (leads : w.shared.disk.place path = .ok p) :
    (s.pour path given size reads).Ensures w fun _ later =>
      SameBut (· = p) w.shared.disk later.shared.disk := by
  induction reads generalizing size w with
  | nil => exact ensures_pure.2 (.refl _)
  | cons read rest ih =>
    cases read with
    | error error => exact ensures_throw.2 (.refl _)
    | ok chunk =>
      have touched : SameBut (· = p) w.shared.disk
          (w.perform (.append path chunk)).2.shared.disk := by
        show SameBut _ _ (w.append path chunk).2.shared.disk
        have more := sameBut_append leads chunk w.stamp
        unfold World.append
        dsimp only
        split
        · exact .refl _
        · exact more
        · exact more
      refine ensures_pour_step (fun _ => .refl _) (fun _ _ => sameBut_without_singleton leads)
        (fun _ between performed => ?_) fun between _ _ performed => ?_
      · rw [performed] at touched
        exact touched
      · rw [performed] at touched
        exact (ih (touched.place_iff.2 leads)).mono fun _ later others => touched.trans others

/-- Nothing but entries of the directory for uploads is touched when an upload is stored, however
that ends. -/
theorem ensures_store_sameBut (plain : '/' ∉ label.toList) (upload : Upload) (w : World) :
    (s.store label upload).Ensures w fun _ later =>
      SameBut (w.shared.disk.Entry s.uploadDir) w.shared.disk later.shared.disk := by
  refine ensures_store_of (fun _ _ => .refl _) (fun _ _ _ _ _ _ => .refl _) ?_
  intro time path disk _ named written
  obtain ⟨p, leads, apart, rfl⟩ := write_eq_ok written
  have created := SameBut.set_file apart [] w.stamp
  have entry (q : Place) (here : q = p) : w.shared.disk.Entry s.uploadDir q :=
    ⟨_, isName_nextName plain upload w time, named ▸ here ▸ leads⟩
  refine (ensures_pour_sameBut path _ upload.reads (created.place_iff.2 leads)).mono ?_
  intro outcome later poured
  have others := (created.trans poured).mono entry
  cases outcome <;> exact others

/-! ## Where an upload is kept -/

/-- Whether a file is kept in the directory for uploads itself, under a name that starts with a
label. -/
structure Inside (s : Storage) (label : String) (file : StoredFile) : Prop where
  path : file.path = Path.join s.uploadDir file.filename
  proper : Path.IsName file.filename
  labelled : (label ++ "-").toList <+: file.filename.toList

/-- Wherever the directory for uploads is, the path of such a file leads one step further in. -/
theorem Inside.leads {file : StoredFile} (inside : s.Inside label file) {d : Disk} {q : Place}
    (leads : d.place s.uploadDir = .ok q) (there : d.at? q = some .directory) :
    d.place file.path = .ok (q ++ [file.filename]) := by
  rw [inside.path]
  exact place_join inside.proper leads there

theorem Recorded.inside (plain : '/' ∉ label.toList) {upload : Upload} {w : World}
    {file : StoredFile} (recorded : Recorded s label upload w file) : s.Inside label file := by
  obtain ⟨time, -, named⟩ := recorded.named
  refine ⟨recorded.path, ?_, ?_⟩
  · rw [named]
    exact isName_nextName plain upload w time
  · simp only [named, nextName, front, String.toList_append, List.append_assoc]
    exact (List.prefix_append_right_inj _).2 (List.prefix_append _ _)

theorem takeWhile_dash {cs rest : List Char} (whole : '-' ∉ cs) :
    (cs ++ '-' :: rest).takeWhile (· != '-') = cs := by
  have all : ∀ c ∈ cs, (c != '-') = true := fun c mem =>
    bne_iff_ne.2 fun same => whole (same ▸ mem)
  rw [List.takeWhile_append_of_pos all, List.takeWhile_cons_of_neg (by simp), List.append_nil]

/-- Files of one label, or of labels without dashes, have different names if the ids that were given
out for them are different. -/
theorem Recorded.filename_ne {upload upload' : Upload} {w w' : World} {file file' : StoredFile}
    {s' : Storage} {label' : String} (recorded : Recorded s label upload w file)
    (recorded' : Recorded s' label' upload' w' file')
    (labels : label' = label ∨ '-' ∉ label.toList ∧ '-' ∉ label'.toList)
    (ids : World.idText (w.shared.idsGiven + 1) ≠ World.idText (w'.shared.idsGiven + 1)) :
    file'.filename ≠ file.filename := by
  obtain ⟨time, -, named⟩ := recorded.named
  obtain ⟨time', -, named'⟩ := recorded'.named
  intro same
  rw [named, named', nextName, nextName, ← String.toList_inj, String.toList_append,
    String.toList_append] at same
  have label_eq : label' = label := by
    rcases labels with one | ⟨whole, whole'⟩
    · exact one
    · rw [toList_front, toList_front, List.append_assoc, List.append_assoc] at same
      have first := congrArg (List.takeWhile (· != '-')) same
      rw [List.cons_append, List.cons_append, takeWhile_dash whole', takeWhile_dash whole] at first
      exact String.toList_inj.1 first
  subst label_eq
  refine ids ?_
  rw [World.idText, World.idText, hexDigits_eq_of_front same.symm]

/-! ## What an upload is called -/

/-- Whether a name is what a sender calls an upload, without the directories in front of it. -/
structure Called (upload : Upload) (name : String) : Prop where
  whole : '/' ∉ name.toList
  unnamed : upload.filename.getD "" = "" → name = "upload"
  named : ∀ given, upload.filename = some given → given ≠ "" →
    given = name ∨ ∃ before, given = before ++ "/" ++ name

theorem called_givenName (upload : Upload) : Called upload (givenName upload) where
  whole := Path.slash_not_mem_baseName _
  unnamed none := by
    rw [givenName, none]
    decide
  named given some filled := by
    have text : Text.orIfEmpty (upload.filename.getD "") "upload" = given := by
      rw [some, Option.getD_some, Text.orIfEmpty, if_neg (by simpa using filled)]
    rw [givenName, text]
    exact Path.eq_baseName_or given

/-- **No upload leaves the directory for uploads.** Whatever its sender calls it, nothing on the disk
but entries of that directory is touched when it is stored. If it is kept, then in that directory
itself, under a name that starts with the label and that no file has for which another id was given
out; and it is on record under what stands behind the last slash of the name that its sender has
given it. -/
theorem store_inside (s : Storage) {label : String} (plain : '/' ∉ label.toList) (upload : Upload)
    (w : World) :
    let run := w.run (s.store label upload).run
    SameBut (w.shared.disk.Entry s.uploadDir) w.shared.disk run.2.shared.disk ∧
    ∀ file, run.1 = .ok file →
      s.Inside label file ∧
      (∀ (d : Disk) q, d.place s.uploadDir = .ok q → d.at? q = some .directory →
        d.place file.path = .ok (q ++ [file.filename])) ∧
      (∀ (s' : Storage) label' upload' (w' : World) file', '/' ∉ label'.toList →
        (label' = label ∨ '-' ∉ label.toList ∧ '-' ∉ label'.toList) →
        (w'.run (s'.store label' upload').run).1 = .ok file' →
        World.idText (w.shared.idsGiven + 1) ≠ World.idText (w'.shared.idsGiven + 1) →
        file'.filename ≠ file.filename) ∧
      Called upload file.givenName := by
  intro run
  refine ⟨ensures_store_sameBut plain upload w, fun file kept => ?_⟩
  have recorded : Recorded s label upload w file :=
    ensures_store_recorded plain upload w file kept
  have inside := recorded.inside plain
  refine ⟨inside, fun d q => inside.leads, ?_, ?_⟩
  · intro s' label' upload' w' file' plain' labels kept' ids
    have recorded' : Recorded s' label' upload' w' file' :=
      ensures_store_recorded plain' upload' w' file' kept'
    exact recorded.filename_ne recorded' labels ids
  · rw [recorded.givenName]
    exact called_givenName upload

/-- An upload whose sender calls it by a path that leads further out. -/
theorem store_inside_further_out :
    let w : World := ⟨⟨⟨[(["uploads"], .directory)]⟩, 0.0, 0⟩, ⟨⟨true, .error .notFound,
      fun _ => .error .notFound, .error .notFound, .error .notFound, false⟩, .never, []⟩⟩
    let s : Storage := ⟨"uploads", "output", .whole 1, 0.0, 0.0, 0.0⟩
    let upload : Upload := ⟨some "../../..a b.MÄ", none, [.ok [0x41]]⟩
    let run := w.run (s.store "files" upload).run
    run.1.toOption.map StoredFile.path = some "uploads/files-0-000000010000.mä" ∧
      run.1.toOption.map StoredFile.givenName = some "..a b.MÄ" ∧
      (∀ file, run.1 = .ok file → s.Inside "files" file ∧ Called upload file.givenName) ∧
      SameBut (w.shared.disk.Entry "uploads") w.shared.disk run.2.shared.disk := by
  intro w s upload run
  have plain : '/' ∉ "files".toList := by decide
  obtain ⟨same, inside⟩ := store_inside s plain upload w
  refine ⟨by decide +kernel, by decide +kernel, fun file kept => ?_, same⟩
  obtain ⟨inside, -, -, called⟩ := inside file kept
  exact ⟨inside, called⟩

end Storage

end Splice
