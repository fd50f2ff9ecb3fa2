import Splice.Proofs.Storage.Names

/-!
# Storing uploads

In a fresh world every upload that is stored gets a file of its own (`Storage.Holding`), with what
was delivered of it. As long as storing goes well the files of the uploads are all that is more on
the disk (`Storage.Holds`), so that nothing is left when they are removed (`Storage.Holds.removed`).

If storing fails, something may be left (`Storage.storeAll_remains`): the file that the system has
refused to read or write any further, or, when the task is cancelled, the files of all uploads that
were stored.
-/

namespace Splice

/-! ## What arrives of an upload -/

/-- The chunks before the first that is empty or cannot be read. -/
def Upload.delivered : List (Except SystemError Bytes) → Bytes
  | [] => []
  | .error _ :: _ => []
  | .ok chunk :: rest => if chunk.isEmpty then [] else chunk ++ delivered rest

/-- A content that arrives without fault arrives whole. -/
theorem Upload.delivered_ofContent (filename contentType : Option String) (content : Bytes) :
    delivered (ofContent filename contentType content).reads = content := by
  show delivered ((chunks content).map .ok) = content
  fun_induction chunks content with
  | case1 => rfl
  | case2 first rest ih =>
    have filled : ((first :: rest).take chunkSize).isEmpty = false := rfl
    rw [List.map_cons, delivered, if_neg (by simp [filled]), ih, List.take_append_drop]

namespace Storage

open Act World Disk

/-! ## Removing -/

/-- Files are removed as far as they are there. -/
theorem run_delete (paths : List String) (w : World) :
    w.run (delete paths).run = (.ok (), w.withDisk (w.shared.disk.without paths)) := by
  induction paths generalizing w with
  | nil => rfl
  | cons path rest ih =>
    have first : w.run (delete (path :: rest)).run =
        (w.withDisk (w.shared.disk.cleared path)).run (delete rest).run := by
      show w.run (ExceptT.run (if w.shared.disk.exists? path then
        (do let _ ← request (.remove path); delete rest) else delete rest)) = _
      cases there : w.shared.disk.exists? path with
      | true =>
        show (w.changing path (w.shared.disk.remove path)).2.run _ = _
        unfold cleared
        cases w.shared.disk.remove path <;> rfl
      | false =>
        rw [cleared_of_missing there]
        rfl
    rw [first, ih]
    rfl

theorem ensures_delete {paths : List String} {w : World}
    {post : Except Failure Unit → World → Prop} :
    (delete paths).Ensures w post ↔ post (.ok ()) (w.withDisk (w.shared.disk.without paths)) := by
  unfold Ensures
  rw [run_delete]

/-- Files that are to be removed later are removed, unless the task is cancelled before. -/
theorem ensures_deleteLater (s : Storage) (paths : List String) (delay : Option Float)
    (w : World) :
    (s.deleteLater paths delay).Ensures w fun outcome later =>
      (w.own.interruption = .afterSleeps 0 ∧ outcome = .error (.fault .cancelled)) ∨
        outcome = .ok () ∧ later.shared.disk = w.shared.disk.without paths := by
  have slept (seconds : Float) :
      ((w.sleep seconds).1 = true → w.own.interruption = .afterSleeps 0) ∧
      (w.sleep seconds).2.shared.disk = w.shared.disk := by
    unfold World.sleep
    dsimp only
    split
    case h_1 found => exact ⟨fun _ => found, rfl⟩
    case h_2 => exact ⟨nofun, rfl⟩
    case h_3 => exact ⟨nofun, rfl⟩
  unfold deleteLater
  dsimp only
  generalize delay.getD s.grace = seconds
  split
  case isTrue =>
    obtain ⟨cancelled, disk⟩ := slept seconds
    rw [ensures_bind, ensures_request]
    show Ensures (do stopIf (w.sleep seconds).1; delete paths) (w.sleep seconds).2 _
    rw [← disk]
    cases stopped : (w.sleep seconds).1 with
    | true => exact .inl ⟨cancelled stopped, rfl⟩
    | false => exact ensures_delete.2 (.inr ⟨rfl, rfl⟩)
  case isFalse => exact ensures_delete.2 (.inr ⟨rfl, rfl⟩)

/-! ## Pouring -/

variable {s : Storage} {label : String}

/-- What a failure tells about the file that is written: one that is refused is removed, one that
cannot be read or written any further stays. -/
def Broken (p : Place) (later : Disk) : Failure → Prop
  | .problem _ => later.at? p = none
  | .fault (.system _) => later.IsFile p
  | .fault _ => False

/-- What has become of a file with some content at a place when more was to be poured into it. -/
def Poured (p : Place) (content more : Bytes) (size : Nat) (later : Disk) :
    Except Failure Nat → Prop
  | .ok total => total = size + more.length ∧
      ∃ modified, later.at? p = some (.file (content ++ more) modified)
  | .error failure => Broken p later failure

/-- The world with more written into a file. -/
theorem perform_append {w : World} {path : String} {p : Place} {content : Bytes} {old : Timestamp}
    (leads : w.shared.disk.place path = .ok p)
    (standing : w.shared.disk.at? p = some (.file content old)) (chunk : Bytes) :
    (∃ later, w.perform (.append path chunk) = (.ok (), later) ∧ Since 0 w later ∧
      later.awaits = w.awaits ∧
      later.shared.disk = w.shared.disk.set p (.file (content ++ chunk) w.stamp)) ∨
    ∃ error, w.perform (.append path chunk) = (.error error, w) := by
  have written : w.shared.disk.append path chunk w.stamp = _ := append_of_file leads standing
  show (∃ later, w.append path chunk = _ ∧ _) ∨ ∃ error, w.append path chunk = _
  unfold World.append
  cases found : w.own.interruption with
  | afterWrites n =>
    cases n with
    | zero => exact .inr ⟨_, rfl⟩
    | succ n => exact .inl ⟨_, rfl, ⟨rfl, rfl, rfl⟩, by simp [awaits, interrupted, found], written⟩
  | never => exact .inl ⟨_, rfl, ⟨rfl, rfl, rfl⟩, rfl, written⟩
  | afterSleeps n => exact .inl ⟨_, rfl, ⟨rfl, rfl, rfl⟩, rfl, written⟩
  | afterAwaits n => exact .inl ⟨_, rfl, ⟨rfl, rfl, rfl⟩, rfl, written⟩

/-- One chunk more: it is the empty one at the end, or above the limit, or it is written, which the
system may refuse. -/
theorem ensures_pour_step {path given : String} {size : Nat} {chunk : Bytes}
    {rest : List (Except SystemError Bytes)} {w : World}
    {post : Except Failure Nat → World → Prop}
    (ended : chunk.isEmpty = true → post (.ok size) w)
    (large : chunk.isEmpty = false → s.maxBytes.isBelow (size + chunk.length) = true →
      post (.error (.problem (.uploadTooLarge given s.maxBytes)))
        (w.withDisk (w.shared.disk.without [path])))
    (refused : ∀ error between, w.perform (.append path chunk) = (.error error, between) →
      post (.error (.fault (.system error))) between)
    (written : ∀ between, chunk.isEmpty = false →
      s.maxBytes.isBelow (size + chunk.length) = false →
      w.perform (.append path chunk) = (.ok (), between) →
      (s.pour path given (size + chunk.length) rest).Ensures between post) :
    (s.pour path given size (.ok chunk :: rest)).Ensures w post := by
  unfold pour
  split
  case isTrue empty => exact ensures_pure.2 (ended empty)
  case isFalse filled =>
    have filled : chunk.isEmpty = false := Bool.eq_false_iff.2 filled
    dsimp only
    split
    case isTrue above =>
      rw [ensures_bind, ensures_delete]
      exact ensures_throw.2 (large filled above)
    case isFalse within =>
      rw [ensures_bind, ensures_request]
      cases performed : w.perform (.append path chunk) with
      | mk answer between =>
        cases answer with
        | error error => exact refused error between performed
        | ok _ => exact written between filled (Bool.eq_false_iff.2 within) performed

theorem ensures_pour (path given : String) {p : Place} (reads : List (Except SystemError Bytes))
    {size : Nat} {w : World} {content : Bytes} {old : Timestamp}
    (leads : w.shared.disk.place path = .ok p)
    (standing : w.shared.disk.at? p = some (.file content old)) :
    (s.pour path given size reads).Ensures w fun outcome later =>
      Since 0 w later ∧ later.awaits = w.awaits ∧
      SameBut (· = p) w.shared.disk later.shared.disk ∧
      Poured p content (Upload.delivered reads) size later.shared.disk outcome := by
  have file : w.shared.disk.IsFile p := ⟨content, old, standing⟩
  induction reads generalizing size w content old with
  | nil =>
    refine ensures_pure.2 ⟨.refl w, rfl, .refl _, rfl, old, ?_⟩
    rw [standing, Upload.delivered, List.append_nil]
  | cons read rest ih =>
    cases read with
    | error error => exact ensures_throw.2 ⟨.refl w, rfl, .refl _, file⟩
    | ok chunk =>
      have empty (h : chunk.isEmpty = true) : Upload.delivered (.ok chunk :: rest) = [] := by
        rw [Upload.delivered, if_pos h]
      refine ensures_pour_step (fun h => ?_) (fun _ _ => ?_) (fun error between performed => ?_)
        fun between filled _ performed => ?_
      · rw [empty h]
        exact ⟨.refl w, rfl, .refl _, rfl, old, by rw [standing, List.append_nil]⟩
      · exact ⟨⟨rfl, rfl, rfl⟩, rfl, sameBut_without_singleton leads,
          at?_without (List.mem_singleton_self path) leads file⟩
      · rcases perform_append leads standing chunk with ⟨_, answered, -⟩ | ⟨_, answered⟩
        · cases performed.symm.trans answered
        · cases performed.symm.trans answered
          exact ⟨.refl w, rfl, .refl _, file⟩
      · rcases perform_append leads standing chunk with
          ⟨later, answered, since, waits, disk⟩ | ⟨_, answered⟩
        · cases performed.symm.trans answered
          have apart : w.shared.disk.at? p ≠ some .directory := by rw [standing]; simp
          have change : SameBut (· = p) w.shared.disk between.shared.disk :=
            disk ▸ SameBut.set_file apart _ _
          have more : between.shared.disk.at? p = some (.file (content ++ chunk) w.stamp) :=
            disk ▸ at?_set_file apart _ _
          refine (ih (change.place_iff.2 leads) more ⟨_, _, more⟩).mono ?_
          rintro outcome later ⟨kept, still, others, poured⟩
          refine ⟨since.trans kept, still.trans waits, change.trans others, ?_⟩
          rw [Upload.delivered, if_neg (by rw [filled]; decide)]
          cases outcome with
          | ok total =>
            obtain ⟨rfl, modified, whole⟩ := poured
            refine ⟨by rw [List.length_append, Nat.add_assoc], modified, ?_⟩
            rw [whole, List.append_assoc]
          | error failure => exact poured
        · cases performed.symm.trans answered

/-! ## Storing one upload -/

/-- An upload with the file and the place where it is kept. -/
structure Holding where
  upload : Upload
  file : StoredFile
  place : Place

/-- Whether an upload is kept whole, under a name with one of the ids that were given out. -/
structure Holding.Sound (s : Storage) (label : String) (first later : World) (h : Holding) :
    Prop where
  leads : later.shared.disk.place h.file.path = .ok h.place
  whole : ∃ modified,
    later.shared.disk.at? h.place = some (.file (Upload.delivered h.upload.reads) modified)
  named : ∃ time n extension, first.time = .ok time ∧ first.shared.idsGiven < n ∧
    n ≤ later.shared.idsGiven ∧ '/' ∉ extension.toList ∧
    h.file.path = Path.join s.uploadDir (front label time n ++ extension)

/-- What has become of an upload that was to be stored: it is kept, or nothing is left of it, or the
system has refused to read or write it any further and its file is left. -/
def Stored (s : Storage) (label : String) (upload : Upload) (w later : World) :
    Except Failure StoredFile → Prop
  | .ok file => Since 2 w later ∧ ∃ p, More (· = p) w.shared.disk later.shared.disk ∧
      Holding.Sound s label w later ⟨upload, file, p⟩
  | .error failure => failure.isCancellation = false ∧
      (More (fun _ => False) w.shared.disk later.shared.disk ∨
        (∃ error, failure = .fault (.system error)) ∧
          ∃ p, w.shared.disk.Entry s.uploadDir p ∧ More (· = p) w.shared.disk later.shared.disk)

/-- Whether no file stands where the next unique name leads. -/
def Unused (s : Storage) (label : String) (w : World) : Prop :=
  ∀ time extension p, w.time = .ok time → '/' ∉ extension.toList →
    w.shared.disk.place (Path.join s.uploadDir
      (front label time (w.shared.idsGiven + 1) ++ extension)) = .ok p →
    w.shared.disk.at? p = none

/-- A file in which pouring ended is more, unless it was removed again. -/
theorem more_of_broken {directory : String} {p : Place} {before between after : Disk}
    {failure : Failure} (entry : before.Entry directory p) (new : before.at? p = none)
    (created : SameBut (· = p) before between) (poured : SameBut (· = p) between after)
    (broken : Broken p after failure) :
    failure.isCancellation = false ∧ (More (fun _ => False) before after ∨
      (∃ error, failure = .fault (.system error)) ∧
        ∃ p, before.Entry directory p ∧ More (· = p) before after) := by
  have others := created.trans poured
  match failure, broken with
  | .problem problem, gone =>
    refine ⟨rfl, .inl ⟨fun _ h => h.elim, fun _ h => h.elim, fun q _ => ?_, others.directory_iff⟩⟩
    by_cases here : q = p
    · rw [here, new]
      exact gone
    · exact others.at?_eq q here
  | .fault (.system error), left =>
    exact ⟨rfl, .inr ⟨⟨error, rfl⟩, p, entry, .of_sameBut new left others⟩⟩

/-- The name under which the next upload is kept. -/
def nextName (label : String) (upload : Upload) (w : World) (time : Int) : String :=
  front label time (w.shared.idsGiven + 1) ++ Text.lower (Path.extension (givenName upload))

theorem slash_not_mem_lower_extension (upload : Upload) :
    '/' ∉ (Text.lower (Path.extension (givenName upload))).toList :=
  Text.slash_not_mem_lower (Path.slash_not_mem_extension (givenName upload))

theorem isName_nextName (plain : '/' ∉ label.toList) (upload : Upload) (w : World) (time : Int) :
    Path.IsName (nextName label upload w time) :=
  isName_front_append plain (slash_not_mem_lower_extension upload) time _

/-- What is put on record of an upload that was written to a path. -/
def recordOf (upload : Upload) (path : String) (size : Nat) (w : World) : StoredFile where
  id := String.ofList ((idText (w.shared.idsGiven + 1)).toList.take 16)
  filename := Path.baseName path
  givenName := givenName upload
  path
  size
  contentType := Text.orIfEmpty (upload.contentType.getD "") "application/octet-stream"

/-- An upload is given a name, which needs the time; then its file is made, which the system may
refuse; then its content is poured into it. -/
theorem ensures_store_of {upload : Upload} {w : World}
    {post : Except Failure StoredFile → World → Prop}
    (untimed : ∀ failure, w.time = .error failure → post (.error failure) w)
    (refused : ∀ time path kind, w.time = .ok time →
      path = Path.join s.uploadDir (nextName label upload w time) →
      w.shared.disk.write path [] w.stamp = .error kind →
      post (.error (.fault (.system ⟨kind, path⟩))) w.afterId)
    (created : ∀ time path disk, w.time = .ok time →
      path = Path.join s.uploadDir (nextName label upload w time) →
      w.shared.disk.write path [] w.stamp = .ok disk →
      (s.pour path (givenName upload) 0 upload.reads).Ensures (w.afterId.withDisk disk)
        fun outcome later =>
          match outcome with
          | .ok size => post (.ok (recordOf upload path size later)) later.afterId
          | .error failure => post (.error failure) later) :
    (s.store label upload).Ensures w post := by
  unfold store
  rw [ensures_bind, ensures_uniqueName]
  cases timed : w.time with
  | error failure => exact untimed failure timed
  | ok time =>
    show Ensures (request (.create (Path.join s.uploadDir (nextName label upload w time))) >>= _)
      w.afterId _
    have create (path : String) : w.afterId.perform (.create path) =
      w.afterId.changing path (w.shared.disk.write path [] w.stamp) := rfl
    rw [ensures_bind, ensures_request, create]
    cases written : w.shared.disk.write (Path.join s.uploadDir (nextName label upload w time)) []
        w.stamp with
    | error kind => exact refused time _ kind timed rfl written
    | ok disk =>
      show Ensures (s.pour (Path.join s.uploadDir (nextName label upload w time))
        (givenName upload) 0 upload.reads >>= _) (w.afterId.withDisk disk) _
      rw [ensures_bind]
      refine (created time _ disk timed rfl written).mono fun outcome later ended => ?_
      cases outcome <;> exact ended

theorem ensures_store (plain : '/' ∉ label.toList) {w : World} (unused : Unused s label w)
    (upload : Upload) :
    (s.store label upload).Ensures w fun outcome later =>
      later.awaits = w.awaits ∧ Stored s label upload w later outcome := by
  have extended := slash_not_mem_lower_extension upload
  refine ensures_store_of (fun failure timed => ⟨rfl, isCancellation_of_time timed, .inl (.refl _)⟩)
    (fun _ _ _ _ _ _ => ⟨rfl, rfl, .inl (.refl _)⟩) ?_
  intro time path disk timed named written
  obtain ⟨p, leads, apart, rfl⟩ := write_eq_ok written
  have new := unused time _ p timed extended (named ▸ leads)
  have entry : w.shared.disk.Entry s.uploadDir p :=
    ⟨_, isName_nextName plain upload w time, named ▸ leads⟩
  have created := SameBut.set_file apart [] w.stamp
  refine (ensures_pour path _ upload.reads (created.place_iff.2 leads)
    (at?_set_file apart [] w.stamp)).mono ?_
  rintro outcome later ⟨since, waits, others, poured⟩
  cases outcome with
  | error failure => exact ⟨waits, more_of_broken entry new created others poured⟩
  | ok size =>
    obtain ⟨-, modified, whole⟩ := poured
    have kept := others.place_iff.2 (created.place_iff.2 leads)
    have more : More (· = p) w.shared.disk later.shared.disk :=
      .of_sameBut new ⟨_, _, whole⟩ (created.trans others)
    have given : later.shared.idsGiven = w.shared.idsGiven + 1 := since.given
    refine ⟨waits, ⟨since.clock, congrArg (· + 1) given, since.engine⟩, p, more, kept,
      ⟨modified, whole⟩, time, _, _, timed, Nat.lt_succ_self _, ?_, extended, named⟩
    show _ ≤ later.shared.idsGiven + 1
    omega

/-! ## Storing one upload behind the others -/

/-- Whether a world keeps some uploads that an earlier one did not keep, and nothing else has
changed on its disk. -/
structure Holds (s : Storage) (label : String) (first later : World) (holdings : List Holding) :
    Prop where
  since : Since (2 * holdings.length) first later
  sound : ∀ h ∈ holdings, h.Sound s label first later
  more : More (fun p => ∃ h ∈ holdings, h.place = p) first.shared.disk later.shared.disk
  distinct : (holdings.map Holding.place).Nodup

variable {first w later : World} {holdings : List Holding}

theorem time_congr (same : later.shared.clock = w.shared.clock) : later.time = w.time := by
  unfold World.time
  rw [same]

theorem Holds.nil (s : Storage) (label : String) (w : World) : Holds s label w w [] where
  since := .refl w
  sound _ mem := absurd mem List.not_mem_nil
  more := (More.refl _).congr fun p => by simp
  distinct := List.nodup_nil

/-- Where an upload is kept stands a file. -/
theorem Holding.Sound.at?_ne_none {h : Holding} (sound : h.Sound s label first w) :
    w.shared.disk.at? h.place ≠ none := by
  obtain ⟨modified, whole⟩ := sound.whole
  rw [whole]
  simp

/-- An upload that is kept stays when something else is stored. -/
theorem Holding.Sound.stays {h : Holding} (sound : h.Sound s label first w) {extra : Place → Prop}
    (more : More extra w.shared.disk later.shared.disk)
    (given : w.shared.idsGiven ≤ later.shared.idsGiven) : h.Sound s label first later where
  leads := more.others.place_iff.2 sound.leads
  whole := by
    rw [more.at?_eq sound.at?_ne_none]
    exact sound.whole
  named := by
    obtain ⟨time, n, extension, timed, above, below, whole, path⟩ := sound.named
    exact ⟨time, n, extension, timed, above, below.trans given, whole, path⟩

/-- Where an upload is kept is an entry of the directory for uploads. -/
theorem Holding.Sound.entry {h : Holding} (sound : h.Sound s label first w)
    (plain : '/' ∉ label.toList) : w.shared.disk.Entry s.uploadDir h.place := by
  obtain ⟨time, n, extension, -, -, -, whole, path⟩ := sound.named
  exact ⟨_, isName_front_append plain whole time n, by rw [← path]; exact sound.leads⟩

/-- One upload more is kept. -/
theorem Holds.snoc (holds : Holds s label first w holdings) {upload : Upload} {file : StoredFile}
    {p : Place} (since : Since 2 w later)
    (more : More (· = p) w.shared.disk later.shared.disk)
    (sound : Holding.Sound s label w later ⟨upload, file, p⟩) :
    Holds s label first later (holdings ++ [⟨upload, file, p⟩]) where
  since := by
    rw [List.length_append, List.length_singleton, Nat.mul_add]
    exact holds.since.trans since
  sound h mem := by
    rcases List.mem_append.1 mem with before | now
    · exact (holds.sound h before).stays more (by rw [since.given]; omega)
    · obtain rfl := List.mem_singleton.1 now
      obtain ⟨time, n, extension, timed, above, below, whole, path⟩ := sound.named
      refine ⟨sound.leads, sound.whole, time, n, extension, ?_, ?_, below, whole, path⟩
      · rw [← timed, time_congr holds.since.clock]
      · rw [holds.since.given] at above
        omega
  more := (holds.more.trans more).congr fun q => by simp [or_and_right, exists_or, eq_comm]
  distinct := by
    rw [List.map_append, List.map_singleton, List.nodup_append]
    refine ⟨holds.distinct, by simp, fun q before q' now => ?_⟩
    obtain ⟨h, mem, rfl⟩ := List.mem_map.1 before
    rintro rfl
    exact (holds.sound h mem).at?_ne_none (more.new _ (List.mem_singleton.1 now))

/-- The place of an upload that is kept ends in a front with an id that was given out and an
extension. -/
theorem Holding.Sound.getLast?_place {h : Holding} (sound : h.Sound s label first w)
    (plain : '/' ∉ label.toList) :
    ∃ time n extension, first.time = .ok time ∧ n ≤ w.shared.idsGiven ∧
      h.place.getLast? = some (front label time n ++ extension) := by
  obtain ⟨time, n, extension, timed, -, below, whole, path⟩ := sound.named
  have proper := isName_front_append plain whole time n
  have base : Path.baseName h.file.path = front label time n ++ extension := by
    rw [path, Path.baseName_join _ proper.whole]
  refine ⟨time, n, extension, timed, below, ?_⟩
  rw [← base]
  exact Disk.getLast?_place (by rw [base]; exact proper) sound.leads

/-- In a fresh world nothing stands where a new name leads, whatever was stored since, as long as no
upload that is kept has that name. -/
theorem Holds.at?_eq_none (holds : Holds s label first w holdings) {labels : List String}
    {count : Nat} (fresh : first.Fresh labels count) {other : String} (mem : other ∈ labels)
    (plain : '/' ∉ other.toList) {directory extension : String} (whole : '/' ∉ extension.toList)
    {time : Int} {n : Nat} (above : first.shared.idsGiven < n)
    (below : n ≤ first.shared.idsGiven + count) {p : Place}
    (leads : w.shared.disk.place (Path.join directory (front other time n ++ extension)) = .ok p)
    (apart : ∀ h ∈ holdings, h.place.getLast? ≠ some (front other time n ++ extension)) :
    w.shared.disk.at? p = none := by
  have proper := isName_front_append plain whole time n
  have last := Disk.getLast?_place (by rw [Path.baseName_join _ proper.whole]; exact proper) leads
  rw [Path.baseName_join _ proper.whole] at last
  by_contra there
  refine fresh.unused p _ ?_ last other mem time n above below ?_
  · rwa [← holds.more.others.at?_eq p]
    rintro ⟨h, mem, rfl⟩
    exact apart h mem last
  · rw [String.toList_append]
    exact List.prefix_append _ _

/-- In a fresh world no file stands where the next name with the same label leads. -/
theorem Holds.unused (holds : Holds s label first w holdings) (plain : '/' ∉ label.toList)
    {labels : List String} {count : Nat} (fresh : first.Fresh labels count) (mem : label ∈ labels)
    (enough : 2 * holdings.length < count) : Unused s label w := by
  intro time extension p timed whole leads
  have given := holds.since.given
  have few := fresh.few
  refine holds.at?_eq_none fresh mem plain whole (by omega) (by omega) leads fun h mem last => ?_
  -- The name of an upload that is kept has an earlier id.
  obtain ⟨before, n, other, timed', below, last'⟩ := (holds.sound h mem).getLast?_place plain
  rw [time_congr holds.since.clock, timed'] at timed
  obtain rfl := Except.ok.inj timed
  have same := congrArg String.toList (Option.some_inj.1 (last'.symm.trans last))
  rw [String.toList_append, String.toList_append] at same
  have := front_append_inj (by omega) (by omega) same
  omega

/-- If the files of the uploads that are kept are removed, in whatever order, only what is there
besides them is left. -/
theorem Holds.without (holds : Holds s label first w holdings) {extra : Place → Prop} {d : Disk}
    (more : More extra w.shared.disk d) {paths : List String}
    (own : ∀ path, path ∈ paths ↔ ∃ h ∈ holdings, h.file.path = path) :
    More extra first.shared.disk (d.without paths) := by
  have all := holds.more.trans more
  have leads : ∀ h ∈ holdings, d.place h.file.path = .ok h.place := fun h mem =>
    more.others.place_iff.2 (holds.sound h mem).leads
  refine (all.without ?_).congr fun p => ⟨?_, fun inside => ⟨.inr inside, ?_⟩⟩
  · intro path listed p there _
    obtain ⟨h, mem, rfl⟩ := (own path).1 listed
    exact .inl ⟨h, mem, Except.ok.inj ((leads h mem).symm.trans there)⟩
  · rintro ⟨⟨h, mem, rfl⟩ | inside, away⟩
    · exact absurd (leads h mem) (away _ ((own _).2 ⟨h, mem, rfl⟩))
    · exact inside
  · intro path listed there
    obtain ⟨h, mem, rfl⟩ := (own path).1 listed
    obtain rfl := Except.ok.inj ((leads h mem).symm.trans there)
    exact (holds.sound h mem).at?_ne_none (more.new _ inside)

/-- If the uploads that are kept are removed, only what is there besides them is left. -/
theorem Holds.removed (holds : Holds s label first w holdings) {extra : Place → Prop} {d : Disk}
    (more : More extra w.shared.disk d) :
    More extra first.shared.disk (d.without (holdings.map fun h => h.file.path)) :=
  holds.without more fun _ => List.mem_map

/-! ## Storing all uploads -/

/-- What is left of uploads that were not all stored. If the task was cancelled, the files of all
uploads before the one that was being stored are left, and that one's unless it was refused.
Otherwise nothing is left, or the system has refused to read or write an upload any further and
its file is left. -/
def Remains (directory : String) (before after : Disk) (stored : Nat) (awaits : Option Nat)
    (failure : Failure) : Prop :=
  if failure.isCancellation then
    ∃ n places, awaits = some n ∧ List.Nodup places ∧
      (places.length = stored + n ∨ places.length = stored + n + 1) ∧
        (∀ p ∈ places, before.Entry directory p) ∧ More (· ∈ places) before after
  else
    More (fun _ => False) before after ∨
      (∃ error, failure = .fault (.system error)) ∧
        ∃ p, before.Entry directory p ∧ More (· = p) before after

section

variable {directory : String} {before after : Disk} {stored : Nat} {failure : Failure}

/-- What is left are entries of the directory for uploads. -/
theorem Remains.exists_more {awaits : Option Nat}
    (left : Remains directory before after stored awaits failure) :
    ∃ extra, (∀ p, extra p → before.Entry directory p) ∧ More extra before after := by
  unfold Remains at left
  split at left
  case isTrue =>
    obtain ⟨n, places, -, -, -, entries, more⟩ := left
    exact ⟨_, entries, more⟩
  case isFalse =>
    obtain nothing | ⟨-, p, entry, more⟩ := left
    · exact ⟨_, fun _ h => h.elim, nothing⟩
    · exact ⟨(· = p), fun q here => here ▸ entry, more⟩

theorem Remains.spares {awaits : Option Nat}
    (left : Remains directory before after stored awaits failure) : Spares before after := by
  obtain ⟨extra, -, more⟩ := left.exists_more
  exact more.spares

/-- What is left behind one upload more is what is left from there on, if the task was not cancelled
while that one was stored. -/
theorem Remains.behind (going : w.await.1 = false)
    (left : Remains directory before after (stored + 1) w.await.2.awaits failure) :
    Remains directory before after stored w.awaits failure := by
  unfold Remains at left ⊢
  split
  case isTrue cancelled =>
    rw [if_pos cancelled] at left
    obtain ⟨n, places, awaits, distinct, count, more⟩ := left
    exact ⟨n + 1, places, awaits_of_not_cancelled going awaits, distinct, by omega, more⟩
  case isFalse other =>
    rw [if_neg other] at left
    exact left

end

/-- What has become of uploads that were to be stored behind others. -/
def StoredBehind (s : Storage) (label : String) (first : World) (holdings : List Holding)
    (awaits : Option Nat) (uploads : List Upload) (later : World) :
    Except Failure (List StoredFile) → Prop
  | .ok files => ∃ more, more.map Holding.upload = uploads ∧
      files = (holdings ++ more).map Holding.file ∧ Holds s label first later (holdings ++ more)
  | .error failure =>
    Remains s.uploadDir first.shared.disk later.shared.disk holdings.length awaits failure

theorem Holds.entry (holds : Holds s label first w holdings) (plain : '/' ∉ label.toList) :
    ∀ p ∈ holdings.map Holding.place, first.shared.disk.Entry s.uploadDir p := by
  intro p listed
  obtain ⟨h, mem, rfl⟩ := List.mem_map.1 listed
  exact holds.more.others.entry ((holds.sound h mem).entry plain)

theorem Holds.await (holds : Holds s label first w holdings) :
    Holds s label first w.await.2 holdings where
  since := holds.since.trans (since_await w)
  sound h mem := by
    have kept : More (fun _ => False) w.shared.disk w.await.2.shared.disk := by
      rw [shared_await]
      exact .refl _
    exact (holds.sound h mem).stays kept (by rw [shared_await])
  more := by
    rw [shared_await]
    exact holds.more
  distinct := holds.distinct

/-- If the task is cancelled while one upload more is stored, the files of those that are kept are
left, and that one's unless it was refused. -/
theorem Holds.remains_of_cancelled (holds : Holds s label first w holdings)
    (plain : '/' ∉ label.toList) {upload : Upload} {outcome : Except Failure StoredFile}
    (stored : Stored s label upload w later outcome) :
    Remains s.uploadDir first.shared.disk later.shared.disk holdings.length (some 0)
      (.fault .cancelled) := by
  have before : (holdings.map Holding.place).length = holdings.length := List.length_map _
  have entries := holds.entry plain
  cases outcome with
  | ok file =>
    obtain ⟨since, p, more, sound⟩ := stored
    have all := holds.snoc since more sound
    refine ⟨0, _, rfl, all.distinct, .inr ?_, all.entry plain, all.more.congr fun q => ?_⟩
    · simp
    · rw [List.mem_map]
  | error failure =>
    obtain ⟨-, nothing | ⟨-, p, entry, more⟩⟩ := stored
    · refine ⟨0, _, rfl, holds.distinct, .inl before, entries,
        (holds.more.trans nothing).congr fun q => ?_⟩
      rw [List.mem_map, or_false]
    · have apart : p ∉ holdings.map Holding.place := fun listed => by
        obtain ⟨h, mem, rfl⟩ := List.mem_map.1 listed
        exact (holds.sound h mem).at?_ne_none (more.new _ rfl)
      refine ⟨0, _, rfl, List.nodup_cons.2 ⟨apart, holds.distinct⟩, .inr ?_,
        List.forall_mem_cons.2 ⟨holds.more.others.entry entry, entries⟩,
        (holds.more.trans more).congr fun q => ?_⟩
      · rw [List.length_cons, before]
      · rw [List.mem_cons, List.mem_map, or_comm]

/-- If one upload more cannot be stored and those that are kept are removed, at most its file is
left. -/
theorem Holds.remains_of_failed (holds : Holds s label first w holdings) {upload : Upload}
    {failure : Failure} (stored : Stored s label upload w later (.error failure))
    (awaits : Option Nat) :
    Remains s.uploadDir first.shared.disk
      (later.shared.disk.without (holdings.map (·.file.path))) holdings.length awaits failure := by
  obtain ⟨other, left⟩ := stored
  rw [Remains, other, if_neg (by decide)]
  exact left.imp holds.removed fun ⟨error, p, entry, more⟩ =>
    ⟨error, p, holds.more.others.entry entry, holds.removed more⟩

/-- What has become of uploads behind one more that is kept, if the task was not cancelled while
that one was stored. -/
theorem StoredBehind.behind {h : Holding} {rest : List Upload} (going : w.await.1 = false)
    {outcome : Except Failure (List StoredFile)}
    (ended : StoredBehind s label first (holdings ++ [h]) w.await.2.awaits rest later outcome) :
    StoredBehind s label first holdings w.awaits (h.upload :: rest) later outcome := by
  cases outcome with
  | ok files =>
    obtain ⟨others, uploads, rfl, kept⟩ := ended
    rw [List.append_assoc] at kept ⊢
    exact ⟨h :: others, congrArg (h.upload :: ·) uploads, rfl, kept⟩
  | error failure =>
    have left : Remains _ _ _ (holdings ++ [h]).length _ failure := ended
    rw [List.length_append, List.length_singleton] at left
    exact left.behind going

theorem ensures_storeBehind (plain : '/' ∉ label.toList) (uploads : List Upload)
    {labels : List String} (mem : label ∈ labels)
    (fresh : first.Fresh labels (2 * (holdings.length + uploads.length)))
    (holds : Holds s label first w holdings) :
    (s.storeBehind label (holdings.map Holding.file) uploads).Ensures w fun outcome later =>
      StoredBehind s label first holdings w.awaits uploads later outcome := by
  induction uploads generalizing w holdings with
  | nil => exact ensures_pure.2 ⟨[], rfl, by rw [List.append_nil], by rwa [List.append_nil]⟩
  | cons upload rest ih =>
    rw [List.length_cons] at fresh
    unfold storeBehind
    rw [ensures_bind, ensures_attempt, ensures_aside]
    refine (ensures_store plain (holds.unused plain fresh mem (by omega)) upload).mono ?_
    rintro outcome between ⟨waits, stored⟩
    cases interrupted : between.await.1 with
    | true =>
      show Remains s.uploadDir first.shared.disk between.await.2.shared.disk holdings.length
        w.awaits (.fault .cancelled)
      rw [shared_await, ← waits, awaits_of_cancelled interrupted]
      exact holds.remains_of_cancelled plain stored
    | false =>
      cases outcome with
      | ok file =>
        obtain ⟨since, p, more, sound⟩ := stored
        show Ensures (s.storeBehind label (holdings.map Holding.file ++ [file]) rest)
          between.await.2 _
        have enough : first.Fresh labels
            (2 * ((holdings ++ [Holding.mk upload file p]).length + rest.length)) :=
          fresh.mono (by rw [List.length_append, List.length_singleton]; omega)
        have run := ih enough (holds.snoc since more sound).await
        rw [List.map_append, List.map_singleton] at run
        refine run.mono fun outcome later ended => ?_
        rw [← waits]
        exact ended.behind interrupted
      | error failure =>
        show Ensures (if !failure.isCancellation then
            (do delete ((holdings.map Holding.file).map StoredFile.path); throw failure)
          else throw failure) between.await.2 _
        rw [stored.1, if_pos (by decide), ensures_bind, ensures_delete, List.map_map]
        show Remains s.uploadDir first.shared.disk (between.await.2.shared.disk.without _)
          holdings.length w.awaits failure
        rw [shared_await]
        exact holds.remains_of_failed stored w.awaits

theorem ensures_storeAll (plain : '/' ∉ label.toList) (uploads : List Upload) {labels : List String}
    (mem : label ∈ labels) (fresh : w.Fresh labels (2 * uploads.length)) :
    (s.storeAll label uploads).Ensures w fun outcome later =>
      StoredBehind s label w [] w.awaits uploads later outcome :=
  ensures_storeBehind plain uploads mem (by simpa using fresh) (Holds.nil s label w)

/-- **What is left of uploads that were not all stored.** If they were refused, nothing is left. If
the system has refused to read or write one any further, at most its file is left. If the task was
cancelled while an upload was being stored, the files of all uploads before it are left, and that
one's unless it was refused. -/
theorem storeAll_remains (s : Storage) {label : String} (plain : '/' ∉ label.toList)
    (uploads : List Upload) {w : World} (fresh : w.Fresh [label] (2 * uploads.length)) :
    let run := w.run (s.storeAll label uploads).run
    let before := w.shared.disk
    let after := run.2.shared.disk
    (∀ problem, run.1 = .error (.problem problem) → ∀ p, after.at? p = before.at? p) ∧
    (∀ fault, run.1 = .error (.fault fault) → Failure.isCancellation (.fault fault) = false →
      (∀ p, after.at? p = before.at? p) ∨
        (∃ error, fault = .system error) ∧
          ∃ p, before.Entry s.uploadDir p ∧ More (· = p) before after) ∧
    (run.1 = .error (.fault .cancelled) →
      ∃ n places, w.awaits = some n ∧ List.Nodup places ∧
        (places.length = n ∨ places.length = n + 1) ∧
          (∀ p ∈ places, before.Entry s.uploadDir p) ∧ More (· ∈ places) before after) := by
  intro run before after
  have left (failure : Failure) (failed : run.1 = .error failure) :
      Remains s.uploadDir before after 0 w.awaits failure := by
    have stored : StoredBehind s label w [] w.awaits uploads run.2 run.1 :=
      ensures_storeAll plain uploads List.mem_cons_self fresh
    rw [failed] at stored
    exact stored
  refine ⟨fun problem failed => ?_, fun fault failed other => ?_, fun failed => ?_⟩
  · have left := left _ failed
    have other : Failure.isCancellation (.problem problem) = false := rfl
    rw [Remains, other, if_neg (by decide)] at left
    obtain nothing | ⟨⟨error, same⟩, -⟩ := left
    · exact fun p => nothing.others.at?_eq p not_false
    · cases same
  · have left := left _ failed
    rw [Remains, other, if_neg (by decide)] at left
    exact left.imp (fun nothing p => nothing.others.at?_eq p not_false)
      fun ⟨⟨error, same⟩, more⟩ => ⟨⟨error, Failure.fault.inj same⟩, more⟩
  · have left := left _ failed
    have cancelled : Failure.isCancellation (.fault .cancelled) = true := rfl
    rw [Remains, cancelled, if_pos rfl] at left
    simpa only [Nat.zero_add] using left

/-- Two uploads of which the second is larger than the limit. -/
theorem storeAll_remains_oversized :
    let w : World := ⟨⟨⟨[(["uploads"], .directory)]⟩, 0.0, 0⟩, ⟨⟨true, .error .notFound,
      fun _ => .error .notFound, .error .notFound, .error .notFound, false⟩, .never, []⟩⟩
    let s : Storage := ⟨"uploads", "output", .whole 1, 0.0, 0.0, 0.0⟩
    let uploads : List Upload := [⟨some "a.mp4", none, [.ok [0x41]]⟩,
      ⟨some "b.mp4", none, [.ok [0x41], .ok [0x42]]⟩]
    let run := w.run (s.storeAll "files" uploads).run
    run.1.isOk = false ∧ ∀ p, run.2.shared.disk.at? p = w.shared.disk.at? p := by
  intro w s uploads run
  have fresh : w.Fresh ["files"] (2 * uploads.length) :=
    World.fresh_of_unlabelled (by decide) (by decide +kernel)
  obtain ⟨refused, -⟩ := storeAll_remains s (by decide) uploads fresh
  have large : (Act.problem? run.1).isSome := by decide +kernel
  obtain ⟨problem, found⟩ := Option.isSome_iff_exists.1 large
  have failed := Act.problem?_eq_some_iff.1 found
  exact ⟨by rw [failed]; rfl, refused problem failed⟩

/-- Two uploads. If the task is cancelled while the second is stored, both files are left; if the
second cannot be read to the end, its file is left. -/
theorem storeAll_interrupted :
    let w (interruption : Interruption) : World := ⟨⟨⟨[(["uploads"], .directory)]⟩, 0.0, 0⟩,
      ⟨⟨true, .error .notFound, fun _ => .error .notFound, .error .notFound, .error .notFound,
        false⟩, interruption, []⟩⟩
    let s : Storage := ⟨"uploads", "output", .whole 100, 0.0, 0.0, 0.0⟩
    let clip (reads : List (Except SystemError Bytes)) : Upload := ⟨some "a.mp4", none, reads⟩
    let run (interruption : Interruption) (more : List (Except SystemError Bytes)) :=
      (w interruption).run
        (s.storeAll "files" [clip [.ok [0x41]], clip (.ok [0x42] :: more)]).run
    let cancelled := run (.afterAwaits 1) []
    let broken := run .never [.error ⟨.other 5 "Input/output error", ""⟩]
    let left (after : World) (name : String) := after.shared.disk.exists? (Path.join "uploads" name)
    (cancelled.1.isOk = false ∧ left cancelled.2 "files-0-000000010000.mp4" = true ∧
        left cancelled.2 "files-0-000000030000.mp4" = true) ∧
      broken.1.isOk = false ∧ left broken.2 "files-0-000000010000.mp4" = false ∧
        left broken.2 "files-0-000000030000.mp4" = true := by
  decide +kernel

end Storage

end Splice
