import Splice.Proofs.Storage.Records
import Splice.Proofs.Traffic.Names

/-!
# Storing in chunks

An upload is counted, checked against the limit and written chunk by chunk. If the disk has room,
all that decides whether it is kept is the length of its content (`Storage.ensures_pour_whole`): as
long as the count is within the limit the next chunk is written, and once it is above, no chunk that
follows can bring it back. In a world that is ready for uploads (`Storage.Ready`) nothing else can
come in the way, so that uploads that fit are all kept (`Storage.ensures_storeBehind_isOk`).

Main statement: `Storage.store_exact`.
-/

namespace Splice

/-- Whether an upload arrives without fault in some chunks. -/
structure Upload.ArrivesIn (upload : Upload) (chunks : List Bytes) : Prop where
  reads : upload.reads = chunks.map .ok
  filled : ∀ chunk ∈ chunks, chunk ≠ []

theorem Upload.delivered_map_ok {chunks : List Bytes} (filled : ∀ chunk ∈ chunks, chunk ≠ []) :
    delivered (chunks.map .ok) = chunks.flatten := by
  induction chunks with
  | nil => rfl
  | cons chunk rest ih =>
    obtain ⟨first, filled⟩ := List.forall_mem_cons.1 filled
    rw [List.map_cons, delivered, if_neg (by simpa using first), ih filled, List.flatten_cons]

theorem Upload.ArrivesIn.delivered {upload : Upload} {chunks : List Bytes}
    (arrives : upload.ArrivesIn chunks) : Upload.delivered upload.reads = chunks.flatten := by
  rw [arrives.reads, delivered_map_ok arrives.filled]

/-- A content that is read in full arrives in chunks of the full size, the last perhaps smaller. -/
theorem Upload.arrivesIn_ofContent (filename contentType : Option String) (content : Bytes) :
    (ofContent filename contentType content).ArrivesIn (chunks content) where
  reads := rfl
  filled := by
    fun_induction chunks content with
    | case1 => exact List.forall_mem_nil _
    | case2 first rest ih => exact List.forall_mem_cons.2 ⟨List.cons_ne_nil _ _, ih⟩

namespace Storage

open Act World Disk

variable {s : Storage} {label : String} {w : World}

/-! ## Room -/

/-- Whether a world is ready for uploads: the directory for them is there, the time can be told, and
the disk will not be full. -/
structure Ready (s : Storage) (w : World) : Prop where
  directory : ∃ q, w.shared.disk.place s.uploadDir = .ok q ∧ w.shared.disk.at? q = some .directory
  clock : ∃ time, w.time = .ok time
  room : ∀ n, w.own.interruption ≠ .afterWrites n

/-- Storing an upload leaves a world ready. -/
theorem Ready.behind (ready : s.Ready w) {later : World} {touched : Place → Prop}
    (clock : later.shared.clock = w.shared.clock) (own : later.own = w.own)
    (others : SameBut touched w.shared.disk later.shared.disk) : s.Ready later where
  directory := by
    obtain ⟨q, leads, there⟩ := ready.directory
    exact ⟨q, others.place_iff.2 leads, (others.directory_iff q).2 there⟩
  clock := by
    rw [time_congr clock]
    exact ready.clock
  room := by
    rw [own]
    exact ready.room

/-- In a world that is ready the file for the next upload can be made. -/
theorem Ready.exists_write (ready : s.Ready w) (plain : '/' ∉ label.toList)
    (unused : Unused s label w) {upload : Upload} {time : Int} {path : String}
    (timed : w.time = .ok time)
    (named : path = Path.join s.uploadDir (nextName label upload w time)) :
    ∃ disk, w.shared.disk.write path [] w.stamp = .ok disk := by
  obtain ⟨q, leads, there⟩ := ready.directory
  have proper := isName_nextName plain upload w time
  have place := place_join proper leads there
  rw [← named] at place
  have new := unused time _ _ timed (slash_not_mem_lower_extension upload) (named ▸ place)
  rw [write, place]
  dsimp only
  rw [new]
  dsimp only
  rw [parent_snoc proper, refuseEntry_eq_ok_iff.2 there]
  exact ⟨_, rfl⟩

theorem perform_append_of_room (room : ∀ n, w.own.interruption ≠ .afterWrites n) (path : String)
    (chunk : Bytes) : w.perform (.append path chunk) =
      (.ok (), w.withDisk (w.shared.disk.append path chunk w.stamp)) := by
  show w.append path chunk = _
  unfold World.append
  dsimp only
  split
  case h_1 full => exact absurd full (room _)
  case h_2 full => exact absurd full (room _)
  case h_3 => rfl

/-! ## What decides -/

section

variable {m : Int} (limit : s.maxBytes = .whole m)
include limit

/-- Whether chunks are written to the end depends on nothing but how many octets they have
together. -/
theorem ensures_pour_whole (path given : String) {chunks : List Bytes}
    (filled : ∀ chunk ∈ chunks, chunk ≠ []) {size : Nat} (within : size ≤ m)
    (room : ∀ n, w.own.interruption ≠ .afterWrites n) :
    (s.pour path given size (chunks.map .ok)).Ensures w fun outcome later =>
      later.own = w.own ∧
      outcome = if (size + chunks.flatten.length : Nat) ≤ m then
          .ok (size + chunks.flatten.length)
        else .error (.problem (.uploadTooLarge given s.maxBytes)) := by
  induction chunks generalizing size w with
  | nil => exact ensures_pure.2 ⟨rfl, (if_pos within).symm⟩
  | cons chunk rest ih =>
    obtain ⟨first, filled⟩ := List.forall_mem_cons.1 filled
    have total : size + (chunk :: rest).flatten.length =
        size + chunk.length + rest.flatten.length := by
      rw [List.flatten_cons, List.length_append, Nat.add_assoc]
    have below : s.maxBytes.isBelow (size + chunk.length) = true ↔
        m < (size + chunk.length : Nat) := by
      rw [limit, Amount.isBelow, decide_eq_true_iff]
    rw [List.map_cons, total]
    refine ensures_pour_step (fun empty => ?_) (fun _ large => ?_) (fun _ _ performed => ?_)
      fun between _ fits performed => ?_
    · exact absurd (List.isEmpty_iff.1 empty) first
    · rw [if_neg (by have := below.1 large; omega)]
      exact ⟨rfl, rfl⟩
    · cases performed.symm.trans (perform_append_of_room room path chunk)
    · cases performed.symm.trans (perform_append_of_room room path chunk)
      have fits : ¬ m < (size + chunk.length : Nat) := fun large =>
        Bool.false_ne_true (fits.symm.trans (below.2 large))
      exact ih filled (Int.not_lt.1 fits) room

/-- In a world that is ready an upload is kept if its content is within the limit, and refused if it
is not. -/
theorem ensures_store_verdict (nonneg : 0 ≤ m) (plain : '/' ∉ label.toList) (ready : s.Ready w)
    (unused : Unused s label w) {upload : Upload} {chunks : List Bytes}
    (arrives : upload.ArrivesIn chunks) :
    (s.store label upload).Ensures w fun outcome later =>
      later.own = w.own ∧
      (chunks.flatten.length ≤ m → outcome.isOk = true) ∧
      (m < chunks.flatten.length →
        outcome = .error (.problem (.uploadTooLarge (givenName upload) s.maxBytes))) := by
  refine ensures_store_of (fun failure untimed => ?_) (fun time path kind timed named refused => ?_)
    fun time path disk timed named written => ?_
  · obtain ⟨time, timed⟩ := ready.clock
    cases untimed.symm.trans timed
  · obtain ⟨disk, written⟩ := ready.exists_write plain unused timed named
    cases refused.symm.trans written
  have room : ∀ n, (w.afterId.withDisk disk).own.interruption ≠ .afterWrites n := ready.room
  rw [arrives.reads]
  refine (ensures_pour_whole limit _ _ arrives.filled nonneg room).mono ?_
  rintro outcome later ⟨own, ended⟩
  rw [Nat.zero_add] at ended
  by_cases within : chunks.flatten.length ≤ m
  · rw [if_pos within] at ended
    subst ended
    exact ⟨own, fun _ => rfl, fun large => absurd within (Int.not_le.2 large)⟩
  · rw [if_neg within] at ended
    subst ended
    exact ⟨own, fun fits => absurd fits within, fun _ => rfl⟩

/-! ## Several uploads -/

/-- In a world that is ready and where the task is not cancelled, uploads that fit are all kept. -/
theorem ensures_storeBehind_isOk (nonneg : 0 ≤ m) (plain : '/' ∉ label.toList)
    {uploads : List Upload}
    (fit : ∀ upload ∈ uploads, ∃ chunks, upload.ArrivesIn chunks ∧ chunks.flatten.length ≤ m)
    {first : World} {holdings : List Holding}
    (fresh : first.Fresh [label] (2 * (holdings.length + uploads.length)))
    (holds : Holds s label first w holdings) (ready : s.Ready w) (calm : w.awaits = none) :
    (s.storeBehind label (holdings.map Holding.file) uploads).Ensures w fun outcome _ =>
      outcome.isOk = true := by
  induction uploads generalizing w holdings with
  | nil => exact ensures_pure.2 rfl
  | cons upload rest ih =>
    obtain ⟨⟨chunks, arrives, within⟩, fit⟩ := List.forall_mem_cons.1 fit
    rw [List.length_cons] at fresh
    have unused := holds.unused plain fresh List.mem_cons_self (by omega)
    unfold storeBehind
    rw [ensures_bind, ensures_attempt, ensures_aside]
    refine ((ensures_store plain unused upload).and
      (ensures_store_verdict limit nonneg plain ready unused arrives)).mono ?_
    rintro outcome between ⟨⟨waits, stored⟩, own, kept, -⟩
    obtain ⟨file, rfl⟩ := isOk_iff_exists.1 (kept within)
    obtain ⟨since, p, more, sound⟩ := stored
    have calm : between.awaits = none := waits.trans calm
    rw [await_of_awaits_eq_none calm]
    show Ensures (s.storeBehind label (holdings.map Holding.file ++ [file]) rest) between _
    have enough : first.Fresh [label]
        (2 * ((holdings ++ [Holding.mk upload file p]).length + rest.length)) :=
      fresh.mono (by rw [List.length_append, List.length_singleton]; omega)
    have run := ih fit enough (holds.snoc since more sound)
      (ready.behind since.clock own more.others) calm
    rwa [List.map_append, List.map_singleton] at run

end

/-! ## What is kept -/

/-- Whether a content is kept in a file: it stands where the path of the file leads, and its length
is on record. -/
structure Keeps (d : Disk) (file : StoredFile) (content : Bytes) : Prop where
  whole : ∃ modified, d.file file.path = .ok (content, modified)
  size : file.size = content.length

theorem Keeps.of_sound {first : World} {h : Holding} (sound : h.Sound s label first w)
    (size : h.file.size = (Upload.delivered h.upload.reads).length) {chunks : List Bytes}
    (arrives : h.upload.ArrivesIn chunks) : Keeps w.shared.disk h.file chunks.flatten := by
  obtain ⟨modified, whole⟩ := sound.whole
  rw [arrives.delivered] at size whole
  exact ⟨⟨modified, file_eq_ok_iff.2 ⟨_, sound.leads, whole⟩⟩, size⟩

/-- What has become of an upload that was to be stored, by the length of its content. -/
def StoredExactly (s : Storage) (m : Int) (upload : Upload) (content : Bytes) (before after : Disk) :
    Except Failure StoredFile → Prop
  | .ok file => content.length ≤ m ∧ Keeps after file content
  | .error failure => m < content.length ∧
      failure = .problem (.uploadTooLarge (givenName upload) s.maxBytes) ∧
        ∀ p, after.at? p = before.at? p

section

variable {m : Int} (limit : s.maxBytes = .whole m) (nonneg : 0 ≤ m) (plain : '/' ∉ label.toList)
  (ready : s.Ready w)
include limit nonneg plain ready

theorem ensures_store_exactly (fresh : w.Fresh [label] 2) {upload : Upload} {chunks : List Bytes}
    (arrives : upload.ArrivesIn chunks) :
    (s.store label upload).Ensures w fun outcome later =>
      StoredExactly s m upload chunks.flatten w.shared.disk later.shared.disk outcome := by
  have unused := (Holds.nil s label w).unused plain fresh List.mem_cons_self (by decide)
  refine ((ensures_store plain unused upload).and
    ((ensures_store_verdict limit nonneg plain ready unused arrives).and
      (ensures_store_recorded plain upload w))).mono ?_
  rintro outcome later ⟨⟨-, ended⟩, ⟨-, kept, refused⟩, recorded⟩
  cases outcome with
  | ok file =>
    obtain ⟨-, p, -, sound⟩ := ended
    refine ⟨?_, .of_sound sound (recorded file rfl).size arrives⟩
    by_contra large
    cases refused (Int.not_le.1 large)
  | error failure =>
    have large : m < chunks.flatten.length := by
      by_contra within
      cases kept (Int.not_lt.1 within)
    obtain rfl := Except.error.inj (refused large)
    obtain ⟨-, nothing | ⟨⟨error, system⟩, -⟩⟩ := ended
    · exact ⟨large, rfl, fun p => nothing.others.at?_eq p not_false⟩
    · cases system

theorem ensures_storeAll_exactly {uploads : List Upload}
    (fresh : w.Fresh [label] (2 * uploads.length)) (calm : w.awaits = none)
    (fit : ∀ upload ∈ uploads, ∃ chunks, upload.ArrivesIn chunks ∧ chunks.flatten.length ≤ m) :
    (s.storeAll label uploads).Ensures w fun outcome later =>
      ∃ files, outcome = .ok files ∧
        List.Forall₂ (fun upload file => file.givenName = givenName upload ∧
          ∀ chunks, upload.ArrivesIn chunks → Keeps later.shared.disk file chunks.flatten)
          uploads files := by
  have all : (s.storeAll label uploads).Ensures w fun outcome _ => outcome.isOk = true :=
    ensures_storeBehind_isOk limit nonneg plain fit (by simpa using fresh) (Holds.nil s label w)
      ready calm
  refine (((ensures_storeAll plain uploads List.mem_cons_self fresh).and all).with_run).mono ?_
  rintro outcome later ⟨⟨ended, all⟩, ran⟩
  obtain ⟨files, rfl⟩ := isOk_iff_exists.1 all
  obtain ⟨holdings, rfl, rfl, holds⟩ := ended
  rw [List.nil_append] at holds ran ⊢
  refine ⟨_, rfl, ?_⟩
  rw [List.forall₂_map_left_iff, List.forall₂_map_right_iff, List.forall₂_same]
  intro h mem
  obtain ⟨between, recorded⟩ := exists_recorded plain (congrArg Prod.fst ran) mem
  exact ⟨recorded.givenName, fun chunks => .of_sound (holds.sound h mem) recorded.size⟩

end

/-- **Chunks make no difference.** In a world that is ready an upload is kept if and only if its
content is within the limit, however it is cut into chunks: the file at its path then holds the
content and its size is on record. If the content is larger the upload is refused, and everything on
the disk is as it was. Uploads that all fit are all kept, in their order. -/
theorem store_exact (s : Storage) {m : Int} (limit : s.maxBytes = .whole m) (positive : 0 < m)
    {label : String} (plain : '/' ∉ label.toList) {w : World} (ready : s.Ready w) :
    (∀ (upload : Upload) (chunks : List Bytes), upload.ArrivesIn chunks → w.Fresh [label] 2 →
      let content := chunks.flatten
      let run := w.run (s.store label upload).run
      ((∃ file, run.1 = .ok file) ↔ content.length ≤ m) ∧
      (∀ file, run.1 = .ok file → Keeps run.2.shared.disk file content) ∧
      ∀ failure, run.1 = .error failure →
        let refusal : Problem := .uploadTooLarge (givenName upload) s.maxBytes
        failure = .problem refusal ∧ refusal.kind = .invalidPayload ∧
          ∀ p, run.2.shared.disk.at? p = w.shared.disk.at? p) ∧
    ∀ uploads : List Upload, w.Fresh [label] (2 * uploads.length) → w.awaits = none →
      (∀ upload ∈ uploads, ∃ chunks, upload.ArrivesIn chunks ∧ chunks.flatten.length ≤ m) →
      let run := w.run (s.storeAll label uploads).run
      ∃ files, run.1 = .ok files ∧
        List.Forall₂ (fun upload file => file.givenName = givenName upload ∧
          ∀ chunks, upload.ArrivesIn chunks → Keeps run.2.shared.disk file chunks.flatten)
          uploads files := by
  constructor
  · intro upload chunks arrives fresh content run
    have ended : StoredExactly s m upload content w.shared.disk run.2.shared.disk run.1 :=
      ensures_store_exactly limit positive.le plain ready fresh arrives
    generalize run.1 = outcome at ended
    cases outcome with
    | ok file =>
      obtain ⟨within, keeps⟩ := ended
      refine ⟨⟨fun _ => within, fun _ => ⟨file, rfl⟩⟩, ?_, nofun⟩
      rintro _ ⟨⟩
      exact keeps
    | error failure =>
      obtain ⟨large, rfl, same⟩ := ended
      refine ⟨⟨nofun, fun within => absurd within (Int.not_le.2 large)⟩, nofun, ?_⟩
      rintro _ ⟨⟩
      exact ⟨rfl, rfl, same⟩
  · intro uploads fresh calm fit
    exact ensures_storeAll_exactly limit positive.le plain ready fresh calm fit

/-- A content of three octets is above a limit of two in whichever chunk the third arrives; two
contents of two octets are kept. -/
theorem store_exact_two_octets :
    let w : World := ⟨⟨⟨[(["uploads"], .directory)]⟩, 0.0, 0⟩, ⟨⟨true, .error .notFound,
      fun _ => .error .notFound, .error .notFound, .error .notFound, false⟩, .never, []⟩⟩
    let s : Storage := ⟨"uploads", "output", .whole 2, 0.0, 0.0, 0.0⟩
    let clip (chunks : List Bytes) : Upload := ⟨some "a.mp4", none, chunks.map .ok⟩
    let stored (chunks : List Bytes) := w.run (s.store "files" (clip chunks)).run
    s.Ready w ∧ w.Fresh ["files"] 4 ∧
      (∀ chunks ∈ [[[0x41, 0x42], [0x43]], [[0x41], [0x42, 0x43]], [[0x41, 0x42, 0x43]]],
        (∀ file, (stored chunks).1 ≠ .ok file) ∧
          ∀ p, (stored chunks).2.shared.disk.at? p = w.shared.disk.at? p) ∧
      ∃ files, (w.run (s.storeAll "files" [clip [[0x41], [0x42]], clip [[0x43, 0x44]]]).run).1 =
        .ok files ∧ files.map StoredFile.size = [2, 2] := by
  intro w s clip stored
  have ready : s.Ready w :=
    ⟨⟨["uploads"], by decide +kernel, rfl⟩, isOk_iff_exists.1 (by decide +kernel), nofun⟩
  have fresh : w.Fresh ["files"] 4 := fresh_of_unlabelled (by decide) (by decide +kernel)
  have arrives (chunks : List Bytes) (filled : ∀ chunk ∈ chunks, chunk ≠ []) :
      (clip chunks).ArrivesIn chunks := ⟨rfl, filled⟩
  have plain : '/' ∉ "files".toList := by decide
  obtain ⟨one, several⟩ := store_exact s rfl (by decide) plain ready
  refine ⟨ready, fresh, fun chunks mem => ?_, ?_⟩
  · have cut : (∀ chunk ∈ chunks, chunk ≠ []) ∧ chunks.flatten.length = 3 := by
      revert chunks
      decide
    obtain ⟨fits, -, refused⟩ := one _ chunks (arrives chunks cut.1) (fresh.mono (by decide))
    rw [cut.2] at fits
    have large (file : StoredFile) (same : (stored chunks).1 = .ok file) : False :=
      absurd (fits.1 ⟨file, same⟩) (by decide)
    cases ended : (stored chunks).1 with
    | ok file => exact (large file ended).elim
    | error failure => exact ⟨nofun, (refused failure ended).2.2⟩
  · have first := arrives [[0x41], [0x42]] (by decide)
    have second := arrives [[0x43, 0x44]] (by decide)
    obtain ⟨files, same, records⟩ := several [clip [[0x41], [0x42]], clip [[0x43, 0x44]]] fresh rfl
      (List.forall_mem_cons.2 ⟨⟨_, first, by decide⟩,
        List.forall_mem_singleton.2 ⟨_, second, by decide⟩⟩)
    refine ⟨files, same, ?_⟩
    match files, records with
    | [_, _], .cons kept (.cons kept' .nil) =>
      simp [(kept.2 _ first).size, (kept'.2 _ second).size]

end Storage

end Splice
