import Mathlib.Data.List.Forall2
import Splice.Proofs.Storage.Storing

/-!
# What is on record of stored uploads

A stored upload is on record with the name that was given out for it, the name that its sender gave
it, and the number of octets that were delivered (`Storage.Recorded`), whatever is on the disk. If
several uploads are stored there is a record of each, in their order (`Storage.forall₂_storeAll`).
-/

namespace Splice

namespace Storage

open Act World

variable {s : Storage} {label : String}

/-- All that was poured into a file was counted. -/
theorem ensures_pour_size (path given : String) (reads : List (Except SystemError Bytes))
    (size : Nat) (w : World) :
    (s.pour path given size reads).Ensures w fun outcome _ =>
      ∀ total, outcome = .ok total → total = size + (Upload.delivered reads).length := by
  induction reads generalizing size w with
  | nil => exact ensures_pure.2 fun total same => (Except.ok.inj same).symm
  | cons read rest ih =>
    cases read with
    | error error => rintro total ⟨⟩
    | ok chunk =>
      unfold Upload.delivered
      refine ensures_pour_step (fun empty => ?_) (fun _ _ => ?_) (fun _ _ _ => ?_)
        fun between filled _ _ => ?_
      · rw [if_pos empty]
        exact fun total same => (Except.ok.inj same).symm
      · rintro total ⟨⟩
      · rintro total ⟨⟩
      · rw [if_neg (by rw [filled]; decide)]
        refine (ih (size + chunk.length) between).mono fun outcome _ counted total same => ?_
        rw [counted total same, List.length_append, Nat.add_assoc]

/-- What is on record of an upload that was stored in some world. -/
structure Recorded (s : Storage) (label : String) (upload : Upload) (w : World)
    (file : StoredFile) : Prop where
  named : ∃ time, w.time = .ok time ∧ file.filename = nextName label upload w time
  path : file.path = Path.join s.uploadDir file.filename
  givenName : file.givenName = Storage.givenName upload
  size : file.size = (Upload.delivered upload.reads).length
  contentType : file.contentType =
    Text.orIfEmpty (upload.contentType.getD "") "application/octet-stream"

theorem ensures_store_recorded (plain : '/' ∉ label.toList) (upload : Upload) (w : World) :
    (s.store label upload).Ensures w fun outcome _ =>
      ∀ file, outcome = .ok file → Recorded s label upload w file := by
  refine ensures_store_of (fun _ _ => ?_) (fun _ _ _ _ _ _ => ?_) ?_
  · rintro file ⟨⟩
  · rintro file ⟨⟩
  · intro time path disk timed named _
    have name : Path.baseName path = nextName label upload w time :=
      named ▸ Path.baseName_join s.uploadDir (isName_nextName plain upload w time).whole
    refine (ensures_pour_size path _ upload.reads 0 _).mono fun outcome later counted => ?_
    cases outcome with
    | error failure => rintro file ⟨⟩
    | ok size =>
      rintro file ⟨⟩
      refine ⟨⟨time, timed, name⟩, ?_, rfl, ?_, rfl⟩
      · exact named.trans (congrArg (Path.join s.uploadDir) name.symm)
      · exact congrArg Int.ofNat ((counted size rfl).trans (Nat.zero_add _))

/-- What holds of every upload and the record of it holds of several, one after the other. -/
theorem forall₂_storeBehind {P : Upload → StoredFile → Prop}
    (each : ∀ upload w, (s.store label upload).Ensures w fun outcome _ =>
      ∀ file, outcome = .ok file → P upload file)
    {before : List Upload} {stored : List StoredFile} (kept : List.Forall₂ P before stored)
    (uploads : List Upload) (w : World) :
    (s.storeBehind label stored uploads).Ensures w fun outcome _ =>
      ∀ files, outcome = .ok files → List.Forall₂ P (before ++ uploads) files := by
  induction uploads generalizing before stored w with
  | nil =>
    refine ensures_pure.2 fun files same => ?_
    rwa [List.append_nil, ← Except.ok.inj same]
  | cons upload rest ih =>
    have stored : (s.store label upload).aside.Ensures w fun outcome _ =>
        ∀ file, outcome = .ok file → P upload file := by
      rw [ensures_aside]
      refine (each upload w).mono fun outcome later holds => ?_
      split
      · rintro file ⟨⟩
      · exact holds
    unfold storeBehind
    rw [ensures_bind, ensures_attempt]
    refine stored.mono fun outcome later holds => ?_
    cases outcome with
    | ok file =>
      have more := ih (List.rel_append kept (.cons (holds file rfl) .nil)) later
      rwa [List.append_assoc] at more
    | error failure =>
      dsimp only
      split
      · rw [ensures_bind, ensures_delete]
        rintro files ⟨⟩
      · rintro files ⟨⟩

theorem forall₂_storeAll {P : Upload → StoredFile → Prop}
    (each : ∀ upload w, (s.store label upload).Ensures w fun outcome _ =>
      ∀ file, outcome = .ok file → P upload file) (uploads : List Upload) (w : World) :
    (s.storeAll label uploads).Ensures w fun outcome _ =>
      ∀ files, outcome = .ok files → List.Forall₂ P uploads files :=
  forall₂_storeBehind each .nil uploads w

/-- Each of several uploads that are kept is on record. -/
theorem exists_recorded (plain : '/' ∉ label.toList) {holdings : List Holding} {w : World}
    (stored : (w.run (s.storeAll label (holdings.map Holding.upload)).run).1 =
      .ok (holdings.map Holding.file)) {h : Holding} (mem : h ∈ holdings) :
    ∃ between, Recorded s label h.upload between h.file := by
  have all := forall₂_storeAll (fun upload w => (ensures_store_recorded plain upload w).mono
    fun _ _ recorded file same => Exists.intro w (recorded file same))
    (holdings.map Holding.upload) w _ stored
  rw [List.forall₂_map_left_iff, List.forall₂_map_right_iff, List.forall₂_same] at all
  exact all h mem

end Storage

end Splice
