import Splice.Proofs.Storage.Outdated
import Splice.Proofs.Storage.Storing

/-!
# From when on files are retained

A sweep looks at nothing but the times at which files were last modified. A file that is stored gets
the time of the storing (`Storage.ensures_store_renewed`), but a copy is as old as its source
(`Storage.ensures_copyToOutput_copied`), and so is a copy of a copy. So what counts is when a content
was stored, however often it was copied since, and not when the copy was made.

`Storage.Kept` is a world with a ledger of what is known of the files that calls have made. A call
keeps the ledger right (`Storage.Kept.Sound.step`), and so do any calls one after the other
(`Storage.Kept.Sound.run`).

Main statement: `Storage.run_retains`.
-/

namespace Splice

deriving instance DecidableEq for Node

namespace Disk

variable {d before between after : Disk} {path : String} {p : Place} {modified : Timestamp}

/-! ## Disks on which some files are new -/

/-- Whether there is at each place what there was, or nothing, or a file that was last modified at
some time. -/
def Renewed (modified : Timestamp) (before after : Disk) : Prop :=
  ∀ p, after.at? p = before.at? p ∨ after.at? p = none ∨
    ∃ content, after.at? p = some (.file content modified)

theorem Renewed.refl (d : Disk) : Renewed modified d d := fun _ => .inl rfl

theorem Renewed.trans (first : Renewed modified before between)
    (second : Renewed modified between after) : Renewed modified before after := by
  intro p
  rcases second p with same | other
  · rw [same]
    exact first p
  · exact .inr other

theorem renewed_write {content : Bytes} (wrote : d.write path content modified = .ok after) :
    Renewed modified d after := by
  obtain ⟨p, -, apart, rfl⟩ := write_eq_ok wrote
  intro q
  by_cases here : q = p
  · exact .inr (.inr ⟨content, here ▸ at?_set_file apart content modified⟩)
  · exact .inl ((SameBut.set_file apart content modified).at?_eq q here)

theorem renewed_append (d : Disk) (path : String) (content : Bytes) (modified : Timestamp) :
    Renewed modified d (d.append path content modified) := by
  unfold append
  split
  · cases wrote : d.write path _ modified with
    | error kind => exact .refl d
    | ok after => exact renewed_write wrote
  · exact .refl d

theorem renewed_without (d : Disk) (paths : List String) :
    Renewed modified d (d.without paths) := by
  intro p
  by_cases gone : ∃ path ∈ paths, d.place path = .ok p ∧ d.IsFile p
  · exact .inr (.inl ((d.more_without paths).new p gone))
  · exact .inl ((d.sameBut_without paths).at?_eq p gone)

end Disk

namespace Storage

open Act World Disk

variable {s : Storage} {w : World}

/-! ## What a call makes -/

theorem renewed_perform_append (path : String) (chunk : Bytes) (w : World) :
    (w.perform (.append path chunk)).2.stamp = w.stamp ∧
      Renewed w.stamp w.shared.disk (w.perform (.append path chunk)).2.shared.disk := by
  have more := w.shared.disk.renewed_append path chunk w.stamp
  show (w.append path chunk).2.stamp = w.stamp ∧ Renewed _ _ (w.append path chunk).2.shared.disk
  unfold World.append
  dsimp only
  split
  · exact ⟨rfl, .refl _⟩
  · exact ⟨rfl, more⟩
  · exact ⟨rfl, more⟩

theorem ensures_pour_renewed (path given : String) (reads : List (Except SystemError Bytes))
    (size : Nat) (w : World) :
    (s.pour path given size reads).Ensures w fun _ later =>
      Renewed w.stamp w.shared.disk later.shared.disk := by
  induction reads generalizing size w with
  | nil => exact ensures_pure.2 (.refl _)
  | cons read rest ih =>
    cases read with
    | error error => exact ensures_throw.2 (.refl _)
    | ok chunk =>
      obtain ⟨stamp, more⟩ := renewed_perform_append path chunk w
      refine ensures_pour_step (fun _ => .refl _) (fun _ _ => renewed_without _ _)
        (fun error between performed => ?_) fun between _ _ performed => ?_
      · rw [performed] at more
        exact more
      · rw [performed] at stamp more
        refine (ih (size + chunk.length) between).mono fun _ later further => ?_
        exact more.trans (stamp ▸ further)

/-- What is stored is new, however the storing ends. -/
theorem ensures_store_renewed (label : String) (upload : Upload) (w : World) :
    (s.store label upload).Ensures w fun _ later =>
      Renewed w.stamp w.shared.disk later.shared.disk := by
  refine ensures_store_of (fun _ _ => .refl _) (fun _ _ _ _ _ _ => .refl _) ?_
  intro time path disk _ _ written
  refine (ensures_pour_renewed path _ upload.reads 0 _).mono fun outcome later further => ?_
  have all : Renewed w.stamp w.shared.disk later.shared.disk := (renewed_write written).trans further
  cases outcome <;> exact all

/-- What has become of a disk when a file was to be copied: nothing, if there is none; otherwise what
is new is as old as the file. -/
def Copied (path : String) (before after : Disk) : Prop :=
  match before.file path with
  | .ok found => Renewed found.2 before after
  | .error _ => after = before

theorem copied_refl (path : String) (d : Disk) : Copied path d d := by
  unfold Copied
  cases d.file path with
  | ok found => exact .refl d
  | error kind => rfl

theorem copied_perform_copy (path target : String) (w : World) :
    Copied path w.shared.disk (w.perform (.copy path target)).2.shared.disk := by
  show Copied path w.shared.disk (w.copy path target).2.shared.disk
  unfold World.copy Copied
  cases w.shared.disk.file path with
  | error kind => rfl
  | ok found =>
    show Renewed found.2 w.shared.disk
      (w.changing target (w.shared.disk.write target found.1 found.2)).2.shared.disk
    cases wrote : w.shared.disk.write target found.1 found.2 with
    | error kind => exact .refl _
    | ok after => exact renewed_write wrote

theorem ensures_copyToOutput_copied (path : String) (w : World) :
    (s.copyToOutput path).Ensures w fun _ later =>
      Copied path w.shared.disk later.shared.disk := by
  have copy (target : String) (w : World) :
      Ensures (do orRefused (← request (.copy path target)); return target) w fun _ later =>
        Copied path w.shared.disk later.shared.disk := by
    refine ensures_bind_of_silent (fun answer w => ?_) (ensures_request.2
      (copied_perform_copy path target w))
    cases answer <;> rfl
  unfold copyToOutput outputPath
  rw [ensures_bind, ensures_bind, ensures_uniqueName]
  split
  · exact copy _ w.afterId
  · exact copied_refl path w.shared.disk

/-- What is not outdated stays when a sweep is made. -/
theorem at?_run_sweep (named : w.shared.disk.Named) (s : Storage) (maxAge now : Option Float)
    {p : Place}
    (young : ¬ w.shared.disk.Old (maxAge.getD s.retention) (now.getD w.shared.clock) p) :
    (w.run (s.sweep maxAge now).run).2.shared.disk.at? p = w.shared.disk.at? p := by
  obtain ⟨-, -, -, swept⟩ := ensures_sweep (h := .none) named s maxAge now
  have alike := (Hindrance.runIn_none (s.sweep maxAge now).run (.start w)).2
  rw [show w.run _ = (Hindered.start w).world.run _ from rfl, ← alike]
  refine (swept.reached.lost.others.at?_eq p ?_).symm
  rintro (mem | ⟨-, i, -, path, listed, -⟩)
  · exact young (swept.sound p mem).2
  · cases listed

/-! ## Runs of calls -/

/-- A call of a storage. -/
inductive Call
  | store (label : String) (upload : Upload)
  | copy (path : String)
  | sweep (maxAge now : Option Float)

/-- The world behind a call. -/
def Call.behind (s : Storage) (w : World) : Call → World
  | .store label upload => (w.run (s.store label upload).run).2
  | .copy path => (w.run (s.copyToOutput path).run).2
  | .sweep maxAge now => (w.run (s.sweep maxAge now).run).2

/-- Where the content of a file that a call made comes from. -/
inductive Origin
  /-- It was stored at some time. -/
  | stored (time : Float)
  /-- It was copied from a file that no call had made, which was last modified then. -/
  | foreign (modified : Timestamp)

/-- From when on a content is retained, as a disk keeps it. -/
def Origin.since : Origin → Timestamp
  | .stored time => .ofSeconds time
  | .foreign modified => modified

/-- What is known of a file that a call made. -/
structure Provenance where
  /-- The time of the call. -/
  made : Float
  origin : Origin

/-- A world, and what is known of the files at its places that calls have made. -/
structure Kept where
  world : World
  ledger : Place → Option Provenance

namespace Kept

/-- The disk of the world. -/
abbrev disk (k : Kept) : Disk := k.world.shared.disk

/-- What is known of the files that a call makes. A copy has the origin of its source. -/
def provenance (k : Kept) (time : Float) : Call → Option Provenance
  | .store _ _ => some ⟨time, .stored time⟩
  | .copy path =>
    match k.disk.place path, k.disk.file path with
    | .ok q, .ok (_, modified) =>
      some ⟨time, ((k.ledger q).map Provenance.origin).getD (.foreign modified)⟩
    | _, _ => none
  | .sweep _ _ => none

/-- One call at some time. The ledger is kept up where the disk changes. -/
def step (s : Storage) (k : Kept) (time : Float) (call : Call) : Kept :=
  let w : World := ⟨{ k.world.shared with clock := time }, k.world.own⟩
  let later := call.behind s w
  ⟨later, fun p =>
    if later.shared.disk.at? p = k.disk.at? p then k.ledger p else k.provenance time call⟩

/-- Calls at some times, one after the other. -/
def run (s : Storage) : Kept → List (Float × Call) → Kept
  | k, [] => k
  | k, (time, call) :: rest => (k.step s time call).run s rest

/-- Nothing is known yet. -/
def start (w : World) : Kept := ⟨w, fun _ => none⟩

/-- Whether what is known is right: a file that a call made is gone, or was last modified when its
origin says. -/
structure Sound (k : Kept) : Prop where
  named : k.disk.Named
  stands : ∀ p known, k.ledger p = some known →
    k.disk.at? p = none ∨ ∃ content, k.disk.at? p = some (.file content known.origin.since)

variable {k : Kept} {time : Float}

theorem sound_start (named : w.shared.disk.Named) : (start w).Sound := ⟨named, nofun⟩

/-- A copy is as old as its origin says. -/
theorem Sound.since_eq (sound : k.Sound) {path : String} {known : Provenance}
    (copied : k.provenance time (.copy path) = some known) :
    ∃ content, k.disk.file path = .ok (content, known.origin.since) := by
  unfold provenance at copied
  dsimp only at copied
  split at copied
  case h_1 q content modified leads read =>
    refine ⟨content, ?_⟩
    obtain ⟨q', leads', standing⟩ := file_eq_ok_iff.1 read
    cases leads.symm.trans leads'
    cases copied
    cases found : k.ledger q with
    | none => exact read
    | some source =>
      rcases sound.stands q source found with gone | ⟨content', same⟩
      · cases gone.symm.trans standing
      · cases same.symm.trans standing
        exact read
  case h_2 => cases copied

/-- A call keeps what is known right. -/
theorem Sound.step (sound : k.Sound) (s : Storage) (time : Float) (call : Call) :
    (k.step s time call).Sound := by
  let w : World := ⟨{ k.world.shared with clock := time }, k.world.own⟩
  have named : w.shared.disk.Named := sound.named
  refine ⟨?_, ?_⟩
  · cases call with
    | store label upload => exact named_run named (s.store label upload).run
    | copy path => exact named_run named (s.copyToOutput path).run
    | sweep maxAge now => exact named_run named (s.sweep maxAge now).run
  · intro p known found
    unfold Kept.step at found
    dsimp only at found
    split at found
    case isTrue same =>
      show (call.behind s w).shared.disk.at? p = none ∨
        ∃ content, (call.behind s w).shared.disk.at? p = some (.file content known.origin.since)
      rw [same]
      exact sound.stands p known found
    case isFalse changed =>
      cases call with
      | store label upload =>
        cases found
        exact (ensures_store_renewed label upload w p).resolve_left changed
      | copy path =>
        obtain ⟨content, read⟩ := sound.since_eq found
        have copied : Copied path w.shared.disk _ := ensures_copyToOutput_copied (s := s) path w
        unfold Copied at copied
        rw [show w.shared.disk.file path = .ok (content, known.origin.since) from read] at copied
        exact (copied p).resolve_left changed
      | sweep maxAge now => cases found

theorem Sound.run (sound : k.Sound) (s : Storage) (calls : List (Float × Call)) :
    (k.run s calls).Sound := by
  induction calls generalizing k with
  | nil => exact sound
  | cons first rest ih => exact ih (sound.step s first.1 first.2)

end Kept

/-- **A file is retained from when its content was stored.** At the end of any calls, at any times, a
file that one of them made is gone, or was last modified when its origin says: one that was stored, when
it was stored, and a copy, when what it was copied from was stored, or last modified if no call had
made it. No sweep removes it before it is too old, counted from then. -/
theorem run_retains (s : Storage) {w : World} (named : w.shared.disk.Named)
    (calls : List (Float × Call)) (time : Float) (maxAge now : Option Float) :
    let kept := (Kept.start w).run s calls
    let swept := kept.step s time (.sweep maxAge now)
    ∀ p, ∀ known ∈ kept.ledger p,
      (kept.disk.at? p = none ∨
        ∃ content, kept.disk.at? p = some (.file content known.origin.since)) ∧
      (now.getD time - known.origin.since.seconds ≤ maxAge.getD s.retention →
        swept.disk.at? p = kept.disk.at? p) := by
  intro kept swept p known found
  have sound : kept.Sound := (Kept.sound_start named).run s calls
  have stands := sound.stands p known found
  refine ⟨stands, fun young => ?_⟩
  refine at?_run_sweep (w := ⟨{ kept.world.shared with clock := time }, kept.world.own⟩) sound.named
    s maxAge now ?_
  rintro ⟨content, modified, standing, old⟩
  rcases stands with gone | ⟨content', same⟩
  · cases gone.symm.trans standing
  · cases same.symm.trans standing
    exact Binary64.float_not_lt_of_le young old

/-- A clip that is copied some time after it was stored, and both while they are young. -/
theorem run_retains_copy :
    let w : World := ⟨⟨⟨[(["uploads"], .directory), (["output"], .directory)]⟩, 0.0, 0⟩,
      ⟨⟨true, .error .notFound, fun _ => .error .notFound, .error .notFound, .error .notFound, false⟩,
        .never, []⟩⟩
    let s : Storage := ⟨"uploads", "output", .whole 10, 3600.0, 300.0, 5.0⟩
    let calls : List (Float × Call) :=
      [(1000.0, .store "files" ⟨some "a.mp4", none, [.ok [0x41]]⟩),
        (1040.0, .copy "uploads/files-1000000-000000010000.mp4")]
    let kept := (Kept.start w).run s calls
    let swept := kept.step s 1050.0 (.sweep (some 50.0) none)
    let copy : Place := ["output", "export-1040000-000000030000.mp4"]
    (∃ known ∈ kept.ledger copy, 1050.0 - known.origin.since.seconds ≤ 50.0) ∧
      kept.disk.at? copy ≠ none ∧ swept.disk.at? copy = kept.disk.at? copy := by
  intro w s calls kept swept copy
  have there : kept.disk.at? copy ≠ none := by decide +kernel
  have young : ∃ known ∈ kept.ledger copy, 1050.0 - known.origin.since.seconds ≤ 50.0 := by
    decide +kernel
  refine ⟨young, there, ?_⟩
  obtain ⟨known, found, young⟩ := young
  exact (run_retains s (show w.shared.disk.Named by decide) calls 1050.0 (some 50.0) none copy known
    found).2 young

/-- A copy of an older file is removed as soon as it is made, though it was made just now: a clip is
stored, then it is copied, and then there is a sweep at that very time. -/
theorem run_removes_fresh_copy :
    let w : World := ⟨⟨⟨[(["uploads"], .directory), (["output"], .directory)]⟩, 0.0, 0⟩,
      ⟨⟨true, .error .notFound, fun _ => .error .notFound, .error .notFound, .error .notFound, false⟩,
        .never, []⟩⟩
    let s : Storage := ⟨"uploads", "output", .whole 10, 3600.0, 300.0, 5.0⟩
    let calls : List (Float × Call) :=
      [(1000.0, .store "files" ⟨some "a.mp4", none, [.ok [0x41]]⟩),
        (1100.0, .copy "uploads/files-1000000-000000010000.mp4")]
    let kept := (Kept.start w).run s calls
    let swept := kept.step s 1100.0 (.sweep (some 50.0) none)
    (calls.map Prod.fst ++ [1100.0]).Pairwise (· ≤ ·) ∧
      ¬ ∀ p, ∀ known ∈ kept.ledger p, 1100.0 - known.made ≤ 50.0 →
        swept.disk.at? p = kept.disk.at? p := by
  intro w s calls kept swept
  refine ⟨by decide +kernel, fun stays => ?_⟩
  let copy : Place := ["output", "export-1100000-000000030000.mp4"]
  obtain ⟨known, found, young⟩ : ∃ known ∈ kept.ledger copy, 1100.0 - known.made ≤ 50.0 := by
    decide +kernel
  have removed : swept.disk.at? copy ≠ kept.disk.at? copy := by decide +kernel
  exact removed (stays copy known found young)

end Storage

end Splice
