import Splice.Proofs.Surroundings.Naming
import Splice.Proofs.Surroundings.Otherwise

/-!
# What comes in the way of removing files

Two things come in the way of a job that removes files: the system refuses to remove some
(`Hindrance.refusal`), and others remove files in between (`Hindrance.vanishing`). Carried out in
such surroundings (`Hindrance.perform`) a job leaves a record of the places where it removed a file.
Without a hindrance the surroundings are those of a world (`Hindrance.runIn_none`).

A state is `Hindrance.Reached` from a world if nothing has happened since but that files were
removed: those on record, and those that have vanished.
-/

namespace Splice

/-- What comes in the way of a job that removes files. -/
structure Hindrance where
  /-- Why the system refuses to remove the file at a place, if it does. -/
  refusal : Place → Option SystemErrorKind
  /-- The paths of the files that others remove right before an operation, by the number of the
  operations before it. -/
  vanishing : Nat → List String

/-- The state of surroundings in which a job is hindered. -/
structure Hindered where
  world : World
  /-- How many operations there were. -/
  operations : Nat
  /-- Where the job removed a file. -/
  removed : List Place

namespace Hindered

/-- The state in which nothing has happened yet. -/
def start (w : World) : Hindered := ⟨w, 0, []⟩

/-- The disk of the state. -/
abbrev disk (s : Hindered) : Disk := s.world.shared.disk

end Hindered

namespace Hindrance

variable {h : Hindrance} {w : World} {s : Hindered} {path : String} {p : Place}

/-- Nothing that comes in the way. -/
protected def none : Hindrance := ⟨fun _ => none, fun _ => []⟩

/-- The state once others have removed what they remove before the next operation. -/
def before (h : Hindrance) (s : Hindered) : Hindered where
  world := s.world.withDisk (s.disk.without (h.vanishing s.operations))
  operations := s.operations + 1
  removed := s.removed

/-- The removal of a file, unless there is none or the system refuses it. -/
def remove (h : Hindrance) (s : Hindered) (path : String) : Except SystemError Unit × Hindered :=
  match s.disk.place path with
  | .error kind => (.error ⟨kind, path⟩, s)
  | .ok p =>
    match h.refusal p, s.disk.remove path with
    | none, .ok disk => (.ok (), ⟨s.world.withDisk disk, s.operations, s.removed ++ [p]⟩)
    | some kind, _ | none, .error kind => (.error ⟨kind, path⟩, s)

/-- The surroundings in which a job is hindered. -/
def perform (h : Hindrance) : Surroundings Hindered
  | s, .remove path => h.remove (h.before s) path
  | s, op =>
    let (answer, world) := (h.before s).world.perform op
    (answer, { h.before s with world })

/-- A removal is refused, or finds no file, or removes it. -/
theorem remove_cases (leads : s.disk.place path = .ok p) :
    (∃ kind, h.refusal p = some kind ∧ h.remove s path = (.error ⟨kind, path⟩, s)) ∨
      h.refusal p = none ∧
        ((∃ kind, s.disk.remove path = .error kind ∧ h.remove s path = (.error ⟨kind, path⟩, s)) ∨
          ∃ disk, s.disk.remove path = .ok disk ∧ h.remove s path =
            (.ok (), ⟨s.world.withDisk disk, s.operations, s.removed ++ [p]⟩)) := by
  unfold remove
  rw [leads]
  dsimp only
  cases h.refusal p with
  | some kind => exact .inl ⟨kind, rfl, rfl⟩
  | none =>
    cases s.disk.remove path with
    | error kind => exact .inr ⟨rfl, .inl ⟨kind, rfl, rfl⟩⟩
    | ok disk => exact .inr ⟨rfl, .inr ⟨disk, rfl, rfl⟩⟩

/-- What nothing hinders is removed as in a world. -/
theorem remove_none (s : Hindered) (path : String) :
    (Hindrance.none.remove s path).1 = (s.world.perform (.remove path)).1 ∧
      (Hindrance.none.remove s path).2.world = (s.world.perform (.remove path)).2 := by
  show _ = (s.world.changing path (s.disk.remove path)).1 ∧
    _ = (s.world.changing path (s.disk.remove path)).2
  unfold remove
  cases leads : s.disk.place path with
  | error kind =>
    have missing : s.disk.remove path = .error kind := by
      simp [Disk.remove, Disk.file, Disk.node, leads]
    rw [missing]
    exact ⟨rfl, rfl⟩
  | ok p =>
    cases s.disk.remove path with
    | error kind => exact ⟨rfl, rfl⟩
    | ok disk => exact ⟨rfl, rfl⟩

/-- A job that nothing hinders does what it does in a world. -/
theorem runIn_none {α : Type} (job : Job α) (s : Hindered) :
    (job.runIn Hindrance.none.perform s).1 = (s.world.run job).1 ∧
      (job.runIn Hindrance.none.perform s).2.world = (s.world.run job).2 := by
  induction job generalizing s with
  | done a => exact ⟨rfl, rfl⟩
  | ask op next ih =>
    have alike : (Hindrance.none.perform s op).1 = (s.world.perform op).1 ∧
        (Hindrance.none.perform s op).2.world = (s.world.perform op).2 := by
      cases op with
      | remove path => exact remove_none (Hindrance.none.before s) path
      | _ => exact ⟨rfl, rfl⟩
    have whole : s.world.run (.ask op next) =
        (s.world.perform op).2.run (next (s.world.perform op).1) := rfl
    rw [whole, Job.runIn, ← alike.1, ← alike.2]
    exact ih _ _

/-! ## What is left of a world -/

/-- Whether the file at a place is among those that others remove before some operation. -/
def Vanished (h : Hindrance) (d : Disk) (operations : Nat) (p : Place) : Prop :=
  d.IsFile p ∧ ∃ i < operations, ∃ path ∈ h.vanishing i, d.place path = .ok p

/-- Whether nothing has happened in a world since but that files were removed, those on record with
the permission of the system. -/
structure Reached (h : Hindrance) (w : World) (s : Hindered) : Prop where
  clock : s.world.shared.clock = w.shared.clock
  named : s.disk.Named
  nodup : s.removed.Nodup
  allowed : ∀ p ∈ s.removed, h.refusal p = none
  lost : Disk.More (fun p => p ∈ s.removed ∨ h.Vanished w.shared.disk s.operations p) s.disk
    w.shared.disk

namespace Reached

theorem start (named : w.shared.disk.Named) : h.Reached w (.start w) where
  clock := rfl
  named := named
  nodup := .nil
  allowed := nofun
  lost := (Disk.More.refl w.shared.disk).congr fun p =>
    ⟨False.elim, by rintro (⟨⟨⟩⟩ | ⟨-, i, below, -⟩); exact absurd below (Nat.not_lt_zero i)⟩

/-- What still stands somewhere has stood there. -/
theorem at?_eq (reached : h.Reached w s) (there : s.disk.at? p ≠ none) :
    s.disk.at? p = w.shared.disk.at? p :=
  (reached.lost.at?_eq there).symm

theorem stood (reached : h.Reached w s) {node : Node} (standing : s.disk.at? p = some node) :
    w.shared.disk.at? p = some node :=
  (reached.at?_eq (by rw [standing]; simp)).symm.trans standing

theorem place_iff (reached : h.Reached w s) :
    s.disk.place path = .ok p ↔ w.shared.disk.place path = .ok p :=
  reached.lost.others.place_iff.symm

theorem isFile (reached : h.Reached w s) (file : s.disk.IsFile p) : w.shared.disk.IsFile p := by
  obtain ⟨content, modified, standing⟩ := file
  exact ⟨content, modified, reached.stood standing⟩

/-- A file that is no more was removed by the job or by others. -/
theorem lost_of_at?_eq_none (reached : h.Reached w s) (file : w.shared.disk.IsFile p)
    (gone : s.disk.at? p = none) :
    p ∈ s.removed ∨ h.Vanished w.shared.disk s.operations p := by
  by_contra other
  obtain ⟨content, modified, standing⟩ := file
  rw [reached.lost.others.at?_eq p other, gone] at standing
  cases standing

/-- Others remove files. -/
theorem before (reached : h.Reached w s) : h.Reached w (h.before s) where
  clock := reached.clock
  named := Disk.named_without reached.named _
  nodup := reached.nodup
  allowed := reached.allowed
  lost := by
    refine ((s.disk.more_without (h.vanishing s.operations)).trans reached.lost).congr fun p => ?_
    constructor
    · rintro (⟨path, mem, leads, file⟩ | mem | ⟨file, i, below, other⟩)
      · exact .inr ⟨reached.isFile file, s.operations, Nat.lt_succ_self _, path, mem,
          reached.place_iff.1 leads⟩
      · exact .inl mem
      · exact .inr ⟨file, i, Nat.lt_succ_of_lt below, other⟩
    · rintro (mem | ⟨file, i, below, path, mem, leads⟩)
      · exact .inr (.inl mem)
      · rcases Nat.lt_succ_iff_lt_or_eq.1 below with earlier | rfl
        · exact .inr (.inr ⟨file, i, earlier, path, mem, leads⟩)
        · by_cases there : s.disk.IsFile p
          · exact .inl ⟨path, mem, reached.place_iff.2 leads, there⟩
          · -- What is no file any more was lost before.
            refine .inr (Classical.byContradiction fun kept => there ?_)
            obtain ⟨content, modified, standing⟩ := file
            exact ⟨content, modified, (reached.lost.others.at?_eq p kept).symm.trans standing⟩

/-- The job removes a file, which was not removed before. -/
theorem removed {disk : Disk} (reached : h.Reached w s) (leads : s.disk.place path = .ok p)
    (granted : h.refusal p = none) (gone : s.disk.remove path = .ok disk) :
    h.Reached w ⟨s.world.withDisk disk, s.operations, s.removed ++ [p]⟩ := by
  have one := Disk.more_of_remove leads gone
  have new : p ∉ s.removed := fun mem => by
    obtain ⟨content, modified, standing⟩ := one.files p rfl
    cases (reached.lost.new p (.inl mem)).symm.trans standing
  refine ⟨reached.clock, Disk.named_remove reached.named gone,
    List.nodup_append.2 ⟨reached.nodup, by simp, ?_⟩, ?_, ?_⟩
  · rintro q mem r only rfl
    exact new (List.mem_singleton.1 only ▸ mem)
  · intro q mem
    rcases List.mem_append.1 mem with mem | only
    · exact reached.allowed q mem
    · rwa [List.mem_singleton.1 only]
  · refine (one.trans reached.lost).congr fun q => ?_
    rw [List.mem_append, List.mem_singleton, or_assoc, or_left_comm]

end Reached

end Hindrance

end Splice
