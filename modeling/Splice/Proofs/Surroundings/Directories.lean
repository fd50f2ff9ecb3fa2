import Splice.Proofs.Surroundings.Run
import Splice.Storage.Basic

/-!
# Making directories leaves files alone

Directories are only made where nothing stands. So however many have to be made on the way to a
path, and whether or not they can all be made, no file comes, goes or changes
(`Disk.sameFiles_makeDirectories`), and a storage can be prepared at any time
(`Storage.ensures_prepare`).
-/

namespace Splice

namespace Disk

/-- Whether two disks hold the same files. -/
def SameFiles (before after : Disk) : Prop :=
  ∀ p content modified,
    after.at? p = some (.file content modified) ↔ before.at? p = some (.file content modified)

variable {d before between after : Disk}

theorem SameFiles.refl (d : Disk) : SameFiles d d := fun _ _ _ => .rfl

theorem SameFiles.trans (first : SameFiles before between) (second : SameFiles between after) :
    SameFiles before after :=
  fun p content modified => (second p content modified).trans (first p content modified)

theorem More.sameFiles (same : More (fun _ => False) before after) : SameFiles before after := by
  intro p content modified
  rw [same.others.at?_eq p not_false]

theorem sameFiles_set_directory {p : Place} (new : d.at? p = none) :
    SameFiles d (d.set p .directory) := by
  intro q content modified
  by_cases here : q = p
  · subst here
    rw [new, at?_of_ne_directory (by rw [new]; simp), set, Table.get?_put, if_pos rfl]
    simp
  · have elsewhere : (d.set p .directory).at? q = d.at? q :=
      at?_congr (by rw [set, Table.get?_put, if_neg (Ne.symm here)])
    rw [elsewhere]

theorem sameFiles_makeDirectory {path : String} (h : d.makeDirectory path = .ok after) :
    SameFiles d after := by
  unfold makeDirectory at h
  split at h
  case h_1 => cases h
  case h_2 p leads =>
    split at h
    case h_1 => cases h
    case h_2 new =>
      obtain ⟨_, -, rfl⟩ := map_eq_ok_iff.1 h
      exact sameFiles_set_directory new

theorem sameFiles_makeBehind (d : Disk) (path : String) (isMissing : Bool)
    (refusal : Option SystemError) : SameFiles d (d.makeBehind path isMissing refusal).1 := by
  unfold makeBehind
  split
  case h_1 => exact .refl d
  case h_2 =>
    split
    case isTrue => exact .refl d
    case isFalse =>
      split
      case h_1 made => exact sameFiles_makeDirectory made
      case h_2 => exact .refl d

theorem sameFiles_makeMissing (d : Disk) (fuel : Nat) (path : String) :
    SameFiles d (d.makeMissing fuel path).1 := by
  induction fuel generalizing d path with
  | zero => exact .refl d
  | succ fuel ih =>
    unfold makeMissing
    extract_lets outer isMissing
    have around : SameFiles d (if isMissing then d.makeMissing fuel outer else (d, none)).1 := by
      split
      · exact ih d outer
      · exact .refl d
    generalize (if isMissing then d.makeMissing fuel outer else (d, none)) = made at around ⊢
    exact around.trans (made.1.sameFiles_makeBehind path isMissing made.2)

/-- However many directories have to be made, files stay as they are. -/
theorem sameFiles_makeDirectories (d : Disk) (path : String) :
    SameFiles d (d.makeDirectories path).1 := by
  have made := d.sameFiles_makeMissing (Path.parts path).length path
  unfold makeDirectories
  dsimp only
  split <;> exact made

end Disk

namespace Storage

open World

/-- A storage is prepared without touching a file. -/
theorem ensures_prepare (s : Storage) (w : World) :
    s.prepare.Ensures w fun _ later =>
      Since 0 w later ∧ Disk.SameFiles w.shared.disk later.shared.disk := by
  have made (path : String) (w : World) :
      Act.Ensures (do Act.orRefused (← Act.request (.makeDirectories path))) w fun _ later =>
        Since 0 w later ∧ Disk.SameFiles w.shared.disk later.shared.disk := by
    refine Act.ensures_bind_of_silent (fun answer w => ?_) (Act.ensures_request.2
      ⟨⟨rfl, rfl, rfl⟩, w.shared.disk.sameFiles_makeDirectories path⟩)
    cases answer <;> rfl
  unfold prepare
  rw [← bind_assoc, Act.ensures_bind]
  refine (made s.uploadDir w).mono fun outcome between ⟨since, same⟩ => ?_
  cases outcome with
  | error failure => exact ⟨since, same⟩
  | ok _ =>
    refine (made s.outputDir between).mono fun _ later ⟨since', same'⟩ => ?_
    exact ⟨since.trans since', same.trans same'⟩

end Storage

end Splice
