import Splice.Proofs.Surroundings.Run

/-!
# Disks on which every place can be reached

A place to which a path leads consists of names, perhaps behind the slash at which the path starts
(`Disk.isNamed_place`). Whatever is made on a disk is made where a path leads, so if there was
nothing elsewhere before an operation there is nothing elsewhere behind it
(`World.named_perform`), and so for a whole job (`World.named_run`).
-/

namespace Splice

namespace Path

instance (name : String) : Decidable (IsName name) :=
  decidable_of_iff (name ≠ "" ∧ name ≠ "." ∧ name ≠ ".." ∧ '/' ∉ name.toList)
    ⟨fun h => ⟨h.1, h.2.1, h.2.2.1, h.2.2.2⟩, fun h => ⟨h.1, h.2, h.3, h.4⟩⟩

/-- No part of a path has a slash in it. -/
theorem slash_not_mem_of_mem_parts {path part : String} (mem : part ∈ parts path) :
    '/' ∉ part.toList := by
  obtain ⟨stretch, listed, rfl⟩ := List.mem_map.1 mem
  intro slash
  rw [String.toList_ofList] at slash
  simpa using separates_of_mem_stretches listed slash

end Path

namespace Disk

/-- Whether a place consists of names, perhaps behind the slash at which paths start. -/
def IsNamed : Place → Prop
  | [] => True
  | first :: rest => (first = "/" ∨ Path.IsName first) ∧ ∀ name ∈ rest, Path.IsName name

instance : DecidablePred IsNamed
  | [] => inferInstanceAs (Decidable True)
  | _ :: rest => inferInstanceAs (Decidable (_ ∧ ∀ name ∈ rest, Path.IsName name))

/-- Whether nothing is on a disk where no path can lead. -/
def Named (d : Disk) : Prop := ∀ row ∈ d.nodes, IsNamed row.1

instance (d : Disk) : Decidable d.Named := inferInstanceAs (Decidable (∀ row ∈ d.nodes, _))

variable {d after : Disk} {path : String} {p q here : Place}

/-! ## Where paths lead -/

theorem IsNamed.snoc (named : IsNamed p) {name : String} (proper : Path.IsName name) :
    IsNamed (p ++ [name]) := by
  cases p with
  | nil => exact ⟨.inr proper, nofun⟩
  | cons first rest =>
    refine ⟨named.1, fun other mem => ?_⟩
    rcases List.mem_append.1 mem with inside | last
    · exact named.2 other inside
    · rwa [List.mem_singleton.1 last]

theorem IsNamed.parent (named : IsNamed p) : IsNamed (parent p) := by
  unfold Disk.parent
  split
  · exact ⟨.inl rfl, nofun⟩
  · cases p with
    | nil => trivial
    | cons first rest =>
      cases rest with
      | nil => trivial
      | cons second others =>
        exact ⟨named.1, fun name mem => named.2 name (List.dropLast_subset _ mem)⟩

theorem IsNamed.enter (named : IsNamed here) {part : String} (whole : '/' ∉ part.toList) :
    IsNamed (enter here part) := by
  unfold Disk.enter
  split
  · exact named
  · rename_i inside
    split
    · exact named.parent
    · rename_i further
      simp only [Bool.or_eq_true, beq_iff_eq, not_or] at inside further
      exact named.snoc ⟨inside.1, inside.2, further, whole⟩

theorem isNamed_follow {parts : List String} (whole : ∀ part ∈ parts, '/' ∉ part.toList)
    (start : IsNamed here) (leads : d.follow here parts = .ok p) : IsNamed p := by
  induction parts generalizing here with
  | nil =>
    cases leads
    exact start
  | cons part rest ih =>
    rw [List.forall_mem_cons] at whole
    exact ih whole.2 (start.enter whole.1) (follow_cons_eq_ok_iff.1 leads).2

theorem isNamed_place (leads : d.place path = .ok p) : IsNamed p := by
  refine isNamed_follow (fun _ => Path.slash_not_mem_of_mem_parts) ?_ (place_eq_ok_iff.1 leads).2
  unfold start
  split
  · exact ⟨.inl rfl, nofun⟩
  · trivial

/-! ## What is kept -/

theorem named_erase (named : d.Named) (p : Place) : (Disk.mk (d.nodes.erase p)).Named :=
  fun row mem => named row (List.mem_filter.1 mem).1

theorem named_set (named : d.Named) (proper : IsNamed p) (node : Node) : (d.set p node).Named := by
  intro row mem
  unfold set Table.put at mem
  split at mem
  · obtain ⟨old, listed, rfl⟩ := List.mem_map.1 mem
    split
    · exact proper
    · exact named old listed
  · rcases List.mem_append.1 mem with listed | new
    · exact named row listed
    · rw [List.mem_singleton.1 new]
      exact proper

theorem named_write {content : Bytes} {modified : Timestamp} (named : d.Named)
    (wrote : d.write path content modified = .ok after) : after.Named := by
  obtain ⟨p, leads, -, rfl⟩ := write_eq_ok wrote
  exact named_set named (isNamed_place leads) _

theorem named_append (named : d.Named) (path : String) (content : Bytes) (modified : Timestamp) :
    (d.append path content modified).Named := by
  unfold append
  split
  · cases wrote : d.write path _ modified with
    | error kind => exact named
    | ok after => exact named_write named wrote
  · exact named

theorem named_remove (named : d.Named) (removed : d.remove path = .ok after) : after.Named := by
  unfold remove at removed
  split at removed
  · cases removed
  · obtain ⟨p, -, rfl⟩ := map_eq_ok_iff.1 removed
    exact named_erase named p

theorem named_without (named : d.Named) (paths : List String) : (d.without paths).Named := by
  unfold without
  induction paths generalizing d with
  | nil => exact named
  | cons path rest ih =>
    refine ih ?_
    unfold cleared
    cases removed : d.remove path with
    | error kind => exact named
    | ok after => exact named_remove named removed

theorem named_makeDirectory (named : d.Named) (made : d.makeDirectory path = .ok after) :
    after.Named := by
  unfold makeDirectory at made
  split at made
  case h_1 => cases made
  case h_2 p leads =>
    split at made
    · cases made
    · obtain ⟨_, -, rfl⟩ := map_eq_ok_iff.1 made
      exact named_set named (isNamed_place leads) _

theorem named_makeBehind (named : d.Named) (path : String) (isMissing : Bool)
    (refusal : Option SystemError) : (d.makeBehind path isMissing refusal).1.Named := by
  unfold makeBehind
  split
  · exact named
  · split
    · exact named
    · split
      case h_1 made => exact named_makeDirectory named made
      case h_2 => exact named

theorem named_makeMissing (named : d.Named) (fuel : Nat) (path : String) :
    (d.makeMissing fuel path).1.Named := by
  induction fuel generalizing path with
  | zero => exact named
  | succ fuel ih =>
    unfold makeMissing
    extract_lets outer isMissing
    have around : (if isMissing then d.makeMissing fuel outer else (d, none)).1.Named := by
      split
      · exact ih outer
      · exact named
    generalize (if isMissing then d.makeMissing fuel outer else (d, none)) = made at around ⊢
    exact named_makeBehind around path isMissing made.2

theorem named_makeDirectories (named : d.Named) (path : String) :
    (d.makeDirectories path).1.Named := by
  have made := named_makeMissing named (Path.parts path).length path
  unfold makeDirectories
  dsimp only
  split <;> exact made

end Disk

namespace World

variable {w : World}

theorem named_changing (named : w.shared.disk.Named) (path : String)
    {change : Except SystemErrorKind Disk} (kept : ∀ disk, change = .ok disk → disk.Named) :
    (w.changing path change).2.shared.disk.Named := by
  cases change with
  | error kind => exact named
  | ok disk => exact kept disk rfl

theorem named_written (named : w.shared.disk.Named) (output : String) (content : Option Bytes) :
    (w.written output content).2.shared.disk.Named := by
  cases content with
  | none => exact named
  | some bytes => exact named_changing named output fun _ => Disk.named_write named

/-- No operation makes anything where no path can lead. -/
theorem named_perform (named : w.shared.disk.Named) (op : Operation) :
    (w.perform op).2.shared.disk.Named := by
  cases op with
  | create path => exact named_changing named path fun _ => Disk.named_write named
  | remove path => exact named_changing named path fun _ => Disk.named_remove named
  | makeDirectories path => exact Disk.named_makeDirectories named path
  | append path content =>
    show (w.append path content).2.shared.disk.Named
    unfold append
    dsimp only
    split
    · exact named
    all_goals exact Disk.named_append named path content w.stamp
  | copy source target =>
    show (w.copy source target).2.shared.disk.Named
    unfold copy
    split
    · exact named
    · exact named_changing named target fun _ => Disk.named_write named
  | await =>
    show w.await.2.shared.disk.Named
    rwa [shared_await]
  | sleep seconds =>
    show (w.sleep seconds).2.shared.disk.Named
    unfold sleep
    dsimp only
    split <;> exact named
  | call errand argv =>
    have noted : (w.noting (.called errand argv)).shared.disk.Named := named
    show (w.call errand argv).2.shared.disk.Named
    unfold call
    dsimp only
    split
    · exact noted
    · exact noted
    · split
      · exact noted
      · exact named_written noted _ _
  | start argv output =>
    have noted : (w.noting (.started argv)).shared.disk.Named := named
    show (w.start argv output).2.shared.disk.Named
    unfold World.start
    dsimp only
    split
    · exact noted
    · exact named_written noted _ _
  | _ => exact named

theorem named_run {α : Type} (named : w.shared.disk.Named) (job : Job α) :
    (w.run job).2.shared.disk.Named := by
  induction job generalizing w with
  | done a => exact named
  | ask op next ih => exact ih _ (named_perform named op)

end World

end Splice
