import Splice.Proofs.Surroundings.Run
import Splice.Proofs.Traffic.Names

/-!
# One operation among others

An operation is *private* to those who were given some ids if all the paths that it is about are
theirs (`Operation.Private`). Such an operation changes nothing but their places
(`World.sameBut_perform`), and in two worlds that agree about their places and about everything that
is not on the disk (`World.Agrees`) it is answered alike and leaves worlds that agree again
(`World.perform_agrees`).
-/

namespace Splice

/-! ## Disks that agree about some places -/

namespace Disk

variable {touched : Place → Prop} {d e : Disk} {path : String} {p : Place}

theorem at?_set (d : Disk) (p : Place) (node : Node) (q : Place) :
    (d.set p node).at? q =
      if q = [] ∨ q = root then some .directory else if p = q then some node else d.at? q := by
  unfold at?
  split
  · rfl
  · rw [set, Table.get?_put]

theorem at?_erase (d : Disk) (p q : Place) :
    (Disk.mk (d.nodes.erase p)).at? q =
      if q = [] ∨ q = root then some .directory else if p = q then none else d.at? q := by
  unfold at?
  split
  · rfl
  · rw [Table.get?_erase]

/-- Disks that agree about some places still do when the same is put somewhere. -/
theorem SameBut.set (h : SameBut touched d e) (p : Place) (node : Node) :
    SameBut touched (d.set p node) (e.set p node) := by
  refine ⟨fun q away => by rw [at?_set, at?_set, h.at?_eq q away], fun q => ?_⟩
  rw [at?_set, at?_set]
  split
  · rfl
  · split
    · rfl
    · exact h.directory_iff q

theorem SameBut.erase (h : SameBut touched d e) (p : Place) :
    SameBut touched ⟨d.nodes.erase p⟩ ⟨e.nodes.erase p⟩ := by
  refine ⟨fun q away => by rw [at?_erase, at?_erase, h.at?_eq q away], fun q => ?_⟩
  rw [at?_erase, at?_erase]
  split
  · rfl
  · split
    · rfl
    · exact h.directory_iff q

/-- Whether two changes are refused in the same way, or give disks that agree about some places. -/
def Alike (touched : Place → Prop) :
    Except SystemErrorKind Disk → Except SystemErrorKind Disk → Prop
  | .ok d, .ok e => SameBut touched d e
  | .error kind, .error other => other = kind
  | _, _ => False

section

variable (h : SameBut touched d e) (leads : d.Leads path p) (same : ¬ touched p)
include h leads same

theorem SameBut.file_eq : e.file path = d.file path := by
  unfold file node
  rw [leads.place, h.place_iff.2 leads.place]
  dsimp only
  rw [h.at?_eq p same]

theorem SameBut.exists?_eq : e.exists? path = d.exists? path := by
  unfold exists? node
  rw [leads.place, h.place_iff.2 leads.place]
  dsimp only
  rw [h.at?_eq p same]

theorem SameBut.write_alike (content : Bytes) (modified : Timestamp) :
    Alike touched (d.write path content modified) (e.write path content modified) := by
  unfold write
  rw [leads.place, h.place_iff.2 leads.place]
  dsimp only
  rw [h.at?_eq p same]
  cases d.at? p with
  | none =>
    dsimp only
    rw [refuseEntry_eq_ok_iff.2 leads.around,
      refuseEntry_eq_ok_iff.2 ((h.directory_iff _).2 leads.around)]
    exact h.set p _
  | some node =>
    cases node with
    | directory => rfl
    | file before old => exact h.set p _

theorem SameBut.remove_alike : Alike touched (d.remove path) (e.remove path) := by
  unfold remove
  rw [h.file_eq leads same, leads.place, h.place_iff.2 leads.place]
  cases d.file path with
  | error kind => rfl
  | ok found => exact h.erase p

theorem SameBut.append (content : Bytes) (modified : Timestamp) :
    SameBut touched (d.append path content modified) (e.append path content modified) := by
  unfold Disk.append
  rw [h.file_eq leads same]
  cases d.file path with
  | error kind => exact h
  | ok found =>
    have alike := h.write_alike leads same (found.1 ++ content) modified
    revert alike
    dsimp only
    cases d.write path (found.1 ++ content) modified <;>
      cases e.write path (found.1 ++ content) modified <;> intro alike
    · exact h
    · exact alike.elim
    · exact alike.elim
    · exact alike

end

/-! ## Changes of a single file -/

/-- A file that is written, or that cannot be. -/
theorem sameBut_write {content : Bytes} {modified : Timestamp} {after : Disk}
    (leads : d.place path = .ok p) (wrote : d.write path content modified = .ok after) :
    SameBut (· = p) d after := by
  obtain ⟨q, leads', apart, rfl⟩ := write_eq_ok wrote
  cases leads.symm.trans leads'
  exact SameBut.set_file apart content modified

theorem sameBut_append (leads : d.place path = .ok p) (content : Bytes) (modified : Timestamp) :
    SameBut (· = p) d (d.append path content modified) := by
  unfold Disk.append
  cases d.file path with
  | error kind => exact .refl d
  | ok found =>
    dsimp only
    cases wrote : d.write path (found.1 ++ content) modified with
    | error kind => exact .refl d
    | ok after => exact sameBut_write leads wrote

theorem sameBut_remove {after : Disk} (leads : d.place path = .ok p)
    (removed : d.remove path = .ok after) : SameBut (· = p) d after := by
  unfold remove at removed
  cases found : d.file path with
  | error kind => simp [found] at removed
  | ok file =>
    obtain ⟨q, leads', standing⟩ := file_eq_ok_iff.1 found
    cases leads.symm.trans leads'
    rw [found, leads] at removed
    cases removed
    exact SameBut.erase_file ⟨_, _, standing⟩

end Disk

/-! ## Private operations -/

namespace Operation

/-- The paths that an operation is about, if it is about files. -/
def paths : Operation → List String
  | doesExist path | isFile path | modified path | create path | append path _ | remove path
  | read path => [path]
  | copy source target => [source, target]
  | call (.convert output) _ => [output]
  | start _ output => [output]
  | _ => []

/-- Whether an operation is about directories. -/
def IsWide : Operation → Prop
  | names _ | makeDirectories _ => True
  | _ => False

/-- Whether an operation is about no other files than those of whoever was given some ids. -/
structure Private (op : Operation) (s : Storage) (ids : List Nat) : Prop where
  narrow : ¬ op.IsWide
  owned : ∀ path ∈ op.paths, s.Owned ids path

/-- The ids that an operation gives out when some number of ids was given out before. -/
def gives (given : Nat) : Operation → List Nat
  | freshId => [given + 1]
  | _ => []

/-- Whether an answer can be one after some number of ids was given out. -/
def Answers (given : Nat) : (op : Operation) → op.Answer → Prop
  | freshId, id => id = World.idText (given + 1)
  | _, _ => True

end Operation

namespace World

variable {mine : Place → Prop} {w v : World}

/-- Whether two worlds agree about some places and about everything that is not on the disk. -/
structure Agrees (mine : Place → Prop) (w v : World) : Prop where
  own : v.own = w.own
  clock : v.shared.clock = w.shared.clock
  given : v.shared.idsGiven = w.shared.idsGiven
  disk : Disk.SameBut (fun p => ¬ mine p) w.shared.disk v.shared.disk

theorem Agrees.stamp (agrees : Agrees mine w v) : v.stamp = w.stamp := by
  unfold World.stamp
  rw [agrees.clock]

theorem Agrees.noting (agrees : Agrees mine w v) (event : Event) :
    Agrees mine (w.noting event) (v.noting event) where
  own := by
    unfold World.noting
    rw [agrees.own]
  clock := agrees.clock
  given := agrees.given
  disk := agrees.disk

theorem Agrees.interrupted (agrees : Agrees mine w v) (interruption : Interruption) :
    Agrees mine (w.interrupted interruption) (v.interrupted interruption) where
  own := by
    unfold World.interrupted
    rw [agrees.own]
  clock := agrees.clock
  given := agrees.given
  disk := agrees.disk

theorem Agrees.withDisk (agrees : Agrees mine w v) {d e : Disk}
    (h : Disk.SameBut (fun p => ¬ mine p) d e) : Agrees mine (w.withDisk d) (v.withDisk e) :=
  ⟨agrees.own, agrees.clock, agrees.given, h⟩

theorem Agrees.later (agrees : Agrees mine w v) (seconds : Float) :
    Agrees mine (w.later seconds) (v.later seconds) where
  own := agrees.own
  clock := congrArg (· + seconds) agrees.clock
  given := agrees.given
  disk := agrees.disk

/-- Whether two outcomes of an operation are the same, and leave worlds that agree. -/
structure AgreeOn {α : Type} (mine : Place → Prop) (w v : α × World) : Prop where
  answer : v.1 = w.1
  world : Agrees mine w.2 v.2

theorem AgreeOn.map {α β : Type} {x y : α × World} (h : AgreeOn mine x y) (f : α → β) :
    AgreeOn mine (f x.1, x.2) (f y.1, y.2) :=
  ⟨congrArg f h.answer, h.world⟩

theorem Agrees.changing (agrees : Agrees mine w v) (path : String)
    {change change' : Except SystemErrorKind Disk}
    (alike : Disk.Alike (fun p => ¬ mine p) change change') :
    AgreeOn mine (w.changing path change) (v.changing path change') := by
  cases change <;> cases change'
  · cases alike
    exact ⟨rfl, agrees⟩
  · exact alike.elim
  · exact alike.elim
  · exact ⟨rfl, agrees.withDisk alike⟩

variable {s : Storage} {ids : List Nat}

theorem Agrees.written (agrees : Agrees mine w v) {output : String} {p : Place}
    (leads : w.shared.disk.Leads output p) (own : mine p) (content : Option Bytes) :
    AgreeOn mine (w.written output content) (v.written output content) := by
  cases content with
  | none => exact ⟨rfl, agrees⟩
  | some bytes =>
    unfold World.written
    dsimp only
    rw [agrees.stamp]
    exact agrees.changing output (agrees.disk.write_alike leads (not_not_intro own) bytes w.stamp)

theorem Agrees.append (agrees : Agrees mine w v) {path : String} {p : Place}
    (leads : w.shared.disk.Leads path p) (own : mine p) (content : Bytes) :
    AgreeOn mine (w.append path content) (v.append path content) := by
  have more := agrees.withDisk
    (agrees.disk.append leads (not_not_intro own) content w.stamp)
  unfold World.append
  dsimp only
  rw [agrees.own, agrees.stamp]
  split
  · exact ⟨rfl, agrees⟩
  · exact ⟨rfl, more.interrupted _⟩
  · exact ⟨rfl, more⟩

theorem Agrees.copy (agrees : Agrees mine w v) {source target : String} {p q : Place}
    (leads : w.shared.disk.Leads source p) (own : mine p)
    (leads' : w.shared.disk.Leads target q) (own' : mine q) :
    AgreeOn mine (w.copy source target) (v.copy source target) := by
  unfold World.copy
  rw [agrees.disk.file_eq leads (not_not_intro own)]
  cases w.shared.disk.file source with
  | error kind => exact ⟨rfl, agrees⟩
  | ok found =>
    exact agrees.changing target (agrees.disk.write_alike leads' (not_not_intro own') _ _)

theorem Agrees.await (agrees : Agrees mine w v) : AgreeOn mine w.await v.await := by
  unfold World.await
  rw [agrees.own]
  split
  · exact ⟨rfl, agrees.interrupted _⟩
  · exact ⟨rfl, agrees.interrupted _⟩
  · exact ⟨rfl, agrees⟩

theorem Agrees.sleep (agrees : Agrees mine w v) (seconds : Float) :
    AgreeOn mine (w.sleep seconds) (v.sleep seconds) := by
  have noted := agrees.noting (.slept seconds)
  unfold World.sleep
  dsimp only
  rw [noted.own]
  split
  · exact ⟨rfl, noted.interrupted _⟩
  · exact ⟨rfl, (noted.interrupted _).later seconds⟩
  · exact ⟨rfl, noted.later seconds⟩

theorem Agrees.call (agrees : Agrees mine w v) (errand : Errand) (argv : List String)
    (leads : ∀ output, errand = .convert output → ∃ p, w.shared.disk.Leads output p ∧ mine p) :
    AgreeOn mine (w.call errand argv) (v.call errand argv) := by
  have noted := agrees.noting (.called errand argv)
  unfold World.call
  dsimp only
  rw [noted.own]
  cases errand with
  | formats => exact ⟨rfl, noted⟩
  | probe path => exact ⟨rfl, noted⟩
  | convert output =>
    dsimp only
    split
    case h_1 => exact ⟨rfl, noted⟩
    case h_2 conversion _ =>
      obtain ⟨p, leads, own⟩ := leads output rfl
      exact (noted.written leads own conversion.writes).map (·.map fun () => conversion.finished)

theorem Agrees.start (agrees : Agrees mine w v) (argv : List String) {output : String} {p : Place}
    (leads : w.shared.disk.Leads output p) (own : mine p) :
    AgreeOn mine (w.start argv output) (v.start argv output) := by
  have noted := agrees.noting (.started argv)
  unfold World.start
  dsimp only
  rw [noted.own]
  split
  case h_1 => exact ⟨rfl, noted⟩
  case h_2 rendering _ =>
    exact (noted.written leads own rendering.writes).map (·.map fun () => rendering.life)

/-- A private operation is answered alike in worlds that agree about the places of those whose it
is, and leaves worlds that agree. -/
theorem perform_agrees (agrees : Agrees (Storage.Mine ids) w v)
    (prepared : s.Prepared w.shared.disk) {op : Operation} (priv : op.Private s ids) :
    AgreeOn (Storage.Mine ids) (w.perform op) (v.perform op) := by
  have leads {path : String} (mem : path ∈ op.paths) :
      ∃ p, w.shared.disk.Leads path p ∧ Storage.Mine ids p :=
    (priv.owned path mem).leads prepared
  cases op with
  | now => exact ⟨agrees.clock, agrees⟩
  | freshId =>
    refine ⟨?_, agrees.own, agrees.clock, congrArg (· + 1) agrees.given, agrees.disk⟩
    show idText (v.shared.idsGiven + 1) = idText (w.shared.idsGiven + 1)
    rw [agrees.given]
  | doesExist path =>
    obtain ⟨p, leads, own⟩ := leads List.mem_cons_self
    exact ⟨agrees.disk.exists?_eq leads (not_not_intro own), agrees⟩
  | isFile path =>
    obtain ⟨p, leads, own⟩ := leads List.mem_cons_self
    exact ⟨congrArg Except.isOk (agrees.disk.file_eq leads (not_not_intro own)), agrees⟩
  | modified path =>
    obtain ⟨p, leads, own⟩ := leads List.mem_cons_self
    refine ⟨?_, agrees⟩
    show ((v.shared.disk.file path).mapError _).map _ = _
    rw [agrees.disk.file_eq leads (not_not_intro own)]
    rfl
  | read path =>
    obtain ⟨p, leads, own⟩ := leads List.mem_cons_self
    refine ⟨?_, agrees⟩
    show ((v.shared.disk.file path).mapError _).map _ = _
    rw [agrees.disk.file_eq leads (not_not_intro own)]
    rfl
  | names directory => exact (priv.narrow trivial).elim
  | makeDirectories path => exact (priv.narrow trivial).elim
  | create path =>
    obtain ⟨p, leads, own⟩ := leads List.mem_cons_self
    show AgreeOn _ (w.changing path _) (v.changing path (v.shared.disk.write path [] v.stamp))
    rw [agrees.stamp]
    exact agrees.changing path (agrees.disk.write_alike leads (not_not_intro own) [] w.stamp)
  | append path content =>
    obtain ⟨p, leads, own⟩ := leads List.mem_cons_self
    exact agrees.append leads own content
  | remove path =>
    obtain ⟨p, leads, own⟩ := leads List.mem_cons_self
    exact agrees.changing path (agrees.disk.remove_alike leads (not_not_intro own))
  | copy source target =>
    obtain ⟨p, first, own⟩ := leads List.mem_cons_self
    obtain ⟨q, second, own'⟩ := leads (List.mem_cons_of_mem _ List.mem_cons_self)
    exact agrees.copy first own second own'
  | await => exact agrees.await
  | sleep seconds => exact agrees.sleep seconds
  | isInstalled program => exact ⟨congrArg (·.engine.installed) agrees.own, agrees⟩
  | call errand argv =>
    refine agrees.call errand argv fun output same => ?_
    subst same
    exact leads List.mem_cons_self
  | start argv output =>
    obtain ⟨p, leads, own⟩ := leads List.mem_cons_self
    exact agrees.start argv leads own
  | report percent =>
    exact ⟨congrArg (·.engine.listens) agrees.own, agrees.noting (.reported percent)⟩
  | signal signal => exact ⟨rfl, agrees.noting (.signalled signal)⟩

/-! ## What an operation leaves alone -/

theorem answers_perform (w : World) (op : Operation) :
    op.Answers w.shared.idsGiven (w.perform op).1 := by
  cases op <;> first | rfl | trivial

theorem sameBut_changing {path : String} {p : Place} {change : Except SystemErrorKind Disk}
    (changed : ∀ disk, change = .ok disk → Disk.SameBut (· = p) w.shared.disk disk) :
    Disk.SameBut (· = p) w.shared.disk (w.changing path change).2.shared.disk := by
  cases change with
  | error kind => exact .refl _
  | ok disk => exact changed disk rfl

theorem sameBut_written {output : String} {p : Place} (leads : w.shared.disk.place output = .ok p)
    (content : Option Bytes) :
    Disk.SameBut (· = p) w.shared.disk (w.written output content).2.shared.disk := by
  cases content with
  | none => exact .refl _
  | some bytes => exact sameBut_changing fun disk wrote => Disk.sameBut_write leads wrote

/-- A private operation changes nothing but places of those whose it is. -/
theorem sameBut_perform (prepared : s.Prepared w.shared.disk) {op : Operation}
    (priv : op.Private s ids) :
    Disk.SameBut (Storage.Mine ids) w.shared.disk (w.perform op).2.shared.disk := by
  have leads {path : String} (mem : path ∈ op.paths) :
      ∃ p, w.shared.disk.place path = .ok p ∧ ∀ q, q = p → Storage.Mine ids q := by
    obtain ⟨p, leads, own⟩ := (priv.owned path mem).leads prepared
    exact ⟨p, leads.place, fun q same => same ▸ own⟩
  cases op with
  | create path =>
    obtain ⟨p, leads, own⟩ := leads List.mem_cons_self
    exact (sameBut_changing fun disk wrote => Disk.sameBut_write leads wrote).mono own
  | append path content =>
    obtain ⟨p, leads, own⟩ := leads List.mem_cons_self
    have more := (Disk.sameBut_append leads content w.stamp).mono own
    show Disk.SameBut _ _ (w.append path content).2.shared.disk
    unfold World.append
    dsimp only
    split
    · exact .refl _
    · exact more
    · exact more
  | remove path =>
    obtain ⟨p, leads, own⟩ := leads List.mem_cons_self
    exact (sameBut_changing fun disk removed => Disk.sameBut_remove leads removed).mono own
  | copy source target =>
    obtain ⟨p, leads, own⟩ := leads (List.mem_cons_of_mem _ List.mem_cons_self)
    show Disk.SameBut _ _ (w.copy source target).2.shared.disk
    unfold World.copy
    split
    · exact .refl _
    · exact (sameBut_changing fun disk wrote => Disk.sameBut_write leads wrote).mono own
  | makeDirectories path => exact (priv.narrow trivial).elim
  | await =>
    show Disk.SameBut _ _ w.await.2.shared.disk
    rw [shared_await]
    exact .refl _
  | sleep seconds =>
    show Disk.SameBut _ _ (w.sleep seconds).2.shared.disk
    unfold World.sleep
    dsimp only
    split <;> exact .refl _
  | call errand argv =>
    cases errand with
    | formats => exact .refl _
    | probe path => exact .refl _
    | convert output =>
      obtain ⟨p, leads, own⟩ := leads List.mem_cons_self
      show Disk.SameBut _ _ (w.call (.convert output) argv).2.shared.disk
      unfold World.call
      dsimp only
      split
      case h_1 => exact .refl _
      case h_2 conversion _ =>
        exact (sameBut_written (w := w.noting _) leads conversion.writes).mono own
  | start argv output =>
    obtain ⟨p, leads, own⟩ := leads List.mem_cons_self
    show Disk.SameBut _ _ (w.start argv output).2.shared.disk
    unfold World.start
    dsimp only
    split
    case h_1 => exact .refl _
    case h_2 rendering _ =>
      exact (sameBut_written (w := w.noting _) leads rendering.writes).mono own
  | _ => exact .refl _

/-- As many ids are given out as the operation gives. -/
theorem idsGiven_perform (w : World) (op : Operation) :
    (w.perform op).2.shared.idsGiven =
      w.shared.idsGiven + (op.gives w.shared.idsGiven).length := by
  by_cases asks : op = .freshId
  · rw [asks]
    rfl
  · have none : op.gives w.shared.idsGiven = [] := by
      unfold Operation.gives
      split
      · exact absurd rfl asks
      · rfl
    rw [none]
    exact perform_induction (P := fun v => v.shared.idsGiven = w.shared.idsGiven) (fun _ _ => id)
      (fun _ _ => id) (fun _ _ => id) (fun _ _ => id) rfl (absurd · asks)

end World

end Splice
