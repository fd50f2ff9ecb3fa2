import Splice.Proofs.Number.Order
import Splice.Proofs.Surroundings.Hindrances
import Splice.Proofs.Traffic.Names
import Splice.Storage.Sweep

/-!
# A sweep removes what is outdated

A sweep goes through the names in its two directories. What it has seen is *swept* (`Storage.Swept`)
if the old files in it that may be removed are gone, and no others were removed. It stays so while
others remove files (`Storage.Swept.before`), and a file that is looked at becomes part of what was
seen (`Storage.ensures_sweepFile`). A listing names what is one step further in, and nothing else
(`Disk.mem_names_iff`), so that all that is directly in the directories has been seen in the end.

Main statement: `Storage.sweep_exact`.
-/

namespace Splice

namespace Disk

variable {d e : Disk} {directory path : String} {p q : Place}

/-! ## What is in a directory -/

/-- Whether a place is directly in a directory that is there. -/
def Within (d : Disk) (directory : String) (p : Place) : Prop :=
  ∃ q name, d.place directory = .ok q ∧ d.at? q = some .directory ∧ p = q ++ [name]

theorem SameBut.within {touched : Place → Prop} (same : SameBut touched d e)
    (within : e.Within directory p) : d.Within directory p := by
  obtain ⟨q, name, leads, there, rfl⟩ := within
  exact ⟨q, name, same.place_iff.1 leads, (same.directory_iff q).1 there, rfl⟩

theorem IsNamed.isName {name : String} (named : IsNamed (q ++ [name])) (apart : q ++ [name] ≠ root) :
    Path.IsName name := by
  cases q with
  | nil => exact named.1.resolve_left fun slash => apart (slash ▸ rfl)
  | cons first rest => exact named.2 name (List.mem_append_right rest (List.mem_singleton_self name))

/-- The slash alone leads to where the paths that start with it start. -/
theorem place_slash (d : Disk) : d.place "/" = .ok root := by
  have parts : Path.parts "/" = ["", ""] := by decide
  have first : start "/" = root := by decide
  have there : d.at? root = some .directory := if_pos (.inr rfl)
  rw [place_eq_ok_iff, parts, first, follow_cons_eq_ok_iff, follow_cons_eq_ok_iff]
  exact ⟨by decide, there, there, rfl⟩

theorem IsFile.ne_root (file : d.IsFile p) : p ≠ root := by
  rintro rfl
  obtain ⟨content, modified, standing⟩ := file
  rw [at?, if_pos (.inr rfl)] at standing
  cases standing

/-- A directory with names in it is there, and the names are those of what is one step further in. -/
theorem mem_names_iff {listing : List String} (found : d.names directory = .ok listing) :
    ∃ q, d.place directory = .ok q ∧ d.at? q = some .directory ∧
      ∀ name, name ∈ listing ↔ ∃ row ∈ d.nodes, row.1 ≠ [] ∧ parent row.1 = q ∧
        row.1.getLast? = some name := by
  unfold names at found
  split at found
  case h_1 => cases found
  case h_2 q leads =>
    obtain ⟨_, entered, rfl⟩ := map_eq_ok_iff.1 found
    refine ⟨q, leads, refuseEntry_eq_ok_iff.1 entered, fun name => ?_⟩
    simp only [List.mem_filterMap, Option.ite_none_right_eq_some, and_assoc]

/-- A directory in which there is a place can be listed. -/
theorem exists_names (within : d.Within directory p) :
    ∃ listing, d.names directory = .ok listing := by
  obtain ⟨q, name, leads, there, -⟩ := within
  unfold names
  rw [leads]
  exact ⟨_, map_eq_ok_iff.2 ⟨(), refuseEntry_eq_ok_iff.2 there, rfl⟩⟩

/-- The name of a file in a directory is listed there. -/
theorem exists_mem_names (named : d.Named) {listing : List String}
    (found : d.names directory = .ok listing) (within : d.Within directory p) (file : d.IsFile p) :
    ∃ name ∈ listing, d.place (Path.join directory name) = .ok p := by
  obtain ⟨q, leads, there, listed⟩ := mem_names_iff found
  obtain ⟨q', name, leads', -, rfl⟩ := within
  cases leads.symm.trans leads'
  have apart : q ++ [name] ≠ root := file.ne_root
  obtain ⟨content, modified, standing⟩ := file
  have present : d.nodes.get? (q ++ [name]) ≠ none := by
    rw [← at?_of_ne_directory (by rw [standing]; simp), standing]
    simp
  simp only [ne_eq, Table.get?_eq_none_iff, not_forall, not_not] at present
  obtain ⟨row, mem, here⟩ := present
  have proper : Path.IsName name := IsNamed.isName (here ▸ named row mem) apart
  refine ⟨name, (listed name).2 ⟨row, mem, ?_⟩, place_join proper leads there⟩
  rw [here, parent_snoc proper]
  exact ⟨by simp, rfl, List.getLast?_concat⟩

/-- Where the path of a listed name leads is in the directory. -/
theorem within_of_mem_names (named : d.Named) {listing : List String}
    (found : d.names directory = .ok listing) {name : String} (mem : name ∈ listing)
    (leads : d.place (Path.join directory name) = .ok p) (apart : p ≠ root) :
    d.Within directory p := by
  obtain ⟨q, leads', there, listed⟩ := mem_names_iff found
  obtain ⟨row, mem, filled, around, last⟩ := (listed name).1 mem
  by_cases start : row.1 = root
  · -- The slash at which paths start leads back to where they start.
    rw [start] at last
    obtain rfl : "/" = name := Option.some.inj last
    have slash : Path.join directory "/" = "/" := if_pos (by decide)
    rw [slash, place_slash] at leads
    cases leads
    exact absurd rfl apart
  · have here : row.1 = q ++ [name] := by
      rw [parent, if_neg start] at around
      rw [← around, List.dropLast_append_getLast? name last]
    have proper : Path.IsName name :=
      IsNamed.isName (here ▸ named row mem) (here ▸ start)
    rw [place_join proper leads' there] at leads
    cases leads
    exact ⟨q, name, leads', there, rfl⟩

/-! ## What is old -/

/-- Whether a file stands at a place that was last modified longer than some seconds before a
time. -/
def Old (d : Disk) (maxAge now : Float) (p : Place) : Prop :=
  ∃ content modified, d.at? p = some (.file content modified) ∧ maxAge < now - modified.seconds

theorem Old.isFile {maxAge now : Float} (old : d.Old maxAge now p) : d.IsFile p := by
  obtain ⟨content, modified, standing, -⟩ := old
  exact ⟨content, modified, standing⟩

end Disk

namespace Storage

open Act Disk

variable {h : Hindrance} {w : World} {maxAge now : Float} {seen more : Place → Prop}
  {s : Hindered} {path directory : String}

/-! ## What was seen is swept -/

/-- Whether those of the files that were seen are removed that are old and may be removed, and no
others. -/
structure Swept (h : Hindrance) (w : World) (maxAge now : Float) (seen : Place → Prop)
    (s : Hindered) : Prop where
  reached : h.Reached w s
  sound : ∀ p ∈ s.removed, seen p ∧ w.shared.disk.Old maxAge now p
  complete : ∀ p, seen p → w.shared.disk.Old maxAge now p → h.refusal p = none →
    s.disk.at? p = none

namespace Swept

theorem before (swept : Swept h w maxAge now seen s) :
    Swept h w maxAge now seen (h.before s) where
  reached := swept.reached.before
  sound := swept.sound
  complete p inside old granted :=
    (s.disk.more_without (h.vanishing s.operations)).at?_eq_none
      (swept.complete p inside old granted)

/-- More was seen, but nothing in it is left to be removed. -/
theorem mono (swept : Swept h w maxAge now seen s)
    (wider : ∀ p, seen p → w.shared.disk.Old maxAge now p → more p)
    (rest : ∀ p, more p → w.shared.disk.Old maxAge now p → h.refusal p = none →
      seen p ∨ s.disk.at? p = none) : Swept h w maxAge now more s where
  reached := swept.reached
  sound p mem :=
    have ⟨inside, old⟩ := swept.sound p mem
    ⟨wider p inside old, old⟩
  complete p inside old granted := by
    rcases rest p inside old granted with before | gone
    · exact swept.complete p before old granted
    · exact gone

/-- What may be removed and was seen is not old any more. -/
theorem not_old {p : Place} (swept : Swept h w maxAge now seen s) (inside : seen p)
    (granted : h.refusal p = none) : ¬ s.disk.Old maxAge now p := by
  rintro ⟨content, modified, standing, long⟩
  have old : w.shared.disk.Old maxAge now p :=
    ⟨content, modified, swept.reached.stood standing, long⟩
  cases (swept.complete p inside old granted).symm.trans standing

end Swept

/-- What holds behind the sweeping of some files: it came to an end, with the number of the files
that were removed besides those before, and what was seen is swept. -/
def Sweeps (h : Hindrance) (w : World) (maxAge now : Float) (seen : Place → Prop) (before : Nat)
    (outcome : Except Failure Nat) (later : Hindered) : Prop :=
  ∃ count, outcome = .ok count ∧ later.removed.length = before + count ∧
    Swept h w maxAge now seen later

/-- No file is left where a path leads. -/
theorem Swept.sweeps_zero (swept : Swept h w maxAge now seen s)
    (rest : ∀ p, w.shared.disk.place path = .ok p → w.shared.disk.Old maxAge now p →
      h.refusal p = none → s.disk.at? p = none) :
    Sweeps h w maxAge now (fun p => seen p ∨ w.shared.disk.place path = .ok p) s.removed.length
      (.ok 0) s :=
  ⟨0, rfl, rfl, swept.mono (fun _ inside _ => .inl inside) fun p inside old granted =>
    inside.imp_right fun leads => rest p leads old granted⟩

theorem at?_eq_none_of_no_file {p : Place} (reached : h.Reached w s)
    (missing : (s.disk.file path).isOk = false) (leads : w.shared.disk.place path = .ok p)
    (old : w.shared.disk.Old maxAge now p) : s.disk.at? p = none := by
  by_contra there
  obtain ⟨content, modified, standing⟩ := old.isFile
  rw [Bool.eq_false_iff, Ne, isOk_file_iff] at missing
  exact missing ⟨p, reached.place_iff.2 leads, content, modified,
    (reached.at?_eq there).trans standing⟩

/-- A file that is old is removed, if it is still there and the system allows it. -/
theorem Swept.remove {p : Place} (swept : Swept h w maxAge now seen s)
    (leads : w.shared.disk.place path = .ok p) (old : w.shared.disk.Old maxAge now p) :
    Sweeps h w maxAge now (fun p => seen p ∨ w.shared.disk.place path = .ok p) s.removed.length
      (.ok (if (h.remove s path).1.isOk then 1 else 0)) (h.remove s path).2 := by
  have here : s.disk.place path = .ok p := swept.reached.place_iff.2 leads
  have only {q : Place} (leads' : w.shared.disk.place path = .ok q) : q = p :=
    Except.ok.inj (leads'.symm.trans leads)
  obtain ⟨kind, refused, removed⟩ | ⟨granted, ⟨kind, gone, removed⟩ | ⟨disk, gone, removed⟩⟩ :=
    h.remove_cases here <;> rw [removed]
  · refine swept.sweeps_zero fun q leads' _ granted => ?_
    rw [only leads', refused] at granted
    cases granted
  · have absent : (s.disk.file path).isOk = false := by
      unfold Disk.remove at gone
      rw [here] at gone
      cases read : s.disk.file path with
      | error kind => rfl
      | ok found => rw [read] at gone; cases gone
    exact swept.sweeps_zero fun q leads' old' _ =>
      at?_eq_none_of_no_file swept.reached absent leads' old'
  · have one := more_of_remove here gone
    refine ⟨1, rfl, List.length_append, swept.reached.removed here granted gone,
      fun q mem => ?_, fun q inside old' granted => ?_⟩
    · rcases List.mem_append.1 mem with mem | last
      · exact ⟨.inl (swept.sound q mem).1, (swept.sound q mem).2⟩
      · obtain rfl := List.mem_singleton.1 last
        exact ⟨.inr leads, old⟩
    · rcases inside with before | leads'
      · exact one.at?_eq_none (swept.complete q before old' granted)
      · exact one.new q (only leads')

theorem ensures_sweepFile (swept : Swept h w maxAge now seen s) (path : String) :
    (sweepFile maxAge now path).EnsuresIn h.perform s
      (Sweeps h w maxAge now (fun p => seen p ∨ w.shared.disk.place path = .ok p)
        s.removed.length) := by
  have looked := swept.before
  have again := looked.before
  unfold sweepFile
  rw [ensuresIn_bind, ensuresIn_request]
  show EnsuresIn h.perform (if ((h.before s).disk.file path).isOk then _ else _) (h.before s) _
  cases there : ((h.before s).disk.file path).isOk with
  | false =>
    rw [if_neg (by decide)]
    exact looked.sweeps_zero fun p leads old _ =>
      at?_eq_none_of_no_file looked.reached there leads old
  | true =>
    rw [if_pos rfl, ensuresIn_bind, ensuresIn_request]
    have answer : (h.perform (h.before s) (.modified path)).1 =
        (((h.before (h.before s)).disk.file path).mapError (⟨·, path⟩)).map (·.2.seconds) := rfl
    rw [answer]
    cases found : (h.before (h.before s)).disk.file path with
    | error kind =>
      exact again.sweeps_zero fun p leads old _ =>
        at?_eq_none_of_no_file again.reached (by rw [found]; rfl) leads old
    | ok file =>
      obtain ⟨p, leads, standing⟩ := file_eq_ok_iff.1 found
      have was := again.reached.stood standing
      have leads' := again.reached.place_iff.1 leads
      show EnsuresIn h.perform (if maxAge < now - file.2.seconds then _ else _)
        (h.before (h.before s)) _
      by_cases old : maxAge < now - file.2.seconds
      · rw [if_pos old, ensuresIn_bind, ensuresIn_request]
        exact again.before.remove leads' ⟨_, _, was, old⟩
      · rw [if_neg old]
        refine again.sweeps_zero fun q here was' _ => ?_
        obtain ⟨content, modified, standing', old'⟩ := was'
        cases here.symm.trans leads'
        cases standing'.symm.trans was
        exact absurd old' old

/-- The files with some names in a directory, when the count so far is right. -/
theorem ensures_sweepNames (swept : Swept h w maxAge now seen s) (directory : String) {before : Nat}
    {removed : Nat} (counted : s.removed.length = before + removed) (names : List String) :
    (sweepNames maxAge now directory removed names).EnsuresIn h.perform s
      (Sweeps h w maxAge now (fun p => seen p ∨ ∃ name ∈ names,
        w.shared.disk.place (Path.join directory name) = .ok p) before) := by
  induction names generalizing s seen removed with
  | nil =>
    exact ensuresIn_pure.2 ⟨removed, rfl, counted, swept.mono (fun _ inside _ => .inl inside)
      fun p inside _ _ => .inl (inside.resolve_right nofun)⟩
  | cons name rest ih =>
    unfold sweepNames
    rw [ensuresIn_bind]
    refine (ensures_sweepFile swept (Path.join directory name)).mono fun outcome between first => ?_
    obtain ⟨count, rfl, more, swept'⟩ := first
    refine (ih swept' (by rw [more, counted, Nat.add_assoc])).mono fun outcome later all => ?_
    obtain ⟨total, same, fewer, swept''⟩ := all
    refine ⟨total, same, fewer, swept''.mono (fun p inside _ => ?_) fun p inside _ _ => .inl ?_⟩
    · simpa only [List.mem_cons, exists_eq_or_imp, or_assoc] using inside
    · simpa only [List.mem_cons, exists_eq_or_imp, or_assoc] using inside

/-- A directory. What vanishes before the listing is not in it, and what vanishes behind is passed
over. -/
theorem ensures_sweepDirectory (swept : Swept h w maxAge now seen s) (directory : String) :
    (sweepDirectory maxAge now directory).EnsuresIn h.perform s
      (Sweeps h w maxAge now (fun p => seen p ∨ w.shared.disk.Within directory p)
        s.removed.length) := by
  have looked := swept.before
  have same := looked.reached.lost.others
  unfold sweepDirectory
  rw [ensuresIn_bind, ensuresIn_request]
  have answer : (h.perform s (.names directory)).1 =
      ((h.before s).disk.names directory).mapError (⟨·, directory⟩) := rfl
  rw [answer]
  cases found : (h.before s).disk.names directory with
  | error kind =>
    refine ⟨0, rfl, rfl, looked.mono (fun _ inside _ => .inl inside) fun p inside _ _ => .inl ?_⟩
    refine inside.resolve_right fun within => ?_
    obtain ⟨listing, listed⟩ := exists_names (same.within within)
    cases found.symm.trans listed
  | ok listing =>
    have named := looked.reached.named
    -- What has vanished needs no sweeping.
    have absent : Swept h w maxAge now (fun p => seen p ∨
        w.shared.disk.Within directory p ∧ (h.before s).disk.at? p = none) (h.before s) :=
      looked.mono (fun p inside _ => .inl inside) fun p inside _ _ => inside.imp_right And.right
    refine (ensures_sweepNames absent directory rfl listing).mono fun outcome later all => ?_
    obtain ⟨total, same', fewer, swept'⟩ := all
    refine ⟨total, same', fewer, swept'.mono (fun p inside old => ?_) fun p inside old _ => .inl ?_⟩
    · rcases inside with (before | ⟨within, -⟩) | ⟨name, mem, leads⟩
      · exact .inl before
      · exact .inr within
      · exact .inr (same.symm.within (within_of_mem_names named found mem (same.place_iff.1 leads)
          old.isFile.ne_root))
    · rcases inside with before | within
      · exact .inl (.inl before)
      · by_cases gone : (h.before s).disk.at? p = none
        · exact .inl (.inr ⟨within, gone⟩)
        · obtain ⟨content, modified, standing⟩ := old.isFile
          obtain ⟨name, mem, leads⟩ := exists_mem_names named found (same.within within)
            ⟨content, modified, (looked.reached.at?_eq gone).trans standing⟩
          exact .inr ⟨name, mem, same.place_iff.2 leads⟩

/-! ## A sweep comes to an end -/

theorem neverFails_sweepFile (path : String) : (sweepFile maxAge now path).NeverFails := by
  refine (neverFails_request _).bind fun there => ?_
  split
  · refine (neverFails_request _).bind fun modified => ?_
    split
    · exact neverFails_pure 0
    · split
      · exact (neverFails_request _).bind fun _ => neverFails_pure _
      · exact neverFails_pure 0
  · exact neverFails_pure 0

theorem neverFails_sweepNames (directory : String) (removed : Nat) (names : List String) :
    (sweepNames maxAge now directory removed names).NeverFails := by
  induction names generalizing removed with
  | nil => exact neverFails_pure removed
  | cons name rest ih => exact (neverFails_sweepFile _).bind fun _ => ih _

theorem neverFails_sweepDirectory (directory : String) :
    (sweepDirectory maxAge now directory).NeverFails := by
  refine (neverFails_request _).bind fun listing => ?_
  split
  · exact neverFails_pure 0
  · exact neverFails_sweepNames _ _ _

/-- What a sweep does when it knows how old files may become and what time it is. -/
def sweepBoth (s : Storage) (maxAge now : Float) : Act Nat := do
  let uploads ← sweepDirectory maxAge now s.uploadDir
  let results ← sweepDirectory maxAge now s.outputDir
  return uploads + results

theorem neverFails_sweepBoth (s : Storage) : (s.sweepBoth maxAge now).NeverFails :=
  (neverFails_sweepDirectory _).bind fun _ =>
    (neverFails_sweepDirectory _).bind fun _ => neverFails_pure _

/-- A sweep comes to a result, whatever it is told. -/
theorem neverFails_sweep (s : Storage) (maxAge now : Option Float) :
    (s.sweep maxAge now).NeverFails := by
  cases now with
  | some time => exact s.neverFails_sweepBoth
  | none => exact (neverFails_request .now).bind fun _ => s.neverFails_sweepBoth

/-! ## A whole sweep -/

/-- Whether a file is directly in one of the two directories and too old to be kept. -/
def Outdated (s : Storage) (maxAge now : Float) (d : Disk) (p : Place) : Prop :=
  (d.Within s.uploadDir p ∨ d.Within s.outputDir p) ∧ d.Old maxAge now p

theorem ensures_sweepBoth (s : Storage) {t : Hindered} (reached : h.Reached w t)
    (none : t.removed = []) :
    (s.sweepBoth maxAge now).EnsuresIn h.perform t (Sweeps h w maxAge now
      (fun p => w.shared.disk.Within s.uploadDir p ∨ w.shared.disk.Within s.outputDir p) 0) := by
  have swept : Swept h w maxAge now (fun _ => False) t :=
    ⟨reached, fun p mem => absurd (none ▸ mem) List.not_mem_nil, fun _ inside => inside.elim⟩
  unfold sweepBoth
  rw [ensuresIn_bind]
  refine (ensures_sweepDirectory swept s.uploadDir).mono fun outcome between first => ?_
  obtain ⟨uploads, rfl, more, swept⟩ := first
  dsimp only
  rw [ensuresIn_bind]
  refine (ensures_sweepDirectory swept s.outputDir).mono fun outcome later second => ?_
  obtain ⟨results, rfl, more', swept⟩ := second
  refine ensuresIn_pure.2 ⟨uploads + results, rfl, ?_, ?_⟩
  · rw [more', more, none, List.length_nil, Nat.add_assoc]
  · simpa only [false_or] using swept

/-- A sweep that is not told the time first asks for it. -/
theorem ensures_sweep (named : w.shared.disk.Named) (s : Storage) (maxAge now : Option Float) :
    (s.sweep maxAge now).EnsuresIn h.perform (.start w)
      (Sweeps h w (maxAge.getD s.retention) (now.getD w.shared.clock)
        (fun p => w.shared.disk.Within s.uploadDir p ∨ w.shared.disk.Within s.outputDir p) 0) := by
  have start := Hindrance.Reached.start (h := h) named
  cases now with
  | some time => exact s.ensures_sweepBoth start rfl
  | none => exact s.ensures_sweepBoth start.before rfl

/-- What is too old for one sweep is too old for another that keeps files for a shorter time. -/
theorem Outdated.mono {s : Storage} {d : Disk} {p : Place} {larger : Float}
    (outdated : s.Outdated larger now d p) (le : maxAge ≤ larger) : s.Outdated maxAge now d p := by
  obtain ⟨inside, content, modified, standing, old⟩ := outdated
  exact ⟨inside, content, modified, standing, Binary64.float_lt_of_le_of_lt le old⟩

/-- **A sweep removes exactly what is outdated.** It comes to a result whatever it is told. If its
surroundings keep to what is on the disk, and refuse some removals or let files vanish meanwhile, the
result is the number of the files that it removes. Each of them is outdated and may be removed, and
each other one that is has vanished. Nothing else on the disk changes. If the sweep is repeated, nothing
more is removed, and if it keeps files for a longer time, nothing else. -/
theorem sweep_exact (s : Storage) (h : Hindrance) (maxAge now : Option Float) {w : World}
    (named : w.shared.disk.Named) :
    let sweep (h : Hindrance) (maxAge : Option Float) (w : World) :=
      (s.sweep maxAge now).run.runIn h.perform (.start w)
    let outcome := (sweep h maxAge w).1
    let later := (sweep h maxAge w).2
    let outdated := s.Outdated (maxAge.getD s.retention) (now.getD w.shared.clock) w.shared.disk
    let vanished := h.Vanished w.shared.disk later.operations
    (s.sweep maxAge now).NeverFails ∧
    outcome = .ok later.removed.length ∧ later.removed.Nodup ∧
    (∀ p ∈ later.removed, outdated p ∧ h.refusal p = none) ∧
    (∀ p, outdated p → h.refusal p = none → p ∈ later.removed ∨ vanished p) ∧
    More (fun p => p ∈ later.removed ∨ vanished p) later.disk w.shared.disk ∧
    (h = .none → (∀ p, p ∈ later.removed ↔ outdated p) ∧
      w.run (s.sweep maxAge now).run = (outcome, later.world)) ∧
    (∀ h', h'.refusal = h.refusal →
      (sweep h' maxAge later.world).1 = .ok 0 ∧ (sweep h' maxAge later.world).2.removed = []) ∧
    (∀ larger, maxAge.getD s.retention ≤ larger.getD s.retention →
      ∀ p ∈ (sweep h larger w).2.removed, p ∈ later.removed ∨ vanished p) := by
  intro sweep outcome later outdated vanished
  have spec (h : Hindrance) (maxAge : Option Float) {w : World} (named : w.shared.disk.Named) :
      Sweeps h w (maxAge.getD s.retention) (now.getD w.shared.clock) _ 0 (sweep h maxAge w).1
        (sweep h maxAge w).2 := ensures_sweep named s maxAge now
  obtain ⟨count, result, counted, swept⟩ := spec h maxAge named
  have lost {p : Place} (old : outdated p) (granted : h.refusal p = none) :
      p ∈ later.removed ∨ vanished p :=
    swept.reached.lost_of_at?_eq_none old.2.isFile (swept.complete p old.1 old.2 granted)
  rw [Nat.zero_add] at counted
  refine ⟨neverFails_sweep s maxAge now, counted ▸ result, swept.reached.nodup,
    fun p mem => ⟨swept.sound p mem, swept.reached.allowed p mem⟩, fun p => lost,
    swept.reached.lost, ?_, fun h' refusal => ?_, fun larger le p mem => ?_⟩
  · rintro rfl
    refine ⟨fun p => ⟨fun mem => swept.sound p mem, fun old => ?_⟩, ?_⟩
    · exact (lost old rfl).resolve_right fun ⟨_, _, _, _, listed, _⟩ => List.not_mem_nil listed
    · have alike := Hindrance.runIn_none (s.sweep maxAge now).run (.start w)
      exact Prod.ext alike.1.symm alike.2.symm
  · have clock : later.world.shared.clock = w.shared.clock := swept.reached.clock
    obtain ⟨count', result', counted', swept'⟩ := spec h' maxAge swept.reached.named
    have none : (sweep h' maxAge later.world).2.removed = [] := by
      rw [List.eq_nil_iff_forall_not_mem]
      intro p mem
      obtain ⟨inside, old⟩ := swept'.sound p mem
      have within := inside.imp swept.reached.lost.others.symm.within
        swept.reached.lost.others.symm.within
      exact swept.not_old within (refusal ▸ swept'.reached.allowed p mem) (clock ▸ old)
    rw [none] at counted'
    obtain rfl : 0 = count' := by simpa using counted'
    exact ⟨result', none⟩
  · obtain ⟨-, -, -, swept'⟩ := spec h larger named
    exact lost (Outdated.mono (swept'.sound p mem) le) (swept'.reached.allowed p mem)

/-- One directory under two paths, in which a file is old, one may not be removed, one vanishes while
it is looked at, and one is just young enough. -/
theorem sweep_exact_one_of_four :
    let old : Node := .file [0x41] ⟨0⟩
    let w : World := ⟨⟨⟨[(["uploads"], .directory), (["uploads", "a"], old), (["uploads", "b"], old),
      (["uploads", "c"], old), (["uploads", "d"], .file [] ⟨10000000000⟩),
      (["uploads", "e"], .directory), (["uploads", "e", "f"], old)]⟩, 60.0, 0⟩,
      ⟨⟨true, .error .notFound, fun _ => .error .notFound, .error .notFound, .error .notFound, false⟩,
        .never, []⟩⟩
    let s : Storage := ⟨"uploads", "uploads/e/..", .whole 1, 0.0, 0.0, 0.0⟩
    let h : Hindrance := ⟨fun p => if p = ["uploads", "b"] then some .denied else none,
      fun i => if i = 9 then ["uploads/c"] else []⟩
    let run := (s.sweep (some 50.0) none).run.runIn h.perform (.start w)
    run.1 = .ok 1 ∧ run.2.removed = [["uploads", "a"]] ∧
      s.Outdated 50.0 60.0 w.shared.disk ["uploads", "a"] ∧
      run.2.disk.at? ["uploads", "c"] = none ∧
      ∀ path ∈ ["uploads/b", "uploads/d", "uploads/e/f"], (run.2.disk.file path).isOk := by
  intro old w s h run
  obtain ⟨-, counted, -, sound, -, lost, -⟩ :=
    sweep_exact s h (some 50.0) none (show w.shared.disk.Named by decide)
  have removed : run.2.removed = [["uploads", "a"]] := by decide +kernel
  have vanished : h.Vanished w.shared.disk run.2.operations ["uploads", "c"] :=
    ⟨⟨_, _, rfl⟩, 9, by decide +kernel, "uploads/c", List.mem_singleton_self _, rfl⟩
  refine ⟨by rw [counted, removed]; rfl, removed, ?_, lost.new _ (.inr vanished), by decide +kernel⟩
  exact (sound _ (by rw [removed]; exact List.mem_singleton_self _)).1

end Storage

end Splice
