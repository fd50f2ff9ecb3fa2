import Splice.Proofs.Traffic.Interleaving

/-!
# Alone

A request that is served among others has come *as far as alone* if the same would be left of it had
it been carried out alone, with its operations at the same moments (`Serving.AsAlone`). It stays so
over its own operations, as those are private to it (`Serving.Undisturbed.step`), and while others
leave its places as they are (`Serving.Undisturbed.of_sameBut`).

A sweep removes only what it found to be too old with the operation before (`Sweeping.step_spec`).
-/

namespace Splice

open Storage

variable {x : ExportService} {top : Nat} {w shared : SharedWorld} {p : Place}

/-! ## Ids that were not given out -/

/-- No place belongs to those with some ids and to those with others. -/
theorem Storage.Mine.apart {ids others : List Nat} (mine : Mine ids p) (few : ∀ n ∈ ids, n < 16 ^ 8)
    (few' : ∀ n ∈ others, n < 16 ^ 8) (disjoint : ∀ n ∈ ids, n ∉ others) : ¬ Mine others p := by
  rintro ⟨name, last, m, mem, carries⟩
  obtain ⟨name', last', n, mem', carries'⟩ := mine
  cases last.symm.trans last'
  exact disjoint n mem' (carries'.eq (few n mem') (few' m mem) carries ▸ mem)

theorem Storage.Mine.single {ids : List Nat} (mine : Mine ids p) : ∃ n ∈ ids, Mine [n] p := by
  obtain ⟨name, last, n, mem, carries⟩ := mine
  exact ⟨n, mem, name, last, n, List.mem_singleton_self n, carries⟩

/-- No ids are taken back, and at most one is given out at a time. -/
theorem World.idsGiven_perform_bounds (w : World) (op : Operation) :
    w.shared.idsGiven ≤ (w.perform op).2.shared.idsGiven ∧
      (w.perform op).2.shared.idsGiven ≤ w.shared.idsGiven + 1 := by
  rw [idsGiven_perform]
  unfold Operation.gives
  split <;> simp

/-- The ids that an operation gives out are above those given out before. -/
theorem World.bounds_of_mem_gives {w : World} {op : Operation} {n : Nat}
    (mem : n ∈ op.gives w.shared.idsGiven) :
    w.shared.idsGiven < n ∧ n ≤ (w.perform op).2.shared.idsGiven := by
  rw [idsGiven_perform]
  unfold Operation.gives at mem ⊢
  split at mem
  · rw [List.mem_singleton] at mem
    subst mem
    exact ⟨Nat.lt_succ_self _, Nat.le_refl _⟩
  · cases mem

/-- Whether nothing stands under a name with one of the next ids, up to some id. -/
def SharedWorld.Unused (shared : SharedWorld) (top : Nat) : Prop :=
  ∀ n, shared.idsGiven < n → n ≤ top → ∀ p, Mine [n] p → shared.disk.at? p = none

theorem World.Fresh.unused_shared {w : World} {count : Nat} (fresh : w.Fresh labels count) :
    w.shared.Unused (w.shared.idsGiven + count) := by
  intro n above below p mine
  obtain ⟨name, last, m, mem, label, listed, time, front⟩ := mine
  rw [List.mem_singleton] at mem
  subst mem
  by_contra there
  exact fresh.unused p name there last label listed time m above below front

/-- A place that only a new id makes one's own is empty. -/
theorem SharedWorld.Unused.at?_eq_none {w : World} {op : Operation} {ids : List Nat}
    (unused : shared.Unused top) (grown : shared.idsGiven ≤ w.shared.idsGiven)
    (enough : (w.perform op).2.shared.idsGiven ≤ top) (other : ¬ Mine ids p)
    (mine : Mine (op.gives w.shared.idsGiven ++ ids) p) : shared.disk.at? p = none := by
  obtain ⟨n, mem, single⟩ := mine.single
  obtain new | old := List.mem_append.1 mem
  · obtain ⟨above, most⟩ := World.bounds_of_mem_gives new
    exact unused n (Nat.lt_of_le_of_lt grown above) (Nat.le_trans most enough) p single
  · exact absurd (single.mono (List.cons_subset.2 ⟨old, List.nil_subset _⟩)) other

/-! ## A request alone -/

namespace Serving

variable {r : Serving} {d e : Disk}

/-- What a request has to do with a world in which it was carried out alone from a shared world on,
with its operations at the same moments: as much of its job is done, its own world is the same, and
so is what stands at its places; alone it has touched no other places. -/
structure Follows (x : ExportService) (w : SharedWorld) (d : Disk) (r : Serving) (v : World) :
    Prop where
  runs : World.runAt ⟨w, r.first⟩ r.moments (r.order.work x r.sends).run = (r.job, v)
  own : v.own = r.own
  mine : Disk.SameBut (fun p => ¬ Mine r.ids p) d v.shared.disk
  others : Disk.SameBut (Mine r.ids) w.disk v.shared.disk

/-- Whether a request has come as far as alone, and whatever is left of its job is tidy. -/
structure Undisturbed (x : ExportService) (w : SharedWorld) (d : Disk) (r : Serving) : Prop where
  tidy : r.job.Tidy x.storage
    (fun ids outcome => ∀ yield, outcome = .ok yield →
      ∀ path ∈ yield.paths, x.storage.Owned ids path) r.ids
  alone : ∃ v, r.Follows x w d v

theorem Undisturbed.of_sameBut (h : r.Undisturbed x w d)
    (same : Disk.SameBut (fun p => ¬ Mine r.ids p) d e) : r.Undisturbed x w e := by
  obtain ⟨v, runs, own, mine, others⟩ := h.alone
  exact ⟨h.tidy, v, runs, own, same.symm.trans mine, others⟩

theorem undisturbed_arriving {engine : Engine} (driven : x.engine = engine.access) (order : Order)
    (sends : Bool) (own : OwnWorld) (same : Disk.SameBut (fun _ => True) w.disk d) :
    (arriving x order sends own).Undisturbed x w d where
  tidy := Order.tidy_work driven sends order
  alone := ⟨⟨w, own⟩, rfl, rfl, same.symm.mono fun p _ => not_mine_nil p, .refl _⟩

theorem step_of_done {outcome : Except Failure Yield} (job : r.job = .done outcome) :
    r.step shared = (r, shared) := by
  unfold step
  rw [job]

section

variable {op : Operation} {next : op.Answer → Job (Except Failure Yield)}
  (job : r.job = .ask op next)
include job

theorem step_eq : r.step shared =
    ({ r with
      own := (World.perform ⟨shared, r.own⟩ op).2.own
      ids := op.gives shared.idsGiven ++ r.ids
      moments := r.moments ++ [shared.moment]
      job := next (World.perform ⟨shared, r.own⟩ op).1 },
      (World.perform ⟨shared, r.own⟩ op).2.shared) := by
  unfold step
  rw [job]

/-- A request that has come as far as alone still has after its next operation. -/
theorem Undisturbed.step (h : r.Undisturbed x w shared.disk)
    (prepared : x.storage.Prepared shared.disk) (unused : shared.Unused top)
    (unused' : w.Unused top) (grown : w.idsGiven ≤ shared.idsGiven) (enough : (r.step shared).2.idsGiven ≤ top) :
    (r.step shared).1.Undisturbed x w (r.step shared).2.disk := by
  obtain ⟨v, runs, own, mine, others⟩ := h.alone
  have tidy := h.tidy
  rw [job] at tidy
  obtain ⟨priv, rest⟩ := tidy
  rw [step_eq job] at enough ⊢
  have agrees : World.Agrees (Mine r.ids) ⟨shared, r.own⟩ (v.moved shared.moment) :=
    ⟨own, rfl, rfl, mine⟩
  have after := World.perform_agrees agrees prepared priv
  have kept := World.sameBut_perform (w := ⟨shared, r.own⟩) prepared priv
  have keptAlone :=
    World.sameBut_perform (w := v.moved shared.moment) (prepared.of_sameBut mine) priv
  refine ⟨?_, ((v.moved shared.moment).perform op).2, ?_, after.world.own, ⟨?_, ?_⟩, ?_⟩
  · exact rest _ _ (World.answers_perform ⟨shared, r.own⟩ op)
  · rw [job] at runs
    rw [World.runAt_concat runs, after.answer]
  · intro p mine
    rw [not_not] at mine
    by_cases own : Mine r.ids p
    · exact after.world.disk.at?_eq p (not_not_intro own)
    · -- neither run has touched a place of an id that is only given out now
      have absent := unused.at?_eq_none (w := ⟨shared, r.own⟩) (Nat.le_refl _) enough own mine
      have absent' := unused'.at?_eq_none (w := ⟨shared, r.own⟩) grown enough own mine
      rw [keptAlone.at?_eq p own, kept.at?_eq p own]
      exact (others.at?_eq p own).trans (absent'.trans absent.symm)
  · exact after.world.disk.directory_iff
  · exact (others.trans keptAlone).mono fun p mine => mine.mono (List.subset_append_right _ _)

end

/-- Whether a request has come, at its places and in the files that its outcome names, as far as it
would have come alone from a shared world on, with its operations at the same moments: to the same
outcome, if it is finished, and with the same record. -/
def AsAlone (x : ExportService) (w : SharedWorld) (d : Disk) (r : Serving) : Prop :=
  ∃ v, World.runAt ⟨w, r.first⟩ r.moments (r.order.work x r.sends).run = (r.job, v) ∧
    v.own = r.own ∧ (∀ p, Mine r.ids p → v.shared.disk.at? p = d.at? p) ∧
      ∀ yield, r.job = .done (.ok yield) → ∀ path ∈ yield.paths,
        v.shared.disk.file path = d.file path

theorem Undisturbed.asAlone (h : r.Undisturbed x w d) (prepared : x.storage.Prepared d) :
    r.AsAlone x w d := by
  obtain ⟨v, runs, own, mine, others⟩ := h.alone
  refine ⟨v, runs, own, fun p own => mine.at?_eq p (not_not_intro own), ?_⟩
  intro yield job path named
  have tidy := h.tidy
  rw [job] at tidy
  obtain ⟨p, leads, own⟩ := (tidy yield rfl path named).leads prepared
  exact mine.file_eq leads (not_not_intro own)

theorem idsGiven_step (r : Serving) (shared : SharedWorld) :
    shared.idsGiven ≤ (r.step shared).2.idsGiven ∧
      (r.step shared).2.idsGiven ≤ shared.idsGiven + 1 := by
  unfold step
  split
  · exact ⟨Nat.le_refl _, Nat.le_add_right _ _⟩
  · exact World.idsGiven_perform_bounds ⟨shared, r.own⟩ _

/-- An id of a request behind an operation is one that it had or a new one. -/
theorem mem_ids_step {n : Nat} (mem : n ∈ (r.step shared).1.ids) :
    n ∈ r.ids ∨ shared.idsGiven < n ∧ n ≤ (r.step shared).2.idsGiven := by
  cases job : r.job with
  | done outcome =>
    rw [step_of_done job] at mem
    exact .inl mem
  | ask op next =>
    rw [step_eq job] at mem ⊢
    obtain new | old := List.mem_append.1 mem
    · exact .inr (World.bounds_of_mem_gives (w := ⟨shared, r.own⟩) new)
    · exact .inl old

theorem ids_subset_step (r : Serving) (shared : SharedWorld) :
    r.ids ⊆ (r.step shared).1.ids := by
  unfold step
  split
  · exact List.Subset.refl _
  · exact List.subset_append_right _ _

theorem Finished.step (finished : r.Finished) : (r.step shared).1.Finished := by
  obtain ⟨outcome, job⟩ := id finished
  rwa [step_of_done job]

end Serving

/-! ## A sweep -/

/-- A file that is removed, if it can be, is missing, and nothing else is changed. -/
theorem World.shared_changing_remove (w : World) (path : String) :
    (w.changing path (w.shared.disk.remove path)).2.shared =
      { w.shared with disk := w.shared.disk.cleared path } := by
  unfold Disk.cleared
  cases w.shared.disk.remove path <;> rfl

namespace Sweeping

variable {s : Sweeping} {found : Option String}

theorem idsGiven_step (s : Sweeping) (shared : SharedWorld) :
    shared.idsGiven ≤ (s.step shared).2.idsGiven ∧
      (s.step shared).2.idsGiven ≤ shared.idsGiven + 1 := by
  unfold step
  split
  · exact ⟨Nat.le_refl _, Nat.le_add_right _ _⟩
  · exact World.idsGiven_perform_bounds ⟨shared, s.own⟩ _

/-- A sweep removes nothing but a file that it has found before, and finds nothing but files that
are too old for it. -/
theorem step_spec (shared : SharedWorld) (h : s.job.Sweeps s.maxAge s.now found) :
    Disk.SameBut (fun p => ∃ path ∈ found, shared.disk.place path = .ok p ∧ shared.disk.IsFile p)
        shared.disk (s.step shared).2.disk ∧
      ∃ found', (s.step shared).1.job.Sweeps (s.step shared).1.maxAge (s.step shared).1.now found' ∧
        ∀ path ∈ found', ∀ p, shared.disk.place path = .ok p → ∃ now ∈ s.now,
          ∃ content modified, shared.disk.at? p = some (.file content modified) ∧
            s.maxAge < now - modified.seconds := by
  obtain ⟨maxAge, now, own, job⟩ := s
  cases job with
  | done outcome => exact ⟨.refl _, none, trivial, nofun⟩
  | ask op next =>
    cases now with
    | none =>
      cases op with
      | now => exact ⟨.refl _, none, h _, nofun⟩
      | _ => exact h.elim
    | some time =>
      cases op with
      | names directory => exact ⟨.refl _, none, h _, nofun⟩
      | isFile path => exact ⟨.refl _, none, h _, nofun⟩
      | modified path =>
        refine ⟨.refl _, ?_⟩
        show ∃ found', Job.Sweeps maxAge (some time) found' (next
          ((shared.disk.file path).mapError (⟨·, path⟩) |>.map (·.2.seconds))) ∧ _
        cases looked : shared.disk.file path with
        | error kind => exact ⟨none, h.1 _, nofun⟩
        | ok file =>
          refine ⟨_, h.2 file.2.seconds, fun other mem p leads => ?_⟩
          rw [Option.mem_def, ite_eq_iff] at mem
          obtain ⟨old, same⟩ | ⟨-, absent⟩ := mem
          · cases same
            obtain ⟨q, leads', standing⟩ := Disk.file_eq_ok_iff.1 looked
            cases leads.symm.trans leads'
            exact ⟨time, rfl, file.1, file.2, standing, old⟩
          · cases absent
      | remove path =>
        obtain ⟨rfl, rest⟩ := h
        have changed : (step ⟨maxAge, some time, own, .ask (.remove path) next⟩ shared).2 =
            { shared with disk := shared.disk.cleared path } :=
          World.shared_changing_remove ⟨shared, own⟩ path
        rw [changed]
        exact ⟨(shared.disk.sameBut_cleared path).mono fun p gone => ⟨path, rfl, gone⟩, none,
          rest _, nofun⟩
      | _ => exact h.elim

end Sweeping

end Splice
