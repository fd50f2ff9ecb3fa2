import Splice.Proofs.Traffic.Alone

/-!
# Turns

What a turn does to the requests and sweeps of a traffic is said once (`Traffic.request_before`,
`Traffic.sweep_before`), and so is where it changes the disk (`Traffic.Sound.exists_touched`). From
that it follows that traffic stays *sound* (`Traffic.Sound.step`): whatever is going on, ids belong
to one request each, nothing stands under a name with an id that was not given out yet, a request
that goes on has come as far as it would have come alone, and a file that a sweep is about to remove
is not that of such a request (`Traffic.Forsaken`).
-/

namespace Splice

open Storage

variable {x : ExportService} {top : Nat} {w : SharedWorld} {p : Place}

/-! ## What a turn does -/

namespace Traffic

variable {t : Traffic} {turn : Turn}

theorem step_serve {i : Nat} {r : Serving} (found : t.requests[i]? = some r) :
    t.step x (.serve i) =
      { t with
        shared := (r.step t.shared).2
        requests := t.requests.set i (r.step t.shared).1 } := by
  simp only [step, found]

theorem step_serve_of_none {i : Nat} (absent : t.requests[i]? = none) :
    t.step x (.serve i) = t := by
  simp only [step, absent]

theorem step_sweep {k : Nat} {s : Sweeping} (found : t.sweeps[k]? = some s) :
    t.step x (.sweep k) =
      { t with
        shared := (s.step t.shared).2
        sweeps := t.sweeps.set k (s.step t.shared).1 } := by
  simp only [step, found]

theorem step_sweep_of_none {k : Nat} (absent : t.sweeps[k]? = none) : t.step x (.sweep k) = t := by
  simp only [step, absent]

/-- A request that is there after a turn arrived in it, or had its turn, or is as it was before. -/
theorem request_before {j : Nat} {r : Serving} (there : (t.step x turn).requests[j]? = some r) :
    (t.requests[j]? = none ∧ ∃ order sends own, r = .arriving x order sends own) ∨
      (turn ≠ .serve j ∧ t.requests[j]? = some r) ∨
        ∃ r₀, turn = .serve j ∧ t.requests[j]? = some r₀ ∧ r = (r₀.step t.shared).1 := by
  cases turn with
  | arrive order sends own =>
    change (t.requests ++ [Serving.arriving x order sends own])[j]? = some r at there
    rw [List.getElem?_append] at there
    split at there
    · exact .inr (.inl ⟨nofun, there⟩)
    · refine .inl ⟨List.getElem?_eq_none (by omega), order, sends, own, ?_⟩
      exact List.mem_singleton.1 (List.mem_of_getElem? there)
  | serve i =>
    cases found : t.requests[i]? with
    | none =>
      rw [step_serve_of_none found] at there
      refine .inr (.inl ⟨?_, there⟩)
      rintro ⟨⟩
      cases found.symm.trans there
    | some r₀ =>
      rw [step_serve found] at there
      by_cases same : i = j
      · subst same
        rw [List.getElem?_set_self (List.getElem?_eq_some_iff.1 found).1] at there
        exact .inr (.inr ⟨r₀, rfl, found, (Option.some.inj there).symm⟩)
      · rw [List.getElem?_set_ne same] at there
        exact .inr (.inl ⟨fun turn => same (Turn.serve.inj turn), there⟩)
  | sweep k =>
    refine .inr (.inl ⟨nofun, ?_⟩)
    cases found : t.sweeps[k]? with
    | none => rwa [step_sweep_of_none found] at there
    | some s => rwa [step_sweep found] at there
  | startSweep maxAge now own => exact .inr (.inl ⟨nofun, there⟩)
  | pass clock => exact .inr (.inl ⟨nofun, there⟩)

/-- A request keeps its ids in a turn. -/
theorem request_after (x : ExportService) (turn : Turn) {i : Nat} {r : Serving}
    (found : t.requests[i]? = some r) :
    ∃ r', (t.step x turn).requests[i]? = some r' ∧ r.ids ⊆ r'.ids := by
  have same {t' : Traffic} (kept : t'.requests = t.requests) :
      ∃ r', t'.requests[i]? = some r' ∧ r.ids ⊆ r'.ids :=
    ⟨r, by rw [kept, found], List.Subset.refl _⟩
  have inside := (List.getElem?_eq_some_iff.1 found).1
  cases turn with
  | arrive order sends own =>
    exact ⟨r, (List.getElem?_append_left inside).trans found, List.Subset.refl _⟩
  | serve j =>
    cases found' : t.requests[j]? with
    | none => exact same (by rw [step_serve_of_none found'])
    | some r₀ =>
      rw [step_serve found']
      by_cases here : j = i
      · subst here
        cases found.symm.trans found'
        exact ⟨_, List.getElem?_set_self inside, r.ids_subset_step t.shared⟩
      · exact ⟨r, (List.getElem?_set_ne here).trans found, List.Subset.refl _⟩
  | sweep k =>
    cases found' : t.sweeps[k]? with
    | none => exact same (by rw [step_sweep_of_none found'])
    | some s => exact same (by rw [step_sweep found'])
  | startSweep maxAge now own => exact same rfl
  | pass clock => exact same rfl

/-- A sweep that is there after a turn started in it, or had its turn, or is as it was before. -/
theorem sweep_before {s : Sweeping} (there : s ∈ (t.step x turn).sweeps) :
    (∃ maxAge now own, s = .starting x.storage maxAge now own) ∨ s ∈ t.sweeps ∨
      ∃ k s₀, turn = .sweep k ∧ t.sweeps[k]? = some s₀ ∧ s = (s₀.step t.shared).1 := by
  cases turn with
  | arrive order sends own => exact .inr (.inl there)
  | serve i =>
    cases found : t.requests[i]? with
    | none => exact .inr (.inl (by rwa [step_serve_of_none found] at there))
    | some r => exact .inr (.inl (by rwa [step_serve found] at there))
  | sweep k =>
    cases found : t.sweeps[k]? with
    | none => exact .inr (.inl (by rwa [step_sweep_of_none found] at there))
    | some s₀ =>
      rw [step_sweep found] at there
      obtain old | rfl := List.mem_or_eq_of_mem_set there
      · exact .inr (.inl old)
      · exact .inr (.inr ⟨k, s₀, rfl, found, rfl⟩)
  | startSweep maxAge now own =>
    obtain old | new := List.mem_append.1 there
    · exact .inr (.inl old)
    · exact .inl ⟨maxAge, now, own, List.mem_singleton.1 new⟩
  | pass clock => exact .inr (.inl there)

/-! ## What traffic keeps -/

/-- Whether a place has none of the next ids, and is not that of a request that goes on. -/
structure Forsaken (top : Nat) (t : Traffic) (p : Place) : Prop where
  old : ∀ n, t.shared.idsGiven < n → n ≤ top → ¬ Mine [n] p
  left : ∀ r ∈ t.requests, ¬ r.Finished → ¬ Mine r.ids p

/-- What holds in any traffic that started in a shared world, as long as ids up to some are enough
and sweeps go on only when they may. -/
structure Sound (x : ExportService) (w : SharedWorld) (top : Nat) (t : Traffic) : Prop where
  directories : Disk.SameBut (fun _ => True) w.disk t.shared.disk
  grown : w.idsGiven ≤ t.shared.idsGiven
  few : top < 16 ^ 8
  enough : t.shared.idsGiven ≤ top
  unused : t.shared.Unused top
  given : ∀ r ∈ t.requests, ∀ n ∈ r.ids, w.idsGiven < n ∧ n ≤ t.shared.idsGiven
  apart : ∀ (i j : Nat) (r r' : Serving), t.requests[i]? = some r → t.requests[j]? = some r' →
    i ≠ j → ∀ n ∈ r.ids, n ∉ r'.ids
  alone : ∀ r ∈ t.requests, ¬ r.Finished → r.Undisturbed x w t.shared.disk
  sweeps : ∀ s ∈ t.sweeps, ∃ found, s.job.Sweeps s.maxAge s.now found ∧
    ∀ path ∈ found, ∀ p, w.disk.place path = .ok p → t.Forsaken top p

theorem sound_quiet (few : top < 16 ^ 8) (enough : w.idsGiven ≤ top) (unused : w.Unused top) :
    Sound x w top (quiet w) where
  directories := .refl _
  grown := Nat.le_refl _
  few
  enough
  unused
  given _ mem := absurd mem List.not_mem_nil
  apart _ _ _ _ there := absurd (List.mem_of_getElem? there) List.not_mem_nil
  alone _ mem := absurd mem List.not_mem_nil
  sweeps _ mem := absurd mem List.not_mem_nil

theorem idsGiven_step_bounds (t : Traffic) (turn : Turn) :
    t.shared.idsGiven ≤ (t.step x turn).shared.idsGiven ∧
      (t.step x turn).shared.idsGiven ≤ t.shared.idsGiven + 1 := by
  cases turn with
  | serve i =>
    cases found : t.requests[i]? with
    | none => simp [step_serve_of_none found]
    | some r =>
      rw [step_serve found]
      exact r.idsGiven_step t.shared
  | sweep k =>
    cases found : t.sweeps[k]? with
    | none => simp [step_sweep_of_none found]
    | some s =>
      rw [step_sweep found]
      exact s.idsGiven_step t.shared
  | _ => simp [step]

theorem idsGiven_step (t : Traffic) (turn : Turn) :
    t.shared.idsGiven ≤ (t.step x turn).shared.idsGiven :=
  (t.idsGiven_step_bounds turn).1

/-- In each turn at most one id is given out. -/
theorem idsGiven_run (t : Traffic) (turns : List Turn) :
    (t.run x turns).shared.idsGiven ≤ t.shared.idsGiven + turns.length := by
  induction turns generalizing t with
  | nil => exact Nat.le_refl _
  | cons turn rest ih =>
    have one := (t.idsGiven_step_bounds (x := x) turn).2
    have others := ih (t.step x turn)
    show ((t.step x turn).run x rest).shared.idsGiven ≤ _
    rw [List.length_cons]
    omega

/-- A request that goes on behind a turn went on before it. -/
theorem going_before {j : Nat} {r r₀ : Serving} (there : (t.step x turn).requests[j]? = some r)
    (going : ¬ r.Finished) (found : t.requests[j]? = some r₀) : ¬ r₀.Finished := by
  obtain ⟨absent, -⟩ | ⟨-, same⟩ | ⟨r₁, -, found', rfl⟩ := request_before there
  · cases absent.symm.trans found
  · cases found.symm.trans same
    exact going
  · cases found.symm.trans found'
    exact mt Serving.Finished.step going

/-- An id of a request behind a turn is one that it had or a new one. -/
theorem id_before {j n : Nat} {r : Serving} (there : (t.step x turn).requests[j]? = some r)
    (mem : n ∈ r.ids) :
    (∃ r₀, t.requests[j]? = some r₀ ∧ n ∈ r₀.ids) ∨
      turn = .serve j ∧ t.shared.idsGiven < n ∧ n ≤ (t.step x turn).shared.idsGiven := by
  obtain ⟨-, order, sends, own, rfl⟩ | ⟨-, found⟩ | ⟨r₀, rfl, found, rfl⟩ := request_before there
  · cases mem
  · exact .inl ⟨r, found, mem⟩
  · obtain old | new := Serving.mem_ids_step mem
    · exact .inl ⟨r₀, found, old⟩
    · rw [step_serve found]
      exact .inr ⟨rfl, new⟩

theorem Forsaken.step (forsaken : t.Forsaken top p)
    (enough : (t.step x turn).shared.idsGiven ≤ top) : (t.step x turn).Forsaken top p where
  old n above := forsaken.old n (Nat.lt_of_le_of_lt (t.idsGiven_step turn) above)
  left r mem going mine := by
    obtain ⟨j, there⟩ := List.getElem?_of_mem mem
    obtain ⟨n, id, single⟩ := mine.single
    obtain ⟨r₀, found, old⟩ | ⟨-, above, most⟩ := id_before there id
    · exact forsaken.left r₀ (List.mem_of_getElem? found) (going_before there going found)
        (single.mono (List.cons_subset.2 ⟨old, List.nil_subset _⟩))
    · exact forsaken.old n above (Nat.le_trans most enough) single

namespace Sound

variable (sound : Sound x w top t)
include sound

theorem small {r : Serving} (mem : r ∈ t.requests) (n : Nat) (id : n ∈ r.ids) : n < 16 ^ 8 :=
  Nat.lt_of_le_of_lt (sound.given r mem n id).2 (Nat.lt_of_le_of_lt sound.enough sound.few)

theorem mine_apart {i j : Nat} {r r' : Serving} (found : t.requests[i]? = some r)
    (found' : t.requests[j]? = some r') (other : i ≠ j) (mine : Mine r.ids p) : ¬ Mine r'.ids p :=
  mine.apart (sound.small (List.mem_of_getElem? found)) (sound.small (List.mem_of_getElem? found'))
    (sound.apart i j r r' found found' other)

/-- The places of a request have none of the next ids. -/
theorem mine_old {r : Serving} (mem : r ∈ t.requests) (mine : Mine r.ids p) {n : Nat}
    (above : t.shared.idsGiven < n) (most : n ≤ top) : ¬ Mine [n] p := by
  refine mine.apart (sound.small mem) ?_ ?_
  · rintro m single
    rw [List.mem_singleton.1 single]
    exact Nat.lt_of_le_of_lt most sound.few
  · rintro m id single
    rw [List.mem_singleton.1 single] at id
    exact absurd (sound.given r mem n id).2 (Nat.not_le_of_lt above)

/-- The operation of a request changes nothing but places of that request. -/
theorem serve_sameBut (prepared : x.storage.Prepared w.disk) {r : Serving} (mem : r ∈ t.requests) :
    Disk.SameBut (Mine r.ids) t.shared.disk (r.step t.shared).2.disk := by
  cases job : r.job with
  | done outcome =>
    rw [Serving.step_of_done job]
    exact .refl _
  | ask op next =>
    have tidy := (sound.alone r mem (by rintro ⟨outcome, done⟩; cases job.symm.trans done)).tidy
    rw [job] at tidy
    rw [Serving.step_eq job]
    exact World.sameBut_perform (w := ⟨t.shared, r.own⟩) (prepared.of_sameBut sound.directories)
      tidy.1

/-- A turn changes no places of requests that go on but those of the request whose turn it is, and
no places with one of the next ids. -/
theorem exists_touched (prepared : x.storage.Prepared w.disk)
    (allowed : t.Allows turn) :
    ∃ touched, Disk.SameBut touched t.shared.disk (t.step x turn).shared.disk ∧
      ∀ p, touched p → (∀ n, t.shared.idsGiven < n → n ≤ top → ¬ Mine [n] p) ∧
        ∀ (j : Nat) (r : Serving), t.requests[j]? = some r → ¬ r.Finished → turn ≠ .serve j →
          ¬ Mine r.ids p := by
  have still {t' : Traffic} (same : t'.shared.disk = t.shared.disk) :
      Disk.SameBut (fun _ => False) t.shared.disk t'.shared.disk := by
    rw [same]
    exact .refl _
  cases turn with
  | arrive order sends own => exact ⟨_, still rfl, fun _ => False.elim⟩
  | startSweep maxAge now own => exact ⟨_, still rfl, fun _ => False.elim⟩
  | pass clock => exact ⟨_, still rfl, fun _ => False.elim⟩
  | serve i =>
    cases found : t.requests[i]? with
    | none => exact ⟨_, still (by rw [step_serve_of_none found]), fun _ => False.elim⟩
    | some r =>
      -- what is the request's own is nobody else's, and none of its ids is a new one
      have mem := List.mem_of_getElem? found
      rw [step_serve found]
      refine ⟨_, sound.serve_sameBut prepared mem,
        fun p mine => ⟨fun n => sound.mine_old mem mine, ?_⟩⟩
      intro j r' found' _ other
      exact sound.mine_apart found found' (fun same => other (same ▸ rfl)) mine
  | sweep k =>
    cases found : t.sweeps[k]? with
    | none => exact ⟨_, still (by rw [step_sweep_of_none found]), fun _ => False.elim⟩
    | some s =>
      -- what was found to be too old is still nobody's who goes on
      obtain ⟨path, sweeps, forsaken⟩ := sound.sweeps s (List.mem_of_getElem? found)
      rw [step_sweep found]
      refine ⟨_, (Sweeping.step_spec t.shared sweeps).1, ?_⟩
      rintro p ⟨path, mem, leads, -⟩
      have forsaken := forsaken path mem p (sound.directories.place_iff.1 leads)
      exact ⟨forsaken.old, fun j r there going _ =>
        forsaken.left r (List.mem_of_getElem? there) going⟩

section

variable {e : Engine} (driven : x.engine = e.access) (prepared : x.storage.Prepared w.disk)
  (unused : w.Unused top) (allowed : t.Allows turn)
  (enough : (t.step x turn).shared.idsGiven ≤ top)

include prepared allowed in
theorem directories_step :
    Disk.SameBut (fun _ => True) w.disk (t.step x turn).shared.disk := by
  obtain ⟨touched, same, -⟩ := sound.exists_touched prepared allowed
  exact sound.directories.trans (same.mono fun _ _ => trivial)

include driven prepared unused allowed enough in
/-- A request that was not finished before a turn has come as far as alone behind it. -/
theorem undisturbed_step {j : Nat} {r : Serving} (there : (t.step x turn).requests[j]? = some r)
    (going : ∀ r₀, t.requests[j]? = some r₀ → ¬ r₀.Finished) :
    r.Undisturbed x w (t.step x turn).shared.disk := by
  obtain ⟨touched, same, others⟩ := sound.exists_touched prepared allowed
  obtain ⟨-, order, sends, own, rfl⟩ | ⟨other, found⟩ | ⟨r₀, rfl, found, rfl⟩ :=
    request_before there
  · exact Serving.undisturbed_arriving driven order sends own
      (sound.directories_step prepared allowed)
  · refine (sound.alone r (List.mem_of_getElem? found) (going r found)).of_sameBut ?_
    exact same.mono fun p touched => (others p touched).2 j r found (going r found) other
  · rw [step_serve found] at enough ⊢
    cases job : r₀.job with
    | done outcome => exact absurd ⟨outcome, job⟩ (going r₀ found)
    | ask op next =>
      exact (sound.alone r₀ (List.mem_of_getElem? found) (going r₀ found)).step job
        (prepared.of_sameBut sound.directories) sound.unused unused sound.grown enough

theorem given_step {r : Serving} (mem : r ∈ (t.step x turn).requests) (n : Nat) (id : n ∈ r.ids) :
    w.idsGiven < n ∧ n ≤ (t.step x turn).shared.idsGiven := by
  obtain ⟨j, there⟩ := List.getElem?_of_mem mem
  obtain ⟨r₀, found, old⟩ | ⟨-, above, most⟩ := id_before there id
  · have given := sound.given r₀ (List.mem_of_getElem? found) n old
    exact ⟨given.1, Nat.le_trans given.2 (t.idsGiven_step turn)⟩
  · exact ⟨Nat.lt_of_le_of_lt sound.grown above, most⟩

theorem apart_step {i j : Nat} {r r' : Serving} (there : (t.step x turn).requests[i]? = some r)
    (there' : (t.step x turn).requests[j]? = some r') (other : i ≠ j) :
    ∀ n ∈ r.ids, n ∉ r'.ids := by
  intro n id id'
  have known {k : Nat} {q : Serving} (found : t.requests[k]? = some q) (mem : n ∈ q.ids) :
      ¬ t.shared.idsGiven < n :=
    Nat.not_lt_of_le (sound.given q (List.mem_of_getElem? found) n mem).2
  obtain ⟨r₀, found, old⟩ | ⟨turn, above, -⟩ := id_before there id <;>
    obtain ⟨r₁, found', old'⟩ | ⟨turn', above', -⟩ := id_before there' id'
  · exact sound.apart i j r₀ r₁ found found' other n old old'
  · exact known found old above'
  · exact known found' old' above
  · exact other (Turn.serve.inj (turn.symm.trans turn'))

/-- What a sweep finds in its turn is forsaken. -/
theorem forsaken_found {k : Nat} {s : Sweeping} (allowed : t.Allows (.sweep k))
    (found : t.sweeps[k]? = some s) {now : Float} (time : now ∈ s.now) {content : Bytes}
    {modified : Timestamp} (standing : t.shared.disk.at? p = some (.file content modified))
    (old : s.maxAge < now - modified.seconds) : t.Forsaken top p where
  old n above most single := by cases standing.symm.trans (sound.unused n above most p single)
  left r mem going mine :=
    allowed s found now time r mem going p content modified mine standing old

include allowed enough in
theorem sweeps_step {s : Sweeping} (mem : s ∈ (t.step x turn).sweeps) :
    ∃ found, s.job.Sweeps s.maxAge s.now found ∧ ∀ path ∈ found, ∀ p,
      w.disk.place path = .ok p → (t.step x turn).Forsaken top p := by
  obtain ⟨maxAge, now, own, rfl⟩ | same | ⟨k, s₀, rfl, found, rfl⟩ := sweep_before mem
  · exact ⟨none, x.storage.sweeps_sweep maxAge now, nofun⟩
  · obtain ⟨path, sweeps, forsaken⟩ := sound.sweeps s same
    exact ⟨path, sweeps, fun path mem p leads => (forsaken path mem p leads).step enough⟩
  · obtain ⟨path, sweeps, -⟩ := sound.sweeps s₀ (List.mem_of_getElem? found)
    obtain ⟨-, path', sweeps', old⟩ := Sweeping.step_spec t.shared sweeps
    refine ⟨path', sweeps', fun path mem p leads => ?_⟩
    obtain ⟨now, time, content, modified, standing, old⟩ :=
      old path mem p (sound.directories.place_iff.2 leads)
    exact (sound.forsaken_found allowed found time standing old).step enough

include driven prepared unused allowed enough in
/-- Traffic stays sound in a turn. -/
theorem step : Sound x w top (t.step x turn) where
  directories := sound.directories_step prepared allowed
  grown := Nat.le_trans sound.grown (t.idsGiven_step turn)
  few := sound.few
  enough
  unused n above most p single := by
    obtain ⟨touched, same, others⟩ := sound.exists_touched prepared allowed
    have above := Nat.lt_of_le_of_lt (t.idsGiven_step (x := x) turn) above
    rw [same.at?_eq p fun touched => (others p touched).1 n above most single]
    exact sound.unused n above most p single
  given r mem := sound.given_step mem
  apart i j r r' there there' other := sound.apart_step there there' other
  alone r mem going := by
    obtain ⟨j, there⟩ := List.getElem?_of_mem mem
    exact sound.undisturbed_step driven prepared unused allowed enough there
      fun r₀ found => going_before there going found
  sweeps s mem := sound.sweeps_step allowed enough mem

end

end Sound

end Traffic

end Splice
