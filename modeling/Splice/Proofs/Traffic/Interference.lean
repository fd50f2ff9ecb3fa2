import Splice.Proofs.Traffic.Turns

/-!
# Requests do not interfere

Traffic that starts in a world where the directories are there and the next names are unused stays
sound (`Traffic.sound_run`), and whatever appears on the disk was put there by the request whose it
is (`Traffic.exists_creation`).

Main statement: however requests and sweeps are served among each other, every request comes to what
it would have come to alone, and it is only about files that were created for it
(`Traffic.requests_undisturbed`).
-/

namespace Splice

open Storage

namespace Traffic

variable {x : ExportService} {w : SharedWorld} {top : Nat} {p : Place} {turns : List Turn}

/-! ## Runs -/

/-- What goes on after some turns in a world in which nothing went on before. -/
def after (x : ExportService) (w : SharedWorld) (turns : List Turn) : Traffic :=
  (quiet w).run x turns

theorem after_concat (turns : List Turn) (turn : Turn) :
    after x w (turns ++ [turn]) = (after x w turns).step x turn :=
  run_concat x (quiet w) turns turn

/-- What is needed for traffic to stay sound: the engine is one, the directories are there, and the
next ids are unused. -/
structure Orderly (x : ExportService) (w : SharedWorld) (top : Nat) : Prop where
  driven : ∃ e : Engine, x.engine = e.access
  prepared : x.storage.Prepared w.disk
  few : top < 16 ^ 8
  unused : w.Unused top

/-- Traffic stays sound while its turns are allowed. -/
theorem sound_run (orderly : Orderly x w top) (allowed : (quiet w).AllowsEach x turns)
    (enough : w.idsGiven + turns.length ≤ top) : Sound x w top (after x w turns) := by
  obtain ⟨⟨e, driven⟩, prepared, few, unused⟩ := orderly
  -- on the last turn, since whether it is allowed depends on those before it
  induction turns using List.reverseRecOn with
  | nil => exact sound_quiet few enough unused
  | append_singleton turns turn ih =>
    obtain ⟨before, last⟩ := allowsEach_concat.1 allowed
    have given := (quiet w).idsGiven_run (x := x) (turns ++ [turn])
    rw [run_concat] at given
    have shorter : w.idsGiven + turns.length ≤ top := by
      rw [List.length_append] at enough
      omega
    rw [after_concat]
    exact (ih before shorter).step driven prepared unused last (Nat.le_trans given enough)

/-! ## What was created -/

/-- Whether something appeared at a place in a turn of a request. -/
def Created (x : ExportService) (w : SharedWorld) (turns : List Turn) (i : Nat) (p : Place) :
    Prop :=
  ∃ earlier later, turns = earlier ++ .serve i :: later ∧
    (after x w earlier).shared.disk.at? p = none ∧
      (after x w (earlier ++ [.serve i])).shared.disk.at? p ≠ none

theorem Created.concat {i : Nat} (created : Created x w turns i p) (turn : Turn) :
    Created x w (turns ++ [turn]) i p := by
  obtain ⟨earlier, later, rfl, before, behind⟩ := created
  exact ⟨earlier, later ++ [turn], by simp, before, behind⟩

variable {t : Traffic} {turn : Turn}

/-- Something appears on a disk only where it is a request's own, in its turn. -/
theorem Sound.appears (sound : Sound x w top t) (prepared : x.storage.Prepared w.disk)
    (absent : t.shared.disk.at? p = none) (there : (t.step x turn).shared.disk.at? p ≠ none) :
    ∃ i r, turn = .serve i ∧ t.requests[i]? = some r ∧ Mine r.ids p := by
  cases turn with
  | arrive order sends own => exact absurd absent there
  | startSweep maxAge now own => exact absurd absent there
  | pass clock => exact absurd absent there
  | serve i =>
    cases found : t.requests[i]? with
    | none =>
      rw [step_serve_of_none found] at there
      exact absurd absent there
    | some r =>
      rw [step_serve found] at there
      refine ⟨i, r, rfl, found, ?_⟩
      by_contra other
      have kept := (sound.serve_sameBut prepared (List.mem_of_getElem? found)).at?_eq p other
      exact there (kept.trans absent)
  | sweep k =>
    cases found : t.sweeps[k]? with
    | none =>
      rw [step_sweep_of_none found] at there
      exact absurd absent there
    | some s =>
      rw [step_sweep found] at there
      obtain ⟨path, sweeps, -⟩ := sound.sweeps s (List.mem_of_getElem? found)
      refine absurd (((Sweeping.step_spec t.shared sweeps).1.at?_eq p ?_).trans absent) there
      rintro ⟨-, -, -, content, modified, standing⟩
      cases standing.symm.trans absent

/-- What is there and was not there at first was created by the request whose it is. -/
theorem exists_creation (orderly : Orderly x w top) (allowed : (quiet w).AllowsEach x turns)
    (enough : w.idsGiven + turns.length ≤ top) (absent : w.disk.at? p = none)
    (there : (after x w turns).shared.disk.at? p ≠ none) :
    ∃ i r, (after x w turns).requests[i]? = some r ∧ Mine r.ids p ∧ Created x w turns i p := by
  induction turns using List.reverseRecOn with
  | nil => exact absurd absent there
  | append_singleton turns turn ih =>
    obtain ⟨before, last⟩ := allowsEach_concat.1 allowed
    have shorter : w.idsGiven + turns.length ≤ top := by
      rw [List.length_append] at enough
      omega
    by_cases earlier : (after x w turns).shared.disk.at? p = none
    · -- it appears in the last turn, which then is that of the request whose place it is
      have sound := sound_run orderly before shorter
      have appears := there
      rw [after_concat] at appears
      obtain ⟨i, r, rfl, found, mine⟩ := sound.appears orderly.prepared earlier appears
      obtain ⟨r', found', sub⟩ := request_after x (.serve i) found
      rw [← after_concat] at found'
      exact ⟨i, r', found', mine.mono sub, turns, [], rfl, earlier, there⟩
    · obtain ⟨i, r, found, mine, created⟩ := ih before shorter earlier
      obtain ⟨r', found', sub⟩ := request_after x turn found
      rw [← after_concat] at found'
      exact ⟨i, r', found', mine.mono sub, created.concat turn⟩

/-! ## Requests do not interfere -/

/-- Whether a request is only about files that were created for it: the paths of its next operation
are its own, so are all places that it changes, nothing stood there at first, no other request has
any of them, and what stands there now was created in a turn of its own. -/
structure KeepsToOwn (x : ExportService) (w : SharedWorld) (turns : List Turn) (i : Nat)
    (r : Serving) : Prop where
  paths : ∀ op next, r.job = .ask op next → op.Private x.storage r.ids
  places : ∀ p, (after x w (turns ++ [.serve i])).shared.disk.at? p ≠
    (after x w turns).shared.disk.at? p → Mine r.ids p
  unused : ∀ p, Mine r.ids p → w.disk.at? p = none
  apart : ∀ (j : Nat) (r' : Serving), i ≠ j → (after x w turns).requests[j]? = some r' →
    ∀ p, Mine r.ids p → ¬ Mine r'.ids p
  created : ∀ p, Mine r.ids p → (after x w turns).shared.disk.at? p ≠ none →
    Created x w turns i p

theorem keepsToOwn (orderly : Orderly x w top) (allowed : (quiet w).AllowsEach x turns)
    (enough : w.idsGiven + turns.length ≤ top) {i : Nat} {r : Serving}
    (found : (after x w turns).requests[i]? = some r) : KeepsToOwn x w turns i r := by
  have sound := sound_run orderly allowed enough
  have mem := List.mem_of_getElem? found
  have unused : ∀ p, Mine r.ids p → w.disk.at? p = none := by
    intro p mine
    obtain ⟨n, id, single⟩ := mine.single
    have given := sound.given r mem n id
    exact orderly.unused n given.1 (Nat.le_trans given.2 sound.enough) p single
  refine ⟨fun op next job => ?_, fun p changed => ?_, unused, ?_, fun p mine there => ?_⟩
  · have going : ¬ r.Finished := by
      rintro ⟨outcome, done⟩
      cases job.symm.trans done
    have tidy := (sound.alone r mem going).tidy
    rw [job] at tidy
    exact tidy.1
  · by_contra other
    rw [after_concat, step_serve found] at changed
    exact changed ((sound.serve_sameBut orderly.prepared mem).at?_eq p other)
  · exact fun j r' other found' p mine => sound.mine_apart found found' other mine
  · obtain ⟨j, r', found', mine', created⟩ :=
      exists_creation orderly allowed enough (unused p mine) there
    by_cases same : i = j
    · exact same ▸ created
    · exact absurd mine' (sound.mine_apart found found' same mine)

end Traffic

/-- **Requests that are served among each other do not interfere.** Any number of requests may
arrive, their operations may take turns in any order with each other and with those of any number of
sweeps, and time may pass as it likes; only that no file of a request that is not finished gets too
old for a sweep while it goes on. Then each request, up to the turn in which it finishes, comes to
what it would have come to alone, and it is only about files that were created for it. -/
theorem Traffic.requests_undisturbed {x : ExportService} {e : Engine} {w : World}
    {turns : List Turn} {turn : Turn} (driven : x.engine = e.access)
    (prepared : x.storage.Prepared w.shared.disk)
    (fresh : w.Fresh labels (turns ++ [turn]).length)
    (allowed : (quiet w.shared).AllowsEach x (turns ++ [turn])) :
    (∀ (i : Nat) (r : Serving), (after x w.shared (turns ++ [turn])).requests[i]? = some r →
        (∀ r₀, (after x w.shared turns).requests[i]? = some r₀ → ¬ r₀.Finished) →
          r.AsAlone x w.shared (after x w.shared (turns ++ [turn])).shared.disk) ∧
      ∀ (i : Nat) (r : Serving), (after x w.shared turns).requests[i]? = some r →
        KeepsToOwn x w.shared turns i r := by
  have orderly : Orderly x w.shared (w.shared.idsGiven + (turns ++ [turn]).length) :=
    ⟨⟨e, driven⟩, prepared, fresh.few, fresh.unused_shared⟩
  obtain ⟨before, last⟩ := allowsEach_concat.1 allowed
  have enough : w.shared.idsGiven + turns.length ≤
      w.shared.idsGiven + (turns ++ [turn]).length := by
    rw [List.length_append]
    omega
  have sound := sound_run orderly before enough
  refine ⟨fun i r found going => ?_, fun i r found => keepsToOwn orderly before enough found⟩
  have behind := sound_run orderly allowed (Nat.le_refl _)
  have given := behind.enough
  rw [after_concat] at found behind given ⊢
  exact (sound.undisturbed_step driven prepared orderly.unused last given found going).asAlone
    (prepared.of_sameBut behind.directories)

/-- An upload, an export that is sent, and a sweep that removes an old file among them. -/
theorem Traffic.requests_undisturbed_by_sweep :
    let x := ExportService.ofSettings (.standard "data" "uploads" "output")
    let own : OwnWorld := ⟨⟨true, .error .notFound, fun _ => .error .notFound, .error .notFound,
      .error .notFound, false⟩, .never, []⟩
    let w : World := ⟨⟨⟨[(["uploads"], .directory), (["output"], .directory),
      (["uploads", "left.mp4"], .file [0x41] (.ofSeconds 0.0))]⟩, 4000.0, 0⟩, own⟩
    let clip (content : Bytes) : Upload := ⟨some "a.mp4", none, [.ok content]⟩
    let turns : List Turn := [.arrive (.upload [clip [0x41]]) false own,
      .arrive (.simpleExport [clip [0x42]]) true own, .startSweep none none own] ++
        (List.replicate 9 [.serve 0, .sweep 0, .serve 1]).flatten
    (after x w.shared turns).shared.disk.exists? "uploads/left.mp4" = false ∧
      ∃ r, (after x w.shared (turns ++ [.serve 1])).requests[1]? = some r ∧ r.Finished ∧
        r.AsAlone x w.shared (after x w.shared (turns ++ [.serve 1])).shared.disk := by
  intro x own w clip turns
  have driven : x.engine = (Engine.ofSettings x.settings "" "").access := rfl
  have prepared : x.storage.Prepared w.shared.disk :=
    ⟨⟨["uploads"], by decide +kernel, rfl⟩, ⟨["output"], by decide +kernel, rfl⟩⟩
  have fresh : w.Fresh labels (turns ++ [Turn.serve 1]).length :=
    World.fresh_of_unlabelled (by decide) (by decide +kernel)
  have allowed : (quiet w.shared).AllowsEach x (turns ++ [.serve 1]) :=
    allowsEach_of_isYoung (by decide +kernel)
  have swept : (after x w.shared turns).shared.disk.exists? "uploads/left.mp4" = false := by
    decide +kernel
  have going : ∀ r ∈ (after x w.shared turns).requests[1]?, ¬ r.Finished := by decide +kernel
  have ends : ∃ r ∈ (after x w.shared (turns ++ [.serve 1])).requests[1]?, r.Finished := by
    decide +kernel
  obtain ⟨r, found, finished⟩ := ends
  obtain ⟨alone, -⟩ := @requests_undisturbed x _ w turns (.serve 1) driven prepared fresh allowed
  exact ⟨swept, r, found, finished, alone 1 r found going⟩

end Splice
