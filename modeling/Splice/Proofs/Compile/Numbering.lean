import Splice.Proofs.Compile.Labels
import Splice.Table

/-!
# The numbers of labels

A search for a fresh label tries one number of its stem after the other, from the one on that is to
be tried next, and ends with the first that makes a label not in use (`Labels.Search`). It does end,
and what it finds is what `Labels.allocate` hands out (`Labels.search_iff`).

Stems can extend each other, as `v` and `v1` do, so that one label can be made from two of them, and
the number that is to be tried next for a stem may have been used up by another. All that is known of
it is that no smaller one makes a label that is free (`Labels.Follows`). A call keeps that true
(`Labels.Follows.allocate`), whatever its stem, and it is enough for the least number of all.

Main statement: `Labels.allocateAll_isLeast`, about any calls from any reserved labels on.
-/

namespace Splice.Labels

variable {l : Labels} {stem : String}

/-! ## One search -/

/-- The label that is to be tried next for a stem. -/
def candidate (l : Labels) (stem : String) : String := label stem (l.nextNumber stem)

/-- The state when the next number of a stem was tried. -/
def tried (l : Labels) (stem : String) : Labels :=
  { l with next := (stem, l.nextNumber stem + 1) :: l.next.filter fun row => row.1 != stem }

/-- The state when a label is in use. -/
def taking (l : Labels) (fresh : String) : Labels := { l with used := fresh :: l.used }

/-- A search for a fresh label of a stem: where it starts, and the label and the state that it ends
with. -/
inductive Search (stem : String) : Labels → String × Labels → Prop
  | free {l : Labels} (unused : l.candidate stem ∉ l.used) :
      Search stem l (l.candidate stem, (l.tried stem).taking (l.candidate stem))
  | taken {l : Labels} {found : String × Labels} (used : l.candidate stem ∈ l.used)
      (goes : Search stem (l.tried stem) found) : Search stem l found

theorem nextNumber_put (used : List String) (rows : List (String × Nat)) (stem : String) (n : Nat)
    (other : String) :
    nextNumber ⟨used, (stem, n) :: rows.filter fun row => row.1 != stem⟩ other =
      if other = stem then n else nextNumber ⟨used, rows⟩ other := by
  have looked : nextNumber ⟨used, (stem, n) :: rows.filter fun row => row.1 != stem⟩ other =
      (Table.get? ((stem, n) :: Table.erase rows stem) other).getD 0 := rfl
  rw [looked, Table.get?_cons, Table.get?_erase]
  by_cases same : stem = other
  · simp [same]
  · rw [if_neg same, if_neg same, if_neg (Ne.symm same)]
    rfl

theorem nextNumber_tried (l : Labels) (stem : String) :
    (l.tried stem).nextNumber stem = l.nextNumber stem + 1 := by
  rw [tried, nextNumber_put, if_pos rfl]

/-- If the number that is to be tried next is used up, the search goes on behind it. -/
theorem allocate_tried (used : l.candidate stem ∈ l.used) :
    (l.tried stem).allocate stem = l.allocate stem := by
  have least := l.isLeast_leastFree stem (l.nextNumber stem)
  have same : (l.tried stem).leastFree stem ((l.tried stem).nextNumber stem) =
      l.leastFree stem (l.nextNumber stem) := by
    rw [nextNumber_tried]
    refine ((l.tried stem).isLeast_leastFree stem _).unique ⟨⟨?_, least.1.2⟩, fun i hi => ?_⟩
    · refine Nat.lt_of_le_of_ne least.1.1 fun here => least.1.2 ?_
      rw [← here]
      exact used
    · exact least.2 ⟨(Nat.le_succ _).trans hi.1, hi.2⟩
  simp only [allocate, same]
  simp [tried, List.filter_filter]

/-- The search comes to an end, and finds the label that is handed out. -/
theorem search_allocate (l : Labels) (stem : String) : Search stem l (l.allocate stem) := by
  -- The induction is on how many numbers there are in front of the one that is found.
  obtain ⟨d, distance⟩ := Nat.le.dest (l.isLeast_leastFree stem (l.nextNumber stem)).1.1
  induction d generalizing l with
  | zero =>
    have here : l.leastFree stem (l.nextNumber stem) = l.nextNumber stem := distance.symm
    have found : l.allocate stem =
        (l.candidate stem, (l.tried stem).taking (l.candidate stem)) := by
      rw [allocate, here]
      rfl
    have unused : l.candidate stem ∉ l.used := by
      have free := l.label_leastFree_not_mem stem (l.nextNumber stem)
      rwa [here] at free
    rw [found]
    exact .free unused
  | succ d ih =>
    have used : l.candidate stem ∈ l.used := by
      by_contra unused
      have least := (l.isLeast_leastFree stem (l.nextNumber stem)).2 ⟨le_rfl, unused⟩
      omega
    have same : (l.tried stem).leastFree stem ((l.tried stem).nextNumber stem) =
        l.leastFree stem (l.nextNumber stem) :=
      label_injective stem (congrArg Prod.fst (allocate_tried used))
    rw [← allocate_tried used]
    refine .taken used (ih (l.tried stem) ?_)
    rw [same, ← distance, nextNumber_tried]
    omega

theorem Search.eq {found other : String × Labels} (h : Search stem l found)
    (also : Search stem l other) : found = other := by
  induction h with
  | free unused =>
    cases also with
    | free => rfl
    | taken used => exact absurd used unused
  | taken used _ ih =>
    cases also with
    | free unused => exact absurd used unused
    | taken _ goes => exact ih goes

/-- A search comes to its end with what is handed out, and with nothing else. -/
theorem search_iff {found : String × Labels} : Search stem l found ↔ found = l.allocate stem :=
  ⟨fun h => h.eq (l.search_allocate stem), fun h => h ▸ l.search_allocate stem⟩

/-! ## One search after the other -/

/-- Calls for several stems in order, each of which comes to its end. -/
inductive Calls : Labels → List String → List String × Labels → Prop
  | nil {l : Labels} : Calls l [] ([], l)
  | cons {l next last : Labels} {stem fresh : String} {stems given : List String}
      (first : Search stem l (fresh, next)) (later : Calls next stems (given, last)) :
      Calls l (stem :: stems) (fresh :: given, last)

theorem calls_iff {stems : List String} {outcome : List String × Labels} :
    Calls l stems outcome ↔ outcome = l.allocateAll stems := by
  induction stems generalizing l outcome with
  | nil => exact ⟨fun h => by cases h; rfl, fun h => h ▸ .nil⟩
  | cons stem stems ih =>
    constructor
    · rintro (_ | ⟨first, later⟩)
      obtain ⟨rfl, rfl⟩ := Prod.mk.inj (search_iff.1 first)
      obtain ⟨rfl, rfl⟩ := Prod.mk.inj (ih.1 later)
      rfl
    · rintro rfl
      exact .cons (search_iff.2 rfl) (ih.2 rfl)

/-! ## What calls keep -/

/-- The labels in use are those that are taken, and no number below the one that is to be tried next
makes one that is free. -/
structure Follows (taken : List String) (l : Labels) : Prop where
  mem_used : ∀ label, label ∈ l.used ↔ label ∈ taken
  below : ∀ stem, ∀ i < l.nextNumber stem, label stem i ∈ l.used

variable {taken : List String}

theorem follows_reserving (reserved : List String) : (reserving reserved).Follows reserved :=
  ⟨fun _ => .rfl, fun _ _ less => absurd less (Nat.not_lt_zero _)⟩

/-- The number of a fresh label is the least of all that make a label that is not taken. -/
theorem Follows.isLeast (h : l.Follows taken) (stem : String) :
    IsLeast {n | label stem n ∉ taken} (l.leastFree stem (l.nextNumber stem)) := by
  have least := l.isLeast_leastFree stem (l.nextNumber stem)
  refine ⟨fun mem => least.1.2 ((h.mem_used _).2 mem), fun n free => ?_⟩
  have unused : label stem n ∉ l.used := fun mem => free ((h.mem_used _).1 mem)
  exact least.2 ⟨Nat.le_of_not_lt fun less => unused (h.below stem n less), unused⟩

/-- A call takes the label that it hands out. -/
theorem Follows.allocate (h : l.Follows taken) (stem : String) :
    (l.allocate stem).2.Follows (taken ++ [(l.allocate stem).1]) := by
  refine ⟨fun label => ?_, fun other i less => ?_⟩
  · rw [allocate_used, List.mem_cons, List.mem_append, List.mem_singleton, h.mem_used, or_comm]
  · rw [allocate_used, List.mem_cons]
    have least := h.isLeast stem
    rw [Labels.allocate, nextNumber_put] at less
    split at less
    case isTrue same =>
      subst same
      rcases Nat.lt_succ_iff_lt_or_eq.1 less with less | rfl
      · refine .inr ((h.mem_used _).2 ?_)
        by_contra free
        exact absurd (least.2 free) (Nat.not_le.2 less)
      · exact .inl rfl
    case isFalse => exact .inr (h.below other i less)

/-- Calls hand out labels that are new and different from each other. -/
theorem Follows.fresh (h : l.Follows taken) (stems : List String) :
    (l.allocateAll stems).1.Nodup ∧ ∀ label ∈ (l.allocateAll stems).1, label ∉ taken := by
  induction stems generalizing l taken with
  | nil => exact ⟨List.nodup_nil, nofun⟩
  | cons stem stems ih =>
    obtain ⟨different, others⟩ := ih (h.allocate stem)
    refine ⟨List.nodup_cons.2 ⟨fun mem => ?_, different⟩, ?_⟩
    · exact others _ mem (List.mem_append_right _ (List.mem_singleton_self _))
    · rw [allocateAll, List.forall_mem_cons]
      exact ⟨(h.isLeast stem).1, fun label mem earlier =>
        others label mem (List.mem_append_left _ earlier)⟩

/-- Each call hands out its stem with the least number that makes a label not taken before. -/
theorem Follows.numbered (h : l.Follows taken) {stems : List String} {k : Nat}
    (asked : stems[k]? = some stem) :
    ∃ n, (l.allocateAll stems).1[k]? = some (label stem n) ∧
      IsLeast {n | label stem n ∉ taken ++ (l.allocateAll stems).1.take k} n := by
  induction stems generalizing l taken k with
  | nil => cases asked
  | cons first stems ih =>
    cases k with
    | zero =>
      obtain rfl : first = stem := Option.some.inj asked
      refine ⟨l.leastFree first (l.nextNumber first), rfl, ?_⟩
      simpa using h.isLeast first
    | succ k =>
      obtain ⟨n, given, least⟩ := ih (h.allocate first) asked
      refine ⟨n, given, ?_⟩
      rw [List.append_assoc] at least
      exact least

theorem length_allocateAll (l : Labels) (stems : List String) :
    (l.allocateAll stems).1.length = stems.length := by
  induction stems generalizing l with
  | nil => rfl
  | cons stem stems ih => exact congrArg (· + 1) (ih (l.allocate stem).2)

/-- **Each label has the least number that made it new.** From any reserved labels on, calls for any
stems come to an end, all in one way only. Each hands out one label; these are all different, and
none of them is reserved; and each is its stem with the least number for which that label was neither
reserved nor handed out before. -/
theorem allocateAll_isLeast (reserved stems : List String) :
    let given := ((reserving reserved).allocateAll stems).1
    (∀ outcome, Calls (reserving reserved) stems outcome ↔
      outcome = (reserving reserved).allocateAll stems) ∧
    given.length = stems.length ∧ given.Nodup ∧ (∀ label ∈ given, label ∉ reserved) ∧
    ∀ k stem, stems[k]? = some stem → ∃ n, given[k]? = some (label stem n) ∧
      IsLeast {n | label stem n ∉ reserved ∧ label stem n ∉ given.take k} n := by
  intro given
  have start := follows_reserving reserved
  obtain ⟨different, new⟩ := start.fresh stems
  refine ⟨fun _ => calls_iff, length_allocateAll _ stems, different, new, fun k stem asked => ?_⟩
  obtain ⟨n, here, least⟩ := start.numbered asked
  refine ⟨n, here, ?_⟩
  simpa only [List.mem_append, not_or] using least

/-- Ten labels of `v` are reserved; behind them the labels of `v` and of `v1` are the same ones. -/
theorem allocateAll_isLeast_extended_stem :
    let reserved := (List.range 10).map (label "v")
    let given := ((reserving reserved).allocateAll ["v1", "v", "v1", "v"]).1
    given = ["v10", "v11", "v12", "v13"] ∧
      IsLeast {n | label "v" n ∉ reserved ∧ label "v" n ∉ ["v10", "v11", "v12"]} 13 := by
  intro reserved given
  have handed : given = ["v10", "v11", "v12", "v13"] := by decide +kernel
  obtain ⟨-, -, -, -, numbered⟩ := allocateAll_isLeast reserved ["v1", "v", "v1", "v"]
  obtain ⟨n, here, least⟩ := numbered 3 "v" rfl
  have last : given[3]? = some (label "v" 13) := by
    rw [handed]
    decide +kernel
  obtain rfl : n = 13 := label_injective "v" (Option.some.inj (here.symm.trans last))
  have before : given.take 3 = ["v10", "v11", "v12"] := by rw [handed]; rfl
  exact ⟨handed, before ▸ least⟩

end Splice.Labels
