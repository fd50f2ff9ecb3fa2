import Mathlib.Data.List.Chain
import Splice.Proofs.Outcome
import Splice.Timeline.Basic

/-!
# Schedules, and the entries that make a timeline

What the schedule of some entries looks like, and which entries the constructor of a timeline
accepts.

* `map_entry_schedule`, `isChain_schedule`, `stop_of_mem_schedule` say that a schedule holds the
  entries in their order, each beginning where the one before it ends and lasting as long as it
  says.
* `Acceptable` says what entries must satisfy, and `ofEntries_eq_ok_iff` that they make a timeline
  exactly then.
-/

namespace Splice

/-! ## The schedule -/

/-- Adjacent rows meet: the first ends when the second begins. -/
def Row.Meets (before after : Row) : Prop := before.stop = after.start

theorem map_entry_scheduleFrom (moment : Float) (entries : List Entry) :
    (scheduleFrom moment entries).map Row.entry = entries := by
  induction entries generalizing moment with
  | nil => rfl
  | cons entry rest ih => rw [scheduleFrom, List.map_cons, ih]

theorem map_entry_schedule (entries : List Entry) : (schedule entries).map Row.entry = entries :=
  map_entry_scheduleFrom 0.0 entries

theorem length_schedule (entries : List Entry) : (schedule entries).length = entries.length := by
  conv_rhs => rw [← map_entry_schedule entries, List.length_map]

theorem schedule_eq_nil_iff {entries : List Entry} : schedule entries = [] ↔ entries = [] := by
  rw [← List.length_eq_zero_iff, length_schedule, List.length_eq_zero_iff]

theorem start_of_mem_head?_scheduleFrom {moment : Float} {entries : List Entry} {row : Row}
    (h : row ∈ (scheduleFrom moment entries).head?) : row.start = moment := by
  cases entries with
  | nil => simp [scheduleFrom] at h
  | cons entry rest =>
    simp only [scheduleFrom, List.head?_cons, Option.mem_some_iff] at h
    rw [← h]

theorem isChain_scheduleFrom (moment : Float) (entries : List Entry) :
    (scheduleFrom moment entries).IsChain Row.Meets := by
  induction entries generalizing moment with
  | nil => exact .nil
  | cons entry rest ih =>
    rw [scheduleFrom, List.isChain_cons]
    refine ⟨fun after first => ?_, ih _⟩
    exact (start_of_mem_head?_scheduleFrom first).symm

theorem isChain_schedule (entries : List Entry) : (schedule entries).IsChain Row.Meets :=
  isChain_scheduleFrom 0.0 entries

theorem stop_of_mem_scheduleFrom {moment : Float} {entries : List Entry} {row : Row}
    (h : row ∈ scheduleFrom moment entries) : row.stop = row.start + row.entry.duration := by
  induction entries generalizing moment with
  | nil => simp [scheduleFrom] at h
  | cons entry rest ih =>
    rw [scheduleFrom, List.mem_cons] at h
    rcases h with rfl | h
    · rfl
    · exact ih h

/-! ## The entries of a timeline -/

/-- Entries that make a timeline: no two have one id, and no duration is zero or less. -/
structure Acceptable (entries : List Entry) : Prop where
  nodup : (entries.map Entry.id).Nodup
  lasting : ∀ e ∈ entries, ¬ e.duration ≤ 0

theorem Acceptable.nil : Acceptable [] := ⟨List.nodup_nil, by simp⟩

theorem acceptable_append_singleton_iff {before : List Entry} {entry : Entry} :
    Acceptable (before ++ [entry]) ↔
      Acceptable before ∧ entry.id ∉ before.map Entry.id ∧ ¬ entry.duration ≤ 0 := by
  constructor
  · rintro ⟨nodup, lasting⟩
    rw [List.map_append, List.map_singleton, List.nodup_append] at nodup
    obtain ⟨first, -, apart⟩ := nodup
    refine ⟨⟨first, fun e mem => lasting e (by simp [mem])⟩, fun mem => ?_, lasting entry (by simp)⟩
    exact apart _ mem _ (by simp) rfl
  · rintro ⟨⟨nodup, lasting⟩, fresh, positive⟩
    refine ⟨?_, fun e mem => ?_⟩
    · rw [List.map_append, List.map_singleton]
      refine List.nodup_append.2 ⟨nodup, by simp, fun a mem b mem' same => fresh ?_⟩
      rw [List.mem_singleton] at mem'
      rwa [← mem', ← same]
    · rcases List.mem_append.1 mem with mem | mem
      · exact lasting e mem
      · rwa [List.mem_singleton.1 mem]

theorem Acceptable.left {before after : List Entry} (h : Acceptable (before ++ after)) :
    Acceptable before :=
  ⟨(List.nodup_append.1 (by simpa using h.nodup)).1, fun e mem =>
    h.lasting e (List.mem_append_left _ mem)⟩

theorem map_id_modify (entries : List Entry) (i : Nat) {change : Entry → Entry}
    (same : ∀ e, (change e).id = e.id) :
    (entries.modify i change).map Entry.id = entries.map Entry.id := by
  apply List.ext_getElem (by simp)
  intro k _ _
  simp only [List.getElem_map, List.getElem_modify]
  split <;> simp [same]

/-- A change that keeps the id and does not spoil the duration keeps the entries acceptable. -/
theorem Acceptable.modify {entries : List Entry} (h : Acceptable entries) (i : Nat)
    {change : Entry → Entry} (same : ∀ e, (change e).id = e.id)
    (fine : ∀ e, ¬ e.duration ≤ 0 → ¬ (change e).duration ≤ 0) :
    Acceptable (entries.modify i change) := by
  refine ⟨by rw [map_id_modify entries i same]; exact h.nodup, fun e mem => ?_⟩
  obtain ⟨k, inside, rfl⟩ := List.getElem_of_mem mem
  rw [List.length_modify] at inside
  rw [List.getElem_modify]
  split
  · exact fine _ (h.lasting _ (List.getElem_mem inside))
  · exact h.lasting _ (List.getElem_mem inside)

/-! ## The constructor -/

namespace Timeline

theorem checkNew_eq_ok_iff {entries : List Entry} {entry : Entry} :
    checkNew entries entry = .ok () ↔
      entry.id ∉ entries.map Entry.id ∧ ¬ entry.duration ≤ 0 := by
  unfold checkNew
  split
  case isTrue taken =>
    simp only [List.any_eq_true, beq_iff_eq] at taken
    simp [taken]
  case isFalse free =>
    simp only [List.any_eq_true, beq_iff_eq] at free
    by_cases short : entry.duration ≤ 0
    · simp [checkDuration, Amount.value, short, Except.map]
    · simpa [checkDuration, Amount.value, short, Except.map] using free

theorem acceptEach_cons (before : List Entry) (entry : Entry) (rest : List Entry) :
    acceptEach before (entry :: rest) =
      checkNew before entry >>= fun _ => acceptEach (before ++ [entry]) rest := by
  rw [acceptEach]
  cases checkNew before entry <;> rfl

theorem acceptEach_eq_ok_iff {before entries all : List Entry} (h : Acceptable before) :
    acceptEach before entries = .ok all ↔
      all = before ++ entries ∧ Acceptable (before ++ entries) := by
  induction entries generalizing before with
  | nil => simp [acceptEach, h, eq_comm]
  | cons entry rest ih =>
    rw [acceptEach_cons, bind_eq_ok_iff, List.append_cons before entry rest]
    constructor
    · rintro ⟨_, checked, accepted⟩
      exact (ih (acceptable_append_singleton_iff.2 ⟨h, checkNew_eq_ok_iff.1 checked⟩)).1 accepted
    · rintro ⟨same, fine⟩
      have new := (acceptable_append_singleton_iff.1 fine.left).2
      exact ⟨(), checkNew_eq_ok_iff.2 new, (ih fine.left).2 ⟨same, fine⟩⟩

/-- Entries make a timeline exactly if they are acceptable, and it is then the one laid out. -/
theorem ofEntries_eq_ok_iff {entries : List Entry} {t : Timeline} :
    ofEntries entries = .ok t ↔ t = layOut entries ∧ Acceptable entries := by
  rw [ofEntries, map_eq_ok_iff]
  constructor
  · rintro ⟨all, accepted, rfl⟩
    obtain ⟨rfl, fine⟩ := (acceptEach_eq_ok_iff .nil).1 accepted
    exact ⟨rfl, fine⟩
  · rintro ⟨rfl, fine⟩
    exact ⟨entries, (acceptEach_eq_ok_iff .nil).2 ⟨rfl, fine⟩, rfl⟩

end Timeline

end Splice
