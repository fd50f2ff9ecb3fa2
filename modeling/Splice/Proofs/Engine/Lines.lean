import Splice.Engine.Lines
import Splice.Proofs.Text.Separated

/-!
# Lines one after the other

What is taken from the lines of a stream is taken from the stretches between the ends of lines, as
long as none is too long (`Engine.filterMap_takeLines`).

A stream comes in pieces, which begin and end anywhere. A reader of lines (`Engine.LineReader`) keeps
what has come of the line under way until the end of the line comes, or that of the stream. However
the stream is cut, the reader goes through the same lines (`Engine.LineReader.close_pieces`).
-/

namespace Splice.Engine

/-- Octets without the end of a line are one line, unless they are too long. -/
theorem linesOf_of_forall_ne {octets : Bytes} (open_ : ∀ b ∈ octets, b ≠ 0x0A)
    (some : octets ≠ []) (fits : octets.length ≤ lineLimit) :
    linesOf octets = ([octets], none) := by
  have one : stretches (· == 0x0A) octets = [octets] := by
    rw [stretches_eq_splitOnP]
    exact List.splitOnP_eq_singleton fun b mem => beq_eq_false_iff_ne.2 (open_ b mem)
  rw [linesOf, one, takeLines, if_neg (by simpa using some), if_neg (by omega)]

/-- What is taken from the lines is taken from all stretches between the ends of lines, if an empty
one behind the last end gives nothing. -/
theorem filterMap_takeLines {α : Type} {found : List Bytes} {f : Bytes → Option α}
    (short : ∀ line ∈ found, line.length ≤ lineLimit) (empty : f [] = none) :
    (takeLines found).1.filterMap f = found.filterMap f := by
  fun_induction takeLines found with
  | case1 => rfl
  | case2 rest nothing =>
    rw [List.isEmpty_iff.1 nothing]
    simp [empty]
  | case3 rest _ long => exact absurd (short rest List.mem_cons_self) (Nat.not_le.2 long)
  | case4 => rfl
  | case5 line next rest long => exact absurd (short line List.mem_cons_self) (Nat.not_le.2 long)
  | case6 line next rest _ lines fault taken ih =>
    rw [taken] at ih
    rw [List.filterMap_cons, List.filterMap_cons, ih (List.forall_mem_cons.1 short).2]

theorem takeLines_subset {found : List Bytes} : (takeLines found).1 ⊆ found := by
  fun_induction takeLines found with
  | case1 | case2 | case3 | case5 => exact List.nil_subset _
  | case4 => exact List.Subset.refl _
  | case6 line next rest _ lines fault taken ih =>
    rw [taken] at ih
    exact List.cons_subset_cons _ ih

theorem splitOn_eq_stretches (stream : Bytes) :
    stream.splitOn 0x0A = stretches (· == 0x0A) stream := (stretches_eq_splitOnP _ _).symm

/-- A stream is read to its end exactly if no line is too long. -/
theorem linesOf_snd_eq_none_iff {stream : Bytes} :
    (linesOf stream).2 = none ↔ ∀ line ∈ stream.splitOn 0x0A, line.length ≤ lineLimit := by
  rw [linesOf, takeLines_snd_eq_none_iff, splitOn_eq_stretches]

/-! ## Reading piece by piece -/

/-- A reader of lines between two pieces of a stream: what has come of the line under way, and what
was made of the lines before it. -/
structure LineReader (σ : Type) where
  begun : Bytes
  made : σ

namespace LineReader

variable {σ : Type} (take : σ → Bytes → σ)

/-- One more octet. The end of a line is taken together with the line. -/
def octet (r : LineReader σ) (b : UInt8) : LineReader σ :=
  if b = 0x0A then ⟨[], take r.made (r.begun ++ [b])⟩ else ⟨r.begun ++ [b], r.made⟩

/-- One more piece of the stream. -/
def piece (r : LineReader σ) (octets : Bytes) : LineReader σ := octets.foldl (octet take) r

/-- What is made of the whole stream at its end, which ends the line under way as well, if there is
one. -/
def close (r : LineReader σ) : σ := if r.begun = [] then r.made else take r.made r.begun

variable {take} (blind : ∀ made line, take made (line ++ [0x0A]) = take made line)
include blind

/-- The octets behind those that have come complete the line under way, and give the lines behind
it. -/
theorem close_foldl_octet {octets first : Bytes} {others : List Bytes} {r : LineReader σ}
    (found : stretches (· == 0x0A) octets = first :: others)
    (short : ∀ line ∈ (r.begun ++ first) :: others, line.length ≤ lineLimit) :
    (octets.foldl (octet take) r).close take =
      (takeLines ((r.begun ++ first) :: others)).1.foldl take r.made := by
  induction octets generalizing first others r with
  | nil =>
    obtain ⟨rfl, rfl⟩ := List.cons.inj (show [[]] = first :: others from found)
    have fits := Nat.not_lt.2 (short _ List.mem_cons_self)
    rw [List.append_nil] at fits ⊢
    by_cases empty : r.begun = []
    · simp [close, takeLines, empty]
    · simp [close, takeLines, empty, fits]
  | cons b rest ih =>
    obtain ⟨next, more, behind⟩ := exists_stretches_eq_cons (· == 0x0A) rest
    rw [stretches_cons, behind, addToStretches] at found
    by_cases ends : b = 0x0A
    case pos =>
      rw [if_pos (beq_iff_eq.2 ends)] at found
      obtain ⟨rfl, rfl⟩ := List.cons.inj found
      have fits := Nat.not_lt.2 (short _ List.mem_cons_self)
      have later := ih (r := ⟨[], take r.made (r.begun ++ [b])⟩) behind (List.forall_mem_cons.1 short).2
      rw [List.foldl_cons, octet, if_pos ends, later, ends, blind]
      rw [List.append_nil] at fits ⊢
      simp [takeLines, fits]
    case neg =>
      rw [if_neg (by simpa using ends)] at found
      obtain ⟨rfl, rfl⟩ := List.cons.inj found
      have joined : r.begun ++ b :: next = r.begun ++ [b] ++ next := by simp
      rw [joined] at short ⊢
      rw [List.foldl_cons, octet, if_neg ends]
      exact ih (r := ⟨r.begun ++ [b], r.made⟩) behind short

/-- **A reader goes through the lines of a stream, however the stream is cut into pieces.** -/
theorem close_pieces {stream : Bytes} (short : ∀ line ∈ stream.splitOn 0x0A, line.length ≤ lineLimit)
    {pieces : List Bytes} (whole : pieces.flatten = stream) (made : σ) :
    (pieces.foldl (piece take) ⟨[], made⟩).close take = (linesOf stream).1.foldl take made := by
  have same : pieces.foldl (piece take) ⟨[], made⟩ = stream.foldl (octet take) ⟨[], made⟩ := by
    rw [← whole, List.foldl_flatten]
    rfl
  obtain ⟨first, others, found⟩ := exists_stretches_eq_cons (· == 0x0A) stream
  rw [splitOn_eq_stretches, found] at short
  rw [same, close_foldl_octet blind found (r := ⟨[], made⟩) short, linesOf, found]
  rfl

end LineReader

end Splice.Engine
