import Splice.Problem
import Splice.Text.Separated

/-!
# The lines of a stream

What a rendering writes is read line by line. A line may only be so long: one that is longer is a
fault, and then nothing behind it is read. The end of the stream ends the last line, unless nothing
stands in it.
-/

namespace Splice.Engine

/-- The most octets of a line, its end not counted. -/
def lineLimit : Nat := 65536

/-- The lines before the first that is too long, and the fault if there is such a line. The last of
the stretches is what stands behind the last end of a line. -/
def takeLines : List Bytes → List Bytes × Option Fault
  | [] => ([], none)
  | [rest] =>
    if rest.isEmpty then ([], none)
    else if lineLimit < rest.length then ([], some (.longLine false))
    else ([rest], none)
  | line :: next :: rest =>
    if lineLimit < line.length then ([], some (.longLine true))
    else
      let (lines, fault) := takeLines (next :: rest)
      (line :: lines, fault)

/-- No line that is read is too long. -/
theorem length_le_of_mem_takeLines {found : List Bytes} {line : Bytes}
    (h : line ∈ (takeLines found).1) : line.length ≤ lineLimit := by
  fun_induction takeLines found with
  | case1 => simp at h
  | case2 => simp at h
  | case3 => simp at h
  | case4 rest _ fits =>
    obtain rfl : line = rest := by simpa using h
    exact Nat.le_of_not_lt fits
  | case5 => simp at h
  | case6 first next rest fits lines fault taken ih =>
    rcases List.mem_cons.1 h with rfl | behind
    · exact Nat.le_of_not_lt fits
    · exact ih (by rw [taken]; exact behind)

/-- A fault stops the reading exactly if some line is too long. -/
theorem takeLines_snd_eq_none_iff {found : List Bytes} :
    (takeLines found).2 = none ↔ ∀ line ∈ found, line.length ≤ lineLimit := by
  fun_induction takeLines found with
  | case1 => simp
  | case2 rest empty => simp [List.isEmpty_iff.1 empty]
  | case3 rest _ long => simp [long]
  | case4 rest _ fits => simp [Nat.le_of_not_lt fits]
  | case5 first next rest long =>
    simp only [reduceCtorEq, false_iff]
    exact fun fit => Nat.not_le_of_lt long (fit first List.mem_cons_self)
  | case6 first next rest fits lines fault taken ih =>
    rw [taken] at ih
    simp only [List.forall_mem_cons, Nat.le_of_not_lt fits, true_and] at ih ⊢
    exact ih

/-- The lines of a stream without their ends, as far as they are read, and the fault that stopped
the reading if it was stopped. -/
def linesOf (stream : Bytes) : List Bytes × Option Fault :=
  takeLines (stretches (· == 0x0A) stream)

end Splice.Engine
