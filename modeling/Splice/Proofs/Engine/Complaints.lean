import Mathlib.Data.List.DropRight
import Splice.Proofs.Engine.Lines
import Splice.Proofs.Engine.Stopping

/-!
# What a failed rendering complains about

The remarks of a child are the lines of its complaints that are not blank, without blanks at their
ends (`Engine.remarks`). They come one after the other, and only the last ones are kept: one remark
more leaves the last of all that have come so far (`Recent.items_push_eq_rtake`), and so do all of a
stream (`Engine.tail_eq`), in whatever pieces it comes (`Engine.heard_eq`).

Main statement: a rendering fails with a report of the engine exactly if its child ended with a status
other than 0 and nothing was to stop it, and the details of the report are the last forty remarks, or
else the status (`Engine.render_complains`).
-/

namespace Splice

/-! ## The last of what came -/

namespace Recent

variable {α : Type} {room : Nat} {r : Recent α room} {all : List α}

/-- If the last of all that came are kept, they are so when one more has come. -/
theorem items_push_eq_rtake (h : r.items = all.rtake room) (a : α) :
    (r.push a).items = (all ++ [a]).rtake room := by
  have length : r.items.length = min room all.length := by
    rw [h, List.rtake, List.length_drop]
    omega
  rw [items_push]
  split
  case isTrue more =>
    have fits : all.length < room := by omega
    have fitting : (all ++ [a]).length ≤ room := by simpa using Nat.succ_le_of_lt fits
    rw [h, List.rtake, List.rtake, Nat.sub_eq_zero_of_le fits.le, Nat.sub_eq_zero_of_le fitting,
      List.drop_zero, List.drop_zero]
  case isFalse full =>
    have many : room ≤ all.length := by omega
    rw [h, List.rtake, List.rtake, ← List.drop_append_of_le_length (Nat.sub_le _ _), List.tail_drop,
      List.length_append, List.length_singleton, Nat.sub_add_comm many]

theorem items_foldl_push (h : r.items = all.rtake room) (items : List α) :
    (items.foldl push r).items = (all ++ items).rtake room := by
  induction items generalizing r all with
  | nil => rw [List.append_nil, ← h, List.foldl_nil]
  | cons a rest ih =>
    rw [List.foldl_cons, ih (items_push_eq_rtake h a), List.append_assoc, List.singleton_append]

end Recent

/-! ## Blanks at the end -/

namespace Text

theorem trimEnd_eq_empty_iff {text : String} : trimEnd text = "" ↔ allBlank text = true := by
  rw [trimEnd, String.ofList_eq_empty_iff, dropEndWhile, List.reverse_eq_nil_iff,
    List.dropWhile_eq_nil_iff, allBlank, List.all_eq_true]
  simp

/-- A blank at the end makes no difference. -/
theorem trimEnd_append_blank (text : String) {c : Char} (blank : isBlank c = true) :
    trimEnd (text ++ String.ofList [c]) = trimEnd text := by
  rw [trimEnd, trimEnd, String.toList_append, String.toList_ofList, dropEndWhile,
    List.reverse_append, List.reverse_singleton, List.singleton_append,
    List.dropWhile_cons_of_pos blank]
  rfl

end Text

namespace Engine

open Watch (moments exit? causes)

/-! ## Remarks -/

/-- The remarks in a stream: its lines that are not blank, without blanks at their ends. -/
def remarks (stream : Bytes) : List String :=
  (((stream.splitOn 0x0A).map Utf8.lossy).filter fun text => !Text.allBlank text).map Text.trimEnd

/-- The remark that a line is, if it is one. -/
def remark? (line : Bytes) : Option String :=
  if !Text.allBlank (Utf8.lossy line) then some (Text.trimEnd (Utf8.lossy line)) else none

theorem remarks_eq (stream : Bytes) : remarks stream = (stream.splitOn 0x0A).filterMap remark? := by
  rw [remarks, ← List.filterMap_eq_map, List.filterMap_filter, List.filterMap_map]
  rfl

theorem note_eq (kept : Recent String complaintLines) (line : Bytes) :
    note kept line = (remark? line).elim kept kept.push := by
  unfold note remark?
  by_cases blank : Text.allBlank (Utf8.lossy line) = true
  · simp [blank, Text.trimEnd_eq_empty_iff.2 blank]
  · have solid := mt Text.trimEnd_eq_empty_iff.1 blank
    simp [blank, solid]

/-- What is kept in the end are the last remarks. -/
theorem tail_eq {stream : Bytes} (short : ∀ line ∈ stream.splitOn 0x0A, line.length ≤ lineLimit) :
    tail stream = (remarks stream).rtake complaintLines := by
  have blank : remark? [] = none := by decide +kernel
  have pushed : (linesOf stream).1.foldl note .empty = (remarks stream).foldl Recent.push .empty := by
    rw [splitOn_eq_stretches] at short
    rw [remarks_eq, splitOn_eq_stretches, ← filterMap_takeLines short blank, List.foldl_filterMap]
    refine congrFun (congrFun (congrArg List.foldl ?_) _) _
    funext kept line
    rw [note_eq]
    cases remark? line <;> rfl
  have start : (Recent.empty : Recent String complaintLines).items = [].rtake complaintLines := rfl
  rw [tail, pushed, Recent.items_foldl_push start, List.nil_append]

/-- Whether the end of a line is noted with the line makes no difference. -/
theorem note_append_end (kept : Recent String complaintLines) (line : Bytes) :
    note kept (line ++ [0x0A]) = note kept line := by
  have ended : Utf8.lossy (line ++ [0x0A]) = Utf8.lossy line ++ String.ofList ['\n'] :=
    Utf8.lossy_concat_of_lt line (by decide)
  unfold note
  rw [ended, Text.trimEnd_append_blank _ (by decide)]

/-- What is kept of a stream that comes in pieces. -/
def heard (pieces : List Bytes) : List String :=
  ((pieces.foldl (LineReader.piece note) ⟨[], .empty⟩).close note).items

/-- In whatever pieces a stream comes, its last remarks are kept. -/
theorem heard_eq {pieces : List Bytes}
    (short : ∀ line ∈ pieces.flatten.splitOn 0x0A, line.length ≤ lineLimit) :
    heard pieces = (remarks pieces.flatten).rtake complaintLines := by
  rw [heard, LineReader.close_pieces note_append_end short rfl]
  exact tail_eq short

/-- What is reported are the last remarks, or the status if there are none. -/
theorem complaints_eq {stderr : Bytes} (status : Int)
    (short : ∀ line ∈ stderr.splitOn 0x0A, line.length ≤ lineLimit) :
    complaints stderr status =
      if remarks stderr = [] then s!"FFmpeg exited with status {status}"
      else "\n".intercalate ((remarks stderr).rtake complaintLines) := by
  rw [complaints, tail_eq short]
  by_cases silent : remarks stderr = []
  · simp [silent]
  · rw [if_neg silent]
    split
    case h_1 none =>
      have many := List.length_pos_iff.2 silent
      have room : 0 < complaintLines := by decide
      have length := congrArg List.length none
      rw [List.rtake, List.length_drop, List.length_nil] at length
      omega
    case h_2 => rfl

/-! ## Renderings that fail -/

/-- Of all endings only that of a child by itself is reported as one of the engine. -/
theorem exists_ended_of_conclusion {output : String} {stderr : Bytes} {ending : Ending}
    {problem : Problem} (failed : conclusion output stderr none ending = .error (.problem problem))
    (blamed : problem.report.kind = .engine) : ∃ status, ending = .ended status ∧ status ≠ 0 := by
  cases ending with
  | ended status =>
    refine ⟨status, rfl, fun fine => ?_⟩
    rw [conclusion, outcome, if_pos fine] at failed
    cases failed
  | stopped reason =>
    cases reason <;> cases failed
    cases blamed
  | abandoned => cases failed

/-- What a rendering comes to whose streams can be read. -/
theorem fst_run_render {e : Engine} {plan : Plan} {locations : String → Option String}
    {output : String} {attendance : Attendance} {w begun : World} {argv : List String} {life : Life}
    (written : plan.command locations output e.binary true = .ok argv)
    (started : w.start argv output = (.ok life, begun))
    (readable : Progress.Readable plan.nominalDuration life.stdout)
    (calm : (linesOf life.stderr).2 = none) :
    (w.run (render e plan locations output attendance).run).1 =
      conclusion output life.stderr none
        (Watch.waiting.course attendance.asks life.status life.beats).2 := by
  rw [run_render_of_started attendance written started, run_attend, run_conclude,
    unread_eq_none readable calm]

/-- **A failed rendering is reported with the last forty remarks of its child.** If the progress can be
read and no line of complaint is too long, a rendering fails with a report of the engine exactly if its
child ended with a status other than 0 and nothing came up to stop it. The details of the report are
the last forty of the lines of complaint that are not blank, in their order and without blanks at their
ends; if all are blank, they are the status. In whatever pieces the complaints come, these lines are
what is kept of them in the end. -/
theorem render_complains (e : Engine) {plan : Plan} (locations : String → Option String)
    {output : String} (attendance : Attendance) {w begun : World} {argv : List String} {life : Life}
    (written : plan.command locations output e.binary true = .ok argv)
    (started : w.start argv output = (.ok life, begun))
    (readable : Progress.Readable plan.nominalDuration life.stdout)
    (short : ∀ line ∈ life.stderr.splitOn 0x0A, line.length ≤ lineLimit) :
    let past := moments attendance.asks life
    let outcome := (w.run (render e plan locations output attendance).run).1
    let said := remarks life.stderr
    (∀ status, exit? past = some status → causes past = [] → status ≠ 0 →
      ∃ problem, outcome = .error (.problem problem) ∧
        problem.report = ⟨.engine, "Video processing failed", some
          (if said = [] then s!"FFmpeg exited with status {status}"
            else "\n".intercalate (said.rtake 40))⟩) ∧
    (∀ problem, outcome = .error (.problem problem) → problem.report.kind = .engine →
      ∃ status, exit? past = some status ∧ causes past = [] ∧ status ≠ 0) ∧
    ∀ pieces, pieces.flatten = life.stderr → heard pieces = said.rtake 40 := by
  intro past outcome said
  have came : outcome = _ :=
    fst_run_render written started readable (linesOf_snd_eq_none_iff.2 short)
  refine ⟨fun status ended uncaused failed => ?_, fun problem reported blamed => ?_, ?_⟩
  · have closed := Watch.course_eq_ended_iff.2 ⟨ended, uncaused⟩
    rw [closed, conclusion, Engine.outcome, if_neg failed, complaints_eq status short] at came
    exact ⟨_, came, rfl⟩
  · obtain ⟨status, closed, failed⟩ := exists_ended_of_conclusion (came ▸ reported) blamed
    obtain ⟨ended, uncaused⟩ := Watch.course_eq_ended_iff.1 closed
    exact ⟨status, ended, uncaused, failed⟩
  · intro pieces whole
    rw [← whole] at short
    rw [heard_eq short, whole]
    rfl

/-- A child that says one thing too many, the last of it without an end and not well formed, and is
killed. -/
theorem render_complains_forty_one :
    let life : Life := ⟨Bytes.ofNumbers "out_time_ms=5000000\nprogress=end\n",
      Bytes.ofNumbers "lost\n" ++ (List.replicate 39 (Bytes.ofNumbers "again \r\n")).flatten ++
        Bytes.ofNumbers " \t\n" ++ [0xFF],
      [.quiet, .quiet, ⟨some (-9), false, false⟩], 0⟩
    let w : World := ⟨⟨⟨[]⟩, 0.0, 0⟩, ⟨⟨true, .error .notFound, fun _ => .error .notFound,
      .error .notFound, .ok ⟨none, life⟩, true⟩, .never, []⟩⟩
    let plan : Plan := ⟨[], [], "vout", none, [], 10.0, "mp4"⟩
    let e : Engine := ⟨"ffmpeg", "ffprobe", .standard "data" "uploads" "output"⟩
    let last := List.replicate 39 "again" ++ ["\uFFFD"]
    remarks life.stderr = "lost" :: last ∧
      (∃ problem, (w.run (render e plan (fun _ => none) "out.mp4" ⟨true, true⟩).run).1 =
          .error (.problem problem) ∧
        problem.report.details = some ("\n".intercalate last)) ∧
      heard [life.stderr.take 100, life.stderr.drop 100] = last := by
  intro life w plan e last
  obtain ⟨argv, written⟩ : ∃ argv, plan.command (fun _ => none) "out.mp4" e.binary true = .ok argv :=
    ⟨_, rfl⟩
  obtain ⟨complains, -, kept⟩ := render_complains e (fun _ => none) ⟨true, true⟩ written
    (show w.start argv "out.mp4" = (.ok life, w.noting (.started argv)) from rfl)
    (Progress.reports_snd_eq_none_iff.1 (by decide +kernel)) (by decide +kernel)
  have said : remarks life.stderr = "lost" :: last := by decide +kernel
  have forty : (remarks life.stderr).rtake 40 = last := by rw [said]; rfl
  obtain ⟨problem, failed, report⟩ := complains (-9) rfl rfl (by decide)
  refine ⟨said, ⟨problem, failed, ?_⟩, ?_⟩
  · rw [report, said, if_neg (List.cons_ne_nil _ _), ← said, forty]
  · rw [kept _ (by rw [List.flatten_cons, List.flatten_singleton, List.take_append_drop]), forty]

/-- A child that says nothing: its status is what there is to report. -/
example : complaints (Bytes.ofNumbers " \n\n\t") 1 = "FFmpeg exited with status 1" := by
  decide +kernel

end Engine

end Splice
