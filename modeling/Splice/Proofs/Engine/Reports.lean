import Mathlib.Data.List.Destutter
import Splice.Proofs.Engine.Percentages
import Splice.Proofs.Engine.Stopping
import Splice.Proofs.Surroundings.Otherwise

/-!
# What the listener is told

The lines that a child writes give percentages. The listener is told them in their order, and of
equal ones in a row only the first (`Progress.reports_eq`). That it refuses what it is told makes no
difference to what it is told next: no rendering heeds the answer to a report
(`Engine.heedless_render`).

If the positions in the lines never go back, the percentages do not either, since each step from a
position to its percentage is monotone (`Progress.percentage_mono`); without repeats they increase.

Main statement: `Engine.render_reports`.
-/

namespace Splice

/-! ## The sequence of reports -/

namespace Progress

variable {total last : Float} {lines : List String}

/-- The percentage that a line gives, if it is read and gives one. -/
def given? (total : Float) (line : String) : Option Float :=
  match ofLine total line with
  | .ok percent => percent
  | .error _ => none

theorem given?_of_ofLine {line : String} {given : Option Float}
    (found : ofLine total line = .ok given) : given? total line = given := by
  unfold given?
  rw [found]

/-- A percentage is not the one that was reported last. -/
def IsNews (last percent : Float) : Prop := (percent == last) = false

instance (last percent : Float) : Decidable (IsNews last percent) :=
  inferInstanceAs (Decidable (_ = false))

/-- Percentages with only the first one left of equal ones in a row. -/
def withoutRepeats (percents : List Float) : List Float := percents.destutter IsNews

/-- What is reported behind a percentage differs from the one before, and is otherwise all that the
lines give. -/
theorem cons_reportsAfter (parsed : ∀ line ∈ lines, (ofLine total line).isOk) :
    last :: (reportsAfter total last lines).1 =
      (lines.filterMap (given? total)).destutter' IsNews last := by
  fun_induction reportsAfter total last lines with
  | case1 => rfl
  | case2 last line rest fault found =>
    have read := parsed line List.mem_cons_self
    rw [found] at read
    cases read
  | case3 last line rest found ih =>
    rw [List.filterMap_cons_none (given?_of_ofLine found), ih (List.forall_mem_cons.1 parsed).2]
  | case4 last line rest percent found same ih =>
    rw [List.filterMap_cons_some (given?_of_ofLine found),
      List.destutter'_cons_neg _ (by simp [IsNews, same]), ih (List.forall_mem_cons.1 parsed).2]
  | case5 last line rest first found other later fault taken ih =>
    rw [List.filterMap_cons_some (given?_of_ofLine found),
      List.destutter'_cons_pos _ (by simpa [IsNews] using other),
      ← ih (List.forall_mem_cons.1 parsed).2, taken]

open Binary64 in
theorem isNews_start {percent : Float} (h : InRange percent) : IsNews (-1.0) percent := by
  obtain ⟨a, zero, b, place, le⟩ := float_le_level.1 h.1
  rw [level_of_value? value?_zero] at zero
  cases zero
  rw [IsNews, ← Bool.not_eq_true, float_beq_iff_of_level place (level_of_value? value?_minusOne)]
  linarith

theorem inRange_of_given? {line : String} {percent : Float} (h : given? total line = some percent) :
    InRange percent := by
  unfold given? at h
  split at h
  case h_1 found =>
    subst h
    exact inRange_of_ofLine found
  case h_2 => cases h

/-- Nothing is reported before the first line, so the first percentage is news. -/
theorem reportsAfter_start (parsed : ∀ line ∈ lines, (ofLine total line).isOk) :
    (reportsAfter total (-1.0) lines).1 = withoutRepeats (lines.filterMap (given? total)) := by
  have whole : -1.0 :: (reportsAfter total (-1.0) lines).1 =
      (lines.filterMap (given? total)).destutter' IsNews (-1.0) := cons_reportsAfter parsed
  unfold withoutRepeats
  cases found : lines.filterMap (given? total) with
  | nil =>
    rw [found] at whole
    exact List.tail_eq_of_cons_eq whole
  | cons first rest =>
    obtain ⟨line, -, given⟩ := List.mem_filterMap.1 (found ▸ List.mem_cons_self)
    rw [found, List.destutter'_cons_pos _ (isNews_start (inRange_of_given? given))] at whole
    exact List.tail_eq_of_cons_eq whole

end Progress

/-! ## Lines -/

namespace Progress

/-- The texts between the ends of lines. -/
def textsOf (stdout : Bytes) : List String := (stdout.splitOn 0x0A).map Utf8.lossy

theorem given?_empty (total : Float) : given? total (Utf8.lossy []) = none := by
  have cut : Text.cutAt '=' (Text.trim (Utf8.lossy [])) = ("", "") := by decide +kernel
  simp [given?, ofLine, cut]

/-- **What is reported is what the lines give, one after the other, with only the first left of equal
ones in a row.** -/
theorem reports_eq {total : Float} {stdout : Bytes}
    (short : ∀ line ∈ stdout.splitOn 0x0A, line.length ≤ Engine.lineLimit)
    (parsed : ∀ text ∈ textsOf stdout, (ofLine total text).isOk) :
    (reports total stdout).1 = withoutRepeats ((textsOf stdout).filterMap (given? total)) := by
  have same := Engine.splitOn_eq_stretches stdout
  have given : ((Engine.linesOf stdout).1.map Utf8.lossy).filterMap (given? total) =
      (textsOf stdout).filterMap (given? total) := by
    rw [textsOf, List.filterMap_map, List.filterMap_map, same]
    exact Engine.filterMap_takeLines (same ▸ short) (given?_empty total)
  have read : (Engine.linesOf stdout).1.map Utf8.lossy ⊆ textsOf stdout := by
    rw [textsOf, same]
    exact List.map_subset _ Engine.takeLines_subset
  rw [← given]
  exact reportsAfter_start fun text mem => parsed text (read mem)

/-! ## Increasing percentages -/

/-- A line that stands at the end of the progress. -/
def Ends (line : String) : Prop := Text.cutAt '=' (Text.trim line) = ("progress", "end")

instance (line : String) : Decidable (Ends line) := instDecidableEqProd _ _

/-- The position that a line tells. -/
def told? (line : String) : Option Int :=
  let (key, value) := Text.cutAt '=' (Text.trim line)
  if key = "out_time_ms" then (Number.integerOfSetting value).toOption else none

theorem told?_eq_some_iff {line : String} {microseconds : Int} :
    told? line = some microseconds ↔ Tells line microseconds := by
  unfold told? Tells
  generalize Text.cutAt '=' (Text.trim line) = pair
  obtain ⟨key, value⟩ := pair
  by_cases timed : key = "out_time_ms"
  · cases read : Number.integerOfSetting value <;> simp [timed, read, Except.toOption]
  · simp [timed]

/-- A line that gives a percentage is the end, or tells a position. -/
theorem given?_cases {total percent : Float} {line : String} (h : given? total line = some percent) :
    (Ends line ∧ percent = 100.0) ∨
      ∃ microseconds, Tells line microseconds ∧ percentage microseconds total = .ok percent := by
  unfold given? ofLine at h
  unfold Ends Tells
  dsimp only at h
  generalize Text.cutAt '=' (Text.trim line) = pair at h
  obtain ⟨key, value⟩ := pair
  by_cases finished : key = "progress" ∧ value = "end"
  · simp only [finished, beq_self_eq_true, Bool.and_self, if_true] at h
    exact .inl ⟨by rw [finished.1, finished.2], (Option.some.inj h).symm⟩
  · rw [if_neg (by simpa using finished)] at h
    by_cases none : (key != "out_time_ms" || decide (total ≤ 0.0)) = true
    · rw [if_pos none] at h
      cases h
    · rw [if_neg none] at h
      have timed : key = "out_time_ms" := by
        simp only [Bool.or_eq_true, bne_iff_ne, not_or, not_not] at none
        exact none.1
      cases read : Number.integerOfSetting value with
      | error refusal =>
        rw [read] at h
        cases h
      | ok microseconds =>
        rw [read] at h
        dsimp only at h
        refine .inr ⟨microseconds, ⟨timed, rfl⟩, ?_⟩
        cases found : percentage microseconds total with
        | error fault =>
          rw [found] at h
          cases h
        | ok p =>
          rw [found] at h
          cases h
          rfl

/-- If positions never go back and nothing is told behind the end, no percentage is smaller than one
before it. -/
theorem pairwise_given {total : Float} (positive : 0 < total) {lines : List String}
    (forward : (lines.filterMap told?).Pairwise (· ≤ ·))
    (last : lines.Pairwise fun earlier later => Ends earlier → given? total later = none) :
    (lines.filterMap (given? total)).Pairwise (· ≤ ·) := by
  rw [List.pairwise_filterMap] at forward ⊢
  refine (forward.and last).imp fun {earlier later} order p first q second => ?_
  rcases given?_cases first with ⟨ends, -⟩ | ⟨μ, tells, found⟩
  · rw [order.2 ends] at second
    cases second
  · rcases given?_cases second with ⟨-, rfl⟩ | ⟨ν, tells', found'⟩
    · exact (inRange_of_given? first).2
    · exact percentage_mono positive found found'
        (order.1 μ (told?_eq_some_iff.2 tells) ν (told?_eq_some_iff.2 tells'))

open Binary64 in
theorem float_lt_of_isNews {last percent : Float} (le : last ≤ percent)
    (news : IsNews last percent) : last < percent := by
  obtain ⟨a, first, b, second, less⟩ := float_le_level.1 le
  rw [IsNews, ← Bool.not_eq_true, float_beq_iff_of_level second first] at news
  exact (float_lt_iff_of_level first second).2 (lt_of_le_of_ne less (Ne.symm news))

theorem isChain_lt {percents : List Float} (h : percents.IsChain (· ≤ ·))
    (news : percents.IsChain IsNews) : percents.IsChain (· < ·) := by
  induction h with
  | nil => exact .nil
  | singleton percent => exact .singleton percent
  | cons_cons le _ ih =>
    rw [List.isChain_cons_cons] at news
    exact .cons_cons (float_lt_of_isNews le news.1) (ih news.2)

/-- Of percentages that never become smaller those that are reported increase. -/
theorem pairwise_withoutRepeats {percents : List Float} (h : percents.Pairwise (· ≤ ·)) :
    (withoutRepeats percents).Pairwise (· < ·) := by
  have : Trans (α := Float) (· < ·) (· < ·) (· < ·) := ⟨Binary64.float_lt_trans⟩
  exact (isChain_lt (h.sublist (List.destutter_sublist _ _)).isChain
    (List.isChain_destutter _ _)).pairwise

end Progress

/-! ## Listeners that refuse -/

/-- The world in which a listener takes what it is told or not, as it likes: that may depend on
everything that happened before. -/
def World.heard (takes : World → Float → Bool) : Surroundings World
  | w, .report percent => (takes w percent, w.noting (.reported percent))
  | w, op => w.perform op

/-- A job for which it makes no difference whether a report was taken. -/
inductive Job.Heedless {α : Type} : Job α → Prop
  | done (a : α) : Heedless (.done a)
  | report {percent : Float} {next : Bool → Job α} (same : next true = next false)
      (later : ∀ taken, Heedless (next taken)) : Heedless (.ask (.report percent) next)
  | ask {op : Operation} {next : op.Answer → Job α} (other : ∀ percent, op ≠ .report percent)
      (later : ∀ answer, Heedless (next answer)) : Heedless (.ask op next)

namespace Job

variable {α β : Type} {job : Job α}

/-- A listener that refuses what it is told changes nothing for a job that does not heed it. -/
theorem Heedless.runIn_heard (h : job.Heedless) (takes : World → Float → Bool) (w : World) :
    job.runIn (World.heard takes) w = w.run job := by
  induction h generalizing w with
  | done a => rfl
  | @report percent next same later ih =>
    have either : next (takes w percent) = next w.own.engine.listens := by
      cases takes w percent <;> cases w.own.engine.listens <;> simp [same]
    show (next (takes w percent)).runIn _ (w.noting (.reported percent)) = _
    rw [ih, either]
    rfl
  | @ask op next other later ih =>
    have answered : World.heard takes w op = w.perform op := by
      cases op with
      | report percent => exact absurd rfl (other percent)
      | _ => rfl
    rw [runIn, answered, ih]
    rfl

theorem Heedless.bind (h : job.Heedless) {f : α → Job β} (next : ∀ a, (f a).Heedless) :
    (job >>= f).Heedless := by
  induction h with
  | done a => exact next a
  | report same _ ih => exact .report (congrArg (Job.bind · f) same) ih
  | ask other _ ih => exact .ask other ih

theorem Unconcerned.heedless (h : job.Unconcerned) : job.Heedless := by
  induction h with
  | done a => exact .done a
  | ask other _ ih => exact .ask (by rintro percent rfl; cases other) ih

end Job

namespace Act

variable {α β : Type}

theorem heedless_bind {act : Act α} {f : α → Act β} (h : act.run.Heedless)
    (next : ∀ a, (f a).run.Heedless) : (act >>= f).run.Heedless := by
  refine h.bind fun outcome => ?_
  cases outcome with
  | ok a => exact next a
  | error failure => exact .done _

end Act

namespace Engine

theorem heedless_tell (ops : List Operation) : (tell ops).run.Heedless := by
  induction ops with
  | nil => exact .done _
  | cons op rest ih =>
    cases op with
    | report percent => exact .report rfl fun _ => ih
    | _ => exact .ask nofun fun _ => ih

theorem heedless_attend (attendance : Attendance) (total : Float) (output : String) (life : Life) :
    (attend attendance total output life).run.Heedless := by
  rw [attend_eq]
  refine Act.heedless_bind ?_ fun _ => (unconcerned_settle _ _ _ _).heedless
  split
  · exact heedless_tell _
  · exact .done _

/-- No rendering heeds whether its reports are taken. -/
theorem heedless_render (e : Engine) (plan : Plan) (locations : String → Option String)
    (output : String) (attendance : Attendance) :
    (render e plan locations output attendance).run.Heedless := by
  unfold render
  cases plan.command locations output e.binary true with
  | error fault => exact .done _
  | ok argv =>
    refine .ask nofun fun answer => ?_
    cases answer with
    | error error => exact .done _
    | ok life => exact heedless_attend _ _ _ _

/-- **The listener is told what the lines give, one after the other.** If the lines of what the child
writes can be read, and there is a length to compare positions with, the reports of a rendering are
the percentages that the lines give, with only the first left of equal ones in a row, whatever the
listener does with them. All of them are percentages; and if the positions never go back, and
nothing is told behind the end, they increase. -/
theorem render_reports (e : Engine) {plan : Plan} (locations : String → Option String)
    {output : String} {attendance : Attendance} {w begun : World} {argv : List String} {life : Life}
    (listened : attendance.listened = true)
    (written : plan.command locations output e.binary true = .ok argv)
    (started : w.start argv output = (.ok life, begun))
    (positive : 0 < plan.nominalDuration)
    (short : ∀ line ∈ life.stdout.splitOn 0x0A, line.length ≤ lineLimit)
    (parsed : ∀ text ∈ Progress.textsOf life.stdout,
      (Progress.ofLine plan.nominalDuration text).isOk) :
    let texts := Progress.textsOf life.stdout
    let told := Progress.withoutRepeats (texts.filterMap (Progress.given? plan.nominalDuration))
    (∀ takes, ∃ signals : List Signal,
      ((render e plan locations output attendance).run.runIn (World.heard takes) w).2.own.record =
        begun.own.record ++ told.map .reported ++ signals.map .signalled) ∧
    (∀ percent ∈ told, Progress.InRange percent) ∧
    ((texts.filterMap Progress.told?).Pairwise (· ≤ ·) →
      (texts.Pairwise fun earlier later => Progress.Ends earlier →
        Progress.given? plan.nominalDuration later = none) →
      told.Pairwise (· < ·)) := by
  intro texts told
  have reports : (Progress.reports plan.nominalDuration life.stdout).1 = told :=
    Progress.reports_eq short parsed
  refine ⟨fun takes => ?_, fun percent mem => ?_, fun forward last => ?_⟩
  · refine ⟨(Watch.waiting.course attendance.asks life.status life.beats).1, ?_⟩
    rw [(heedless_render e plan locations output attendance).runIn_heard takes w,
      run_render_of_started attendance written started, run_attend, run_conclude, reported,
      if_pos listened, reports, List.append_assoc]
    rfl
  · exact Progress.mem_reports (reports ▸ mem)
  · exact Progress.pairwise_withoutRepeats (Progress.pairwise_given positive forward last)

/-- Two positions, the first of them twice, and the end; the listener refuses everything. -/
theorem render_reports_quarter :
    let life : Life := ⟨Bytes.ofNumbers
      "out_time_ms=2500000\nout_time_ms=2500000\nfps=25\nout_time_ms=5000000\nprogress=end\n",
      [], [], 0⟩
    let w : World := ⟨⟨⟨[]⟩, 0.0, 0⟩, ⟨⟨true, .error .notFound, fun _ => .error .notFound,
      .error .notFound, .ok ⟨none, life⟩, true⟩, .never, []⟩⟩
    let plan : Plan := ⟨[], [], "vout", none, [], 10.0, "mp4"⟩
    let e : Engine := ⟨"ffmpeg", "ffprobe", .standard "data" "uploads" "output"⟩
    let told := Progress.withoutRepeats
      ((Progress.textsOf life.stdout).filterMap (Progress.given? 10.0))
    told = [25.0, 50.0, 100.0] ∧ told.Pairwise (· < ·) ∧
      ∃ argv, ∃ signals : List Signal,
        ((render e plan (fun _ => none) "out.mp4" ⟨true, false⟩).run.runIn
          (World.heard fun _ _ => false) w).2.own.record =
            [.started argv] ++ told.map .reported ++ signals.map .signalled := by
  intro life w plan e told
  obtain ⟨argv, written⟩ : ∃ argv, plan.command (fun _ => none) "out.mp4" e.binary true = .ok argv :=
    ⟨_, rfl⟩
  obtain ⟨record, -, increasing⟩ := render_reports e (fun _ => none)
    (show Attendance.listened ⟨true, false⟩ = true from rfl) written
    (show w.start argv "out.mp4" = (.ok life, w.noting (.started argv)) from rfl)
    (by decide) (by decide +kernel) (by decide +kernel)
  exact ⟨by decide +kernel, increasing (by decide +kernel) (by decide +kernel), argv,
    record fun _ _ => false⟩

end Engine

end Splice
