import Splice.Engine.Access
import Splice.Proofs.Engine.Stopping
import Splice.Proofs.Surroundings.Run

/-!
# What an engine does to files

An engine is *confined* if it writes nothing but the file that it is told to render
(`EngineAccess.Confined`); the engine of the two programs is (`Engine.confined_access`). It writes
that file when it starts, and so does a conversion. A rendering that fails removes it again, unless
it *gives up* on it (`Engine.GivesUp`): its child is left alone, or has ended but cannot be read to
the end.
-/

namespace Splice

open World Disk

/-! ## Worlds in which little was changed -/

/-- Whether nothing that jobs share was changed in between, and the programs behave as before. -/
structure World.Alike (w later : World) : Prop where
  shared : later.shared = w.shared
  engine : later.own.engine = w.own.engine

theorem World.Alike.refl (w : World) : Alike w w := ⟨rfl, rfl⟩

theorem World.Alike.trans {w between later : World} (first : Alike w between)
    (second : Alike between later) : Alike w later :=
  ⟨second.shared.trans first.shared, second.engine.trans first.engine⟩

/-- Whether no ids were given out in between, and no files changed but those at some places. -/
structure World.Writes (touched : Place → Prop) (w later : World) : Prop where
  given : later.shared.idsGiven = w.shared.idsGiven
  others : SameBut touched w.shared.disk later.shared.disk

/-- Whether no ids were given out in between, and no files changed. -/
abbrev World.Quiet (w later : World) : Prop := Writes (fun _ => False) w later

theorem World.Quiet.of_shared {w later : World} (same : later.shared = w.shared) :
    Quiet w later := by
  constructor <;> rw [same]
  exact .refl _

theorem World.Quiet.trans {w between later : World} (first : Quiet w between)
    (second : Quiet between later) : Quiet w later :=
  ⟨second.given.trans first.given, first.others.trans second.others⟩

/-- Whether a relation holds between the worlds before and after whatever is asked about files, and
is kept when one waits for it. -/
structure EngineAccess.Keeps (g : EngineAccess) (R : World → World → Prop) : Prop where
  refl (w : World) : R w w
  trans {w between later : World} : R w between → R between later → R w later
  await (w : World) : R w w.await.2
  isAvailable (w : World) : g.isAvailable.Ensures w fun _ later => R w later
  probe (path : String) (w : World) : (g.probe path).Ensures w fun _ later => R w later

/-- Whether an engine writes nothing but the file that it is told to render. -/
structure EngineAccess.Confined (g : EngineAccess) : Prop where
  isAvailable (w : World) : g.isAvailable.Ensures w fun _ later => Quiet w later
  probe (path : String) (w : World) : (g.probe path).Ensures w fun _ later => Quiet w later
  render (plan : Plan) (locations : String → Option String) (output : String)
    (attendance : Attendance) (w : World) :
    (g.render plan locations output attendance).Ensures w fun _ later =>
      Writes (w.shared.disk.place output = .ok ·) w later

theorem EngineAccess.Confined.keeps {g : EngineAccess} (confined : g.Confined) : g.Keeps Quiet where
  refl _ := .of_shared rfl
  trans := .trans
  await w := .of_shared (shared_await w)
  isAvailable := confined.isAvailable
  probe := confined.probe

/-! ## Programs that write a file -/

/-- What becomes of a disk when a program writes a file, if it writes one. -/
def Disk.Put (output : String) (content : Option Bytes) (before after : Disk) : Prop :=
  match content with
  | none => after = before
  | some bytes => ∃ p, before.place output = .ok p ∧ SameBut (· = p) before after ∧
      ∃ modified, after.at? p = some (.file bytes modified)

namespace Disk.Put

variable {output : String} {content : Option Bytes} {before after : Disk}
  (h : Put output content before after)
include h

theorem sameBut : SameBut (before.place output = .ok ·) before after := by
  cases content with
  | none =>
    rw [show after = before from h]
    exact .refl _
  | some bytes =>
    obtain ⟨p, leads, others, -⟩ := h
    exact others.mono fun q here => here ▸ leads

variable (new : ∀ p, before.place output = .ok p → before.at? p = none)
include new

/-- If nothing stood where the file goes, there is one file more, if one was written. -/
theorem more :
    More (fun _ => False) before after ∨
      content.isSome ∧ ∃ p, before.place output = .ok p ∧ More (· = p) before after := by
  cases content with
  | none =>
    rw [show after = before from h]
    exact .inl (.refl _)
  | some bytes =>
    obtain ⟨p, leads, others, file⟩ := h
    exact .inr ⟨rfl, p, leads, .of_sameBut (new p leads) ⟨bytes, file⟩ others⟩

/-- If nothing stood where the file goes, what is read there is what was written. -/
theorem content_eq {found : Bytes × Timestamp} (read : after.file output = .ok found) :
    content = some found.1 := by
  obtain ⟨q, there, standing⟩ := file_eq_ok_iff.1 read
  have leads := h.sameBut.place_iff.1 there
  cases content with
  | none =>
    rw [show after = before from h, new q leads] at standing
    cases standing
  | some bytes =>
    obtain ⟨p, leads', -, modified, put⟩ := h
    obtain rfl := Except.ok.inj (leads.symm.trans leads')
    cases put.symm.trans standing
    rfl

end Disk.Put

/-- What becomes of a world when a program writes a file, if it writes one. -/
structure World.Wrote (output : String) (content : Option Bytes) (w later : World) : Prop where
  since : Since 0 w later
  awaits : later.awaits = w.awaits
  put : Put output content w.shared.disk later.shared.disk

theorem World.written_cases (w : World) (output : String) (content : Option Bytes) :
    (∃ error, w.written output content = (.error error, w)) ∨
      ∃ later, w.written output content = (.ok (), later) ∧ Wrote output content w later := by
  cases content with
  | none => exact .inr ⟨w, rfl, .refl w, rfl, rfl⟩
  | some bytes =>
    unfold written
    dsimp only
    cases wrote : w.shared.disk.write output bytes w.stamp with
    | error kind => exact .inl ⟨_, rfl⟩
    | ok disk =>
      obtain ⟨p, leads, apart, rfl⟩ := write_eq_ok wrote
      exact .inr ⟨_, rfl, ⟨rfl, rfl, rfl⟩, rfl, p, leads, SameBut.set_file apart _ _, _,
        at?_set_file apart _ _⟩

theorem World.Wrote.of_noting {output : String} {content : Option Bytes} {w later : World}
    {event : Event} (h : Wrote output content (w.noting event) later) :
    Wrote output content w later :=
  ⟨⟨h.since.clock, h.since.given, h.since.engine⟩, h.awaits, h.put⟩

namespace Engine

variable {e : Engine}

theorem ensures_call {errand : Errand} {argv : List String} {w : World}
    {post : Except Failure Finished → World → Prop} :
    (call errand argv).Ensures w post ↔
      post ((w.call errand argv).1.mapError refused) (w.call errand argv).2 := by
  have answered : w.perform (.call errand argv) = w.call errand argv := rfl
  unfold call
  rw [Act.ensures_bind, Act.ensures_request, answered]
  cases (w.call errand argv).1 <;> rfl

/-- What is made of a finished program asks for nothing. -/
theorem silent_judge {α : Type} {fine : Prop} [Decidable fine] (outcome : Except Failure α)
    (words : Except Failure String) (problem : String → Problem) (w : World) :
    (w.run (ExceptT.run (if fine then Act.orFailure outcome else do
      let words ← Act.orFailure words
      throw (.problem (problem words))))).2 = w := by
  split
  · cases outcome <;> rfl
  · cases words <;> rfl

theorem ensures_probe (path : String) (w : World) :
    (e.probe path).Ensures w fun _ later => Alike w later :=
  Act.ensures_bind_of_silent (fun _ _ => silent_judge _ _ .probeFailed _)
    (ensures_call.2 ⟨rfl, rfl⟩)

/-- A conversion writes its file, if it writes one, whatever becomes of it. -/
theorem ensures_convert (input output : String) (isImage : Bool) (format : ClipFormat)
    (w : World) :
    (e.convert input output isImage format).Ensures w fun _ later =>
      Alike w later ∨ ∃ conversion, w.own.engine.convert = .ok conversion ∧
        Wrote output conversion.writes w later := by
  refine Act.ensures_bind_of_silent
    (fun finished => silent_judge (.ok output) _ .conversionFailed) (ensures_call.2 ?_)
  generalize e.binary :: (if isImage then e.pictureArgs input format else e.videoArgs input format)
    ++ [output, "-y"] = argv
  have engine : (w.noting (.called (.convert output) argv)).own.engine = w.own.engine := rfl
  unfold World.call
  dsimp only
  rw [engine]
  cases w.own.engine.convert with
  | error kind => exact .inl ⟨rfl, rfl⟩
  | ok conversion =>
    dsimp only
    rcases (w.noting (.called (.convert output) argv)).written_cases output conversion.writes with
      ⟨error, refused⟩ | ⟨later, ran, wrote⟩
    · rw [refused]
      exact .inl ⟨rfl, rfl⟩
    · rw [ran]
      exact .inr ⟨conversion, rfl, wrote.of_noting⟩

/-! ## Renderings -/

theorem start_cases (w : World) (argv : List String) (output : String) :
    (∃ error later, w.start argv output = (.error error, later) ∧ Alike w later) ∨
      ∃ rendering later, w.own.engine.render = .ok rendering ∧
        w.start argv output = (.ok rendering.life, later) ∧
        Wrote output rendering.writes w later := by
  have engine : (w.noting (.started argv)).own.engine = w.own.engine := rfl
  unfold World.start
  dsimp only
  rw [engine]
  cases w.own.engine.render with
  | error kind => exact .inl ⟨_, _, rfl, ⟨rfl, rfl⟩⟩
  | ok rendering =>
    dsimp only
    rcases (w.noting (.started argv)).written_cases output rendering.writes with
      ⟨error, refused⟩ | ⟨later, ran, wrote⟩
    · rw [refused]
      exact .inl ⟨error, _, rfl, ⟨rfl, rfl⟩⟩
    · rw [ran]
      exact .inr ⟨rendering, later, rfl, rfl, wrote.of_noting⟩

/-- A rendering that is started writes its file, if it writes one, and then concludes from how its
watching ends. -/
theorem run_render_cases (e : Engine) (plan : Plan) (locations : String → Option String)
    (output : String) (attendance : Attendance) (w : World) :
    (∃ failure later, w.run (e.render plan locations output attendance).run =
        (.error failure, later) ∧ Alike w later) ∨
      ∃ rendering begun later, w.own.engine.render = .ok rendering ∧
        Wrote output rendering.writes w begun ∧ Since 0 begun later ∧
        let ending := (Watch.waiting.course attendance.asks rendering.life.status
          rendering.life.beats).2
        let defect := unread plan.nominalDuration rendering.life
        later.shared.disk = diskBehind output begun.shared.disk defect ending ∧
          w.run (e.render plan locations output attendance).run =
            (conclusion output rendering.life.stderr defect ending, later) := by
  cases written : plan.command locations output e.binary true with
  | error fault => exact .inl ⟨_, w, run_render_of_fault attendance written, .refl w⟩
  | ok argv =>
    rcases start_cases w argv output with
      ⟨error, later, refusal, alike⟩ | ⟨rendering, begun, found, started, wrote⟩
    · exact .inl ⟨_, later, run_render_of_refused attendance written refusal, alike⟩
    · have run := run_render_of_started attendance written started
      rw [run_attend, run_conclude] at run
      refine .inr ⟨rendering, begun, _, found, wrote, ?_, ?_, run⟩
      · exact ⟨rfl, rfl, rfl⟩
      · rfl

/-- Whether a failing rendering leaves what was rendered: its task is cancelled while its child is
being stopped, or its child has ended by itself and cannot be read to the end. -/
def LeavesIt (plan : Plan) (attendance : Attendance) (life : Life) (failure : Failure) : Prop :=
  ((Watch.waiting.course attendance.asks life.status life.beats).2 = .abandoned ∧
      failure = .fault .cancelled) ∨
    ∃ status fault, (Watch.waiting.course attendance.asks life.status life.beats).2 =
        .ended status ∧ unread plan.nominalDuration life = some fault ∧ failure = .fault fault

/-- Whether the engine's rendering writes its file, and leaves it when it fails. -/
def GivesUp (plan : Plan) (attendance : Attendance) (behaviour : EngineBehaviour)
    (failure : Failure) : Prop :=
  ∃ rendering, behaviour.render = .ok rendering ∧ rendering.writes.isSome ∧
    LeavesIt plan attendance rendering.life failure

theorem sameBut_diskBehind (output : String) (d : Disk) (defect : Option Fault) (ending : Ending) :
    SameBut (d.place output = .ok ·) d (diskBehind output d defect ending) := by
  have cleared := (d.sameBut_cleared output).mono fun _ h => h.1
  cases ending with
  | abandoned => cases defect <;> exact .refl _
  | stopped reason => cases defect <;> exact cleared
  | ended status =>
    cases defect with
    | some fault => exact .refl _
    | none =>
      unfold diskBehind diskAfter
      dsimp only
      split
      · exact .refl _
      · exact cleared

/-- The engine of the two programs writes nothing but the file that it is told to render. -/
theorem confined_access (e : Engine) : e.access.Confined where
  isAvailable w := .of_shared rfl
  probe path w := (ensures_probe path w).mono fun _ _ alike => .of_shared alike.shared
  render plan locations output attendance w := by
    show Writes _ w (w.run (e.render plan locations output attendance).run).2
    rcases run_render_cases e plan locations output attendance w with
      ⟨failure, later, run, alike⟩ | ⟨rendering, begun, later, -, wrote, since, disk, run⟩
    · rw [run]
      constructor <;> rw [alike.shared]
      exact .refl _
    · rw [run]
      refine ⟨since.given.trans wrote.since.given, wrote.put.sameBut.trans ?_⟩
      rw [disk]
      exact (sameBut_diskBehind _ _ _ _).mono fun p leads => wrote.put.sameBut.place_iff.1 leads

/-- Asked about files, it leaves what jobs share as it is. -/
theorem keeps_access (e : Engine) : e.access.Keeps Alike where
  refl := .refl
  trans := .trans
  await w := ⟨shared_await w, (since_await w).engine⟩
  isAvailable w := .refl w
  probe := ensures_probe

/-- Where nothing stood, a rendering that fails leaves nothing behind, unless it gives up on what it
has written. -/
theorem ensures_render (e : Engine) (plan : Plan) (locations : String → Option String)
    {output : String} (attendance : Attendance) {w : World}
    (new : ∀ p, w.shared.disk.place output = .ok p → w.shared.disk.at? p = none) :
    (e.render plan locations output attendance).Ensures w fun outcome later =>
      later.shared.clock = w.shared.clock ∧ ∀ failure, outcome = .error failure →
        More (fun _ => False) w.shared.disk later.shared.disk ∨
          GivesUp plan attendance w.own.engine failure ∧
            ∃ p, w.shared.disk.place output = .ok p ∧
              More (· = p) w.shared.disk later.shared.disk := by
  unfold Act.Ensures
  rcases run_render_cases e plan locations output attendance w with
    ⟨failure, later, run, alike⟩ | ⟨rendering, begun, later, found, wrote, since, disk, run⟩
  · rw [run, alike.shared]
    exact ⟨rfl, fun _ _ => .inl (.refl _)⟩
  · rw [run]
    refine ⟨since.clock.trans wrote.since.clock, ?_⟩
    dsimp only
    rw [disk]
    have cleared : More (fun _ => False) w.shared.disk (begun.shared.disk.cleared output) := by
      rcases wrote.put.more new with nothing | ⟨-, p, leads, more⟩
      · exact nothing.cleared (fun _ h => h.elim) new
      · exact more.cleared (fun q here => here ▸ leads) new
    have kept {failure : Failure} (why : LeavesIt plan attendance rendering.life failure) :
        More (fun _ => False) w.shared.disk begun.shared.disk ∨
          GivesUp plan attendance w.own.engine failure ∧
            ∃ p, w.shared.disk.place output = .ok p ∧
              More (· = p) w.shared.disk begun.shared.disk := by
      rcases wrote.put.more new with nothing | ⟨some, more⟩
      · exact .inl nothing
      · exact .inr ⟨⟨rendering, found, some, why⟩, more⟩
    unfold LeavesIt at kept
    intro failure failed
    generalize (Watch.waiting.course attendance.asks rendering.life.status
      rendering.life.beats).2 = ending at kept failed ⊢
    generalize unread plan.nominalDuration rendering.life = defect at kept failed ⊢
    cases ending with
    | abandoned => cases defect <;> cases failed <;> exact kept (.inl ⟨rfl, rfl⟩)
    | stopped reason => cases defect <;> exact .inl cleared
    | ended status =>
      cases defect with
      | some fault =>
        cases failed
        exact kept (.inr ⟨status, fault, rfl, rfl, rfl⟩)
      | none =>
        simp only [conclusion, outcome, diskBehind, diskAfter] at failed ⊢
        split at failed
        case isTrue => cases failed
        case isFalse wrong =>
          rw [if_neg wrong]
          exact .inl cleared

/-- A rendering that returns leaves what it has written, if it writes its file. -/
theorem ensures_render_put (e : Engine) (plan : Plan) (locations : String → Option String)
    (output : String) (attendance : Attendance) (w : World) :
    (e.render plan locations output attendance).Ensures w fun outcome later =>
      ∀ path, outcome = .ok path → ∃ rendering, w.own.engine.render = .ok rendering ∧
        Put output rendering.writes w.shared.disk later.shared.disk := by
  unfold Act.Ensures
  rcases run_render_cases e plan locations output attendance w with
    ⟨failure, later, run, -⟩ | ⟨rendering, begun, later, found, wrote, -, disk, run⟩
  · rw [run]
    exact nofun
  · rw [run]
    dsimp only
    rw [disk]
    intro path returned
    refine ⟨rendering, found, ?_⟩
    generalize (Watch.waiting.course attendance.asks rendering.life.status
      rendering.life.beats).2 = ending at returned ⊢
    generalize unread plan.nominalDuration rendering.life = defect at returned ⊢
    cases ending with
    | abandoned => cases defect <;> cases returned
    | stopped reason => cases defect <;> cases returned
    | ended status =>
      cases defect with
      | some fault => cases returned
      | none =>
        simp only [conclusion, outcome, diskBehind, diskAfter] at returned ⊢
        split at returned
        case isTrue fine =>
          rw [if_pos fine]
          exact wrote.put
        case isFalse => cases returned

end Engine

end Splice
