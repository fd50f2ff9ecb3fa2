import Splice.Engine.Watch

/-!
# The history of a watched child

The *history* of a watch are its moments up to its end: each is a state, what happens in it, and the
status that the child had ended with before. What the moments so far say about the state that they
have led to is `Watch.Sound`; one moment more keeps it true (`Watch.Sound.step`), and so does a
whole history (`Watch.Sound.history`).

Main statement: how a watch ends is told by its history, and no child gets a signal without cause
(`Watch.sound_moments`).
-/

namespace Splice

/-- All that happens to a child: behind its beats it ends, if it has not ended before, and then
nothing happens. -/
def Life.stretches (life : Life) : List Beat :=
  life.beats ++ [⟨some life.status, false, false⟩, .quiet]

namespace Watch

/-! ## Moments -/

/-- A state of a watch and what happens in it. -/
structure Moment where
  /-- The status with which the child had ended before, if it had. -/
  ended : Option Int
  state : Watch
  beat : Beat
  deriving DecidableEq, Repr

namespace Moment

/-- The signals that a moment gives rise to. -/
def signals (asks : Bool) (m : Moment) : List Signal := (m.state.step asks m.beat).2

/-- Why the rendering is to be stopped, if that comes up in a moment: its task is cancelled, or the
question whether the client has gone is answered with yes. -/
def cause? (m : Moment) : Option StopReason :=
  if m.beat.cancelled then some .taskCancelled
  else if m.state = asking ∧ m.beat.gone then some .clientGone
  else none

/-- No signal comes without cause. A child is told to terminate only when its rendering is to be
stopped, and if it has not ended before; it may end in the same moment only if that is one in which
the client is asked. A child is killed only if it has not ended in the time in which it should have
terminated. -/
structure Fair (asks : Bool) (m : Moment) : Prop where
  terminate : .terminate ∈ m.signals asks →
    m.cause?.isSome ∧ m.ended = none ∧ (m.beat.ended = none ∨ m.state = asking)
  kill : .kill ∈ m.signals asks →
    (∃ reason, m.state = stopping reason false) ∧ m.ended = none ∧ m.beat.ended = none

end Moment

/-! ## What moments tell -/

/-- The status with which the child has ended, if it has. -/
def exit? (past : List Moment) : Option Int := past.findSome? fun m => m.beat.ended

/-- Why the rendering was to be stopped, each time that it came up. -/
def causes (past : List Moment) : List StopReason := past.filterMap Moment.cause?

/-- The signals that the child got. -/
def sent (asks : Bool) (past : List Moment) : List Signal :=
  (past.flatMap (Moment.signals asks)).filter (· ≠ .poll)

section

variable (past : List Moment) (m : Moment)

theorem exit?_snoc : exit? (past ++ [m]) = (exit? past).or m.beat.ended := by
  rw [exit?, List.findSome?_append, List.findSome?_singleton]
  rfl

theorem causes_snoc : causes (past ++ [m]) = causes past ++ m.cause?.toList := by
  rw [causes, List.filterMap_append, List.filterMap_cons]
  cases m.cause? <;> rfl

theorem sent_snoc (asks : Bool) :
    sent asks (past ++ [m]) = sent asks past ++ (m.signals asks).filter (· ≠ .poll) := by
  simp only [sent, List.flatMap_append, List.flatMap_singleton, List.filter_append]

end

/-! ## Histories -/

/-- Whether a watch has come to its end. -/
def isSettled : Watch → Bool
  | settled _ => true
  | _ => false

/-- The moments of a watch behind those that are past, up to its end, and the state to which they
lead. -/
def history (asks : Bool) (past : List Moment) (w : Watch) : List Beat → List Moment × Watch
  | [] => (past, w)
  | beat :: rest =>
    if w.isSettled then (past, w)
    else history asks (past ++ [⟨exit? past, w, beat⟩]) (w.step asks beat).1 rest

/-- All the moments of a life. -/
def moments (asks : Bool) (life : Life) : List Moment :=
  (history asks [] waiting life.stretches).1

/-- A child that ends with a status, and nothing happens behind it: the watch ends as it closes. -/
theorem history_close (asks : Bool) (status : Int) (past : List Moment) (w : Watch) :
    (history asks past w [⟨some status, false, false⟩, .quiet]).2 = settled (w.close status) ∧
      (history asks past w [⟨some status, false, false⟩, .quiet]).1.flatMap (Moment.signals asks) =
        past.flatMap (Moment.signals asks) := by
  cases w with
  | waiting => simp [history, isSettled, step, Moment.signals, close, Beat.quiet]
  | asking => simp [history, isSettled, step, Moment.signals, close, Beat.quiet]
  | draining earlier => simp [history, isSettled, step, Moment.signals, close]
  | stopping reason finished => simp [history, isSettled, step, Moment.signals, close]
  | killing reason => simp [history, isSettled, step, Moment.signals, close]
  | settled ending => exact ⟨rfl, rfl⟩

theorem course_settled (asks : Bool) (status : Int) (ending : Ending) (beats : List Beat) :
    (settled ending).course asks status beats = ([], ending) := by
  induction beats with
  | nil => rfl
  | cons beat rest ih =>
    rw [course]
    simp only [step, ih, List.nil_append]

/-- The history of a watch goes through the same states as its course, and has the same signals. -/
theorem history_eq_course (asks : Bool) (status : Int) (past : List Moment) (w : Watch)
    (beats : List Beat) :
    (history asks past w (beats ++ [⟨some status, false, false⟩, .quiet])).2 =
        settled (w.course asks status beats).2 ∧
      (history asks past w (beats ++ [⟨some status, false, false⟩, .quiet])).1.flatMap
          (Moment.signals asks) =
        past.flatMap (Moment.signals asks) ++ (w.course asks status beats).1 := by
  induction beats generalizing past w with
  | nil => simpa [course] using history_close asks status past w
  | cons beat rest ih =>
    rw [List.cons_append, history]
    split
    case isTrue finished =>
      obtain ⟨ending, rfl⟩ : ∃ ending, w = settled ending := by
        cases w <;> simp [isSettled] at finished
        exact ⟨_, rfl⟩
      rw [course_settled]
      exact ⟨rfl, (List.append_nil _).symm⟩
    case isFalse =>
      obtain ⟨last, told⟩ := ih (past ++ [⟨exit? past, w, beat⟩]) (w.step asks beat).1
      refine ⟨last, told.trans ?_⟩
      rw [List.flatMap_append, List.flatMap_singleton, List.append_assoc]
      rfl

/-! ## Sound histories -/

/-- What the moments so far say about the state that they have led to. -/
def Sound (asks : Bool) (past : List Moment) : Watch → Prop
  | waiting => causes past = [] ∧ sent asks past = [] ∧ exit? past = none
  | asking => causes past = [] ∧ sent asks past = [] ∧ exit? past = none
  | draining status => causes past = [] ∧ sent asks past = [] ∧ exit? past = some status
  | stopping reason finished =>
    causes past = [reason] ∧ sent asks past = [.terminate] ∧ finished = (exit? past).isSome
  | killing reason =>
    causes past = [reason] ∧ sent asks past = [.terminate, .kill] ∧ exit? past = none
  | settled (.ended status) => causes past = [] ∧ sent asks past = [] ∧ exit? past = some status
  | settled (.stopped reason) =>
    causes past = [reason] ∧ sent asks past <+: [.terminate, .kill] ∧ (exit? past).isSome
  | settled .abandoned =>
    (∃ reason, causes past = [reason, .taskCancelled]) ∧
      (sent asks past = [.terminate] ∨ sent asks past = [.terminate, .kill])

variable {asks : Bool} {past : List Moment} {w : Watch}

/-- One moment more keeps what is said sound. -/
theorem Sound.step (sound : Sound asks past w) (open_ : w.isSettled = false) (beat : Beat) :
    Sound asks (past ++ [⟨exit? past, w, beat⟩]) (w.step asks beat).1 := by
  obtain ⟨ended, gone, cancelled⟩ := beat
  cases w with
  | waiting =>
    obtain ⟨uncaused, unsent, running⟩ := sound
    cases cancelled <;> cases ended <;> cases asks <;>
      simp [Watch.step, stop, Sound, causes_snoc, sent_snoc, exit?_snoc, uncaused, unsent, running,
        Moment.cause?, Moment.signals]
  | asking =>
    obtain ⟨uncaused, unsent, running⟩ := sound
    cases cancelled <;> cases gone <;> cases ended <;>
      simp [Watch.step, stop, Sound, causes_snoc, sent_snoc, exit?_snoc, uncaused, unsent, running,
        Moment.cause?, Moment.signals]
  | draining status =>
    obtain ⟨uncaused, unsent, finished⟩ := sound
    cases cancelled <;>
      simp [Watch.step, Sound, causes_snoc, sent_snoc, exit?_snoc, uncaused, unsent, finished,
        Moment.cause?, Moment.signals]
  | stopping reason finished =>
    obtain ⟨caused, told, rfl⟩ := sound
    cases cancelled <;> cases ended <;> cases known : exit? past <;>
      simp [Watch.step, Sound, causes_snoc, sent_snoc, exit?_snoc, caused, told, known,
        Moment.cause?, Moment.signals]
  | killing reason =>
    obtain ⟨caused, told, running⟩ := sound
    cases cancelled <;> cases ended <;>
      simp [Watch.step, Sound, causes_snoc, sent_snoc, exit?_snoc, caused, told, running,
        Moment.cause?, Moment.signals]
  | settled ending => cases open_

/-- Behind sound moments no signal comes without cause. -/
theorem Sound.fair (sound : Sound asks past w) (beat : Beat) :
    Moment.Fair asks ⟨exit? past, w, beat⟩ := by
  obtain ⟨ended, gone, cancelled⟩ := beat
  cases w with
  | waiting =>
    obtain ⟨-, -, running⟩ := sound
    constructor <;> cases cancelled <;> cases ended <;> cases asks <;>
      simp [Moment.signals, Watch.step, stop, Moment.cause?, running]
  | asking =>
    obtain ⟨-, -, running⟩ := sound
    constructor <;> cases cancelled <;> cases gone <;> cases ended <;>
      simp [Moment.signals, Watch.step, stop, Moment.cause?, running]
  | draining status => constructor <;> simp [Moment.signals, Watch.step]
  | stopping reason finished =>
    obtain ⟨-, -, rfl⟩ := sound
    constructor <;> cases cancelled <;> cases ended <;> cases known : exit? past <;>
      simp [Moment.signals, Watch.step]
  | killing reason =>
    constructor <;> cases cancelled <;> cases ended <;> simp [Moment.signals, Watch.step]
  | settled ending => constructor <;> simp [Moment.signals, Watch.step]

/-- A whole history keeps what is said sound, and has no signal without cause. -/
theorem Sound.history (sound : Sound asks past w) (fair : ∀ m ∈ past, m.Fair asks)
    (beats : List Beat) :
    Sound asks (history asks past w beats).1 (history asks past w beats).2 ∧
      ∀ m ∈ (history asks past w beats).1, m.Fair asks := by
  induction beats generalizing past w with
  | nil => exact ⟨sound, fair⟩
  | cons beat rest ih =>
    rw [Watch.history]
    split
    case isTrue => exact ⟨sound, fair⟩
    case isFalse going =>
      refine ih (sound.step (Bool.not_eq_true _ ▸ going) beat) fun m mem => ?_
      rcases List.mem_append.1 mem with earlier | now
      · exact fair m earlier
      · obtain rfl := List.mem_singleton.1 now
        exact sound.fair beat

/-- How a watch ends is told by its moments, their signals are those of its course, and no signal
comes without cause. -/
theorem sound_moments (asks : Bool) (life : Life) :
    Sound asks (moments asks life) (settled (waiting.course asks life.status life.beats).2) ∧
      (moments asks life).flatMap (Moment.signals asks) =
        (waiting.course asks life.status life.beats).1 ∧
      ∀ m ∈ moments asks life, m.Fair asks := by
  obtain ⟨last, told⟩ := history_eq_course asks life.status [] waiting life.beats
  have start : Sound asks [] waiting := ⟨rfl, rfl, rfl⟩
  obtain ⟨sound, fair⟩ := start.history (fun m mem => absurd mem List.not_mem_nil) life.stretches
  refine ⟨?_, told, fair⟩
  rw [← last]
  exact sound

/-- A watch ends with the end of the child exactly if nothing came up to stop the rendering. -/
theorem course_eq_ended_iff {asks : Bool} {life : Life} {status : Int} :
    (waiting.course asks life.status life.beats).2 = .ended status ↔
      exit? (moments asks life) = some status ∧ causes (moments asks life) = [] := by
  obtain ⟨sound, -⟩ := sound_moments asks life
  cases closed : (waiting.course asks life.status life.beats).2 with
  | ended other =>
    rw [closed] at sound
    simp [sound.1, sound.2.2]
  | stopped reason =>
    rw [closed] at sound
    simp [sound.1]
  | abandoned =>
    rw [closed] at sound
    obtain ⟨⟨reason, caused⟩, -⟩ := sound
    simp [caused]

end Watch

end Splice
