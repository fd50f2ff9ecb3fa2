import Splice.Surroundings.Operation

/-!
# Watching a rendering

Once its child runs, a rendering waits for it in short intervals. Between two intervals it may ask
whether the client has gone. If the client has gone, or the rendering's own task is cancelled, a
child that is not known to have ended is told to terminate; if it does not end in time it is killed
and waited for. That the child has ended becomes known by waiting for it, and not while the client
is asked.

`Watch` is the state of this, `Watch.step` one stretch of waiting, and `Watch.course` everything
from a state to the end.
-/

namespace Splice

/-- Why a rendering is stopped. -/
inductive StopReason
  | clientGone
  | taskCancelled
  deriving DecidableEq, Repr

/-- How the watching ends. -/
inductive Ending
  /-- The child ended by itself. -/
  | ended (status : Int)
  /-- The rendering was stopped, and the child has ended. -/
  | stopped (reason : StopReason)
  /-- The task was cancelled while it waited for the child to end, and the child is left alone. -/
  | abandoned
  deriving DecidableEq, Repr

/-- The state of a watched rendering. -/
inductive Watch
  /-- Waiting for one interval. -/
  | waiting
  /-- Waiting to hear whether the client has gone. -/
  | asking
  /-- The child has ended; waiting for the rest of what it wrote. -/
  | draining (status : Int)
  /-- Waiting for the child to terminate; `finished` if it had ended when it was told to. -/
  | stopping (reason : StopReason) (finished : Bool)
  /-- Waiting for the killed child to end. -/
  | killing (reason : StopReason)
  | settled (ending : Ending)
  deriving DecidableEq, Repr

namespace Watch

/-- Stops the rendering. A child that has ended needs no signal, if it is known that it has. -/
def stop (reason : StopReason) (isKnown : Bool) (ended : Option Int) : Watch × List Signal :=
  if isKnown ∧ ended.isSome then (settled (.stopped reason), [])
  else (stopping reason ended.isSome, [.terminate])

/-- One stretch of waiting, and the signals that it gives rise to; `asks` says whether the client
can be asked for. -/
def step (asks : Bool) : Watch → Beat → Watch × List Signal
  | waiting, beat =>
    if beat.cancelled then stop .taskCancelled true beat.ended
    else
      match beat.ended with
      | some status => (draining status, [])
      | none => if asks then (asking, [.poll]) else (waiting, [])
  | asking, beat =>
    if beat.cancelled then stop .taskCancelled false beat.ended
    else if beat.gone then stop .clientGone false beat.ended
    else
      match beat.ended with
      | some status => (draining status, [])
      | none => (waiting, [])
  | draining status, beat =>
    (settled (if beat.cancelled then .stopped .taskCancelled else .ended status), [])
  | stopping reason finished, beat =>
    if beat.cancelled then (settled .abandoned, [])
    else if finished ∨ beat.ended.isSome then (settled (.stopped reason), [])
    else (killing reason, [.kill])
  | killing reason, beat =>
    if beat.cancelled then (settled .abandoned, [])
    else if beat.ended.isSome then (settled (.stopped reason), [])
    else (killing reason, [])
  | settled ending, _ => (settled ending, [])

/-- How the watching ends when the child ends with a status and nothing else happens. -/
def close (status : Int) : Watch → Ending
  | waiting => .ended status
  | asking => .ended status
  | draining earlier => .ended earlier
  | stopping reason _ => .stopped reason
  | killing reason => .stopped reason
  | settled ending => ending

/-- All signals from a state on, and the end. -/
def course (asks : Bool) (status : Int) (w : Watch) : List Beat → List Signal × Ending
  | [] => ([], w.close status)
  | beat :: rest =>
    let (w, signals) := w.step asks beat
    let (later, ending) := w.course asks status rest
    (signals ++ later, ending)

end Watch

end Splice
