import Splice.Surroundings.SystemError
import Splice.Text.Octets

/-!
# Child processes

The engine's programs run as children of the service. Of a child that is waited for only its end
matters: its status and what it wrote on its two output streams. A rendering is watched while it
runs, and its `Life` says what is there to be seen: at each `Beat`, a stretch of waiting, the child
may end, the client may turn out to have gone, and the rendering task itself may be cancelled.
-/

namespace Splice

/-- The end of a child. -/
structure Finished where
  status : Int
  stdout : Bytes
  stderr : Bytes
  deriving DecidableEq, Repr

/-- What happens in one stretch of waiting. -/
structure Beat where
  /-- The status with which the child ends, if it does. -/
  ended : Option Int
  /-- Whether the client is found to have gone, if that is asked. -/
  gone : Bool
  /-- Whether the waiting task is cancelled. -/
  cancelled : Bool
  deriving DecidableEq, Repr

/-- A beat in which nothing happens. -/
def Beat.quiet : Beat := ⟨none, false, false⟩

/-- A child that is watched: all that it writes on its output streams, what happens beat by beat,
and the status with which it ends after the last beat if it has not ended before. -/
structure Life where
  stdout : Bytes
  stderr : Bytes
  beats : List Beat
  status : Int
  deriving DecidableEq, Repr

/-! ## Children that linger -/

/-- When a child that lingers is brought to its end, counted in the questions whether the client
has gone, from 1 on: it ends by itself during one of them, the client has gone from one of them on,
or the task is cancelled during one of them. -/
structure Lingering where
  endsAt : Option Nat
  goneFrom : Option Nat
  cancelledAt : Option Nat
  /-- Whether the child goes on when it is told to terminate. -/
  stubborn : Bool
  status : Int
  deriving DecidableEq, Repr

namespace Lingering

/-- The questions with which the lingering may be over. Nothing happens during a question that is
never asked. -/
def ends (l : Lingering) : List Nat :=
  ([l.endsAt, l.cancelledAt].filterMap id).filter (0 < ·) ++ (l.goneFrom.map (max 1)).toList

/-- The question with which the lingering is over. -/
def last (l : Lingering) : Nat := l.ends.min?.getD 0

/-- The beat of a question. -/
def question (l : Lingering) (n : Nat) : Beat where
  ended := if l.endsAt = some n then some l.status else none
  gone := l.goneFrom.any (· ≤ n)
  cancelled := l.cancelledAt == some n

/-- The beats of a child that lingers: before every question one interval passes, and a stubborn
child that has not ended lets the time pass in which it should terminate. -/
def beats (l : Lingering) : List Beat :=
  (List.range l.last).flatMap (fun n => [Beat.quiet, l.question (n + 1)])
    ++ if l.stubborn ∧ l.endsAt ≠ some l.last then [Beat.quiet] else []

end Lingering

end Splice
