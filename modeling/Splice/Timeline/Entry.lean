import Splice.Problem

/-!
# Timeline entries and their schedule

An entry places a media asset on the timeline for a number of seconds and says how it goes over
into the next. Entries are laid out back to back from zero: each starts exactly where the one
before it ends, so the schedule depends on nothing but the order and the durations.
-/

namespace Splice

/-- A clip on the timeline. -/
structure Entry where
  id : String
  mediaId : String
  /-- For how many seconds the clip is shown. -/
  duration : Float
  /-- How the clip goes over into the next one. -/
  transition : Transition
  /-- For how many seconds a blending transition lasts. -/
  transitionDuration : Amount
  deriving Repr

/-- An entry with its place on the timeline. -/
structure Row where
  entry : Entry
  start : Float
  stop : Float
  deriving Repr

/-- The entries laid out back to back from a moment on. -/
def scheduleFrom (moment : Float) : List Entry → List Row
  | [] => []
  | entry :: rest =>
    let stop := moment + entry.duration
    ⟨entry, moment, stop⟩ :: scheduleFrom stop rest

/-- The schedule of entries: back to back from zero. -/
def schedule (entries : List Entry) : List Row := scheduleFrom 0.0 entries

/-- When a schedule ends; an empty one ends at zero. -/
def scheduleEnd (rows : List Row) : Float := (rows.getLast?.map Row.stop).getD 0.0

end Splice
