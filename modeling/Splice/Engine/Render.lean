import Splice.Engine.Basic
import Splice.Engine.Progress
import Splice.Engine.Watch
import Splice.Plan.Basic
import Splice.Recent

/-!
# Rendering a plan

`Engine.render` starts the engine on a plan's command line, reports how far it is, watches it, and
gives back the path of the result. A rendering that is stopped or ends with another status than 0
leaves no partial result behind; what the engine wrote last about it goes into the report. If one of
the engine's two streams cannot be read to its end that is a fault, once the engine has ended, and
what was rendered stays.
-/

namespace Splice

/-! ## Complaints -/

/-- How many lines of complaint are kept. -/
def Engine.complaintLines : Nat := 40

/-- What is kept when one more line was read: its text without blanks at its end, unless nothing is
left of it then. -/
def Engine.note (kept : Recent String complaintLines) (line : Bytes) :
    Recent String complaintLines :=
  let text := Text.trimEnd (Utf8.lossy line)
  if text == "" then kept else kept.push text

/-- The last lines of a stream that are not blank, each without blanks at its end. -/
def Engine.tail (stderr : Bytes) : List String :=
  ((linesOf stderr).1.foldl note .empty).items

/-- What is reported about a rendering that ended with a status other than 0. -/
def Engine.complaints (stderr : Bytes) (status : Int) : String :=
  match Engine.tail stderr with
  | [] => s!"FFmpeg exited with status {status}"
  | lines => "\n".intercalate lines

/-! ## The rendering -/

/-- The failure of a rendering that was stopped. -/
def StopReason.failure : StopReason → Failure
  | clientGone => .problem .cancelledByClient
  | taskCancelled => .fault .cancelled

/-- What a rendering does besides its work. -/
structure Attendance where
  /-- Whether someone listens to the progress. -/
  listened : Bool
  /-- Whether the client can be asked for. -/
  asks : Bool
  deriving DecidableEq, Repr

namespace Engine

/-- Removes a file if it is there and can be removed. -/
def discard (path : String) : Act Unit := do
  if ← Act.request (.doesExist path) then
    let _ ← Act.request (.remove path)

/-- Carries out operations whose answers do not matter, in order. -/
def tell : List Operation → Act Unit
  | [] => pure ()
  | op :: rest => do
    let _ ← Act.request op
    tell rest

/-- What becomes of a rendering into `output` when its watching has ended. -/
def conclude (output : String) (stderr : Bytes) (defect : Option Fault) : Ending → Act String
  | .abandoned => throw (.fault .cancelled)
  | .stopped reason => do
    discard output
    throw reason.failure
  | .ended status =>
    match defect with
    | some fault => throw (.fault fault)
    | none =>
      if status = 0 then pure output
      else do
        discard output
        throw (.problem (.renderFailed (complaints stderr status)))

/-- Everything from the start of the child on. -/
def attend (attendance : Attendance) (total : Float) (output : String) (life : Life) :
    Act String := do
  let (percents, defect) := Progress.reports total life.stdout
  let defect := defect.or (linesOf life.stderr).2
  if attendance.listened then tell (percents.map .report)
  let (signals, ending) := Watch.waiting.course attendance.asks life.status life.beats
  tell (signals.map .signal)
  conclude output life.stderr defect ending

/-- Renders a plan into a file and gives back its path. -/
def render (e : Engine) (plan : Plan) (locations : String → Option String) (output : String)
    (attendance : Attendance) : Act String := do
  let argv ← Act.orFailure ((plan.command locations output e.binary true).mapError .fault)
  match ← Act.request (.start argv output) with
  | .error error => throw (refused error)
  | .ok life => attend attendance plan.nominalDuration output life

end Engine

end Splice
