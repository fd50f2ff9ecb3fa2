import Splice.Engine.Lines
import Splice.Number.Reading
import Splice.Text.Blank
import Splice.Text.Utf8

/-!
# Progress

While the engine renders it writes lines of the form `key=value`. Two keys say how far it is:
`out_time_ms` counts microseconds of the result, and `progress=end` stands at the end. A position
becomes a percentage of the length that the result is meant to have, kept between 0 and 100. Of
equal percentages in a row only the first is reported.
-/

namespace Splice

namespace Progress

/-- A number kept between 0 and 100. -/
def clamp (x : Float) : Float :=
  let capped := if x < 100.0 then x else 100.0
  if 0.0 < capped then capped else 0.0

/-- A number of microseconds as a percentage of a number of seconds. -/
def percentage (microseconds : Int) (total : Float) : Except Fault Float :=
  match Binary64.nearest? (microseconds < 0) microseconds.natAbs 1000000 with
  | some seconds => .ok (clamp (seconds / total * 100.0))
  | none => .error .oversizedQuotient

/-- The percentage that a line gives, if it gives one. -/
def ofLine (total : Float) (line : String) : Except Fault (Option Float) :=
  let (key, value) := Text.cutAt '=' (Text.trim line)
  if key == "progress" && value == "end" then .ok (some 100.0)
  else if key != "out_time_ms" || total ≤ 0.0 then .ok none
  else
    match Number.integerOfSetting value with
    | .ok microseconds => (percentage microseconds total).map some
    | .error _ => .ok none

/-- The percentages to report for lines, after `last` was reported, and what stopped the reading of
them if it was stopped. -/
def reportsAfter (total last : Float) : List String → List Float × Option Fault
  | [] => ([], none)
  | line :: rest =>
    match ofLine total line with
    | .error fault => ([], some fault)
    | .ok none => reportsAfter total last rest
    | .ok (some percent) =>
      if percent == last then reportsAfter total last rest
      else
        let (later, fault) := reportsAfter total percent rest
        (percent :: later, fault)

/-- The percentages to report for what the engine writes, and what stopped the reading of it if it
was stopped. -/
def reports (total : Float) (stdout : Bytes) : List Float × Option Fault :=
  let (lines, long) := Engine.linesOf stdout
  let (percents, fault) := reportsAfter total (-1.0) (lines.map Utf8.lossy)
  (percents, fault.or long)

end Progress

end Splice
