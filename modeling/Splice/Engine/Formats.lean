import Splice.Engine.Basic
import Splice.Text.Blank

/-!
# The engine's formats

The engine lists its container formats in a table below a line `--`; the second word of a row is
the name of a format. Only the first few are taken.
-/

namespace Splice

namespace Engine

/-- The names so far and those in the remaining lines, until there are as many as the limit says.
The number is looked at after each line but the ones that open the table. -/
def formatNames (limit : Int) (inTable : Bool) (names : List String) : List String → List String
  | [] => names
  | line :: rest =>
    if Text.trim line == "--" then formatNames limit true names rest
    else
      let names :=
        match inTable, Text.words line with
        | true, _ :: name :: _ => names ++ [name]
        | _, _ => names
      if limit ≤ names.length then names else formatNames limit inTable names rest

/-- The names of some formats that the engine supports. -/
def listFormats (e : Engine) (limit : Int) : Act (List String) := do
  let finished ← call .formats [e.binary, "-hide_banner", "-formats"]
  if finished.status = 0 then
    return formatNames limit false [] (Text.lines (Utf8.lossy finished.stdout))
  else throw (.problem (.formatsFailed (Utf8.lossy finished.stderr)))

end Engine

end Splice
