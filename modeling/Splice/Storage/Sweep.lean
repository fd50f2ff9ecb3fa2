import Splice.Storage.Basic

/-!
# The sweep

A sweep removes from the two directories every file that was last modified too long ago. What is no
file stays, and what is gone or cannot be removed is passed over. The periodic sweep pauses, sweeps,
and starts again.
-/

namespace Splice.Storage

/-- Removes a file that is older than some seconds; how many files were removed. -/
def sweepFile (maxAge now : Float) (path : String) : Act Nat := do
  if ← Act.request (.isFile path) then
    match ← Act.request (.modified path) with
    | .error _ => return 0
    | .ok modified =>
      if maxAge < now - modified then
        return if (← Act.request (.remove path)).isOk then 1 else 0
      else return 0
  else return 0

/-- Sweeps the files with some names in a directory, after a number of files were removed. -/
def sweepNames (maxAge now : Float) (directory : String) (removed : Nat) :
    List String → Act Nat
  | [] => pure removed
  | name :: rest => do
    let more ← sweepFile maxAge now (Path.join directory name)
    sweepNames maxAge now directory (removed + more) rest

/-- Sweeps a directory, if it can be listed. -/
def sweepDirectory (maxAge now : Float) (directory : String) : Act Nat := do
  match ← Act.request (.names directory) with
  | .error _ => return 0
  | .ok names => sweepNames maxAge now directory 0 names

/-- Removes the files that are older than some seconds, by default as long as files are kept, at
some time, by default the present; how many files were removed. -/
def sweep (s : Storage) (maxAge now : Option Float) : Act Nat := do
  let maxAge := maxAge.getD s.retention
  let now ← match now with
    | some now => pure now
    | none => Act.request .now
  let uploads ← sweepDirectory maxAge now s.uploadDir
  let results ← sweepDirectory maxAge now s.outputDir
  return uploads + results

/-- Sweeps after each of a number of pauses. Only the cancellation of the task ends it earlier. -/
def sweepPeriodically (s : Storage) (interval maxAge : Option Float) : Nat → Act Unit
  | 0 => pure ()
  | rounds + 1 => do
    Act.stopIf (← Act.request (.sleep (interval.getD s.sweepInterval)))
    let _ ← (s.sweep maxAge none).aside
    s.sweepPeriodically interval maxAge rounds

end Splice.Storage
