import Splice.Settings
import Splice.Surroundings.Job
import Splice.Text.Blank
import Splice.Text.Utf8

/-!
# The engine

Two programs do the work on media: one renders and converts, the other describes files. A program
that the system does not find counts as an unavailable engine; any other refusal to start it is
passed on as the system gave it.
-/

namespace Splice

/-- The engine's programs, and the settings that give the defaults of a conversion. -/
structure Engine where
  binary : String
  probeBinary : String
  settings : Settings
  deriving Repr

namespace Engine

/-- An engine with its own programs where they are named, and those of the settings elsewhere. -/
def ofSettings (settings : Settings) (binary probeBinary : String) : Engine where
  binary := Text.orIfEmpty binary settings.ffmpegBinary
  probeBinary := Text.orIfEmpty probeBinary settings.ffprobeBinary
  settings

/-- What a refusal to start a program means. -/
def refused (error : SystemError) : Failure :=
  if error.kind = .notFound then .problem (.engineNotStarted error) else .fault (.system error)

/-- What a failed program complains about; the fallback if it says nothing. -/
def complaint (stderr : Bytes) (fallback : String) : Except Fault String :=
  if stderr.isEmpty then .ok fallback else (Utf8.strict stderr).mapError .encoding

/-- A program run to its end. -/
def call (errand : Errand) (argv : List String) : Act Finished := do
  match ← Act.request (.call errand argv) with
  | .ok finished => return finished
  | .error error => throw (refused error)

/-- Whether the engine is installed. -/
def isAvailable (e : Engine) : Act Bool := Act.request (.isInstalled e.binary)

end Engine

end Splice
