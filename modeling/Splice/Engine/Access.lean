import Splice.Engine.Convert
import Splice.Engine.Formats
import Splice.Engine.Probe
import Splice.Engine.Render

/-!
# Access to an engine

The services do not depend on how an engine does its work. They ask whether it is installed, have it
describe and convert files, and have it render plans. `Engine.access` is the access to the engine of
the two programs.
-/

namespace Splice

/-- What the services ask of an engine. -/
structure EngineAccess where
  /-- The program that has to be installed. -/
  binary : String
  isAvailable : Act Bool
  listFormats : (limit : Int) → Act (List String)
  probe : (path : String) → Act Description
  convert : (input output : String) → (isImage : Bool) → ClipFormat → Act String
  render : Plan → (locations : String → Option String) → (output : String) → Attendance → Act String

/-- The access to the engine of the two programs. -/
def Engine.access (e : Engine) : EngineAccess where
  binary := e.binary
  isAvailable := e.isAvailable
  listFormats := e.listFormats
  probe := e.probe
  convert := e.convert
  render := e.render

/-- The access to an engine with its own programs where they are named, and those of the settings
elsewhere. -/
def EngineAccess.ofSettings (settings : Settings) (binary probeBinary : String) : EngineAccess :=
  (Engine.ofSettings settings binary probeBinary).access

end Splice
