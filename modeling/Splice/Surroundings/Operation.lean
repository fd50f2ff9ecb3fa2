import Splice.Surroundings.Child

/-!
# What the service asks of its surroundings

An `Operation` is one step that the service takes outside itself: it looks at the clock or the
disk, changes a file, starts a program, tells a listener, or lets others go on. `Operation.Answer`
is the type of what comes back.
-/

namespace Splice

/-- Why a program is run to its end. -/
inductive Errand
  /-- To list the formats. -/
  | formats
  /-- To describe a media file. -/
  | probe (path : String)
  /-- To convert a clip. -/
  | convert (output : String)
  deriving DecidableEq, Repr

/-- What passes between a rendering, its client and its child. -/
inductive Signal
  /-- The client's side is asked whether the client has gone. -/
  | poll
  /-- The child is told to terminate. -/
  | terminate
  /-- The child is killed. -/
  | kill
  deriving DecidableEq, Repr

/-- One step outside the service. -/
inductive Operation
  /-- The time, in seconds. -/
  | now
  /-- An id that was never given out before. -/
  | freshId
  | doesExist (path : String)
  | isFile (path : String)
  /-- When a file was last modified. -/
  | modified (path : String)
  /-- The names in a directory. -/
  | names (directory : String)
  /-- Opens an empty file for writing. -/
  | create (path : String)
  /-- Writes more into a file that was opened. -/
  | append (path : String) (content : Bytes)
  | remove (path : String)
  /-- Copies a file with the time of its last modification. -/
  | copy (source target : String)
  | makeDirectories (path : String)
  | read (path : String)
  /-- Waits for work that was done aside; tells whether the task was cancelled meanwhile. -/
  | await
  /-- Waits for some seconds; tells whether the task was cancelled meanwhile. -/
  | sleep (seconds : Float)
  /-- Whether a program is installed. -/
  | isInstalled (program : String)
  /-- Runs a program to its end. -/
  | call (errand : Errand) (argv : List String)
  /-- Starts the program that renders into a file. -/
  | start (argv : List String) (output : String)
  /-- Tells the listener how far a rendering is, in percent; whether the listener took it. -/
  | report (percent : Float)
  | signal (s : Signal)
  deriving Repr

namespace Operation

/-- What comes back from an operation. -/
@[reducible] def Answer : Operation → Type
  | now => Float
  | freshId => String
  | doesExist _ => Bool
  | isFile _ => Bool
  | modified _ => Except SystemError Float
  | names _ => Except SystemError (List String)
  | create _ => Except SystemError Unit
  | append _ _ => Except SystemError Unit
  | remove _ => Except SystemError Unit
  | copy _ _ => Except SystemError Unit
  | makeDirectories _ => Except SystemError Unit
  | read _ => Except SystemError Bytes
  | await => Bool
  | sleep _ => Bool
  | isInstalled _ => Bool
  | call _ _ => Except SystemError Finished
  | start _ _ => Except SystemError Life
  | report _ => Bool
  | signal _ => Unit

end Operation

end Splice
