import Splice.Surroundings.Disk
import Splice.Surroundings.Job

/-!
# Worlds

A world answers the operations of a job. Part of it is shared by all jobs: the disk, the clock and
the ids given out so far. The other part is a job's own: how the engine's programs behave for it,
what comes in its way, and the record of what it did. `World.perform` is one operation, `World.run` a
whole job.
-/

namespace Splice

/-! ## Engines -/

/-- A program that may write a file before it ends. -/
structure Conversion where
  writes : Option Bytes
  finished : Finished
  deriving Repr

/-- A rendering that may write a file when it starts. -/
structure Rendering where
  writes : Option Bytes
  life : Life
  deriving Repr

/-- How the engine's programs behave; each may not be there to be started. -/
structure EngineBehaviour where
  installed : Bool
  formats : Except SystemErrorKind Finished
  probe : String → Except SystemErrorKind Finished
  convert : Except SystemErrorKind Conversion
  render : Except SystemErrorKind Rendering
  /-- Whether the listener takes what it is told about the progress. -/
  listens : Bool

/-! ## The record -/

/-- What a job did that others can see besides the disk. -/
inductive Event
  | called (errand : Errand) (argv : List String)
  | started (argv : List String)
  | reported (percent : Float)
  | signalled (s : Signal)
  | slept (seconds : Float)
  deriving Repr

/-- What comes in the way of a job: the cancellation of its task, or a disk that is full. -/
inductive Interruption
  | never
  /-- It is cancelled in the sleep that follows on a number of sleeps. -/
  | afterSleeps (count : Nat)
  /-- It is cancelled while it waits for work aside, having waited a number of times before. -/
  | afterAwaits (count : Nat)
  /-- The disk is full once more was written into files a number of times. -/
  | afterWrites (count : Nat)
  deriving DecidableEq, Repr

/-! ## The world -/

/-- What all jobs share. -/
structure SharedWorld where
  disk : Disk
  /-- The time in seconds. -/
  clock : Float
  /-- How many ids were given out. -/
  idsGiven : Nat

/-- What belongs to one job. -/
structure OwnWorld where
  engine : EngineBehaviour
  interruption : Interruption
  /-- What the job did, in order. -/
  record : List Event

/-- The world of one job. -/
structure World where
  shared : SharedWorld
  own : OwnWorld

namespace World

/-- The `n`-th id: eight hexadecimal digits, four times. -/
def idText (n : Nat) : String :=
  let digits := Text.hexDigits 8 n
  String.ofList (digits ++ digits ++ digits ++ digits)

/-- The world with one more event on record. -/
def noting (w : World) (event : Event) : World :=
  { w with own := { w.own with record := w.own.record ++ [event] } }

/-- The world with another disk. -/
def withDisk (w : World) (disk : Disk) : World := { w with shared := { w.shared with disk } }

/-- The outcome of a change of the disk: the changed world, or the refusal and the world as it
was. -/
def changing (w : World) (path : String) :
    Except SystemErrorKind Disk → Except SystemError Unit × World
  | .ok disk => (.ok (), w.withDisk disk)
  | .error kind => (.error ⟨kind, path⟩, w)

/-- The time as a disk keeps it. -/
def stamp (w : World) : Timestamp := .ofSeconds w.shared.clock

/-- A program's writing of a file, if it writes one. -/
def written (w : World) (output : String) : Option Bytes → Except SystemError Unit × World
  | none => (.ok (), w)
  | some content => w.changing output (w.shared.disk.write output content w.stamp)

/-- The world with something else in the way of its job. -/
def interrupted (w : World) (interruption : Interruption) : World :=
  { w with own := { w.own with interruption } }

/-- A wait for work aside. -/
def await (w : World) : Bool × World :=
  match w.own.interruption with
  | .afterAwaits 0 => (true, w.interrupted .never)
  | .afterAwaits (n + 1) => (false, w.interrupted (.afterAwaits n))
  | _ => (false, w)

/-- The world when some seconds have passed. -/
def later (w : World) (seconds : Float) : World :=
  { w with shared := { w.shared with clock := w.shared.clock + seconds } }

/-- A sleep; no time passes in one that is cancelled. -/
def sleep (w : World) (seconds : Float) : Bool × World :=
  let w := w.noting (.slept seconds)
  match w.own.interruption with
  | .afterSleeps 0 => (true, w.interrupted .never)
  | .afterSleeps (n + 1) => (false, (w.interrupted (.afterSleeps n)).later seconds)
  | _ => (false, w.later seconds)

/-- The refusal to start the program of a command line. -/
def refusal (argv : List String) (kind : SystemErrorKind) : SystemError :=
  ⟨kind, argv.headD ""⟩

/-- A program run to its end. One that cannot write its file is not run. -/
def call (w : World) (errand : Errand) (argv : List String) :
    Except SystemError Finished × World :=
  let w := w.noting (.called errand argv)
  match errand with
  | .formats => (w.own.engine.formats.mapError (refusal argv), w)
  | .probe path => ((w.own.engine.probe path).mapError (refusal argv), w)
  | .convert output =>
    match w.own.engine.convert with
    | .error kind => (.error (refusal argv kind), w)
    | .ok conversion =>
      let (outcome, w) := w.written output conversion.writes
      (outcome.map fun () => conversion.finished, w)

/-- A rendering started. One that cannot write its file is not started. -/
def start (w : World) (argv : List String) (output : String) : Except SystemError Life × World :=
  let w := w.noting (.started argv)
  match w.own.engine.render with
  | .error kind => (.error (refusal argv kind), w)
  | .ok rendering =>
    let (outcome, w) := w.written output rendering.writes
    (outcome.map fun () => rendering.life, w)

/-- More written into a file that was opened, unless the disk is full. -/
def append (w : World) (path : String) (content : Bytes) : Except SystemError Unit × World :=
  let written := w.withDisk (w.shared.disk.append path content w.stamp)
  match w.own.interruption with
  | .afterWrites 0 => (.error ⟨.other 28 "No space left on device", path⟩, w)
  | .afterWrites (n + 1) => (.ok (), written.interrupted (.afterWrites n))
  | _ => (.ok (), written)

/-- A file copied; what is wrong with the source is found first. -/
def copy (w : World) (source target : String) : Except SystemError Unit × World :=
  match w.shared.disk.file source with
  | .error kind => (.error ⟨kind, source⟩, w)
  | .ok (content, modified) => w.changing target (w.shared.disk.write target content modified)

/-- The world with a changed disk, and the refusal to change it further. -/
def refusing (w : World) (change : Disk × Option SystemError) : Except SystemError Unit × World :=
  (match change.2 with
    | none => .ok ()
    | some error => .error error, w.withDisk change.1)

/-- A directory and those around it made. -/
def makeDirectories (w : World) (path : String) : Except SystemError Unit × World :=
  w.refusing (w.shared.disk.makeDirectories path)

/-- A directory that is not there yet made, and those around it. -/
def makeNewDirectory (w : World) (path : String) : Except SystemError Unit × World :=
  w.refusing (w.shared.disk.makeNewDirectory path)

/-- A directory removed with everything inside it. -/
def removeTree (w : World) (path : String) : Except SystemError Unit × World :=
  w.refusing (w.shared.disk.removeTree path)

/-- One operation. -/
def perform (w : World) : (op : Operation) → op.Answer × World
  | .now => (w.shared.clock, w)
  | .freshId =>
    let n := w.shared.idsGiven + 1
    (idText n, { w with shared := { w.shared with idsGiven := n } })
  | .doesExist path => (w.shared.disk.exists? path, w)
  | .isFile path => ((w.shared.disk.file path).isOk, w)
  | .modified path =>
    ((w.shared.disk.file path).mapError (⟨·, path⟩) |>.map (·.2.seconds), w)
  | .names directory => ((w.shared.disk.names directory).mapError (⟨·, directory⟩), w)
  | .create path => w.changing path (w.shared.disk.write path [] w.stamp)
  | .append path content => w.append path content
  | .remove path => w.changing path (w.shared.disk.remove path)
  | .copy source target => w.copy source target
  | .makeDirectories path => w.makeDirectories path
  | .read path => ((w.shared.disk.file path).mapError (⟨·, path⟩) |>.map (·.1), w)
  | .await => w.await
  | .sleep seconds => w.sleep seconds
  | .isInstalled _ => (w.own.engine.installed, w)
  | .call errand argv => w.call errand argv
  | .start argv output => w.start argv output
  | .report percent => (w.own.engine.listens, w.noting (.reported percent))
  | .signal s => ((), w.noting (.signalled s))

/-- A whole job. -/
def run {α : Type} (w : World) : Job α → α × World
  | .done a => (a, w)
  | .ask op next =>
    let (answer, w) := w.perform op
    w.run (next answer)

@[simp] theorem run_pure {α : Type} (w : World) (a : α) : w.run (pure a) = (a, w) := rfl

@[simp] theorem run_request (w : World) (op : Operation) :
    w.run (Job.request op) = w.perform op := rfl

/-- Jobs put one behind the other run one behind the other. -/
@[simp] theorem run_bind {α β : Type} (w : World) (job : Job α) (f : α → Job β) :
    w.run (job >>= f) = (w.run job).2.run (f (w.run job).1) := by
  induction job generalizing w with
  | done a => rfl
  | ask op next ih => exact ih (w.perform op).1 (w.perform op).2

end World

end Splice
