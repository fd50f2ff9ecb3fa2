import Splice.Surroundings.Path
import Splice.Surroundings.SystemError
import Splice.Surroundings.Timestamp
import Splice.Table
import Splice.Text.Octets

/-!
# The disk

A disk holds directories and files, each at a place: the names that lead to it. A path is followed
part by part, so that `..` means what it means at the place reached so far. Whatever asks for a
thing that is not there, or that is of the wrong sort, is refused as the operating system refuses
it, and then changes nothing. Only what makes or removes several things, one after the other, keeps
what it did before the refusal.
-/

namespace Splice

/-- What stands at a place of a disk. -/
inductive Node
  | directory
  | file (content : Bytes) (modified : Timestamp)
  deriving Repr

/-- The names that lead to a thing, the outermost first. -/
abbrev Place := List String

/-- The things on a disk by their places. -/
structure Disk where
  nodes : Table Place Node
  deriving Repr

namespace Disk

/-- The place from which paths that start with a slash are followed. -/
def root : Place := ["/"]

/-- What stands at a place. Every path starts in a directory. -/
def at? (d : Disk) (place : Place) : Option Node :=
  if place = [] ∨ place = root then some .directory else d.nodes.get? place

/-- The place one step further out. -/
def parent (place : Place) : Place := if place = root then root else place.dropLast

/-- The refusal to go on from a place that is no directory, if it is none. -/
def refuseEntry (d : Disk) (place : Place) : Except SystemErrorKind Unit :=
  match d.at? place with
  | some .directory => .ok ()
  | some (.file _ _) => .error .notDirectory
  | none => .error .notFound

/-- The place to which parts of a path lead from a place. -/
def follow (d : Disk) (here : Place) : List String → Except SystemErrorKind Place
  | [] => .ok here
  | part :: rest =>
    match d.refuseEntry here with
    | .error kind => .error kind
    | .ok () =>
      if part == "" || part == "." then d.follow here rest
      else if part == ".." then d.follow (parent here) rest
      else d.follow (here ++ [part]) rest

/-- Where a path starts. -/
def start (path : String) : Place := if path.startsWith '/' then root else []

/-- The place to which a path leads; nothing need stand there, but in a directory it must be. -/
def place (d : Disk) (path : String) : Except SystemErrorKind Place :=
  if path == "" then .error .notFound
  else d.follow (start path) (Path.parts path)

/-- What stands where a path leads. -/
def node (d : Disk) (path : String) : Except SystemErrorKind Node :=
  match d.place path with
  | .error kind => .error kind
  | .ok place =>
    match d.at? place with
    | some node => .ok node
    | none => .error .notFound

/-! ## Looking -/

/-- Whether anything stands where a path leads. -/
def exists? (d : Disk) (path : String) : Bool := (d.node path).isOk

/-- The content of a file and when it was last modified. -/
def file (d : Disk) (path : String) : Except SystemErrorKind (Bytes × Timestamp) :=
  match d.node path with
  | .error kind => .error kind
  | .ok .directory => .error .isDirectory
  | .ok (.file content modified) => .ok (content, modified)

/-- The names in a directory. -/
def names (d : Disk) (path : String) : Except SystemErrorKind (List String) :=
  match d.place path with
  | .error kind => .error kind
  | .ok place =>
    (d.refuseEntry place).map fun () =>
      d.nodes.filterMap fun (other, _) =>
        if other ≠ [] ∧ parent other = place then other.getLast? else none

/-! ## Changing -/

/-- The disk with something at a place. -/
def set (d : Disk) (place : Place) (node : Node) : Disk := ⟨d.nodes.put place node⟩

/-- The disk with a file of some content in a directory; a file that is there is replaced. -/
def write (d : Disk) (path : String) (content : Bytes) (modified : Timestamp) :
    Except SystemErrorKind Disk :=
  match d.place path with
  | .error kind => .error kind
  | .ok place =>
    match d.at? place with
    | some .directory => .error .isDirectory
    | some (.file _ _) => .ok (d.set place (.file content modified))
    | none => (d.refuseEntry (parent place)).map fun () => d.set place (.file content modified)

/-- The disk with more content at the end of a file. A file that is gone stays gone. -/
def append (d : Disk) (path : String) (content : Bytes) (modified : Timestamp) : Disk :=
  match d.file path with
  | .ok (before, _) => (d.write path (before ++ content) modified).toOption.getD d
  | .error _ => d

/-- The disk without a file. -/
def remove (d : Disk) (path : String) : Except SystemErrorKind Disk :=
  match d.file path with
  | .error kind => .error kind
  | .ok _ => (d.place path).map fun place => ⟨d.nodes.erase place⟩

/-- The disk with a directory in one that is there. -/
def makeDirectory (d : Disk) (path : String) : Except SystemErrorKind Disk :=
  match d.place (Path.stripped path) with
  | .error kind => .error kind
  | .ok place =>
    match d.at? place with
    | some _ => .error .alreadyThere
    | none => (d.refuseEntry (parent place)).map fun () => d.set place .directory

/-- The disk with a directory, when making those around it has ended with a refusal or without one.
That one around it is there in the end is no refusal. -/
def makeBehind (d : Disk) (path : String) (isMissing : Bool) (refusal : Option SystemError) :
    Disk × Option SystemError :=
  match refusal.filter (·.kind ≠ .alreadyThere) with
  | some e => (d, some e)
  | none =>
    if isMissing && Path.baseName (Path.stripped path) == "." then (d, none)
    else
      match d.makeDirectory path with
      | .ok d => (d, none)
      | .error kind => (d, some ⟨kind, path⟩)

/-- The disk with a directory and those around it that are missing, as far as they can be made, and
the refusal if they cannot all be made. The fuel is enough if there is some for each part of the
path. -/
def makeMissing (d : Disk) : Nat → String → Disk × Option SystemError
  | 0, path => (d, some ⟨.notFound, path⟩)
  | fuel + 1, path =>
    let outer := Path.around (Path.stripped path)
    let isMissing := outer != "" && !d.exists? outer
    let (d, refusal) := if isMissing then d.makeMissing fuel outer else (d, none)
    d.makeBehind path isMissing refusal

/-- The disk with a directory that is not there yet and those around it, as far as they can be made,
and the refusal if they cannot all be made. -/
def makeNewDirectory (d : Disk) (path : String) : Disk × Option SystemError :=
  d.makeMissing (Path.parts path).length path

/-- The disk with a directory and all those around it, as far as they can be made, and the refusal
if they cannot all be made. -/
def makeDirectories (d : Disk) (path : String) : Disk × Option SystemError :=
  let (d, refusal) := d.makeNewDirectory path
  match refusal, d.node path with
  | some ⟨.alreadyThere, _⟩, .ok .directory => (d, none)
  | _, _ => (d, refusal)

/-- The disk without what is inside a directory and, if its path ends in a name, without the
directory itself; and the refusal if something stays. What is inside goes first, so that no way
leads back from it to the directory. -/
def removeTree (d : Disk) (path : String) : Disk × Option SystemError :=
  let refusal (kind : SystemErrorKind) : Option SystemError := some ⟨kind, path⟩
  match d.node path, d.place path with
  | .error kind, _ | _, .error kind => (d, refusal kind)
  | .ok (.file _ _), _ => (d, refusal .notDirectory)
  | .ok .directory, .ok place =>
    let empty : Disk := ⟨d.nodes.filter fun row => row.1 = place || !place.isPrefixOf row.1⟩
    if (empty.place path).isOk && Path.baseName (Path.stripped path) != "." then
      (⟨empty.nodes.erase place⟩, none)
    else (empty, refusal (if (empty.place path).isOk then .other 22 "Invalid argument" else .notFound))

/-- Everything inside a directory, with the names that lead there from it. -/
def inside (d : Disk) (directory : Place) : Table Place Node :=
  d.nodes.filterMap fun (place, node) =>
    if directory.isPrefixOf place ∧ place ≠ directory then
      some (place.drop directory.length, node)
    else none

end Disk

end Splice
