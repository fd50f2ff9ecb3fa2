import Splice.Text.Separated

/-!
# Paths

A path is a text whose parts are separated by slashes. The last part is the name of a file; what
stands in it from its last dot on is the extension, unless nothing but dots stands before.
-/

namespace Splice.Path

/-- The characters behind the last slash. -/
def lastPart (path : List Char) : List Char :=
  (path.reverse.takeWhile (· != '/')).reverse

/-- The part of a path behind its last slash. -/
def baseName (path : String) : String := String.ofList (lastPart path.toList)

/-- The characters from the last dot on, if something else than dots stands before it. -/
def dotted (name : List Char) : List Char :=
  let word := name.reverse.takeWhile (· != '.')
  match name.reverse.dropWhile (· != '.') with
  | [] => []
  | dot :: stem => if stem.any (· != '.') then dot :: word.reverse else []

/-- The extension of a path, with its dot. -/
def extension (path : String) : String := String.ofList (dotted (lastPart path.toList))

/-- The path of a name in a directory; a name that starts with a slash stands for itself. -/
def join (directory name : String) : String :=
  if name.startsWith '/' then name
  else if directory == "" || directory.endsWith '/' then directory ++ name
  else directory ++ "/" ++ name

/-- A path without the slashes at its end, unless it has nothing else. -/
def stripped (path : String) : String :=
  let bare := path.toList.reverse.dropWhile (· == '/')
  if bare.isEmpty then path else String.ofList bare.reverse

/-- The path in front of the last slash. -/
def around (path : String) : String :=
  stripped (String.ofList (path.toList.take (path.length - (baseName path).length)))

/-- The parts of a path. -/
def parts (path : String) : List String :=
  Text.partsAt '/' path

end Splice.Path
