import Splice.Text.Quoted

/-!
# Errors of the operating system

What the system answers when it cannot open, remove or run a file.
-/

namespace Splice

/-- Why the system refused. -/
inductive SystemErrorKind
  | notFound
  | denied
  | isDirectory
  | notDirectory
  | alreadyThere
  | other (number : Nat) (words : String)
  deriving DecidableEq, Repr

/-- The number that the system gives to a refusal. -/
def SystemErrorKind.number : SystemErrorKind → Nat
  | notFound => 2
  | denied => 13
  | isDirectory => 21
  | notDirectory => 20
  | alreadyThere => 17
  | other number _ => number

/-- The system's words for a refusal. -/
def SystemErrorKind.words : SystemErrorKind → String
  | notFound => "No such file or directory"
  | denied => "Permission denied"
  | isDirectory => "Is a directory"
  | notDirectory => "Not a directory"
  | alreadyThere => "File exists"
  | other _ words => words

/-- A refusal and the file that it is about. -/
structure SystemError where
  kind : SystemErrorKind
  path : String
  deriving DecidableEq, Repr

/-- The words for a refusal: its number, the system's words and the file. -/
def SystemError.message (e : SystemError) : String :=
  s!"[Errno {e.kind.number}] {e.kind.words}: {Text.quoted e.path}"

end Splice
