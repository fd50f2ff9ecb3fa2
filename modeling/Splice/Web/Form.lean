import Splice.Storage.StoredFile

/-!
# Forms

A form gives values to names: texts and files. Only so many of either may be in it, and a text may
only be so large.
-/

namespace Splice.Web

/-- A value in a form. -/
inductive FormValue
  | text (s : String)
  /-- A file, with the names and values of the lines in front of it. -/
  | file (upload : Upload) (lines : List (String × String))
  deriving Repr

/-- The values of a form with their names, in order. A name may have several. -/
abbrev Form := List (String × FormValue)

/-- Why a form cannot be read. -/
inductive FormFault
  | missingBoundary
  | malformed
  /-- A part has no name. -/
  | unnamed
  | tooManyTexts
  | tooManyFiles
  | oversizedText
  deriving DecidableEq, Repr

/-- The most values of either sort. -/
def Form.mostValues : Nat := 1000

/-- The most octets of a text. -/
def Form.textLimit : Nat := 1024 * 1024

/-- The words for such a reason. -/
def FormFault.message : FormFault → String
  | missingBoundary => "Missing boundary in multipart."
  | malformed => "Invalid multipart data."
  | unnamed => "The Content-Disposition header field \"name\" must be provided."
  | tooManyTexts => s!"Too many fields. Maximum number of fields is {Form.mostValues}."
  | tooManyFiles => s!"Too many files. Maximum number of files is {Form.mostValues}."
  | oversizedText => s!"Part exceeded maximum size of {Form.textLimit / 1024}KB."

namespace Form

/-- The values of a name. -/
def values (form : Form) (name : String) : List FormValue :=
  (form.filter fun row => row.1 == name).map (·.2)

/-- The files of a name. -/
def uploads (form : Form) (name : String) : List Upload :=
  (form.values name).filterMap fun
    | .file upload _ => some upload
    | .text _ => none

/-- The last text of a name, if no other value stands behind it. An empty one counts as absent. -/
def text? (form : Form) (name : String) : Option String :=
  match (form.values name).getLast? with
  | some (.text s) => if s == "" then none else some s
  | _ => none

end Form

end Splice.Web
