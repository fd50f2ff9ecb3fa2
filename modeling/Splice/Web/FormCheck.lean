import Splice.Json.Value
import Splice.Web.FileView

/-!
# What a form must hold

A route asks for at least one file under one name, with no text among them, and for texts under
others. Everything that a form lacks or holds in the wrong place is complained about at once: first
the files in their order, then the texts in theirs.
-/

namespace Splice.Web

/-- What a route asks of a form. -/
structure FormShape where
  /-- The name of the files. -/
  files : String
  /-- The names of the texts, none of which need be there. -/
  texts : List String
  deriving DecidableEq, Repr

/-- A complaint about a place in a form. -/
def formComplaint (type message : String) (place : List Json) (input : Json) :
    List (String × Json) :=
  [("type", .text type), ("loc", .list (.text "body" :: place)), ("msg", .text message),
    ("input", input)]

namespace FormShape

/-- The complaint that there is no file. -/
def missingFiles (field : String) : Json :=
  .object (formComplaint "missing" "Field required" [.text field] .null)

/-- The complaint that a text stands in the place of a file. -/
def textAmongFiles (field : String) (index : Nat) (text : String) : Json :=
  .object (formComplaint "value_error"
    "Value error, Expected UploadFile, received: <class 'str'>"
    [.text field, .int index] (.text text) ++ [("ctx", .object [("error", .object [])])])

/-- The complaint that a file stands in the place of a text. -/
def fileAsText (field : String) (shown : Json) : Json :=
  .object (formComplaint "string_type" "Input should be a valid string" [.text field] shown)

/-- The complaints about the files of a form. -/
def fileComplaints (shape : FormShape) (form : Form) : List Json :=
  match form.values shape.files with
  | [] => [missingFiles shape.files]
  | values =>
    values.zipIdx.filterMap fun
      | (.text s, index) => some (textAmongFiles shape.files index s)
      | (.file .., _) => none

/-- The complaints about the texts of a form. -/
def textComplaints (shape : FormShape) (form : Form) : List Json :=
  shape.texts.filterMap fun name =>
    match (form.values name).getLast? with
    | some (.file upload lines) => some (fileAsText name (fileView upload lines))
    | _ => none

/-- All complaints about a form. -/
def complaints (shape : FormShape) (form : Form) : List Json :=
  shape.fileComplaints form ++ shape.textComplaints form

end FormShape

end Splice.Web
