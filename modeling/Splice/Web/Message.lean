import Splice.Json.Value
import Splice.Web.Multipart
import Splice.Web.Urlencoded

/-!
# Requests and responses

What the service receives and answers, as far as it matters here. The names of header fields count
in any case, and a content type says whether a request carries a form and how it is written.
-/

namespace Splice.Web

/-- A request. -/
structure Request where
  method : String
  /-- The path on the service that is asked for. -/
  path : String
  headers : List (String × String)
  content : Bytes
  deriving Repr

/-- The content of a response. -/
inductive Body
  | json (value : Json)
  | text (s : String)
  | octets (content : Bytes)
  deriving Repr

/-- A response. -/
structure Response where
  status : Nat
  headers : List (String × String)
  body : Body
  deriving Repr

/-- The values of the header fields of a name in small letters. -/
def headerValues (headers : List (String × String)) (name : String) : List String :=
  (headers.filter fun field => field.1.map Char.toLower == name).map (·.2)

/-- The name of a content type in small letters. -/
def typeName (contentType : String) : String :=
  Text.lower (if contentType.toList.contains ';' then (Parametrized.ofText contentType).head.1
    else Text.trim contentType)

/-- The form that a content is, read as its type says. What is no form holds nothing. -/
def Form.read (contentType : String) (content : Bytes) : Except FormFault Form :=
  let parametrized := Parametrized.ofText contentType
  match typeName contentType with
  | "multipart/form-data" =>
    match parametrized.last? "boundary" with
    | none => .error .missingBoundary
    | some boundary =>
      let charset := (parametrized.last? "charset").getD "utf-8"
      Multipart.form ⟨Bytes.ofNumbers boundary, charset⟩ content
  | "application/x-www-form-urlencoded" => Urlencoded.form content
  | _ => .ok []

namespace Request

/-- The value of a header field, its name given in small letters. -/
def header? (r : Request) (name : String) : Option String := (headerValues r.headers name).head?

/-- The form that a request carries. -/
def form (r : Request) : Except FormFault Form :=
  match r.header? "content-type" with
  | none => .ok []
  | some contentType => Form.read contentType r.content

end Request

namespace Response

/-- A response with a JSON value. -/
def json (status : Nat) (value : Json) : Response :=
  ⟨status, [("content-type", "application/json")], .json value⟩

/-- A response with a text. -/
def text (status : Nat) (s : String) : Response :=
  ⟨status, [("content-type", "text/plain; charset=utf-8")], .text s⟩

/-- The response with more header fields. -/
def withHeaders (r : Response) (headers : List (String × String)) : Response :=
  { r with headers := r.headers ++ headers }

end Response

end Splice.Web
