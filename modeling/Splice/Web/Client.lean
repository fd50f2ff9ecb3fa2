import Splice.Json.Octets
import Splice.Problem
import Splice.Web.Message
import Splice.Web.Url

/-!
# The client's side

A client sends a form in parts if files belong to it, the texts before the files, and otherwise as
named texts. It says so in the content type, unless it is told another one; a boundary that stands
in that one is the boundary it uses. A file without a name is sent without one.

The octets of a response become a JSON value if its content type says that they are one, and else a
text in the character set that the content type names, or in UTF-8. There are no octets in the
response to a request for the head alone. Header values must be ASCII on both ways.
-/

namespace Splice.Web

/-- Why a client cannot send a request or read a response. -/
inductive ClientFault
  | url (fault : UrlFault)
  /-- The scheme is none that the client knows. -/
  | scheme (name : String)
  /-- A header name or value is not ASCII. -/
  | header (text : String)
  /-- Units of so many bits come without a mark. -/
  | unmarked (bits : Nat)
  /-- Octets come with the name of something that is not a character set. -/
  | unreadable (name : Transformation)
  | fault (f : Fault)
  deriving Repr

/-- The place of the first characters of a text that are not ASCII, in words. -/
def foreignPlace (text : String) : String :=
  let isForeign (c : Char) : Bool := 0x80 ≤ c.toNat
  let first := (text.toList.takeWhile (! isForeign ·)).length
  match (text.toList.drop first).takeWhile isForeign with
  | [c] => "character '" ++ String.ofList (Text.numbered c) ++ s!"' in position {first}"
  | run => s!"characters in position {first}-{first + run.length - 1}"

/-- The words for a fault of a client's own. -/
def ClientFault.message : ClientFault → String
  | .url f => f.message
  | .scheme name => Text.quoted name
  | .header text =>
    "'ascii' codec can't encode " ++ foreignPlace text ++ ": ordinal not in range(128)"
  | .unmarked bits => s!"UTF-{bits} stream does not start with BOM"
  | .unreadable .ofOctets => ""
  | .unreadable .ofText => "descriptor 'translate' for 'str' objects doesn't apply to a 'bytes' object"
  | .unreadable .ofHosts => "Unsupported error handling replace"
  | .unreadable .ofNothing => "undefined encoding"
  | .fault _ => ""

/-! ## Writing a request -/

/-- A file that a client adds to a form. -/
structure AddedFile where
  field : String
  filename : Option String
  contentType : String
  content : Bytes
  deriving Repr

/-- A request as a client is asked for it. -/
structure Inquiry where
  method : String
  url : String
  headers : List (String × String)
  texts : List (String × String)
  files : List AddedFile
  deriving Repr

/-- The part that a client sends for a text. -/
def textPart (name text : String) : Multipart.Part := ⟨name, none, none, Bytes.ofString text⟩

/-- The part that a client sends for a file. -/
def filePart (f : AddedFile) : Multipart.Part :=
  ⟨f.field, f.filename.filter (· != ""), some f.contentType, f.content⟩

/-- The boundary of a client that is told none. -/
def ownBoundary : String := "0123456789abcdef0123456789abcdef"

/-- Whether a character is a blank of ASCII. -/
def isAsciiBlank (c : Char) : Bool := c == ' ' || (0x09 ≤ c.toNat && c.toNat ≤ 0x0D)

/-- The boundary that a content type tells a client. -/
def toldBoundary? (contentType : String) : Option String :=
  if contentType.startsWith "multipart/form-data" then
    (Text.partsAt ';' contentType).findSome? fun part =>
      let cs := Text.trimWhile isAsciiBlank part.toList
      if (String.ofList (cs.take 9)).map Char.toLower == "boundary=" then
        some (String.ofList (Text.trimWhile (· == '"') (cs.drop 9)))
      else none
  else none

/-- Refuses header names and values that are not ASCII. -/
def checkHeaders (headers : List (String × String)) : Except ClientFault Unit :=
  let texts := headers.flatMap fun (name, value) => [name, value]
  match texts.find? fun text => text.toList.any fun c => 0x80 ≤ c.toNat with
  | some text => .error (.header text)
  | none => .ok ()

namespace Inquiry

/-- The content of a request, and the content type that a client gives it. -/
def content? (i : Inquiry) : Option (Bytes × String) :=
  if !i.files.isEmpty then
    let types := headerValues i.headers "content-type"
    let boundary := (toldBoundary? (", ".intercalate types)).getD ownBoundary
    let parts := i.texts.map (fun (name, text) => textPart name text) ++ i.files.map filePart
    some (Multipart.write boundary parts, "multipart/form-data; boundary=" ++ boundary)
  else if !i.texts.isEmpty then
    some (Urlencoded.write i.texts, "application/x-www-form-urlencoded")
  else none

/-- What a client sends. -/
def request (i : Inquiry) : Except ClientFault Request := do
  let url := (← (Url.ofText i.url).mapError .url).absolute
  checkHeaders i.headers
  if url.scheme ∉ ["http", "https", "ws", "wss"] then throw (.scheme url.scheme)
  if url.host.startsWith "[" then
    throw (.fault (.unreadableInteger (Text.cutAt ':' url.authority).2))
  let r : Request := ⟨i.method.map Char.toUpper, url.route, i.headers, []⟩
  match i.content? with
  | none => return r
  | some (content, contentType) =>
    let headers :=
      if (r.header? "content-type").isSome then r.headers
      else ("content-type", contentType) :: r.headers
    return { r with headers, content }

end Inquiry

/-! ## Reading a response -/

/-- What a client reads of the content of a response. -/
inductive Received
  | json (value : Json)
  | text (s : String)
  deriving Repr

/-- The text of octets in a character set, with the replacement character for what is malformed.
Units must come behind a mark if their order is not known; part of a mark alone is nothing. -/
def receiveText (charset : Charset) (octets : Bytes) : Except ClientFault String :=
  match charset with
  | .utf16 none =>
    if 2 ≤ octets.length && (octets.unmark? OctetOrder.mark).isNone then .error (.unmarked 16)
    else .ok (charset.lossy octets)
  | .utf32 none =>
    if 4 ≤ octets.length && (octets.unmark? OctetOrder.wideMark).isNone then .error (.unmarked 32)
    else .ok (charset.lossy octets)
  | .markedUtf8 => .ok (if octets.isPrefixOf [0xEF, 0xBB] then "" else charset.lossy octets)
  | _ => .ok (charset.lossy octets)

/-- The text of octets of a content type, in the character set that it names or in UTF-8. -/
def receiveTextOf (contentType : String) (octets : Bytes) : Except ClientFault String :=
  let name? := (Parametrized.ofText contentType).first? "charset"
  match name?.bind Transformation.named? with
  | some name => if octets.isEmpty then .ok "" else .error (.unreadable name)
  | none => receiveText ((name?.bind Charset.named?).getD .utf8) octets

/-- What octets of a content type are to a client. -/
def receiveOctets (contentType : String) (octets : Bytes) : Except ClientFault Received :=
  if contentType.startsWith "application/json" then
    match Json.readOctets Json.usualRoom octets with
    | .ok value => .ok (.json value)
    | .error (.encoding m) => .error (.fault (.encoding m))
    | .error (.text refusal) => .error (.fault (.ofRefusal refusal))
  else (receiveTextOf contentType octets).map .text

namespace Response

/-- The header fields of a response as a client reads them: the characters stand for octets. -/
def receivedHeaders (r : Response) : List (String × String) :=
  r.headers.map fun (name, value) => (name, Utf8.lossy (Bytes.ofNumbers value))

/-- What a client receives in answer to a request of some method: header fields and content. -/
def receive (r : Response) (method : String) :
    Except ClientFault (List (String × String) × Received) := do
  let headers := r.receivedHeaders
  checkHeaders headers
  let contentType := ((headerValues headers "content-type").head?).getD ""
  if method == "HEAD" then return (headers, ← receiveOctets contentType [])
  else
    match r.body with
    | .json value => return (headers, .json value)
    | .text s => return (headers, .text s)
    | .octets content => return (headers, ← receiveOctets contentType content)

end Response

end Splice.Web
