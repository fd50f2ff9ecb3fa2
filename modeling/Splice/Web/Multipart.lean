import Splice.Text.Charset
import Splice.Web.Form
import Splice.Web.FormName
import Splice.Web.Parameters

/-!
# Forms in parts

A form can be written in parts, with a boundary in front of each and behind the last. A part is some
header lines, an empty line and a content. One of the lines gives the part its name; with a file
name beside it the part is a file, and else a text.

Octets are read one at a time, by a reader that knows where in this grammar it is. Names and texts
are in a character set, or if it does not fit, each octet is a character. What stands behind the
last boundary does not matter, and a part without a boundary behind it does not count.

* `Multipart.write` writes a form.
* `Multipart.form` reads one.
-/

namespace Splice.Web.Multipart

/-- The octet of a line feed. -/
def lf : UInt8 := 0x0A

/-- The octet of a carriage return. -/
def cr : UInt8 := 0x0D

/-- The octet of a hyphen. -/
def hyphen : UInt8 := 0x2D

/-! ## Writing -/

/-- A part as it is written. -/
structure Part where
  name : String
  filename : Option String
  contentType : Option String
  content : Bytes
  deriving Repr

/-- The lines in front of the content of a part. -/
def Part.head (p : Part) : String :=
  let filename := (p.filename.map fun name => "; filename=\"" ++ sentName name ++ "\"").getD ""
  let type := (p.contentType.map fun type => "\r\nContent-Type: " ++ type).getD ""
  "Content-Disposition: form-data; name=\"" ++ sentName p.name ++ "\"" ++ filename ++ type

/-- A part with the boundary in front of it. -/
def Part.write (boundary : String) (p : Part) : Bytes :=
  Bytes.ofString ("--" ++ boundary ++ "\r\n" ++ p.head ++ "\r\n\r\n") ++ p.content ++ [cr, lf]

/-- The octets of parts. -/
def write (boundary : String) (parts : List Part) : Bytes :=
  parts.flatMap (Part.write boundary) ++ Bytes.ofString ("--" ++ boundary ++ "--\r\n")

/-! ## Names and texts -/

/-- The text of octets in a character set, or else that whose characters are the octets. -/
def decode (charset : String) (octets : Bytes) : String :=
  let read? := (Charset.named? charset).bind fun c => (c.strict octets).toOption
  read?.getD octets.byNumber

/-- A line in front of a content: a name and a value. -/
abbrev Line := Bytes × Bytes

/-- A part whose content is being read. -/
structure Opened where
  name : String
  filename : Option String
  /-- The lines in front of the content, their names in small letters. -/
  lines : List (String × String)
  deriving Repr

/-- The part that lines open. The last line that gives it a name counts. -/
def Opened.ofLines? (charset : String) (lines : List Line) : Option Opened := do
  let lines := lines.map fun (name, value) => (name.byNumber.map Char.toLower, value.byNumber)
  let (_, disposition) ← lines.reverse.find? fun line => line.1 == "content-disposition"
  let parametrized := Parametrized.ofText disposition
  let read (text : String) := decode charset (Bytes.ofNumbers text)
  return {
    name := read (← parametrized.last? "name")
    filename := (parametrized.last? "filename").map fun name => read (withoutDrive name)
    lines }

/-- The value of a part with some content. -/
def Opened.value (charset : String) (p : Opened) (content : Bytes) : FormValue :=
  match p.filename with
  | none => .text (decode charset content)
  | some filename =>
    let contentType := (p.lines.find? fun line => line.1 == "content-type").map (·.2)
    .file (.ofContent (some filename) contentType content) p.lines

/-! ## Places -/

/-- How much of a delimiter stands at the end of what was read of a content. -/
inductive Match
  /-- All but some octets. -/
  | missing (octets : Bytes)
  /-- The whole, and the first octet of a line end. -/
  | lineEnd
  /-- The whole, and a hyphen. -/
  | hyphen
  deriving DecidableEq, Repr

/-- Where a reader is. -/
inductive Place
  /-- Among line ends in front of the first boundary. -/
  | before
  /-- In the first boundary, of which some octets are missing. -/
  | boundary (missing : Bytes)
  /-- Behind the first boundary and the first octet of a line end. -/
  | boundaryEnd
  /-- Behind the first boundary and a hyphen. -/
  | lastBoundary
  /-- In the name of a line. -/
  | name (lines : List Line) (octets : Bytes)
  /-- Among spaces in front of a value. The number is that of the octets of the line. -/
  | spaces (lines : List Line) (name : Bytes) (size : Nat)
  /-- In a value. -/
  | value (lines : List Line) (name octets : Bytes) (size : Nat)
  /-- Behind the first octet of the end of a line. -/
  | lineEnd (lines : List Line)
  /-- Behind the first octet of the end of an empty line. -/
  | headEnd (lines : List Line)
  /-- In a content. -/
  | content (part : Opened) (octets : Bytes) (found : Match)
  /-- Behind the last boundary. -/
  | done
  deriving Repr

/-- The most octets of a line. -/
def lineLimit : Nat := 4224

/-- The most lines in front of a content. -/
def mostLines : Nat := 8

/-- Whether an octet may stand in the name of a line. -/
def isNameOctet (b : UInt8) : Bool :=
  let c := Char.ofNat b.toNat
  c.isAlphanum || "!#$%&'*+-.^_`|~".toList.contains c

/-! ## Reading -/

/-- What a reader must know: the boundary, and the character set of names and texts. -/
structure Grammar where
  boundary : Bytes
  charset : String
  deriving DecidableEq, Repr

/-- The octets between a content and what follows. -/
def Grammar.delimiter (g : Grammar) : Bytes := cr :: lf :: hyphen :: hyphen :: g.boundary

/-- A reader between two octets: where it is, the values so far, last first, and the numbers of
texts and files among the parts. Octets and lines under way are also kept last first. -/
structure Reader where
  place : Place
  form : Form
  texts : Nat
  files : Nat
  deriving Repr

namespace Reader

/-- A reader at the start. -/
def start : Reader := ⟨.before, [], 0, 0⟩

/-- The reader at another place. -/
def goTo (r : Reader) (place : Place) : Except FormFault Reader := .ok { r with place }

/-- Reads an octet of the first boundary. -/
def readBoundary (r : Reader) (missing : Bytes) (b : UInt8) : Except FormFault Reader :=
  match missing with
  | m :: rest => if b = m then r.goTo (.boundary rest) else .error .malformed
  | [] =>
    if b = cr then r.goTo .boundaryEnd
    else if b = hyphen then r.goTo .lastBoundary
    else .error .malformed

/-- Reads an octet of a name. -/
def readName (r : Reader) (lines : List Line) (octets : Bytes) (b : UInt8) :
    Except FormFault Reader :=
  if octets.isEmpty && b = cr then r.goTo (.headEnd lines)
  else if lineLimit ≤ octets.length || (octets.isEmpty && mostLines ≤ lines.length) then
    .error .malformed
  else if b = 0x3A then
    if octets.isEmpty then .error .malformed
    else r.goTo (.spaces lines octets.reverse (octets.length + 1))
  else if isNameOctet b then r.goTo (.name lines (b :: octets))
  else .error .malformed

/-- Reads an octet of a value. -/
def readValue (r : Reader) (lines : List Line) (name octets : Bytes) (size : Nat) (b : UInt8) :
    Except FormFault Reader :=
  if b = cr then r.goTo (.lineEnd ((name, octets.reverse) :: lines))
  else if lineLimit ≤ size then .error .malformed
  else r.goTo (.value lines name (b :: octets) (size + 1))

/-- Opens the part behind some lines. -/
def openPart (g : Grammar) (r : Reader) (lines : List Line) : Except FormFault Reader :=
  match Opened.ofLines? g.charset lines.reverse with
  | none => .error .unnamed
  | some part =>
    let content := Place.content part [] (.missing g.delimiter)
    if part.filename.isSome then
      if Form.mostValues ≤ r.files then .error .tooManyFiles
      else .ok { r with place := content, files := r.files + 1 }
    else if Form.mostValues ≤ r.texts then .error .tooManyTexts
    else .ok { r with place := content, texts := r.texts + 1 }

/-- Refuses a text that is too large. -/
def checkSize (part : Opened) (content : Bytes) : Except FormFault Unit :=
  if part.filename.isNone && Form.textLimit < content.length then .error .oversizedText else .ok ()

/-- Ends a part at a delimiter and one more octet, and goes on somewhere. -/
def closePart (g : Grammar) (r : Reader) (part : Opened) (octets : Bytes) (next : Place) :
    Except FormFault Reader :=
  let content := (octets.drop (g.delimiter.length + 1)).reverse
  (checkSize part content).map fun _ =>
    { r with place := next, form := (part.name, part.value g.charset content) :: r.form }

/-- How much of a delimiter stands at the end if nothing of it stood before an octet. -/
def matchFirst (g : Grammar) (b : UInt8) : Match :=
  .missing (if b = cr then g.delimiter.tail else g.delimiter)

/-- Reads an octet of a content. -/
def readContent (g : Grammar) (r : Reader) (part : Opened) (octets : Bytes) (found : Match)
    (b : UInt8) : Except FormFault Reader :=
  let go (found : Match) := r.goTo (.content part (b :: octets) found)
  match found with
  | .missing (m :: rest) => go (if b = m then .missing rest else matchFirst g b)
  | .missing [] =>
    go (if b = cr then .lineEnd else if b = hyphen then .hyphen else matchFirst g b)
  | .lineEnd => if b = lf then r.closePart g part octets (.name [] []) else go (matchFirst g b)
  | .hyphen => if b = hyphen then r.closePart g part octets .done else go (matchFirst g b)

/-- Reads the next octet. -/
def step (g : Grammar) (r : Reader) (b : UInt8) : Except FormFault Reader :=
  match r.place with
  | .before =>
    if b = cr || b = lf then .ok r else r.readBoundary (hyphen :: hyphen :: g.boundary) b
  | .boundary missing => r.readBoundary missing b
  | .boundaryEnd => if b = lf then r.goTo (.name [] []) else .error .malformed
  | .lastBoundary => if b = hyphen then r.goTo .done else .error .malformed
  | .name lines octets => r.readName lines octets b
  | .spaces lines name size =>
    if b = 0x20 then r.goTo (.spaces lines name (size + 1)) else r.readValue lines name [] size b
  | .value lines name octets size => r.readValue lines name octets size b
  | .lineEnd lines => if b = lf then r.goTo (.name lines []) else .error .malformed
  | .headEnd lines => if b = lf then r.openPart g lines else .error .malformed
  | .content part octets found => r.readContent g part octets found b
  | .done => .ok r

/-- The form that was read, at the end of the octets. -/
def finish (r : Reader) : Except FormFault Form :=
  match r.place with
  | .content part octets _ => (checkSize part octets).map fun _ => r.form.reverse
  | _ => .ok r.form.reverse

end Reader

/-- The form that octets write. -/
def form (g : Grammar) (octets : Bytes) : Except FormFault Form :=
  (octets.foldlM (Reader.step g) .start).bind Reader.finish

end Splice.Web.Multipart
