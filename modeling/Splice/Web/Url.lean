import Splice.Number.Reading
import Splice.Text.Percent
import Splice.Web.Host

/-!
# Addresses of resources

An address may start with a scheme and an authority; the latter is a user, a host and a port. Then
come a path, and perhaps a query and a fragment, which do not matter here. An address with both
scheme and host stands for itself. Any other is taken for a path on the service.

In a path with a scheme or an authority in front of it, and in one on the service, the segments `.`
and `..` are resolved. What is percent-encoded in it is decoded twice, once by whoever passes the
request on and once by the service.
-/

namespace Splice.Web

/-- An address, its path as it is written. -/
structure Url where
  scheme : String
  host : String
  port : Option Int
  path : List Char
  deriving DecidableEq, Repr

/-- What is wrong with an address. -/
inductive UrlFault
  | long
  | control (c : Char) (position : Nat)
  | port (text : String)
  /-- The host looks like an address of four numbers. -/
  | numbers (host : String)
  /-- The host stands in brackets. -/
  | groups (host : String)
  | doubleSlash
  | colon
  deriving DecidableEq, Repr

/-- The words for what is wrong. -/
def UrlFault.message : UrlFault → String
  | long => "URL too long"
  | control c position =>
    "Invalid non-printable ASCII character in URL, " ++ Text.quoted (String.singleton c)
      ++ s!" at position {position}."
  | port text => "Invalid port: " ++ Text.quoted text
  | numbers host => "Invalid IPv4 address: " ++ Text.quoted host
  | groups host => "Invalid IPv6 address: " ++ Text.quoted host
  | doubleSlash => "Relative URLs cannot have a path starting with '//'"
  | colon => "Relative URLs cannot have a path starting with ':'"

namespace Url

/-- The most characters of an address. -/
def mostChars : Nat := 65536

/-! ## Paths -/

/-- One more segment in front of those that are resolved, the last of these first; nothing leads out
of the first. -/
def addSegment (segments : List String) (segment : String) : List String :=
  if segment == "." then segments
  else if segment == ".." then
    if segments = [""] then segments else segments.tail
  else segment :: segments

/-- A path with its segments resolved. -/
def resolve (path : List Char) : List Char :=
  let segments := (Text.partsAt '/' (String.ofList path)).foldl addSegment []
  ("/".intercalate segments.reverse).toList

/-! ## Parts -/

/-- The scheme in front of a colon, and what stands behind it. -/
def cutScheme (cs : List Char) : String × List Char :=
  let word := cs.takeWhile fun c => c.isAlphanum || "+.-".toList.contains c
  match cs.drop word.length with
  | ':' :: rest =>
    if (word.head?.map Char.isAlpha).getD true then (String.ofList (word.map Char.toLower), rest)
    else ("", cs)
  | _ => ("", cs)

/-- The authority behind two slashes, and what stands behind it. -/
def cutAuthority : List Char → List Char × List Char
  | '/' :: '/' :: rest =>
    let authority := rest.takeWhile fun c => !("/?#".toList.contains c)
    (authority, rest.drop authority.length)
  | rest => ([], rest)

/-- An authority without its user. -/
def dropUser (authority : List Char) : List Char :=
  (authority.reverse.takeWhile (· != '@')).reverse

/-- The host of an authority without user, and the port that is written behind it. -/
def cutHost (cs : List Char) : List Char × List Char :=
  let host :=
    if cs.head? == some '[' && cs.contains ']' then
      (cs.reverse.dropWhile (· != ']')).reverse
    else cs.takeWhile (· != ':')
  match cs.drop host.length with
  | ':' :: port => (host, port)
  | port => (host, port)

/-- The ports that go without saying. -/
def standardPorts : List (String × Int) :=
  [("ftp", 21), ("http", 80), ("https", 443), ("ws", 80), ("wss", 443)]

/-- The port that characters write; one that goes without saying is none. -/
def portOf (scheme : String) (cs : List Char) : Except UrlFault (Option Int) :=
  if cs.isEmpty then .ok none
  else
    match Number.integerOfSetting (String.ofList cs) with
    | .error _ => .error (.port (String.ofList cs))
    | .ok port => .ok (if standardPorts.contains (scheme, port) then none else some port)

/-- A host, unless it looks like an address and is none. -/
def checkHost (cs : List Char) : Except UrlFault Unit :=
  if Host.looksQuad cs then
    if Host.isQuad cs then .ok () else .error (.numbers (String.ofList cs))
  else if cs.head? == some '[' && cs.getLast? == some ']' && 1 < cs.length then
    if Host.isGrouped (cs.tail.dropLast) then .ok () else .error (.groups (String.ofList cs))
  else .ok ()

/-! ## Reading -/

/-- Refuses a text that is too long or holds a control character. -/
def checkText (cs : List Char) : Except UrlFault Unit :=
  if mostChars < cs.length then .error .long
  else
    match cs.zipIdx.find? fun (c, _) => c.toNat < 0x20 || c.toNat == 0x7F with
    | some (c, position) => .error (.control c position)
    | none => .ok ()

/-- The address that a text writes. -/
def ofText (text : String) : Except UrlFault Url := do
  checkText text.toList
  let (scheme, rest) := cutScheme text.toList
  let (authority, rest) := cutAuthority rest
  let path := rest.takeWhile fun c => c != '?' && c != '#'
  let place := dropUser authority
  let hasUser := place.length + 1 < authority.length
  let (host, port) := cutHost place
  checkHost host
  let port ← portOf scheme port
  if scheme == "" && host.isEmpty && port.isNone && !hasUser then
    if ['/', '/'].isPrefixOf path then throw .doubleSlash
    if path.head? == some ':' then throw .colon
    return ⟨"", "", none, path⟩
  else return ⟨scheme, String.ofList host, port, resolve path⟩

/-- An address, or in the place of one that has no scheme or no host, the one that it means on the
service. -/
def absolute (url : Url) : Url :=
  if url.scheme != "" && url.host != "" then url
  else ⟨"http", "testserver", none, resolve ('/' :: url.path.dropWhile (· == '/'))⟩

/-- The path on the service that an address names. -/
def route (url : Url) : String :=
  match url.path with
  | [] => "/"
  | path => Percent.decode (Percent.decode (String.ofList path))

/-- The host of an address and its port, as they are written. -/
def authority (url : Url) : String :=
  url.host ++ ((url.port.map fun port => s!":{port}").getD "")

end Url

end Splice.Web
