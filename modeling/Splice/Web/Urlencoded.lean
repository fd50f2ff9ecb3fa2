import Splice.Text.Percent
import Splice.Text.Separated
import Splice.Web.Form

/-!
# Forms as named texts

A form without files can be written as one line: each name with an equals sign and its text behind
it, an ampersand between one and the next. What could be mistaken is percent-encoded, and a space
is written as a plus sign.

Whoever reads such a line takes a semicolon for an ampersand if no ampersand stands behind it, and
passes over separators that follow on one another. A name without an equals sign has the empty text
if a separator follows on it, and is dropped at the end of the line.
-/

namespace Splice.Web.Urlencoded

/-! ## Writing -/

/-- A character as it is written. -/
def writtenChar (c : Char) : List Char :=
  if c.isAlphanum || "_.-~".toList.contains c then [c]
  else if c == ' ' then ['+']
  else (Bytes.ofString (String.singleton c)).flatMap Percent.encodeOctet

/-- A text as it is written. -/
def written (text : String) : String := String.ofList (text.toList.flatMap writtenChar)

/-- The line for named texts. -/
def write (rows : List (String × String)) : Bytes :=
  Bytes.ofString ("&".intercalate (rows.map fun (name, text) => written name ++ "=" ++ written text))

/-! ## Reading -/

/-- A stretch of the line, and whether a separator follows on it. -/
abbrev Stretch := List Char × Bool

/-- Stretches of which only the last has no separator behind it. -/
def separated (found : List (List Char)) : List Stretch :=
  found.dropLast.map (·, true) ++ found.getLast?.toList.map (·, false)

/-- The stretches of a line. -/
def stretchesOf (line : List Char) : List Stretch :=
  let found := separated (stretches (· == '&') line)
  found.flatMap fun (stretch, isFollowed) =>
    if isFollowed then [(stretch.dropWhile (· == ';'), true)]
    else separated (stretches (· == ';') stretch)

/-- A text as it is read, its characters being octets. -/
def read (cs : List Char) : String :=
  Percent.decode (String.ofList (cs.map fun c => if c == '+' then ' ' else c))

/-- The name and the text that a stretch writes, if it writes any. -/
def row? : Stretch → Option (String × FormValue)
  | ([], _) => none
  | (cs, isFollowed) =>
    if cs.contains '=' then
      let name := cs.takeWhile (· != '=')
      some (read name, .text (read (cs.drop (name.length + 1))))
    else if isFollowed then some (read cs, .text "")
    else none

/-- The form that octets write. -/
def form (octets : Bytes) : Except FormFault Form :=
  let rows := (stretchesOf octets.byNumber.toList).filterMap row?
  if Form.mostValues < rows.length then .error .tooManyTexts else .ok rows

end Splice.Web.Urlencoded
