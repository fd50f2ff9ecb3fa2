import Splice.Json.Value
import Splice.Text.Separated
import Splice.Web.Form

/-!
# Files in complaints

A complaint shows what it is about. A file is shown by its name and size, by the lines that stood in
front of it, and by its content if that can be read as pairs of octets, one pair a line. Reading for
pairs stops behind the first line that is none. What is left is then tried once more, and if that
fails too, only the buffer of the content is shown, which is a file of its own if the content is
large.
-/

namespace Splice.Web

/-- The lines of a content, each with its end. -/
def contentLines (content : Bytes) : List Bytes :=
  let found := stretches (· == 0x0A) content
  (found.dropLast.map (· ++ [0x0A])) ++ (found.getLast?.filter (! ·.isEmpty)).toList

/-- The lines as pairs of octets, if each of them is one. A later pair replaces an earlier one with
the same first octet. -/
def pairs? (lines : List Bytes) : Option Json.Fields :=
  lines.foldlM
    (fun found line =>
      match line with
      | [first, second] => some (found.put (toString first.toNat) (.int second.toNat))
      | _ => none)
    []

/-- The lines behind the first that is no pair. -/
def behindPairs (lines : List Bytes) : List Bytes :=
  (lines.dropWhile fun line => line.length == 2).drop 1

/-- How a temporary file would be opened for a content that is too large for its buffer. -/
def openingFields : Json.Fields :=
  [("mode", .text "w+b"), ("buffering", .int (-1)), ("suffix", .null), ("prefix", .null),
    ("encoding", .null), ("newline", .null), ("dir", .null), ("errors", .null)]

/-- The most octets that stay in such a buffer. -/
def bufferLimit : Nat := 1024 * 1024

/-- A content as it is shown. -/
def contentView (content : Bytes) : Json :=
  let lines := contentLines content
  match pairs? lines with
  | some pairs => .object pairs
  | none =>
    let rolled := bufferLimit < content.length
    .object ([
      ("_file", .object ((pairs? (behindPairs lines)).getD [])),
      ("_max_size", .int bufferLimit), ("_rolled", .bool rolled)]
      ++ if rolled then [] else [("_TemporaryFileArgs", .object openingFields)])

/-- The names and values of lines, of several with one name the first. -/
def lineFields (lines : List (String × String)) : Json.Fields :=
  lines.foldr (fun (name, value) fields => (name, .text value) :: fields.erase name) []

/-- A file as it is shown. -/
def fileView (upload : Upload) (lines : List (String × String)) : Json :=
  .object [
    ("filename", Json.ofText? upload.filename),
    ("file", contentView upload.content),
    ("size", .int upload.content.length),
    ("headers", .object (lineFields lines)),
    ("_max_mem_size", .int bufferLimit)]

end Splice.Web
