import Splice.Json.Value
import Splice.Number.Shortest
import Splice.Text.Quoted

/-!
# Writing JSON

A value is written on one line without spaces. In a text, quotes and backslashes stand behind a
backslash and control characters are written by their numbers; all other characters stand for
themselves. A floating-point number has a point or an exponent, so that it is read as one again, and
those that are no numbers are written as the words that the reader accepts.
-/

namespace Splice.Json

/-- A character inside a text. -/
def writtenChar (c : Char) : List Char :=
  if c == '"' || c == '\\' then ['\\', c]
  else if c.toNat < 0x20 then '\\' :: 'u' :: Text.hexDigits 4 c.toNat
  else [c]

/-- A text between its quotes. -/
def writtenText (s : String) : String :=
  String.ofList ('"' :: s.toList.flatMap writtenChar ++ ['"'])

/-- A floating-point number. -/
def writtenFloat (x : Float) : String :=
  match Binary64.ofFloat x with
  | .nan => "NaN"
  | .infinite negative => if negative then "-Infinity" else "Infinity"
  | .finite .. => Number.text x

/-- A text with a comma behind it, unless what comes next is the first. -/
def separate (isFirst : Bool) (before : String) : String := if isFirst then before else before ++ ","

mutual

/-- A text with a value written behind it. -/
def writeBehind (before : String) : Json → String
  | null => before ++ "null"
  | bool b => before ++ if b then "true" else "false"
  | int n => before ++ toString n
  | float x => before ++ writtenFloat x
  | text s => before ++ writtenText s
  | list items => writeItems true (before ++ "[") items ++ "]"
  | object fields => writeFields true (before ++ "\x7b") fields ++ "\x7d"

/-- A text with the items of a list written behind it. -/
def writeItems (isFirst : Bool) (before : String) : List Json → String
  | [] => before
  | item :: rest => writeItems false (writeBehind (separate isFirst before) item) rest

/-- A text with the fields of an object written behind it. -/
def writeFields (isFirst : Bool) (before : String) : List (String × Json) → String
  | [] => before
  | (name, value) :: rest =>
    let named := separate isFirst before ++ writtenText name ++ ":"
    writeFields false (writeBehind named value) rest

end

/-- The text that a value is written as. -/
def write (value : Json) : String := writeBehind "" value

end Splice.Json
