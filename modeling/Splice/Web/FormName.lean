import Splice.Text.Percent

/-!
# Names in forms

In a form a name stands between quotation marks, so that what would end it or break its line is sent
percent-encoded, and a backslash is sent twice. A file name that arrives with a drive or a host in
front of it is cut down to its last part.
-/

namespace Splice.Web

/-- Whether a character of a name is sent percent-encoded. -/
def isSentEncoded (c : Char) : Bool := c == '"' || (c.toNat < 0x20 && c.toNat != 0x1B)

/-- A character of a name as it is sent. -/
def sentChar (c : Char) : List Char :=
  if isSentEncoded c then Percent.encodeOctet c.toNat.toUInt8
  else if c == '\\' then ['\\', '\\']
  else [c]

/-- A name as it is sent. -/
def sentName (name : String) : String := String.ofList (name.toList.flatMap sentChar)

/-- Whether a path starts with a drive, named by one character, or with a host. -/
def namesDrive : List Char → Bool
  | '\\' :: '\\' :: _ => true
  | _ :: ':' :: '\\' :: _ => true
  | _ => false

/-- A file name without the drive, or the host, and the directories behind it. -/
def withoutDrive (name : String) : String :=
  let cs := name.toList
  String.ofList (if namesDrive cs then (cs.reverse.takeWhile (· != '\\')).reverse else cs)

end Splice.Web
