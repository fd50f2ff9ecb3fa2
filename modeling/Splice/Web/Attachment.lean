import Splice.Text.Lowercase
import Splice.Text.Percent
import Splice.Web.Message

/-!
# Files as attachments

A file is sent under a name. A name that holds anything but letters, digits and a few signs is sent
percent-encoded. A content type that is a text without a character set gets one.
-/

namespace Splice.Web

/-- Whether a character stands for itself in a percent-encoded name. -/
def standsForItself (c : Char) : Bool := c.isAlphanum || "_.-~/".toList.contains c

/-- A name, percent-encoded where that is needed. -/
def encodeName (name : String) : String :=
  String.ofList (name.toList.flatMap fun c =>
    if standsForItself c then [c]
    else (Bytes.ofString (String.singleton c)).flatMap Percent.encodeOctet)

/-- The header value that gives a file its name. -/
def disposition (name : String) : String :=
  let encoded := encodeName name
  if encoded == name then "attachment; filename=\"" ++ name ++ "\""
  else "attachment; filename*=utf-8''" ++ encoded

/-- Whether a text contains another. -/
def containsText (part : List Char) : List Char → Bool
  | [] => part.isEmpty
  | c :: rest => part.isPrefixOf (c :: rest) || containsText part rest

/-- A content type with a character set, if it is a text without one. -/
def withCharset (contentType : String) : String :=
  if contentType.startsWith "text/" &&
      !containsText "charset=".toList (Text.lower contentType).toList
  then contentType ++ "; charset=utf-8"
  else contentType

/-- The response that sends a file. -/
def Response.attachment (name contentType : String) (content : Bytes) : Response :=
  ⟨200, [("content-type", withCharset contentType), ("content-disposition", disposition name)],
    .octets content⟩

end Splice.Web
