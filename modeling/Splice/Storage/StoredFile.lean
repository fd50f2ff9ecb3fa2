import Splice.Payload.Reader
import Splice.Surroundings.SystemError
import Splice.Text.Octets

/-!
# Uploads and stored files

An upload is a file on its way to the service: the names that its sender gives it, and the chunks
in which its content arrives. A stored file is what the service keeps of it.
-/

namespace Splice

/-! ## Uploads -/

/-- A file on its way. -/
structure Upload where
  filename : Option String
  contentType : Option String
  /-- What each reading of the stream gives; a reading may fail. -/
  reads : List (Except SystemError Bytes)
  deriving Repr

namespace Upload

/-- The most octets that one reading asks for. -/
def chunkSize : Nat := 1024 * 1024

/-- A content in chunks of the full size, the last perhaps smaller. -/
def chunks : Bytes → List Bytes
  | [] => []
  | first :: rest =>
    (first :: rest).take chunkSize :: chunks ((first :: rest).drop chunkSize)
termination_by content => content.length
decreasing_by
  rw [List.length_drop]
  exact Nat.sub_lt (Nat.succ_pos _) (Nat.mul_pos (by decide) (by decide))

/-- An upload whose content arrives without fault. -/
def ofContent (filename contentType : Option String) (content : Bytes) : Upload where
  filename
  contentType
  reads := (chunks content).map .ok

/-- The content that arrives, as far as the readings succeed. -/
def content (u : Upload) : Bytes := (u.reads.filterMap Except.toOption).flatten

end Upload

/-! ## Stored files -/

/-- A file that the service keeps. -/
structure StoredFile where
  id : String
  /-- The name under which it is kept. -/
  filename : String
  /-- The name that its sender gave it. -/
  givenName : String
  path : String
  size : Int
  contentType : String
  deriving DecidableEq, Repr

/-- A stored file. -/
def Payload.storedFile : Payload.Reader StoredFile :=
  Payload.record "StoredFile" fun fields =>
    StoredFile.mk <$> required text "id" fields
      <*> required text "filename" fields
      <*> required text "original_name" fields
      <*> required text "path" fields
      <*> required integer "size" fields
      <*> required text "mimetype" fields

end Splice
