import Splice.Settings
import Splice.Storage.StoredFile
import Splice.Surroundings.Job
import Splice.Surroundings.Path
import Splice.Text.Blank
import Splice.Text.Lowercase

/-!
# Storage

Uploads and results are kept in two directories under names that were never used before, so that
no two requests ever share a file. Files are removed as soon as they are not needed any more, and a
sweep removes what was forgotten. Removing is best effort: a file that cannot be removed stays.
-/

namespace Splice

/-- Where files are kept, how large an upload may be, and for how long files are kept. -/
structure Storage where
  uploadDir : String
  outputDir : String
  /-- The most octets of an upload. -/
  maxBytes : Amount
  retention : Float
  sweepInterval : Float
  /-- How long files outlive the response that they were made for, in seconds. -/
  grace : Float
  deriving Repr

namespace Storage

/-- The storage of the settings, with a limit of its own unless that is absent or zero. -/
def ofSettings (settings : Settings) (limit : Option Amount) : Storage where
  uploadDir := settings.uploadDir
  outputDir := settings.outputDir
  maxBytes := Amount.orElse limit settings.maxUploadBytes
  retention := settings.retentionSeconds
  sweepInterval := settings.sweepIntervalSeconds
  grace := settings.cleanupGraceSeconds

/-- Makes the two directories. -/
def prepare (s : Storage) : Act Unit := do
  Act.orRefused (← Act.request (.makeDirectories s.uploadDir))
  Act.orRefused (← Act.request (.makeDirectories s.outputDir))

/-! ## Names -/

/-- The time in whole milliseconds. -/
def milliseconds : Act Int := do
  let seconds ← Act.request .now
  match Binary64.truncate (seconds * 1000.0) with
  | .ok n => return n
  | .error why => throw (.fault (.noInteger why))

/-- A name from a label, the time, twelve digits of a fresh id, and an extension. -/
def uniqueName (label extension : String) : Act String := do
  let time ← milliseconds
  let id ← Act.request .freshId
  return label ++ "-" ++ toString time ++ "-" ++ String.ofList (id.toList.take 12) ++ extension

/-- A fresh path for a result with an extension. -/
def outputPath (s : Storage) (extension : String) : Act String := do
  let bare := String.ofList (extension.toList.dropWhile (· == '.'))
  return Path.join s.outputDir (← uniqueName "export" ("." ++ bare))

/-! ## Removing -/

/-- Removes files as far as they are there and can be removed. -/
def delete : List String → Act Unit
  | [] => pure ()
  | path :: rest => do
    if ← Act.request (.doesExist path) then
      let _ ← Act.request (.remove path)
    delete rest

/-- Removes files after a delay: a given one, or the time for which files outlive a response. -/
def deleteLater (s : Storage) (paths : List String) (delay : Option Float) : Act Unit := do
  let seconds := delay.getD s.grace
  if 0.0 < seconds then
    Act.stopIf (← Act.request (.sleep seconds))
  delete paths

/-! ## Storing -/

/-- Writes what arrives into a file until nothing more comes, and counts it. As soon as the count
exceeds the limit the file is removed and the upload refused. -/
def pour (s : Storage) (path givenName : String) (size : Nat) :
    List (Except SystemError Bytes) → Act Nat
  | [] => pure size
  | .error error :: _ => throw (.fault (.system error))
  | .ok chunk :: rest => do
    if chunk.isEmpty then return size
    let size := size + chunk.length
    if s.maxBytes.isBelow size then
      delete [path]
      throw (.problem (.uploadTooLarge givenName s.maxBytes))
    Act.orRefused (← Act.request (.append path chunk))
    s.pour path givenName size rest

/-- The name of an upload without the directories that its sender may have put before it. -/
def givenName (upload : Upload) : String :=
  Path.baseName (Text.orIfEmpty (upload.filename.getD "") "upload")

/-- Stores an upload under a name that starts with a label. -/
def store (s : Storage) (label : String) (upload : Upload) : Act StoredFile := do
  let given := givenName upload
  let name ← uniqueName label (Text.lower (Path.extension given))
  let path := Path.join s.uploadDir name
  Act.orRefused (← Act.request (.create path))
  let size ← s.pour path given 0 upload.reads
  let id ← Act.request .freshId
  return {
    id := String.ofList (id.toList.take 16)
    filename := Path.baseName path
    givenName := given
    path
    size
    contentType := Text.orIfEmpty (upload.contentType.getD "") "application/octet-stream" }

/-- Stores uploads one after the other behind those that are stored. If one cannot be stored those
before it are removed; if the task is cancelled they stay. -/
def storeBehind (s : Storage) (label : String) (stored : List StoredFile) :
    List Upload → Act (List StoredFile)
  | [] => pure stored
  | upload :: rest => do
    match ← (s.store label upload).aside.attempt with
    | .ok file => s.storeBehind label (stored ++ [file]) rest
    | .error failure =>
      if !failure.isCancellation then delete (stored.map StoredFile.path)
      throw failure

/-- Stores uploads, each under a name that starts with a label. -/
def storeAll (s : Storage) (label : String) (uploads : List Upload) : Act (List StoredFile) :=
  s.storeBehind label [] uploads

/-- Copies a file to a fresh path for results and gives back that path. -/
def copyToOutput (s : Storage) (path : String) : Act String := do
  let target ← s.outputPath (Text.orIfEmpty (Path.extension path) ".bin")
  Act.orRefused (← Act.request (.copy path target))
  return target

end Storage

end Splice
