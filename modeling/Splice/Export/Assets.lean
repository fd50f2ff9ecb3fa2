import Splice.Export.Request
import Splice.Storage.StoredFile

/-!
# The assets of an export

Uploaded files become assets. A line of the manifest claims the first file of its name that no line
before it has claimed, and gives it the id that the editor uses. Files that nobody claims go by
their own names; of several with one name the first counts.
-/

namespace Splice

/-- Assets under way: those found so far, and the paths of the files that are claimed. -/
structure Claims where
  assets : AssetTable
  claimed : List String
  deriving Repr

namespace Claims

/-- Lets a line of the manifest claim its file, if there is one. -/
def claim (stored : List StoredFile) (claims : Claims) (item : ManifestItem) : Claims :=
  match stored.find? fun f => f.givenName == item.name && !claims.claimed.contains f.path with
  | none => claims
  | some file =>
    { assets := claims.assets.put item.id
        { id := item.id
          kind := item.kind
          source := file.path
          duration := item.duration
          hasAudio := true }
      claimed := file.path :: claims.claimed }

/-- Lets a file that nobody has claimed go by its own name, unless that is taken. -/
def adopt (claims : Claims) (file : StoredFile) : Claims :=
  if claims.claimed.contains file.path || (claims.assets.get? file.givenName).isSome then claims
  else
    { claims with
      assets := claims.assets.put file.givenName
        { id := file.givenName
          kind := MediaKind.ofContentType (some file.contentType)
          source := file.path
          duration := none
          hasAudio := true } }

end Claims

/-- The assets that stored files make with a manifest. -/
def AssetTable.ofStored (stored : List StoredFile) (manifest : Option (List ManifestItem)) : AssetTable :=
  (stored.foldl Claims.adopt ((manifest.getD []).foldl (Claims.claim stored) ⟨[], []⟩)).assets

end Splice
