import GDriver.Db.Schema
import GDriver.Library.Text

namespace GDriver
namespace Api

open Library

/-!
# Drive API resources

The records of the Drive API as the client deserialises them: every field of
a file or a change may be absent.  Fields that no modelled function reads
(creation time, web link, change kind, type and time) are left out.
-/

/-- A file resource of the Drive API. -/
structure DriveFile where
  id : Option String
  name : Option String
  mimeType : Option String
  parents : Option (List String)
  /-- Size in bytes, as decimal text. -/
  size : Option String
  etag : Option String
  /-- Version number, as decimal text. -/
  version : Option String
  /-- RFC 3339 timestamp of the last modification. -/
  modifiedTime : Option String
  trashed : Option Bool
  shared : Option Bool
  md5Checksum : Option String
  deriving DecidableEq, Repr

/-- The file resource with an id and a name and no other field. -/
def DriveFile.named (id name : String) : DriveFile where
  id := some id
  name := some name
  mimeType := none
  parents := none
  size := none
  etag := none
  version := none
  modifiedTime := none
  trashed := none
  shared := none
  md5Checksum := none

/-- A single change event. -/
structure Change where
  fileId : Option String
  removed : Option Bool
  file : Option DriveFile
  deriving DecidableEq, Repr

/-- One page of the change feed. -/
structure ChangeListResponse where
  changes : List Change
  nextPageToken : Option String
  newStartPageToken : Option String
  deriving DecidableEq, Repr

/-- One page of the file listing. -/
structure FileListResponse where
  files : List DriveFile
  nextPageToken : Option String
  incompleteSearch : Option Bool
  deriving DecidableEq, Repr

/-- The reading of RFC 3339 timestamps, taken from a date library: the Unix
milliseconds of a well-formed timestamp. -/
class Rfc3339 where
  timestampMillis : String → Option Int

/-- The reading that knows no timestamp.  It agrees with the library on every
record that carries none. -/
@[reducible] def untimed : Rfc3339 where
  timestampMillis := fun _ => none

/-- Parse an RFC 3339 timestamp string to Unix milliseconds. -/
def parseRfc3339ToMs [Rfc3339] (text : String) : Option Int :=
  Rfc3339.timestampMillis text

/-- Map a file resource to a database row.  The resource has no local
columns; they are filled in as for a file that is not stored locally. -/
def mapApiFileToDb [Rfc3339] (apiFile : DriveFile) (accountId : String) : Db.DriveFile where
  id := apiFile.id.getD ""
  accountId := accountId
  name := apiFile.name.getD "Untitled"
  mimeType := apiFile.mimeType.getD "application/octet-stream"
  parentId := apiFile.parents.bind List.head?
  size := apiFile.size.bind parseI64
  etag := apiFile.etag
  version := apiFile.version.bind parseI64
  modifiedTime := apiFile.modifiedTime.bind parseRfc3339ToMs
  isTrashed := apiFile.trashed.getD false
  isShared := apiFile.shared.getD false
  localPath := none
  syncState := .cloudOnly
  localMtime := none

section Mapping

variable [Rfc3339] (apiFile : DriveFile) (accountId : String)

@[simp] theorem mapApiFileToDb_id : (mapApiFileToDb apiFile accountId).id = apiFile.id.getD "" := rfl

@[simp] theorem mapApiFileToDb_accountId :
    (mapApiFileToDb apiFile accountId).accountId = accountId := rfl

@[simp] theorem mapApiFileToDb_localPath : (mapApiFileToDb apiFile accountId).localPath = none := rfl

@[simp] theorem mapApiFileToDb_syncState :
    (mapApiFileToDb apiFile accountId).syncState = .cloudOnly := rfl

@[simp] theorem mapApiFileToDb_localMtime :
    (mapApiFileToDb apiFile accountId).localMtime = none := rfl

@[simp] theorem mapApiFileToDb_isTrashed :
    (mapApiFileToDb apiFile accountId).isTrashed = apiFile.trashed.getD false := rfl

end Mapping

end Api
end GDriver
