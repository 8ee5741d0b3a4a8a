import GDriver.Api.Resources

namespace GDriver
namespace Api

/-!
# Partial responses

A request names the fields of the file resource that it wants to read, and the
server answers with these.  What a request does not name is absent from the
answer, whatever the file is like on the server.
-/

/-- The fields of a file resource that some request names. -/
inductive FileField where
  | id
  | name
  | mimeType
  | parents
  | size
  | etag
  | version
  | modifiedTime
  | createdTime
  | trashed
  | shared
  | md5Checksum
  | webViewLink
  deriving DecidableEq, Repr

/-- Default fields requested from the Files API for each listed file. -/
def defaultFileFields : List FileField :=
  [.id, .name, .mimeType, .parents, .size, .version, .modifiedTime, .createdTime, .trashed, .shared,
    .md5Checksum, .webViewLink]

/-- Fields requested for a single-file response. -/
def singleFileFields : List FileField :=
  [.id, .name, .mimeType, .parents, .size, .version, .modifiedTime, .createdTime, .trashed, .shared,
    .md5Checksum, .webViewLink]

/-- Fields requested for the file of a change. -/
def changeFields : List FileField :=
  [.id, .name, .mimeType, .parents, .size, .version, .modifiedTime, .createdTime, .trashed,
    .md5Checksum, .webViewLink]

/-- Fields requested by a conflict check. -/
def conflictCheckFields : List FileField :=
  [.id, .name, .mimeType, .size, .etag, .version, .modifiedTime, .trashed]

/-- A session for an upload in chunks names no fields.  The server then answers with
its default ones. -/
def sessionFields : List FileField := [.id, .name, .mimeType]

/-- The part of a file resource that a request for these fields is answered with. -/
def DriveFile.only (fields : List FileField) (file : DriveFile) : DriveFile where
  id := if .id ∈ fields then file.id else none
  name := if .name ∈ fields then file.name else none
  mimeType := if .mimeType ∈ fields then file.mimeType else none
  parents := if .parents ∈ fields then file.parents else none
  size := if .size ∈ fields then file.size else none
  etag := if .etag ∈ fields then file.etag else none
  version := if .version ∈ fields then file.version else none
  modifiedTime := if .modifiedTime ∈ fields then file.modifiedTime else none
  trashed := if .trashed ∈ fields then file.trashed else none
  shared := if .shared ∈ fields then file.shared else none
  md5Checksum := if .md5Checksum ∈ fields then file.md5Checksum else none

/-- The answer to a request for these fields: exactly these, as they are on the server. -/
def Answers (fields : List FileField) (answer : DriveFile) : Prop :=
  ∃ file, answer = DriveFile.only fields file

theorem etag_of_answers {fields : List FileField} {answer : DriveFile} (answers : Answers fields answer)
    (unnamed : .etag ∉ fields) : answer.etag = none := by
  rcases answers with ⟨file, same⟩
  rw [same]
  exact if_neg unnamed

/-- The answer to an upload, in one request or in chunks. -/
def AnswersUpload (answer : DriveFile) : Prop :=
  Answers singleFileFields answer ∨ Answers sessionFields answer

theorem etag_of_answersUpload {answer : DriveFile} (answers : AnswersUpload answer) :
    answer.etag = none := by
  rcases answers with single | session
  · exact etag_of_answers single (by decide)
  · exact etag_of_answers session (by decide)

end Api
end GDriver
