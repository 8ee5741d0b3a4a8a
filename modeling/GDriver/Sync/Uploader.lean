import GDriver.Sync.Tasks

namespace GDriver
namespace Sync

open Library Routine Db Api

/-!
# File upload

An upload reads the local file, creates a file on Drive from its bytes, and
stores the row mapped from the server's answer.  The file is created under the
name of the local file, in the root folder.  Whether the bytes travel in one
request or in chunks, what the upload ends with is the server's answer or an
error.
-/

/-- What one `uploadFile` meets. -/
structure UploadAnswers where
  marks : Bool
  readFailure : Option String
  server : UploadReply
  upserts : Bool
  completes : Bool
  failure : FailureAnswers
  now : Int

/-- Every statement and every call succeeds, with this answer of the server. -/
def UploadAnswers.allRun (server : UploadReply) (now : Int) : UploadAnswers where
  marks := true
  readFailure := none
  server := server
  upserts := true
  completes := true
  failure := FailureAnswers.allRun now
  now := now

/-- The metadata sent with the file at a path.  It is uploaded to the root of
My Drive. -/
def uploadMetadata (localPath : String) : CreateFileMetadata where
  name := (fileName localPath).getD "Untitled"
  mimeType := guessMime localPath
  parents := none

/-- Process a single upload task. -/
def uploadFile [Rfc3339] (answers : UploadAnswers) (task : SyncTask) :
    Routine String World Unit :=
  match task.id with
  | none => pure ()
  | some taskId =>
      match task.localPath with
      | none =>
          onDb (updateTaskStatus answers.completes answers.now taskId .completed
            (some "no local_path"))
      | some localPath => do
          onDb (updateTaskStatus answers.marks answers.now taskId .inProgress none)
          match ← observe (readFile answers.readFailure localPath) with
          | .error failure =>
              onDb (handleUploadFailure answers.failure task taskId ("read error: " ++ failure))
          | .ok content =>
              match ← observe (filesUpload task.accountId (uploadMetadata localPath) content
                  answers.server) with
              | .ok apiFile => do
                  -- a checksum that differs is logged only
                  onDb (attempt (upsertFile answers.upserts
                    (mapApiFileToDb apiFile task.accountId)))
                  onDb (updateTaskStatus answers.completes answers.now taskId .completed none)
              | .error failure =>
                  onDb (handleUploadFailure answers.failure task taskId failure)

end Sync
end GDriver
