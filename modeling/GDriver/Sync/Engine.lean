import GDriver.Sync.Conflict
import GDriver.Sync.Deleter
import GDriver.Sync.Initial
import GDriver.Sync.Photos
import GDriver.Sync.Uploader

namespace GDriver
namespace Sync

open Library Routine Db Api

/-!
# Sync engine

The engine takes one pending task after the other and hands it to the
processor of its operation.  An operation it does not know is marked
completed.  Without a valid token for the account of a task it leaves the task
for later.
-/

/-- Whether the mode switch from Mirror to Stream resets this file. -/
def leavesMirror (accountId : String) (file : Db.DriveFile) : Bool :=
  file.accountId = accountId && !file.isTrashed && !file.isFolder && file.localPath.isSome

/-- The file without its mirror path. -/
def unmirrored (file : Db.DriveFile) : Db.DriveFile :=
  { file with
    localPath := none
    syncState := .cloudOnly }

@[simp] theorem key_unmirrored (file : Db.DriveFile) : (unmirrored file).key = file.key := rfl

/-- Reset files from Mirror state back to cloud-only for Stream mode. -/
def resetMirrorToStream (runs : Bool) (accountId : String) : Routine String Database Unit :=
  execute runs fun db =>
    db.updateFiles (fun row => leavesMirror accountId row.data) unmirrored key_unmirrored

/-- What the processing of one task meets. -/
structure TaskAnswers where
  hasClient : Bool
  conflict : ConflictAnswers
  upload : UploadAnswers
  download : DownloadAnswers
  delete : DeleteAnswers
  photos : PhotosAnswers
  marksUnknown : Bool
  now : Int

/-- Every statement and every call succeeds: the server answers the upload and
gives out this content.  The conflict check gets no answer. -/
def TaskAnswers.allRun (server : UploadReply) (written : DiskFile) (now : Int) : TaskAnswers where
  hasClient := true
  conflict := ⟨true, true, .error "no answer", ResolveAnswers.allRun server written now⟩
  upload := UploadAnswers.allRun server now
  download := DownloadAnswers.allRun written now
  delete := DeleteAnswers.allRun now
  photos := PhotosAnswers.allRun "upload-token" now
  marksUnknown := true
  now := now

/-- An upload task: check for conflicts when the file has been synced before,
and upload unless a conflict was resolved. -/
def processUpload [Rfc3339] (answers : TaskAnswers) (task : SyncTask) :
    Routine String World Unit :=
  match task.fileId, task.localPath with
  | some fileId, some localPath => do
      match ← observe (checkAndResolve answers.conflict task fileId localPath) with
      | .ok true => pure ()
      | .ok false => attempt (uploadFile answers.upload task)
      | .error _ => attempt (uploadFile answers.upload task)
  | _, _ => attempt (uploadFile answers.upload task)

/-- An operation the engine does not know. -/
def processUnknown (answers : TaskAnswers) (task : SyncTask) : Routine String World Unit :=
  match task.id with
  | none => pure ()
  | some taskId =>
      onDb (attempt (updateTaskStatus answers.marksUnknown answers.now taskId .completed
        (some "unknown operation")))

/-- Hand a task to the processor of its operation. -/
def processTask [Rfc3339] (answers : TaskAnswers) (task : SyncTask) : Routine String World Unit :=
  match task.operation with
  | .upload => if answers.hasClient then processUpload answers task else pure ()
  | .download =>
      if answers.hasClient then attempt (downloadFile answers.download task) else pure ()
  | .photosBackup =>
      if answers.hasClient then attempt (backupPhoto answers.photos task) else pure ()
  | .delete => if answers.hasClient then attempt (deleteFile answers.delete task) else pure ()
  | .rename => processUnknown answers task
  | .move => processUnknown answers task

end Sync
end GDriver
