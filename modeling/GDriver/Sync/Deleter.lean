import GDriver.Sync.Tasks

namespace GDriver
namespace Sync

open Library Routine Db

/-!
# File deletion

A delete task with a file id is taken to come from Drive: the local copy is
removed and the row forgets it.  A task with only a path is taken to come from
the user: the row with that path is looked up and its file deleted on Drive.

The removal of a local copy is laid out in the parts between which the daemon
waits, as the download is.
-/

/-- What one `deleteFile` meets. -/
structure DeleteAnswers where
  marks : Bool
  looksUp : Bool
  removeFailure : Option String
  upserts : Bool
  server : DeleteReply
  marksTrashed : Bool
  completes : Bool
  failure : FailureAnswers
  now : Int

/-- Every statement and every call succeeds, and the server deletes what it
is asked to. -/
def DeleteAnswers.allRun (now : Int) : DeleteAnswers where
  marks := true
  looksUp := true
  removeFailure := none
  upserts := true
  server := ⟨true, .ok ()⟩
  marksTrashed := true
  completes := true
  failure := FailureAnswers.allRun now
  now := now

/-- The removal of a local copy, after the row has been looked up. -/
structure RemoteDelete where
  task : SyncTask
  taskId : Nat
  driveFile : Option DriveFile
  deriving DecidableEq, Repr

/-- Look up the file to find its local path. -/
def lookUpRemoteDelete (answers : DeleteAnswers) (task : SyncTask) (taskId : Nat)
    (fileId : String) : Routine String World RemoteDelete := do
  let driveFile ← onDb (getFileById answers.looksUp fileId task.accountId)
  pure ⟨task, taskId, driveFile⟩

/-- The local file a deletion removes. -/
def RemoteDelete.localPath (delete : RemoteDelete) : Option String :=
  delete.driveFile.bind DriveFile.localPath

/-- Remove the local file if it exists.  A failure is logged only. -/
def removeLocalCopy (answers : DeleteAnswers) (delete : RemoteDelete) :
    Routine String World Unit :=
  match delete.localPath with
  | none => pure ()
  | some path => attempt (removeFile answers.removeFailure path)

/-- The row without its local copy. -/
def evictedFile (file : DriveFile) : DriveFile :=
  { file with
    localPath := none
    localMtime := none
    syncState := .cloudOnly }

/-- Clear the local columns, if the file was found. -/
def storeEvicted (answers : DeleteAnswers) (delete : RemoteDelete) : Routine String World Unit :=
  match delete.driveFile with
  | none => pure ()
  | some file => attempt (onDb (upsertFile answers.upserts (evictedFile file)))

/-- Clear the local columns and complete the task. -/
def recordRemoteDelete (answers : DeleteAnswers) (delete : RemoteDelete) :
    Routine String World Unit := do
  storeEvicted answers delete
  onDb (updateTaskStatus answers.completes answers.now delete.taskId .completed none)

/-- File was deleted/trashed on Drive — remove the local copy and update the
database. -/
def handleRemoteDelete (answers : DeleteAnswers) (task : SyncTask) (taskId : Nat)
    (fileId : String) : Routine String World Unit := do
  let delete ← lookUpRemoteDelete answers task taskId fileId
  removeLocalCopy answers delete
  recordRemoteDelete answers delete

/-- User deleted a local file — trash it on Google Drive. -/
def handleLocalDelete (answers : DeleteAnswers) (task : SyncTask) (taskId : Nat)
    (localPath : String) : Routine String World Unit := do
  match ← onDb (getFileByLocalPath answers.looksUp localPath) with
  | none =>
      onDb (updateTaskStatus answers.completes answers.now taskId .completed
        (some "no DB record"))
  | some file =>
      match ← observe (filesDelete task.accountId file.id answers.server) with
      | .ok () => do
          onDb (attempt (markTrashed answers.marksTrashed file.id file.accountId))
          onDb (updateTaskStatus answers.completes answers.now taskId .completed none)
      | .error failure => onDb (handleDeleteFailure answers.failure task taskId failure)

/-- Process a single delete task. -/
def deleteFile (answers : DeleteAnswers) (task : SyncTask) : Routine String World Unit :=
  match task.id with
  | none => pure ()
  | some taskId => do
      onDb (updateTaskStatus answers.marks answers.now taskId .inProgress none)
      match task.fileId, task.localPath with
      | some fileId, _ => handleRemoteDelete answers task taskId fileId
      | none, some localPath => handleLocalDelete answers task taskId localPath
      | none, none =>
          onDb (updateTaskStatus answers.completes answers.now taskId .completed
            (some "no file_id or local_path"))

end Sync
end GDriver
