import GDriver.Queue.Views

namespace GDriver
namespace Queue

open Library Routine Db Api Sync

/-!
# The status of a task after its processing

For each processor, the status in which it leaves a pending task, computed from
what the processor meets.  A task is marked `inProgress` first, and closed by one
last statement; in between the processor may stop.  The status is one of the views
of a task, and what holds of every view holds of it.
-/

/-- The task under this number is in the queue with this status. -/
def HasStatus (taskId : Nat) (status : TaskStatus) (world : World) : Prop :=
  (world.db.task taskId).map SyncTask.status = some status

/-- Of a task its status is looked at. -/
def statusView : TaskView TaskStatus where
  sees := SyncTask.status
  mark status _ := status
  again status _ _ := status
  sees_mark _ _ _ _ := rfl
  sees_again _ _ _ _ _ := rfl

/-- The status after the statement that completes a task. -/
def closed (runs : Bool) (before : TaskStatus) : TaskStatus :=
  if runs then .completed else before

/-- The status after the statement that records a failed attempt. -/
def retried (runs : Bool) (task : SyncTask) (before : TaskStatus) : TaskStatus :=
  if runs then (if maxRetries < task.retryCount + 1 then .failed else .pending) else before

def uploadStatus (answers : UploadAnswers) (task : SyncTask) (world : World) : TaskStatus :=
  match task.localPath with
  | none => closed answers.completes .pending
  | some localPath =>
      if !answers.marks then .pending
      else if finds answers.readFailure localPath world && answers.server.reply.isOk then
        closed answers.completes .inProgress
      else retried answers.failure.setsStatus task .inProgress

def downloadStatus (answers : DownloadAnswers) (task : SyncTask) (world : World) : TaskStatus :=
  match task.fileId, task.localPath with
  | some _, some localPath =>
      if !answers.marks then .pending
      else if !(answers.looksUp && answers.createDirFailure.isNone) then .inProgress
      else if lands answers localPath world then closed answers.completes .inProgress
      else retried answers.failure.setsStatus task .inProgress
  | _, _ => closed answers.completes .pending

def deleteStatus (answers : DeleteAnswers) (task : SyncTask) (world : World) : TaskStatus :=
  if !answers.marks then .pending
  else
    match task.fileId, task.localPath with
    | some _, _ => if answers.looksUp then closed answers.completes .inProgress else .inProgress
    | none, some localPath =>
        if !answers.looksUp then .inProgress
        else if (world.db.fileAtLocalPath localPath).isNone || answers.server.reply.isOk then
          closed answers.completes .inProgress
        else retried answers.failure.setsStatus task .inProgress
    | none, none => closed answers.completes .inProgress

def photosStatus (answers : PhotosAnswers) (task : SyncTask) (world : World) : TaskStatus :=
  match task.localPath with
  | none => closed answers.completes .pending
  | some localPath =>
      if !isSupportedPhotoFormat localPath then retried answers.setsStatus task .pending
      else if !answers.marks then .pending
      else if (finds answers.readFailure localPath world && answers.uploadToken.isOk) &&
          created answers.batchCreate then closed answers.completes .inProgress
      else retried answers.setsStatus task .inProgress

/-- The status after a conflict check, and after the upload that follows unless the check
has resolved a conflict. -/
def checkedStatus (checked : Except String Bool) (uploaded : TaskStatus) : TaskStatus :=
  match checked with
  | .ok true => .completed
  | _ => uploaded

section Spec

variable [Rfc3339]

def uploadTaskStatus (answers : TaskAnswers) (task : SyncTask) (world : World) : TaskStatus :=
  match task.fileId, task.localPath with
  | some fileId, some localPath =>
      checkedStatus (outcome (checkAndResolve answers.conflict task fileId localPath) world)
        (uploadStatus answers.upload task
          (final (checkAndResolve answers.conflict task fileId localPath) world))
  | _, _ => uploadStatus answers.upload task world

/-- The status of a pending task after the engine has handed it to the processor of
its operation. -/
def taskStatus (answers : TaskAnswers) (task : SyncTask) (world : World) : TaskStatus :=
  match task.operation with
  | .upload => if answers.hasClient then uploadTaskStatus answers task world else .pending
  | .download => if answers.hasClient then downloadStatus answers.download task world else .pending
  | .photosBackup => if answers.hasClient then photosStatus answers.photos task world else .pending
  | .delete => if answers.hasClient then deleteStatus answers.delete task world else .pending
  | .rename => closed answers.marksUnknown .pending
  | .move => closed answers.marksUnknown .pending

end Spec

section Statements

variable {taskId : Nat} {status : TaskStatus} {world : World}

theorem HasStatus.of_sameQueue {later : World} (same : SameQueueIn world later)
    (before : HasStatus taskId status world) : HasStatus taskId status later :=
  @HasView.of_sameQueue _ statusView _ _ _ _ same before

theorem hasStatus_updateTaskStatus (runs : Bool) (now : Int) (later : TaskStatus)
    (errorMsg : Option String) (before : HasStatus taskId status world) :
    HasStatus taskId (if runs then later else status)
      (final (onDb (updateTaskStatus runs now taskId later errorMsg)) world) :=
  @hasView_updateTaskStatus _ statusView _ _ _ runs now later errorMsg before

theorem hasStatus_complete (runs : Bool) (now : Int) (errorMsg : Option String)
    (before : HasStatus taskId status world) :
    HasStatus taskId (closed runs status)
      (final (onDb (updateTaskStatus runs now taskId .completed errorMsg)) world) :=
  hasStatus_updateTaskStatus runs now .completed errorMsg before

end Statements

section Records

variable {world : World}

theorem hasStatus_failDownload {answers : DownloadAnswers} {download : Download} (errorMsg : String)
    (running : HasStatus download.taskId .inProgress world) :
    HasStatus download.taskId (retried answers.failure.setsStatus download.task .inProgress)
      (final (failDownload answers download errorMsg) world) :=
  @hasView_failDownload _ statusView _ answers _ _ errorMsg running

theorem hasStatus_recordDownload {answers : DownloadAnswers} {download : Download}
    (running : HasStatus download.taskId .inProgress world) :
    HasStatus download.taskId (closed answers.completes .inProgress)
      (final (recordDownload answers download) world) :=
  @hasView_recordDownload _ statusView _ answers _ _ running

theorem hasStatus_recordRemoteDelete {answers : DeleteAnswers} (delete : RemoteDelete)
    (running : HasStatus delete.taskId .inProgress world) :
    HasStatus delete.taskId (closed answers.completes .inProgress)
      (final (recordRemoteDelete answers delete) world) :=
  @hasView_recordRemoteDelete _ statusView _ answers _ delete running

end Records

section Processors

variable {task : SyncTask} {taskId : Nat} {world : World} (identified : task.id = some taskId)
  (pending : HasStatus taskId .pending world)
include identified pending

theorem hasStatus_deleteFile (answers : DeleteAnswers) :
    HasStatus taskId (deleteStatus answers task world) (final (deleteFile answers task) world) :=
  @hasView_deleteFile _ statusView _ _ _ _ identified pending answers

variable [Rfc3339]

theorem hasStatus_processUpload (answers : TaskAnswers) :
    HasStatus taskId (uploadTaskStatus answers task world)
      (final (processUpload answers task) world) :=
  @hasView_processUpload _ statusView _ _ _ _ identified pending _ answers

/-- The status in which the engine leaves a pending task. -/
theorem hasStatus_processTask (answers : TaskAnswers) :
    HasStatus taskId (taskStatus answers task world) (final (processTask answers task) world) :=
  @hasView_processTask _ statusView _ _ _ _ identified pending _ answers

end Processors

end Queue
end GDriver
