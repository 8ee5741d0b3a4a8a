import GDriver.World

namespace GDriver
namespace Sync

open Library Routine Db

/-!
# What the task processors share

The processors of uploads, downloads and deletes record a failed attempt in
the same way, up to the code under which a permanent failure is shown.  The
uploader and the conflict resolution guess a MIME type from a file name by
the same table.
-/

/-- Maximum number of retry attempts before logging a persistent error. -/
def maxRetries : Int := 3

/-- What recording a failed attempt meets. -/
structure FailureAnswers where
  setsStatus : Bool
  insertsError : Bool
  now : Int
  deriving DecidableEq, Repr

def FailureAnswers.allRun (now : Int) : FailureAnswers where
  setsStatus := true
  insertsError := true
  now := now

/-- Record a failed attempt: queue the task again, or give it up after the
last retry and show the failure under a code. -/
def handleFailure (errorCode : String) (answers : FailureAnswers) (task : SyncTask) (taskId : Nat)
    (errorMsg : String) : Routine String Database Unit :=
  let newRetry := task.retryCount + 1
  if maxRetries < newRetry then do
    updateTaskStatus answers.setsStatus answers.now taskId .failed (some errorMsg)
    attempt (insertError answers.insertsError {
      accountId := some task.accountId
      fileId := task.fileId
      fileName := task.localPath.bind fileName
      errorCode := errorCode
      errorMsg := errorMsg
      isResolved := false
      createdAt := answers.now })
  else updateTaskRetry answers.setsStatus answers.now taskId .pending newRetry (some errorMsg)

def handleDownloadFailure : FailureAnswers → SyncTask → Nat → String → Routine String Database Unit :=
  handleFailure "DOWNLOAD_FAILED"

def handleUploadFailure : FailureAnswers → SyncTask → Nat → String → Routine String Database Unit :=
  handleFailure "UPLOAD_FAILED"

def handleDeleteFailure : FailureAnswers → SyncTask → Nat → String → Routine String Database Unit :=
  handleFailure "DELETE_FAILED"

/-- Whether the MIME type is a native Google Workspace format that must be
exported rather than downloaded directly. -/
def isGoogleWorkspaceMime (mimeType : String) : Bool :=
  ["application/vnd.google-apps.document", "application/vnd.google-apps.spreadsheet",
    "application/vnd.google-apps.presentation", "application/vnd.google-apps.drawing",
    "application/vnd.google-apps.script"].contains mimeType

/-- The most common export format of a Google Workspace MIME type. -/
def exportMimeFor (workspaceMime : String) : String :=
  match workspaceMime with
  | "application/vnd.google-apps.document" =>
      "application/vnd.openxmlformats-officedocument.wordprocessingml.document"
  | "application/vnd.google-apps.spreadsheet" =>
      "application/vnd.openxmlformats-officedocument.spreadsheetml.sheet"
  | "application/vnd.google-apps.presentation" =>
      "application/vnd.openxmlformats-officedocument.presentationml.presentation"
  | "application/vnd.google-apps.drawing" => "image/svg+xml"
  | "application/vnd.google-apps.script" => "application/json"
  | _ => "application/pdf"

/-- Guess a MIME type from the file extension. -/
def guessMime (path : String) : String :=
  match extension path with
  | some "txt" => "text/plain"
  | some "html" | some "htm" => "text/html"
  | some "css" => "text/css"
  | some "js" => "text/javascript"
  | some "json" => "application/json"
  | some "xml" => "application/xml"
  | some "pdf" => "application/pdf"
  | some "png" => "image/png"
  | some "jpg" | some "jpeg" => "image/jpeg"
  | some "gif" => "image/gif"
  | some "svg" => "image/svg+xml"
  | some "mp3" => "audio/mpeg"
  | some "mp4" => "video/mp4"
  | some "zip" => "application/zip"
  | some "gz" | some "tar" => "application/gzip"
  | some "doc" => "application/msword"
  | some "docx" => "application/vnd.openxmlformats-officedocument.wordprocessingml.document"
  | some "xls" => "application/vnd.ms-excel"
  | some "xlsx" => "application/vnd.openxmlformats-officedocument.spreadsheetml.sheet"
  | _ => "application/octet-stream"

/-! ## The status of a task -/

/-- The task under this number is not completed. -/
def NotCompleted (taskId : Nat) (db : Database) : Prop :=
  ∀ task ∈ db.task taskId, task.status ≠ .completed

theorem not_notCompleted {taskId : Nat} {db : Database}
    (completed : (db.task taskId).map SyncTask.status = some .completed) :
    ¬ NotCompleted taskId db := by
  rcases Option.map_eq_some_iff.mp completed with ⟨task, found, status⟩
  intro running
  exact running task found status

theorem notCompleted_updateTask {taskId : Nat} {db : Database} {change : SyncTask → SyncTask}
    (keeps : ∀ task, (change task).id = task.id)
    (leaves : ∀ task, (change task).status ≠ .completed) :
    NotCompleted taskId (db.updateTask taskId change keeps) := by
  intro task found
  rw [Database.task_updateTask_self, Option.mem_def, Option.map_eq_some_iff] at found
  rcases found with ⟨before, _, same⟩
  rw [← same]
  exact leaves before

theorem notCompleted_updateTaskStatus {taskId : Nat} {db : Database} {status : TaskStatus}
    (other : status ≠ .completed) (runs : Bool) (now : Int) (errorMsg : Option String)
    (before : NotCompleted taskId db) :
    NotCompleted taskId (final (updateTaskStatus runs now taskId status errorMsg) db) := by
  rw [final_updateTaskStatus]
  split
  · exact notCompleted_updateTask _ fun _ => other
  · exact before

/-- Recording a failed attempt does not complete the task. -/
theorem notCompleted_handleFailure (errorCode : String) (answers : FailureAnswers)
    (task : SyncTask) {taskId : Nat} (errorMsg : String) {db : Database}
    (before : NotCompleted taskId db) :
    NotCompleted taskId (final (handleFailure errorCode answers task taskId errorMsg) db) := by
  simp only [handleFailure]
  split
  · have given := notCompleted_updateTaskStatus (by decide : TaskStatus.failed ≠ .completed)
      answers.setsStatus answers.now (some errorMsg) before
    rw [final_bind]
    split
    · rw [final_attempt, insertError, final_execute]
      split
      · exact given
      · exact given
    · exact given
  · rw [updateTaskRetry, final_execute]
    split
    · have other : TaskStatus.pending ≠ .completed := by decide
      exact notCompleted_updateTask _ fun _ => other
    · exact before

end Sync
end GDriver
