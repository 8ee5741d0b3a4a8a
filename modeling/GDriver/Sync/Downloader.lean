import GDriver.Sync.Tasks

namespace GDriver
namespace Sync

open Library Routine Db

/-!
# File download

A download streams a Drive file to a temporary file and renames it to the
target path.  It is laid out in the parts between which the daemon waits, so
that other work can come in between: the row is looked up, the content is
fetched next to the target, the rename puts it in place, and the row is
recorded.  What is recorded is the row as it was looked up.
-/

/-- What one `downloadFile` meets. -/
structure DownloadAnswers where
  marks : Bool
  looksUp : Bool
  createDirFailure : Option String
  fetched : Fetched
  renameFailure : Option String
  removeTempFailure : Option String
  statsFile : Bool
  upserts : Bool
  completes : Bool
  failure : FailureAnswers
  now : Int

/-- Every statement and every call succeeds, and this is what is fetched. -/
def DownloadAnswers.allRun (written : DiskFile) (now : Int) : DownloadAnswers where
  marks := true
  looksUp := true
  createDirFailure := none
  fetched := ⟨some written, none, isSome_written written⟩
  renameFailure := none
  removeTempFailure := none
  statsFile := true
  upserts := true
  completes := true
  failure := FailureAnswers.allRun now
  now := now

/-- A download that has looked up its file. -/
structure Download where
  task : SyncTask
  taskId : Nat
  fileId : String
  localPath : String
  driveFile : Option DriveFile
  deriving DecidableEq, Repr

/-- The temporary file of a download to this path. -/
def tmpPath (localPath : String) : String :=
  localPath ++ ".gdriver-tmp"

theorem placeOf_tmpPath_ne (path : String) : placeOf (tmpPath path) ≠ placeOf path :=
  placeOf_extended_ne (by decide) (by decide) path

/-- Mark the task, look up the file, and make sure that its directory is
there.  A task without a file id or a path is completed at once. -/
def startDownload (answers : DownloadAnswers) (task : SyncTask) :
    Routine String World (Option Download) :=
  match task.id with
  | none => pure none
  | some taskId =>
      match task.fileId with
      | none => do
          onDb (updateTaskStatus answers.completes answers.now taskId .completed
            (some "no file_id"))
          pure none
      | some fileId =>
          match task.localPath with
          | none => do
              onDb (updateTaskStatus answers.completes answers.now taskId .completed
                (some "no local_path"))
              pure none
          | some localPath => do
              onDb (updateTaskStatus answers.marks answers.now taskId .inProgress none)
              let driveFile ← onDb (getFileById answers.looksUp fileId task.accountId)
              match answers.createDirFailure with
              | some failure => throw failure
              | none => pure (some ⟨task, taskId, fileId, localPath, driveFile⟩)

/-- Stream the content to the temporary file: an export of a Google Workspace
file, a download of any other. -/
def fetchContent (answers : DownloadAnswers) (download : Download) : Routine String World Unit := do
  let mimeType := (download.driveFile.map DriveFile.mimeType).getD "application/octet-stream"
  perform (World.send download.task.accountId
    (if isGoogleWorkspaceMime mimeType then .export download.fileId (exportMimeFor mimeType)
      else .download download.fileId))
  writeFetched answers.fetched (tmpPath download.localPath)

/-- Clean up the temporary file and record the failure. -/
def failDownload (answers : DownloadAnswers) (download : Download) (errorMsg : String) :
    Routine String World Unit := do
  attempt (removeFile answers.removeTempFailure (tmpPath download.localPath))
  onDb (handleDownloadFailure answers.failure download.task download.taskId errorMsg)

/-- Rename the temporary file to the target path. -/
def landDownload (answers : DownloadAnswers) (download : Download) : Routine String World Unit :=
  renameFile answers.renameFailure (tmpPath download.localPath) download.localPath

/-- The modification time of the file at a path, if it can be read and is not
before the epoch. -/
def mtimeOf (stats : Bool) (path : String) (world : World) : Option Int :=
  if stats then ((world.disk path).map DiskFile.mtime).filter fun mtime => 0 ≤ mtime else none

/-- The row a finished download stores: the row looked up before, now cached
at the path. -/
def downloadedFile (file : DriveFile) (localPath : String) (mtime : Option Int) : DriveFile :=
  { file with
    syncState := .cached
    localPath := some localPath
    localMtime := mtime.or file.localMtime }

/-- Update the file metadata, if the file was found. -/
def storeDownloaded (answers : DownloadAnswers) (download : Download) :
    Routine String World Unit :=
  match download.driveFile with
  | none => pure ()
  | some file => do
      let mtime ← inspect (mtimeOf answers.statsFile download.localPath)
      attempt (onDb (upsertFile answers.upserts
        (downloadedFile file download.localPath mtime)))

/-- Update the file metadata and complete the task. -/
def recordDownload (answers : DownloadAnswers) (download : Download) :
    Routine String World Unit := do
  storeDownloaded answers download
  onDb (updateTaskStatus answers.completes answers.now download.taskId .completed none)

/-- Process a single download task. -/
def downloadFile (answers : DownloadAnswers) (task : SyncTask) : Routine String World Unit := do
  match ← startDownload answers task with
  | none => pure ()
  | some download =>
      match ← observe (fetchContent answers download) with
      | .error failure => failDownload answers download failure
      | .ok () =>
          match ← observe (landDownload answers download) with
          | .error failure => failDownload answers download ("rename failed: " ++ failure)
          | .ok () => recordDownload answers download

end Sync
end GDriver
