import GDriver.Api.Resources
import GDriver.Db.Accounts
import GDriver.Db.Queue

namespace GDriver
namespace Sync

open Library Routine Db Api

/-!
# Incremental sync

One poll of the Changes API: read the stored page token, fetch the change
pages one after the other, process every change of every page, and store the
token for the next poll.

What the outside world does in one run is a record of answers: whether each
statement is executed, what the server responds, and the time of day.  The
functions are total in these records, so a claim about every failure is a
claim about every record.
-/

/-- What the statements of one `processChange` meet. -/
structure ProcessChangeAnswers where
  marks : Bool
  looksUp : Bool
  upserts : Bool
  listsFolders : Bool
  enqueues : Bool
  now : Int
  deriving DecidableEq, Repr

/-- Every statement is executed. -/
def ProcessChangeAnswers.allRun (now : Int) : ProcessChangeAnswers where
  marks := true
  looksUp := true
  upserts := true
  listsFolders := true
  enqueues := true
  now := now

/-- A new task with the defaults of the synchronisation code. -/
def pendingTask (now : Int) (accountId : String) (fileId : Option String)
    (operation : TaskOperation) (localPath : Option String) (priority : Int) : SyncTask where
  id := none
  accountId := accountId
  fileId := fileId
  operation := operation
  localPath := localPath
  priority := priority
  status := .pending
  retryCount := 0
  errorMsg := none
  createdAt := now
  updatedAt := now

/-- Enqueue a sync task with reasonable defaults.  A failure is logged only. -/
def enqueueTask (answers : ProcessChangeAnswers) (accountId fileId : String)
    (operation : TaskOperation) (dbFile : Db.DriveFile) : Routine String Database Unit :=
  attempt (enqueue answers.enqueues
    (pendingTask answers.now accountId (some fileId) operation dbFile.localPath 5))

/-- Where a file without a path of its own is mirrored to: its name directly
under the mount point. -/
def mirrorPath (mountPoint name : String) : String :=
  trimEndMatches mountPoint '/' ++ "/" ++ name

/-- Enqueue a download task for a file that changed remotely: always in
Mirror mode, and in Stream mode when a sync folder covers the file. -/
def enqueueDownloadForChange (answers : ProcessChangeAnswers) (accountId : String)
    (dbFile : Db.DriveFile) (syncMode : SyncMode) (mountPoint : String) :
    Routine String Database Unit :=
  if dbFile.isFolder then pure ()
  else
    match dbFile.syncState with
    | .cached | .synced | .offline | .downloading => pure ()
    | _ =>
        let filePath := dbFile.localPath.getD (mirrorPath mountPoint dbFile.name)
        let download := attempt (enqueue answers.enqueues
          (pendingTask answers.now accountId (some dbFile.id) .download (some filePath) 5))
        match syncMode with
        | .mirror => download
        | .stream => do
            match ← observe (listByAccount answers.listsFolders accountId) with
            | .error _ => pure ()
            | .ok syncFolders =>
                if syncFolders.any fun folder =>
                    folder.isEnabled && startsWith filePath folder.localPath then
                  download
                else pure ()

/-- Process a single change from the Changes API. -/
def processChange [Rfc3339] (answers : ProcessChangeAnswers) (accountId : String)
    (change : Change) (syncMode : SyncMode) (mountPoint : String) :
    Routine String Database Unit :=
  match change.fileId with
  | none => pure ()
  | some fileId =>
      if change.removed.getD false then do
        -- deleted, or the user lost access to it
        markTrashed answers.marks fileId accountId
        match ← getFileById answers.looksUp fileId accountId with
        | none => pure ()
        | some existing =>
            if existing.localPath.isSome then
              enqueueTask answers accountId fileId .delete existing
            else pure ()
      else
        match change.file with
        | none => pure ()
        | some apiFile => do
            let dbFile := mapApiFileToDb apiFile accountId
            let isNew := (← getFileById answers.looksUp fileId accountId).isNone
            upsertFile answers.upserts dbFile
            if apiFile.trashed = some true then
              if dbFile.localPath.isSome then
                enqueueTask answers accountId fileId .delete dbFile
              else pure ()
            else if isNew then
              enqueueDownloadForChange answers accountId dbFile syncMode mountPoint
            else
              enqueueDownloadForChange answers accountId dbFile syncMode mountPoint

/-- Process the changes of one page.  The error of a change is logged only. -/
def processChanges [Rfc3339] (accountId : String) (syncMode : SyncMode) (mountPoint : String) :
    (Nat → ProcessChangeAnswers) → List Change → Routine String Database Unit
  | _, [] => pure ()
  | answers, change :: rest => do
      attempt (processChange (answers 0) accountId change syncMode mountPoint)
      processChanges accountId syncMode mountPoint (fun index => answers (index + 1)) rest

/-- One turn of the paging loop: what the server responds to a page token,
and what the statements for each change of the page meet. -/
structure ChangePage where
  response : String → Except String ChangeListResponse
  statements : Nat → ProcessChangeAnswers

/-- Where a run stops when the daemon is stopped in the middle of it. -/
def stopped : String := "stopped"

/-- Paginate through the change pages.  The list has one entry for each
request that gets its answer; when it ends the daemon was stopped there. -/
def pollPages [Rfc3339] (accountId : String) (syncMode : SyncMode) (mountPoint : String) :
    List ChangePage → String → Option String → Nat →
      Routine String Database (Option String × Nat)
  | [], _, _, _ => throw stopped
  | page :: pages, currentToken, latestToken, totalChanges => do
      let response ← received (page.response currentToken)
      processChanges accountId syncMode mountPoint page.statements response.changes
      let latestToken := response.newStartPageToken.or latestToken
      let totalChanges := totalChanges + response.changes.length
      match response.nextPageToken with
      | some token => pollPages accountId syncMode mountPoint pages token latestToken totalChanges
      | none => pure (latestToken, totalChanges)

/-- What one incremental sync meets. -/
structure IncrementalSyncAnswers where
  getsToken : Bool
  pages : List ChangePage
  setsToken : Bool
  now : Int

/-- Run one incremental-sync cycle for the given account. -/
def incrementalSync [Rfc3339] (answers : IncrementalSyncAnswers) (accountId : String)
    (syncMode : SyncMode) (mountPoint : String) : Routine String Database Nat := do
  match ← getToken answers.getsToken accountId with
  | none => pure 0
  | some pageToken =>
      let (latestToken, totalChanges) ←
        pollPages accountId syncMode mountPoint answers.pages pageToken none 0
      match latestToken with
      | none => pure totalChanges
      | some token =>
          setToken answers.setsToken answers.now accountId token
          pure totalChanges

end Sync
end GDriver
