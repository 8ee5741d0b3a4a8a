import GDriver.System
import Mathlib.Order.Defs.Unbundled

namespace GDriver

open Library Routine Db Api Sync

/-!
# The moves of the engine

Every routine of the engine is a sequence of single moves: it writes a file on
disk, sends a request, changes its task, stores a row, and so on.  A relation
between worlds that allows the moves a routine is made of allows every run of
the routine, wherever it stops.
-/

/-- The relation allows to record the outcome of a task. -/
structure AllowsMarking (taskId : Nat) (allowed : World → World → Prop) : Prop where
  task : ∀ world change keeps, (∀ task : SyncTask, task.AsksSame (change task)) →
    allowed world (world.withDb (world.db.updateTask taskId change keeps))
  error : ∀ world error,
    allowed world (world.withDb { world.db with syncErrors := world.db.syncErrors.insert error })

/-- The relation allows to send requests as well. -/
structure AllowsAsking (taskId : Nat) (allowed : World → World → Prop) : Prop extends
    AllowsMarking taskId allowed where
  send : ∀ world accountId request, allowed world (world.send accountId request)

/-- The relation allows what the processing of a task does beside writing
rows: it works on files and sends requests as well. -/
structure AllowsProcessing (taskId : Nat) (allowed : World → World → Prop) : Prop extends
    AllowsAsking taskId allowed where
  disk : ∀ path world file, allowed world (world.putOnDisk path file)

/-- The relation allows to change files on Drive as well. -/
structure AllowsSending (taskId : Nat) (allowed : World → World → Prop) : Prop extends
    AllowsProcessing taskId allowed where
  drive : ∀ world drive, allowed world { world with drive := drive }

/-- The relation allows to write any rows as well. -/
structure AllowsStoring (taskId : Nat) (allowed : World → World → Prop) : Prop extends
    AllowsSending taskId allowed where
  rows : ∀ world table, allowed world (world.withDb { world.db with driveFiles := table })

variable {allowed : World → World → Prop} [IsPreorder World allowed]

omit [IsPreorder World allowed] in
theorem AllowsSending.store {taskId : Nat} (allows : AllowsSending taskId allowed)
    (server : UploadReply) (accountId : String) (metadata : CreateFileMetadata)
    (content : List UInt8) (world : World) :
    allowed world (server.store accountId metadata content world) := by
  rw [store_eq]
  exact allows.drive world _

omit [IsPreorder World allowed] in
theorem AllowsSending.removes {taskId : Nat} (allows : AllowsSending taskId allowed) (world : World)
    (accountId fileId : String) : allowed world (world.putOnDrive accountId fileId none) :=
  allows.drive world _

/-! ## Files and rows -/

theorem keeps_removeFile {path : String}
    (disk : ∀ world file, allowed world (world.putOnDisk path file)) (failure : Option String) :
    Keeps allowed (removeFile failure path) :=
  keeps_onFile failure path fun _ world _ => disk world none

theorem keeps_renameFile {source target : String}
    (takes : ∀ world file, allowed world (world.putOnDisk source file))
    (puts : ∀ world file, allowed world (world.putOnDisk target file)) (failure : Option String) :
    Keeps allowed (renameFile failure source target) :=
  keeps_onFile failure source fun _ world _ => IsTrans.trans _ _ _ (takes world none) (puts _ _)

theorem keeps_writeFetched {fetched : Fetched} {path : String}
    (writes : ∀ file, fetched.written = some file → ∀ world : World,
      allowed world (world.putOnDisk path (some file))) :
    Keeps allowed (writeFetched fetched path) := by
  rw [writeFetched]
  refine keeps_bind (keeps_perform fun world => ?_) fun _ => ?_
  · cases written : fetched.written with
    | none => exact Std.Refl.refl world
    | some file => exact writes file written world
  · cases fetched.failure with
    | none => exact keeps_pure ()
    | some failure => exact keeps_throw failure

omit [IsPreorder World allowed] in
/-- A transfer that stops has failed. -/
theorem isSome_failure_of_writeFetched {fetched : Fetched} {path failure : String} {world : World}
    (stopped : outcome (writeFetched fetched path) world = .error failure) :
    fetched.failure.isSome = true := by
  rw [writeFetched, outcome_bind_of_ok (outcome_perform _ _)] at stopped
  cases failed : fetched.failure with
  | none =>
      rw [failed] at stopped
      cases stopped
  | some message => rfl

theorem keeps_readFile (failure : Option String) (path : String) :
    Keeps allowed (readFile failure path) := by
  intro world
  rw [final_readFile]
  exact Std.Refl.refl world

theorem keeps_onDb_select {α : Type} (runs : Bool) (read : Database → α) :
    Keeps allowed (onDb (select runs read)) := by
  intro world
  rw [final_onDb, final_select]
  exact Std.Refl.refl world

theorem keeps_onDb_execute {write : Database → Database}
    (moves : ∀ world : World, allowed world (world.withDb (write world.db))) (runs : Bool) :
    Keeps allowed (onDb (execute runs write)) := by
  intro world
  rw [final_onDb, final_execute]
  split
  · exact moves world
  · exact Std.Refl.refl world

theorem keeps_onDb_upsertFile {file : Db.DriveFile}
    (stores : ∀ world : World, world.db.acceptsFile file = true →
      allowed world (world.withDb (world.db.putFile file))) (runs : Bool) :
    Keeps allowed (onDb (upsertFile runs file)) := by
  intro world
  rw [final_onDb, final_upsertFile]
  split
  · next both => exact stores world (Bool.and_eq_true_iff.mp both).2
  · exact Std.Refl.refl world

/-! ## Recording the outcome of a task -/

section Outcomes

variable {taskId : Nat} (allows : AllowsMarking taskId allowed)
include allows

theorem keeps_updateTaskStatus (runs : Bool) (now : Int) (status : TaskStatus)
    (errorMsg : Option String) :
    Keeps allowed (onDb (updateTaskStatus runs now taskId status errorMsg)) := by
  refine keeps_onDb_execute (fun world => ?_) runs
  apply allows.task
  exact fun _ => ⟨rfl, rfl, rfl, rfl, rfl, rfl⟩

theorem keeps_updateTaskRetry (runs : Bool) (now : Int) (status : TaskStatus) (retryCount : Int)
    (errorMsg : Option String) :
    Keeps allowed (onDb (updateTaskRetry runs now taskId status retryCount errorMsg)) := by
  refine keeps_onDb_execute (fun world => ?_) runs
  apply allows.task
  exact fun _ => ⟨rfl, rfl, rfl, rfl, rfl, rfl⟩

theorem keeps_handleFailure (errorCode : String) (answers : FailureAnswers) (task : SyncTask)
    (errorMsg : String) :
    Keeps allowed (onDb (handleFailure errorCode answers task taskId errorMsg)) := by
  intro world
  simp only [final_onDb, handleFailure]
  split
  · have given := keeps_updateTaskStatus allows answers.setsStatus answers.now .failed
      (some errorMsg) world
    rw [final_onDb] at given
    rw [final_bind]
    split
    · refine IsTrans.trans _ _ _ given ?_
      rw [final_attempt, insertError, final_execute]
      split
      · exact allows.error (world.withDb _) _
      · exact Std.Refl.refl _
    · exact given
  · have given := keeps_updateTaskRetry allows answers.setsStatus answers.now .pending
      (task.retryCount + 1) (some errorMsg) world
    rw [final_onDb] at given
    exact given

theorem keeps_handlePhotoFailure (answers : PhotosAnswers) (task : SyncTask) (errorMsg : String) :
    Keeps allowed (handlePhotoFailure answers task taskId errorMsg) := by
  simp only [handlePhotoFailure]
  split
  · exact keeps_updateTaskStatus allows _ _ _ _
  · exact keeps_updateTaskRetry allows _ _ _ _ _

end Outcomes

/-! ## Downloads -/

section Downloads

variable {answers : DownloadAnswers}

theorem keeps_startDownload {task : SyncTask} {taskId : Nat} (identified : task.id = some taskId)
    (allows : AllowsMarking taskId allowed) : Keeps allowed (startDownload answers task) := by
  have marks := keeps_updateTaskStatus allows
  cases about : task.fileId with
  | none =>
      simp only [startDownload, identified, about]
      exact keeps_bind (marks _ _ _ _) fun _ => keeps_pure none
  | some fileId =>
      cases path : task.localPath with
      | none =>
          simp only [startDownload, identified, about, path]
          exact keeps_bind (marks _ _ _ _) fun _ => keeps_pure none
      | some localPath =>
          simp only [startDownload, identified, about, path]
          refine keeps_bind (marks _ _ _ _) fun _ => ?_
          refine keeps_bind (keeps_onDb_select _ _) fun driveFile => ?_
          cases answers.createDirFailure with
          | none => exact keeps_pure _
          | some failure => exact keeps_throw failure

variable {download : Download}

theorem keeps_fetchContent (send : ∀ world accountId request, allowed world (world.send accountId request))
    (temporary : ∀ world file, allowed world (world.putOnDisk (tmpPath download.localPath) file)) :
    Keeps allowed (fetchContent answers download) :=
  keeps_bind (keeps_perform fun world => send world _ _) fun _ =>
    keeps_writeFetched fun _ _ world => temporary world _

theorem keeps_failDownload (allows : AllowsMarking download.taskId allowed)
    (temporary : ∀ world file, allowed world (world.putOnDisk (tmpPath download.localPath) file))
    (errorMsg : String) : Keeps allowed (failDownload answers download errorMsg) :=
  keeps_bind (keeps_attempt (keeps_removeFile temporary _)) fun _ => keeps_handleFailure allows _ _ _ _

theorem keeps_landFetched (allows : AllowsProcessing download.taskId allowed) :
    Keeps allowed (landFetched answers download) := by
  refine keeps_bind (keeps_observe (keeps_renameFile (allows.disk _) (allows.disk _) _)) fun landed => ?_
  cases landed with
  | error failure =>
      exact keeps_bind (keeps_failDownload allows.toAllowsMarking (allows.disk _) _) fun _ => keeps_pure _
  | ok done => exact keeps_pure _

end Downloads

/-! ## The steps of the engine -/

/-- A download that has been started for a task, with the row it looked up. -/
structure StartedFrom (task : SyncTask) (db : Database) (download : Download) : Prop where
  same : download.task = task
  identified : task.id = some download.taskId
  about : task.fileId = some download.fileId
  path : task.localPath = some download.localPath
  lookedUp : download.driveFile = db.file download.fileId task.accountId

theorem startDownload_of_ok {answers : DownloadAnswers} {task : SyncTask} {world : World}
    {download : Download}
    (started : outcome (startDownload answers task) world = .ok (some download)) :
    StartedFrom task world.db download := by
  have closes (first : Routine String World Unit) :
      outcome (first >>= fun _ => pure none) world ≠ .ok (some download) := by
    rw [outcome_bind]
    split
    · exact fun other => nomatch other
    · exact fun other => nomatch other
  cases identified : task.id with
  | none =>
      simp only [startDownload, identified] at started
      cases started
  | some taskId =>
      cases about : task.fileId with
      | none =>
          simp only [startDownload, identified, about] at started
          exact absurd started (closes _)
      | some fileId =>
          cases path : task.localPath with
          | none =>
              simp only [startDownload, identified, about, path] at started
              exact absurd started (closes _)
          | some localPath =>
              simp only [startDownload, identified, about, path] at started
              rw [outcome_bind] at started
              split at started
              · rw [outcome_bind] at started
                split at started
                · next driveFile found =>
                    cases failure : answers.createDirFailure with
                    | some message =>
                        rw [failure] at started
                        cases started
                    | none =>
                        rw [failure] at started
                        have looked : driveFile = world.db.file fileId task.accountId := by
                          rw [outcome_onDb, outcome_getFileById, final_onDb, World.withDb_db,
                            final_updateTaskStatus] at found
                          split at found
                          · rw [← Except.ok.inj found]
                            split
                            · rfl
                            · rfl
                          · cases found
                        cases started
                        exact ⟨rfl, identified, about, path, looked⟩
                · cases started
              · cases started

/-- A download that is begun writes to its temporary file, and removes it when the content does
not arrive. -/
theorem keeps_beginDownload_of {answers : DownloadAnswers} {task : SyncTask} {taskId : Nat}
    (identified : task.id = some taskId) (allows : AllowsMarking taskId allowed)
    (send : ∀ world accountId request, allowed world (world.send accountId request))
    (writes : ∀ path file, task.localPath = some path → answers.fetched.written = some file →
      ∀ world : World, allowed world (world.putOnDisk (tmpPath path) (some file)))
    (cleans : ∀ path, task.localPath = some path → answers.fetched.failure.isSome = true →
      Keeps allowed (removeFile answers.removeTempFailure (tmpPath path))) :
    Keeps allowed (beginDownload answers task) := by
  refine keeps_bind_of_answers (keeps_startDownload identified allows) fun world started answered => ?_
  cases started with
  | none => exact keeps_pure _
  | some download =>
      have started := startDownload_of_ok answered
      have same : taskId = download.taskId :=
        Option.some.inj (identified.symm.trans started.identified)
      rw [same] at allows
      have fetches : Keeps allowed (fetchContent answers download) :=
        keeps_bind (keeps_perform fun world => send world _ _) fun _ =>
          keeps_writeFetched (fun file written => writes download.localPath file started.path written)
      refine keeps_bind_of_answers (keeps_observe fetches) fun world fetched answered => ?_
      cases fetched with
      | ok done => exact keeps_pure _
      | error failure =>
          have failed : answers.fetched.failure.isSome = true := by
            rw [outcome_observe, fetchContent, outcome_bind_of_ok (outcome_perform _ _)] at answered
            exact isSome_failure_of_writeFetched (Except.ok.inj answered)
          have cleaned := cleans download.localPath started.path failed
          refine keeps_bind (keeps_bind (keeps_attempt cleaned) fun _ => ?_) fun _ => keeps_pure _
          exact keeps_handleFailure allows _ _ _ _

theorem keeps_beginDownload {task : SyncTask} {taskId : Nat} (identified : task.id = some taskId)
    (allows : AllowsMarking taskId allowed)
    (send : ∀ world accountId request, allowed world (world.send accountId request))
    (temporary : ∀ path, task.localPath = some path →
      ∀ world file, allowed world (world.putOnDisk (tmpPath path) file))
    (answers : DownloadAnswers) : Keeps allowed (beginDownload answers task) :=
  keeps_beginDownload_of identified allows send (fun path _ target _ world => temporary path target world _)
    fun path target _ => keeps_removeFile (temporary path target) _

/-! ## Storing what a task brought -/

section Recording

variable {download : Download} {delete : RemoteDelete}

theorem keeps_storeDownloaded
    (stores : ∀ (world : World) file mtime, download.driveFile = some file →
      world.db.acceptsFile (downloadedFile file download.localPath mtime) = true →
      allowed world (world.withDb (world.db.putFile (downloadedFile file download.localPath mtime))))
    (answers : DownloadAnswers) : Keeps allowed (storeDownloaded answers download) := by
  cases found : download.driveFile with
  | none =>
      simp only [storeDownloaded, found]
      exact keeps_pure ()
  | some file =>
      simp only [storeDownloaded, found]
      refine keeps_bind (keeps_inspect _) fun mtime => ?_
      exact keeps_attempt (keeps_onDb_upsertFile (fun world => stores world file mtime found) _)

theorem keeps_recordDownload
    (stores : ∀ (world : World) file mtime, download.driveFile = some file →
      world.db.acceptsFile (downloadedFile file download.localPath mtime) = true →
      allowed world (world.withDb (world.db.putFile (downloadedFile file download.localPath mtime))))
    (allows : AllowsMarking download.taskId allowed) (answers : DownloadAnswers) :
    Keeps allowed (recordDownload answers download) :=
  keeps_bind (keeps_storeDownloaded stores _) fun _ => keeps_updateTaskStatus allows _ _ _ _

theorem keeps_storeEvicted
    (stores : ∀ (world : World) file, delete.driveFile = some file →
      world.db.acceptsFile (evictedFile file) = true →
      allowed world (world.withDb (world.db.putFile (evictedFile file))))
    (answers : DeleteAnswers) : Keeps allowed (storeEvicted answers delete) := by
  cases found : delete.driveFile with
  | none =>
      simp only [storeEvicted, found]
      exact keeps_pure ()
  | some file =>
      simp only [storeEvicted, found]
      exact keeps_attempt (keeps_onDb_upsertFile (fun world => stores world file found) _)

theorem keeps_recordRemoteDelete
    (stores : ∀ (world : World) file, delete.driveFile = some file →
      world.db.acceptsFile (evictedFile file) = true →
      allowed world (world.withDb (world.db.putFile (evictedFile file))))
    (allows : AllowsMarking delete.taskId allowed) (answers : DeleteAnswers) :
    Keeps allowed (recordRemoteDelete answers delete) :=
  keeps_bind (keeps_storeEvicted stores _) fun _ => keeps_updateTaskStatus allows _ _ _ _

end Recording

/-! ## Requests -/

theorem keeps_removeLocalCopy
    (disk : ∀ path world file, allowed world (World.putOnDisk path file world))
    (answers : DeleteAnswers) (delete : RemoteDelete) : Keeps allowed (removeLocalCopy answers delete) := by
  cases at' : delete.localPath with
  | none =>
      simp only [removeLocalCopy, at']
      exact keeps_pure ()
  | some path =>
      simp only [removeLocalCopy, at']
      exact keeps_attempt (keeps_removeFile (disk _) _)

section Requests

variable (send : ∀ world accountId request, allowed world (World.send accountId request world))
include send

theorem keeps_filesUpload {accountId : String} {metadata : CreateFileMetadata} {content : List UInt8}
    {server : UploadReply} (stores : ∀ world, allowed world (server.store accountId metadata content world)) :
    Keeps allowed (filesUpload accountId metadata content server) := by
  refine keeps_bind (keeps_perform fun world => send world _ _) fun _ => ?_
  exact keeps_bind (keeps_perform stores) fun _ => keeps_received _

theorem keeps_filesDelete {accountId fileId : String} {server : DeleteReply}
    (deletes : ∀ world, allowed world (server.carryOut accountId fileId world)) :
    Keeps allowed (filesDelete accountId fileId server) := by
  refine keeps_bind (keeps_perform fun world => send world _ _) fun _ => ?_
  exact keeps_bind (keeps_perform deletes) fun _ => keeps_received _

theorem keeps_uploadConflictCopy [Rfc3339] {answers : ResolveAnswers} {task : SyncTask}
    (stores : ∀ world metadata content,
      allowed world (answers.server.store task.accountId metadata content world))
    (rows : ∀ (world : World) apiFile, answers.server.reply = .ok apiFile →
      world.db.acceptsFile (mapApiFileToDb apiFile task.accountId) = true →
      allowed world (world.withDb (world.db.putFile (mapApiFileToDb apiFile task.accountId))))
    (dbRecord : Db.DriveFile) (localPath : String) (content : List UInt8) :
    Keeps allowed (uploadConflictCopy answers task dbRecord localPath content) := by
  refine keeps_bind_of_answers
    (keeps_observe (keeps_filesUpload send fun world => stores world _ _)) ?_
  intro _ uploaded answered
  rw [outcome_observe, outcome_filesUpload] at answered
  cases uploaded with
  | error failure => exact keeps_pure ()
  | ok apiFile =>
      have replied := Except.ok.inj answered
      intro world
      rw [final_onDb, final_attempt, final_upsertFile]
      split
      · next both => exact rows world apiFile replied (Bool.and_eq_true_iff.mp both).2
      · exact Std.Refl.refl world

end Requests

section Removing

variable {taskId : Nat}

omit [IsPreorder World allowed] in
theorem taskId_of_lookUpRemoteDelete {answers : DeleteAnswers} {task : SyncTask} {fileId : String}
    {world : World} {delete : RemoteDelete}
    (looked : outcome (lookUpRemoteDelete answers task taskId fileId) world = .ok delete) :
    delete.taskId = taskId := by
  rw [lookUpRemoteDelete, outcome_bind] at looked
  split at looked
  · cases looked
    rfl
  · cases looked

theorem keeps_handleLocalDelete (allows : AllowsAsking taskId allowed)
    (removes : ∀ (world : World) accountId fileId, allowed world (world.putOnDrive accountId fileId none))
    (trashes : ∀ (world : World) fileId accountId, allowed world (world.withDb
      (world.db.updateFileAt fileId accountId DriveFile.trashed DriveFile.key_trashed)))
    (answers : DeleteAnswers) (task : SyncTask) (localPath : String) :
    Keeps allowed (handleLocalDelete answers task taskId localPath) := by
  have marks := keeps_updateTaskStatus allows.toAllowsMarking
  refine keeps_bind (keeps_onDb_select _ _) fun known => ?_
  cases known with
  | none => exact marks _ _ _ _
  | some file =>
      refine keeps_bind (keeps_observe (keeps_filesDelete allows.send fun world => ?_)) fun deleted => ?_
      · rw [DeleteReply.carryOut]
        split
        · exact removes world _ _
        · exact Std.Refl.refl world
      cases deleted with
      | error failure => exact keeps_handleFailure allows.toAllowsMarking _ _ _ _
      | ok done =>
          refine keeps_bind (fun world => ?_) fun _ => marks _ _ _ _
          rw [final_onDb, final_attempt, final_markTrashed]
          split
          · exact trashes world _ _
          · exact Std.Refl.refl world

end Removing

section Storing

variable {taskId : Nat} (allows : AllowsStoring taskId allowed)
include allows

theorem keeps_handleRemoteDelete (answers : DeleteAnswers) (task : SyncTask) (fileId : String) :
    Keeps allowed (handleRemoteDelete answers task taskId fileId) := by
  refine keeps_bind_of_answers (keeps_bind (keeps_onDb_select _ _) fun _ => keeps_pure _) ?_
  intro world delete looked
  have same := taskId_of_lookUpRemoteDelete looked
  refine keeps_bind (keeps_removeLocalCopy allows.disk _ _) fun _ => ?_
  rw [← same] at allows
  exact keeps_recordRemoteDelete (fun world _ _ _ => allows.rows world _) allows.toAllowsMarking _

end Storing

section Processors

variable {task : SyncTask} {taskId : Nat} (identified : task.id = some taskId)
include identified

section Sending

variable (sends : AllowsAsking taskId allowed)
include sends

theorem keeps_backupPhoto (answers : PhotosAnswers) : Keeps allowed (backupPhoto answers task) := by
  have marks := keeps_updateTaskStatus sends.toAllowsMarking
  have fails := keeps_handlePhotoFailure sends.toAllowsMarking answers task
  cases path : task.localPath with
  | none =>
      simp only [backupPhoto, identified, path]
      exact marks _ _ _ _
  | some localPath =>
      simp only [backupPhoto, identified, path]
      split
      · exact fails _
      · refine keeps_bind (marks _ _ _ _) fun _ => ?_
        refine keeps_bind (keeps_observe ?_) fun uploaded => ?_
        · refine keeps_bind (keeps_readFile _ _) fun content => ?_
          refine keeps_bind (keeps_perform fun world => sends.send world _ _) fun _ => ?_
          exact keeps_received _
        · cases uploaded with
          | error failure => exact fails _
          | ok uploadToken =>
              refine keeps_bind (keeps_perform fun world => sends.send world _ _) fun _ => ?_
              split
              · exact fails _
              · exact fails _
              · split
                · exact marks _ _ _ _
                · exact fails _
              · split
                · exact marks _ _ _ _
                · exact fails _

theorem keeps_processUnknown (answers : TaskAnswers) :
    Keeps allowed (processUnknown answers task) := by
  have marks := keeps_updateTaskStatus sends.toAllowsMarking answers.marksUnknown answers.now
    .completed (some "unknown operation")
  simp only [processUnknown, identified]
  intro world
  have moved := marks world
  rw [final_onDb] at moved ⊢
  exact moved

theorem keeps_beginDelete
    (removes : ∀ (world : World) accountId fileId, allowed world (world.putOnDrive accountId fileId none))
    (trashes : ∀ (world : World) fileId accountId, allowed world (world.withDb
      (world.db.updateFileAt fileId accountId DriveFile.trashed DriveFile.key_trashed)))
    (answers : DeleteAnswers) : Keeps allowed (beginDelete answers task) := by
  have marks := keeps_updateTaskStatus sends.toAllowsMarking
  cases about : task.fileId with
  | none =>
      simp only [beginDelete, deleteFile, identified, about]
      refine keeps_bind (keeps_bind (marks _ _ _ _) fun _ => ?_) fun _ => keeps_pure _
      cases task.localPath with
      | none => exact marks _ _ _ _
      | some localPath => exact keeps_handleLocalDelete sends removes trashes _ _ _
  | some fileId =>
      simp only [beginDelete, identified, about]
      refine keeps_bind (marks _ _ _ _) fun _ => ?_
      refine keeps_bind ?_ fun _ => keeps_pure _
      exact keeps_bind (keeps_onDb_select _ _) fun _ => keeps_pure _

theorem keeps_uploadFile [Rfc3339] {answers : UploadAnswers}
    (uploads : ∀ world metadata content,
      allowed world (answers.server.store task.accountId metadata content world))
    (stores : ∀ (world : World) apiFile, answers.server.reply = .ok apiFile →
      world.db.acceptsFile (mapApiFileToDb apiFile task.accountId) = true →
      allowed world (world.withDb (world.db.putFile (mapApiFileToDb apiFile task.accountId)))) :
    Keeps allowed (uploadFile answers task) := by
  have marks := keeps_updateTaskStatus sends.toAllowsMarking
  cases path : task.localPath with
  | none =>
      simp only [uploadFile, identified, path]
      exact marks _ _ _ _
  | some localPath =>
      simp only [uploadFile, identified, path]
      refine keeps_bind (marks _ _ _ _) fun _ => ?_
      refine keeps_bind (keeps_observe (keeps_readFile _ _)) fun reading => ?_
      cases reading with
      | error failure => exact keeps_handleFailure sends.toAllowsMarking _ _ _ _
      | ok content =>
          refine keeps_bind_of_answers
            (keeps_observe (keeps_filesUpload sends.send fun world => uploads world _ _)) ?_
          intro _ uploaded answered
          rw [outcome_observe, outcome_filesUpload] at answered
          cases uploaded with
          | error failure => exact keeps_handleFailure sends.toAllowsMarking _ _ _ _
          | ok apiFile =>
              have replied := Except.ok.inj answered
              refine keeps_bind (fun world => ?_) fun _ => marks _ _ _ _
              rw [final_onDb, final_attempt, final_upsertFile]
              split
              · next both => exact stores world apiFile replied (Bool.and_eq_true_iff.mp both).2
              · exact Std.Refl.refl world

end Sending

section Checking

variable [Rfc3339] (allows : AllowsProcessing taskId allowed)
  (rows : ∀ (world : World) file, world.db.acceptsFile file = true →
    allowed world (world.withDb (world.db.putFile file)))
include allows rows

theorem keeps_resolveConflict {answers : ResolveAnswers}
    (uploads : ∀ world metadata content,
      allowed world (answers.server.store task.accountId metadata content world))
    (dbRecord : Db.DriveFile) (localPath : String) (remoteFile : Api.DriveFile) :
    Keeps allowed (resolveConflict answers task dbRecord localPath remoteFile) := by
  simp only [resolveConflict, identified, Option.getD_some]
  refine keeps_bind (keeps_renameFile (allows.disk _) (allows.disk _) _) fun _ => ?_
  refine keeps_bind (keeps_readFile _ _) fun content => ?_
  refine keeps_bind (keeps_uploadConflictCopy allows.send uploads (fun world _ _ => rows world _) _ _ _)
    fun _ => ?_
  refine keeps_bind (keeps_perform fun world => allows.send world _ _) fun _ => ?_
  refine keeps_bind (keeps_writeFetched fun _ _ world => allows.disk _ world _) fun _ => ?_
  refine keeps_bind (keeps_renameFile (allows.disk _) (allows.disk _) _) fun _ => ?_
  refine keeps_bind (keeps_inspect _) fun landed => ?_
  refine keeps_bind (keeps_onDb_upsertFile (fun world => rows world _) _) fun _ => ?_
  exact keeps_updateTaskStatus allows.toAllowsMarking _ _ _ _

theorem keeps_checkAndResolve {answers : ConflictAnswers}
    (uploads : ∀ world metadata content,
      allowed world (answers.resolve.server.store task.accountId metadata content world))
    (fileId localPath : String) :
    Keeps allowed (checkAndResolve answers task fileId localPath) := by
  refine keeps_bind (keeps_onDb_select _ _) fun known => ?_
  cases known with
  | none => exact keeps_pure false
  | some dbRecord =>
      refine keeps_bind (keeps_inspect _) fun mtime => ?_
      cases mtime with
      | none => exact keeps_pure false
      | some currentLocalMtime =>
          refine keeps_bind (keeps_perform fun world => allows.send world _ _) fun _ => ?_
          cases answers.remote with
          | error failure => exact keeps_pure false
          | ok remoteFile =>
              cases tag : remoteFile.etag with
              | none =>
                  simp only [tag]
                  exact keeps_pure false
              | some currentRemoteEtag =>
                  simp only [tag]
                  split
                  · exact keeps_bind (keeps_resolveConflict identified allows rows uploads _ _ _) fun _ =>
                      keeps_pure true
                  · exact keeps_pure false

/-- The processing of an upload stores rows that the database accepts, and files on Drive. -/
theorem keeps_processUpload_of {answers : TaskAnswers}
    (uploads : ∀ (server : UploadReply) metadata content world,
      allowed world (server.store task.accountId metadata content world)) :
    Keeps allowed (processUpload answers task) := by
  have uploading : Keeps allowed (attempt (uploadFile answers.upload task) : Routine String World Unit) :=
    keeps_attempt (keeps_uploadFile identified allows.toAllowsAsking
      (fun world metadata content => uploads _ metadata content world) fun world _ _ => rows world _)
  cases about : task.fileId with
  | none =>
      simp only [processUpload, about]
      exact uploading
  | some fileId =>
      cases path : task.localPath with
      | none =>
          simp only [processUpload, about, path]
          exact uploading
      | some localPath =>
          simp only [processUpload, about, path]
          refine keeps_bind (keeps_observe (keeps_checkAndResolve identified allows rows
            (fun world metadata content => uploads _ metadata content world) _ _)) fun checked => ?_
          cases checked with
          | error failure => exact uploading
          | ok resolved =>
              cases resolved with
              | true => exact keeps_pure ()
              | false => exact uploading

end Checking

variable (stores : AllowsStoring taskId allowed)
include stores

theorem keeps_deleteFile (answers : DeleteAnswers) : Keeps allowed (deleteFile answers task) := by
  have marks := keeps_updateTaskStatus stores.toAllowsMarking
  simp only [deleteFile, identified]
  refine keeps_bind (marks _ _ _ _) fun _ => ?_
  split
  · exact keeps_handleRemoteDelete stores _ _ _
  · exact keeps_handleLocalDelete stores.toAllowsAsking stores.toAllowsSending.removes
      (fun world _ _ => stores.rows world _) _ _ _
  · exact marks _ _ _ _

theorem keeps_downloadFile (answers : DownloadAnswers) :
    Keeps allowed (downloadFile answers task) := by
  refine keeps_bind_of_answers
    (keeps_startDownload identified stores.toAllowsMarking) fun world started answered => ?_
  cases started with
  | none => exact keeps_pure ()
  | some download =>
      have started := startDownload_of_ok answered
      have same : taskId = download.taskId :=
        Option.some.inj (identified.symm.trans started.identified)
      rw [same] at stores
      have fails := @keeps_failDownload _ _ answers _ stores.toAllowsMarking (stores.disk _)
      refine keeps_bind (keeps_observe (keeps_fetchContent stores.send (stores.disk _))) fun fetched => ?_
      cases fetched with
      | error failure => exact fails _
      | ok done =>
          refine keeps_bind
            (keeps_observe (keeps_renameFile (stores.disk _) (stores.disk _) _)) fun landed => ?_
          cases landed with
          | error failure => exact fails _
          | ok done =>
              exact keeps_recordDownload (fun world _ _ _ _ => stores.rows world _) stores.toAllowsMarking _

variable [Rfc3339]

theorem keeps_processUpload (answers : TaskAnswers) : Keeps allowed (processUpload answers task) :=
  keeps_processUpload_of identified stores.toAllowsProcessing (fun world _ _ => stores.rows world _)
    fun server metadata content world => stores.toAllowsSending.store server _ metadata content world

theorem keeps_processTask (answers : TaskAnswers) : Keeps allowed (processTask answers task) := by
  have unknown := keeps_processUnknown identified stores.toAllowsAsking answers
  cases operation : task.operation with
  | upload =>
      simp only [processTask, operation]
      split
      · exact keeps_processUpload identified stores answers
      · exact keeps_pure ()
  | download =>
      simp only [processTask, operation]
      split
      · exact keeps_attempt (keeps_downloadFile identified stores _)
      · exact keeps_pure ()
  | delete =>
      simp only [processTask, operation]
      split
      · exact keeps_attempt (keeps_deleteFile identified stores _)
      · exact keeps_pure ()
  | photosBackup =>
      simp only [processTask, operation]
      split
      · exact keeps_attempt (keeps_backupPhoto identified stores.toAllowsAsking _)
      · exact keeps_pure ()
  | rename =>
      simp only [processTask, operation]
      exact unknown
  | move =>
      simp only [processTask, operation]
      exact unknown

omit stores in
/-- Beside what its download or upload does, a task that is begun sends requests, deletes files
on Drive and marks rows as trashed. -/
theorem keeps_beginTask_of_parts {answers : TaskAnswers} (allows : AllowsAsking taskId allowed)
    (downloads : answers.hasClient = true → task.operation = .download →
      Keeps allowed (beginDownload answers.download task))
    (removes : task.operation = .delete → ∀ (world : World) accountId fileId,
      allowed world (world.putOnDrive accountId fileId none))
    (trashes : task.operation = .delete → ∀ (world : World) fileId accountId, allowed world
      (world.withDb (world.db.updateFileAt fileId accountId DriveFile.trashed DriveFile.key_trashed)))
    (uploads : task.operation = .upload → Keeps allowed (processUpload answers task)) :
    Keeps allowed (beginTask answers task) := by
  have unknown := keeps_processUnknown identified allows answers
  simp only [beginTask]
  split
  · next fetches =>
      rw [Bool.and_eq_true, decide_eq_true_eq] at fetches
      exact downloads fetches.1 fetches.2
  · next noDownload =>
      split
      · next deletes =>
          rw [Bool.and_eq_true, decide_eq_true_eq] at deletes
          exact keeps_beginDelete identified allows (removes deletes.2) (trashes deletes.2) _
      · next noDelete =>
          refine keeps_bind ?_ fun _ => keeps_pure _
          cases operation : task.operation with
          | upload =>
              simp only [processTask, operation]
              split
              · exact uploads operation
              · exact keeps_pure ()
          | download =>
              simp only [processTask, operation]
              split
              · next client =>
                  rw [operation, client] at noDownload
                  exact absurd rfl noDownload
              · exact keeps_pure ()
          | delete =>
              simp only [processTask, operation]
              split
              · next client =>
                  rw [operation, client] at noDelete
                  exact absurd rfl noDelete
              · exact keeps_pure ()
          | photosBackup =>
              simp only [processTask, operation]
              split
              · exact keeps_attempt (keeps_backupPhoto identified allows _)
              · exact keeps_pure ()
          | rename =>
              simp only [processTask, operation]
              exact unknown
          | move =>
              simp only [processTask, operation]
              exact unknown

omit stores in
/-- Beside what its upload does, a task that is begun works on files, sends requests,
deletes files on Drive and marks rows as trashed. -/
theorem keeps_beginTask_of_uploads {answers : TaskAnswers} (allows : AllowsProcessing taskId allowed)
    (removes : ∀ (world : World) accountId fileId, allowed world (world.putOnDrive accountId fileId none))
    (trashes : task.operation = .delete → ∀ (world : World) fileId accountId, allowed world
      (world.withDb (world.db.updateFileAt fileId accountId DriveFile.trashed DriveFile.key_trashed)))
    (uploads : task.operation = .upload → Keeps allowed (processUpload answers task)) :
    Keeps allowed (beginTask answers task) :=
  keeps_beginTask_of_parts identified allows.toAllowsAsking
    (fun _ _ => keeps_beginDownload identified allows.toAllowsMarking allows.send
      (fun path _ => allows.disk (tmpPath path)) _) (fun _ => removes) trashes uploads

/-- A relation that allows the moves of a task allows its processing to begin. -/
theorem keeps_beginTask (answers : TaskAnswers) : Keeps allowed (beginTask answers task) :=
  keeps_beginTask_of_uploads identified stores.toAllowsProcessing stores.toAllowsSending.removes
    (fun _ world _ _ => stores.rows world _) fun _ => keeps_processUpload identified stores answers

end Processors

/-! ## Taking the next task -/

section Next

variable [Rfc3339]

/-- The engine begins the next pending task. -/
theorem settle_beginNext_of_next (answers : TaskAnswers) {world : World} {task : SyncTask}
    (next : world.db.nextPending = some task) :
    settle (beginNext true answers) world = settle (beginTask answers task) world := by
  have reads : outcome (onDb (nextPendingTask true)) world = .ok (some task) := by
    rw [outcome_onDb, nextPendingTask, outcome_select, if_pos rfl, next]
  have stays : final (onDb (nextPendingTask true)) world = world := by
    rw [final_onDb, nextPendingTask, final_select]
    rfl
  simp only [settle, beginNext, outcome_bind_of_ok reads, final_bind_of_ok reads, stays]

/-- The engine begins the next pending task, or there is nothing to do. -/
theorem settle_beginNext (picks : Bool) (answers : TaskAnswers) (world : World) :
    settle (beginNext picks answers) world = ⟨world, .idle⟩ ∨
      ∃ task, picks = true ∧ world.db.nextPending = some task ∧
        settle (beginNext picks answers) world = settle (beginTask answers task) world := by
  have reads : outcome (onDb (nextPendingTask picks)) world =
      if picks then .ok world.db.nextPending else .error databaseError := by
    rw [outcome_onDb, nextPendingTask, outcome_select]
  have stays : final (onDb (nextPendingTask picks)) world = world := by
    rw [final_onDb, nextPendingTask, final_select]
    rfl
  cases picks with
  | false =>
      rw [if_neg Bool.false_ne_true] at reads
      refine Or.inl ?_
      simp only [settle, beginNext, outcome_bind_of_error reads, final_bind_of_error reads, stays]
  | true =>
      cases next : world.db.nextPending with
      | none =>
          rw [if_pos rfl, next] at reads
          refine Or.inl ?_
          simp only [settle, beginNext, outcome_bind_of_ok reads, final_bind_of_ok reads, stays,
            outcome_pure, final_pure]
      | some task => exact Or.inr ⟨task, rfl, rfl, settle_beginNext_of_next answers next⟩

/-- Without a client for its account a download or a deletion is left for
later. -/
theorem settle_beginTask_of_no_client {answers : TaskAnswers} {task : SyncTask}
    (client : answers.hasClient = false)
    (waits : task.operation = .download ∨ task.operation = .delete) (world : World) :
    settle (beginTask answers task) world = ⟨world, .idle⟩ := by
  have nothing : processTask answers task = pure () := by
    rcases waits with download | delete
    · simp only [processTask, download, client, Bool.false_eq_true, if_false]
    · simp only [processTask, delete, client, Bool.false_eq_true, if_false]
  simp only [beginTask, client, nothing, Bool.false_and, Bool.false_eq_true, if_false]
  rfl

theorem beginTask_download {answers : TaskAnswers} {task : SyncTask}
    (client : answers.hasClient = true) (operation : task.operation = .download) :
    beginTask answers task = beginDownload answers.download task := by
  rw [beginTask, client, operation]
  rfl

theorem beginTask_delete {answers : TaskAnswers} {task : SyncTask}
    (client : answers.hasClient = true) (operation : task.operation = .delete) :
    beginTask answers task = beginDelete answers.delete task := by
  rw [beginTask, client, operation]
  rfl

theorem final_beginTask_upload {answers : TaskAnswers} {task : SyncTask}
    (client : answers.hasClient = true) (uploads : task.operation = .upload) (world : World) :
    final (beginTask answers task) world = final (processUpload answers task) world := by
  simp only [beginTask, processTask, client, uploads, reduceCtorEq, decide_false, Bool.and_false,
    Bool.false_eq_true, if_false, if_true, final_bind_pure]

theorem final_beginTask_upload_of_no_client {answers : TaskAnswers} {task : SyncTask}
    (client : answers.hasClient = false) (uploads : task.operation = .upload) (world : World) :
    final (beginTask answers task) world = world := by
  simp only [beginTask, processTask, client, uploads, Bool.false_and, Bool.false_eq_true, if_false]
  rfl

/-- The number of the task that the engine is in the middle of. -/
def inFlight : EngineState → Option Nat
  | .idle => none
  | .fetched download => some download.taskId
  | .landed download => some download.taskId
  | .removing delete => some delete.taskId
  | .removed delete => some delete.taskId

/-- A step of the engine ends in the middle of a task with a file id, or idle. -/
def StopsWithin (task : SyncTask) (result : Except String EngineState) : Prop :=
  ∀ engine taskId, result = .ok engine → inFlight engine = some taskId →
    task.id = some taskId ∧ task.fileId.isSome = true

omit [Rfc3339] in
theorem stopsWithin_idle (task : SyncTask) (first : Routine String World Unit) (world : World) :
    StopsWithin task (outcome (first >>= fun _ => pure EngineState.idle) world) := by
  intro engine taskId answered within
  rw [outcome_bind] at answered
  split at answered
  · cases answered
    cases within
  · cases answered

omit [Rfc3339] in
theorem stopsWithin_beginDownload (answers : DownloadAnswers) (task : SyncTask) (world : World) :
    StopsWithin task (outcome (beginDownload answers task) world) := by
  intro engine taskId answered within
  rw [beginDownload, outcome_bind] at answered
  split at answered
  · next started begun =>
      cases started with
      | none =>
          cases answered
          cases within
      | some download =>
          have started := startDownload_of_ok begun
          dsimp only at answered
          rw [outcome_bind_of_ok (outcome_observe _ _)] at answered
          split at answered
          · exact stopsWithin_idle task _ _ engine taskId answered within
          · cases answered
            cases within
            rw [started.about]
            exact ⟨started.identified, rfl⟩
  · cases answered

omit [Rfc3339] in
theorem stopsWithin_beginDelete (answers : DeleteAnswers) (task : SyncTask) (world : World) :
    StopsWithin task (outcome (beginDelete answers task) world) := by
  cases identified : task.id with
  | none =>
      simp only [beginDelete, identified]
      exact stopsWithin_idle task _ world
  | some taskId =>
      cases about : task.fileId with
      | none =>
          simp only [beginDelete, identified, about]
          exact stopsWithin_idle task _ world
      | some fileId =>
          simp only [beginDelete, identified, about]
          intro engine other answered within
          rw [outcome_bind] at answered
          split at answered
          · rw [outcome_bind] at answered
            split at answered
            · next delete looked =>
                cases answered
                cases within
                rw [identified, about, taskId_of_lookUpRemoteDelete looked]
                exact ⟨rfl, rfl⟩
            · cases answered
          · cases answered

theorem stopsWithin_beginTask (answers : TaskAnswers) (task : SyncTask) (world : World) :
    StopsWithin task (outcome (beginTask answers task) world) := by
  rw [beginTask]
  split
  · exact stopsWithin_beginDownload _ _ _
  · split
    · exact stopsWithin_beginDelete _ _ _
    · exact stopsWithin_idle _ _ _

/-- The row that the engine has looked up for the task it is in the middle of. -/
def heldRow : EngineState → Option Db.DriveFile
  | .idle => none
  | .fetched download => download.driveFile
  | .landed download => download.driveFile
  | .removing delete => delete.driveFile
  | .removed delete => delete.driveFile

/-- A step of the engine ends with a row in hand that is stored, or with none. -/
def HoldsStored (db : Database) (result : Except String EngineState) : Prop :=
  ∀ engine file, result = .ok engine → heldRow engine = some file →
    ∃ fileId accountId, db.file fileId accountId = some file

omit [Rfc3339] in
theorem holdsStored_idle (db : Database) (first : Routine String World Unit) (world : World) :
    HoldsStored db (outcome (first >>= fun _ => pure EngineState.idle) world) := by
  intro engine file answered held
  rw [outcome_bind] at answered
  split at answered
  · cases answered
    cases held
  · cases answered

omit [Rfc3339] in
theorem holdsStored_beginDownload (answers : DownloadAnswers) (task : SyncTask) (world : World) :
    HoldsStored world.db (outcome (beginDownload answers task) world) := by
  intro engine file answered held
  rw [beginDownload, outcome_bind] at answered
  split at answered
  · next started begun =>
      cases started with
      | none =>
          cases answered
          cases held
      | some download =>
          have started := startDownload_of_ok begun
          dsimp only at answered
          rw [outcome_bind_of_ok (outcome_observe _ _)] at answered
          split at answered
          · exact holdsStored_idle world.db _ _ engine file answered held
          · cases answered
            rw [heldRow, started.lookedUp] at held
            exact ⟨_, _, held⟩
  · cases answered

omit [Rfc3339] in
theorem holdsStored_beginDelete (answers : DeleteAnswers) (task : SyncTask) (world : World) :
    HoldsStored world.db (outcome (beginDelete answers task) world) := by
  cases identified : task.id with
  | none =>
      simp only [beginDelete, identified]
      exact holdsStored_idle world.db _ world
  | some taskId =>
      cases about : task.fileId with
      | none =>
          simp only [beginDelete, identified, about]
          exact holdsStored_idle world.db _ world
      | some fileId =>
          simp only [beginDelete, identified, about]
          intro engine file answered held
          rw [outcome_bind] at answered
          split at answered
          · rw [lookUpRemoteDelete, bind_assoc, outcome_bind] at answered
            split at answered
            · next known found =>
                cases answered
                rw [outcome_onDb, outcome_getFileById, final_onDb, World.withDb_db,
                  final_updateTaskStatus] at found
                split at found
                · refine ⟨fileId, task.accountId, ?_⟩
                  rw [← held, heldRow, ← Except.ok.inj found]
                  split
                  · rfl
                  · rfl
                · cases found
            · cases answered
          · cases answered

theorem holdsStored_beginTask (answers : TaskAnswers) (task : SyncTask) (world : World) :
    HoldsStored world.db (outcome (beginTask answers task) world) := by
  rw [beginTask]
  split
  · exact holdsStored_beginDownload _ _ _
  · split
    · exact holdsStored_beginDelete _ _ _
    · exact holdsStored_idle _ _ _

omit [Rfc3339] in
/-- Putting the fetched content in place goes on with the download or ends it. -/
theorem of_outcome_landFetched {answers : DownloadAnswers} {download : Download} {world : World}
    {engine : EngineState} (answered : outcome (landFetched answers download) world = .ok engine) :
    engine = .landed download ∨ engine = .idle := by
  rw [landFetched, outcome_bind_of_ok (outcome_observe _ _)] at answered
  split at answered
  · rw [outcome_bind] at answered
    split at answered
    · cases answered
      exact Or.inr rfl
    · cases answered
  · cases answered
    exact Or.inl rfl

/-! ## What a step of the engine does -/

/-- A step of the engine does nothing, or goes on from the state it belongs to. -/
inductive EngineStep.Does (system : System) : EngineStep → System → Prop where
  | nothing (step : EngineStep) : Does system step system
  | restart : Does system .restart { system with engine := .idle }
  | begin {picks : Bool} {answers : TaskAnswers} {task : SyncTask} {taskId : Nat} (picked : picks = true)
      (idle : system.engine = .idle) (next : system.world.db.nextPending = some task)
      (identified : task.id = some taskId) :
      Does system (.begin picks answers) (settle (beginTask answers task) system.world)
  | land {answers : DownloadAnswers} {download : Download} (engine : system.engine = .fetched download) :
      Does system (.land answers) (settle (landFetched answers download) system.world)
  | record {answers : DownloadAnswers} {download : Download} (engine : system.engine = .landed download) :
      Does system (.record answers)
        { world := final (recordDownload answers download) system.world, engine := .idle }
  | removeCopy {answers : DeleteAnswers} {delete : RemoteDelete}
      (engine : system.engine = .removing delete) :
      Does system (.removeCopy answers)
        { world := final (removeLocalCopy answers delete) system.world, engine := .removed delete }
  | recordDelete {answers : DeleteAnswers} {delete : RemoteDelete}
      (engine : system.engine = .removed delete) :
      Does system (.recordDelete answers)
        { world := final (recordRemoteDelete answers delete) system.world, engine := .idle }

theorem EngineStep.does (system : System) (step : EngineStep) :
    step.Does system (step.exec system) := by
  cases step with
  | begin picks answers =>
      cases engine : system.engine with
      | idle =>
          simp only [EngineStep.exec, engine]
          rcases settle_beginNext picks answers system.world with nothing | ⟨task, picked, next, begun⟩
          · rw [nothing, ← engine]
            exact .nothing _
          · rcases Database.of_nextPending next with ⟨taskId, identified, _, _⟩
            rw [begun]
            exact .begin picked engine next identified
      | _ =>
          simp only [EngineStep.exec, engine]
          exact .nothing _
  | land answers =>
      cases engine : system.engine with
      | fetched download =>
          simp only [EngineStep.exec, engine]
          exact .land engine
      | _ =>
          simp only [EngineStep.exec, engine]
          exact .nothing _
  | record answers =>
      cases engine : system.engine with
      | landed download =>
          simp only [EngineStep.exec, engine]
          exact .record engine
      | _ =>
          simp only [EngineStep.exec, engine]
          exact .nothing _
  | removeCopy answers =>
      cases engine : system.engine with
      | removing delete =>
          simp only [EngineStep.exec, engine]
          exact .removeCopy engine
      | _ =>
          simp only [EngineStep.exec, engine]
          exact .nothing _
  | recordDelete answers =>
      cases engine : system.engine with
      | removed delete =>
          simp only [EngineStep.exec, engine]
          exact .recordDelete engine
      | _ =>
          simp only [EngineStep.exec, engine]
          exact .nothing _
  | restart => exact .restart

omit [Rfc3339] in
/-- A routine after which the engine is in the middle of something has answered it. -/
theorem answered_of_settle {α : Type} {look : EngineState → Option α} {found : α}
    {routine : Routine String World EngineState} {world : World} (idle : look .idle = none)
    (held : look (settle routine world).engine = some found) :
    ∃ engine, outcome routine world = .ok engine ∧ look engine = some found := by
  rw [settle] at held
  cases answered : outcome routine world with
  | error failure =>
      rw [answered] at held
      dsimp only at held
      rw [idle] at held
      cases held
  | ok engine =>
      rw [answered] at held
      exact ⟨engine, rfl, held⟩

/-- After a step the engine is in the middle of the task it was in the middle of,
or of the pending task it has begun. -/
theorem inFlight_exec {system : System} {step : EngineStep} {taskId : Nat}
    (within : inFlight (step.exec system).engine = some taskId) :
    inFlight system.engine = some taskId ∨
      ∃ task, system.world.db.nextPending = some task ∧ task.id = some taskId ∧
        task.fileId.isSome = true := by
  have does := step.does system
  generalize step.exec system = later at does within
  cases does with
  | nothing => exact Or.inl within
  | restart => cases within
  | @begin picks answers task begun picked idle next identified =>
      rcases answered_of_settle rfl within with ⟨engine, answered, inside⟩
      exact Or.inr ⟨task, next, stopsWithin_beginTask answers task _ engine taskId answered inside⟩
  | land engine =>
      rcases answered_of_settle rfl within with ⟨later, answered, inside⟩
      rcases of_outcome_landFetched answered with same | same
      · rw [same] at inside
        rw [engine]
        exact Or.inl inside
      · rw [same] at inside
        cases inside
  | record engine => cases within
  | removeCopy engine =>
      rw [engine]
      exact Or.inl within
  | recordDelete engine => cases within

/-- After a step the engine holds on to the row it held on to, or to one that is stored. -/
theorem heldRow_exec {system : System} {step : EngineStep} {file : Db.DriveFile}
    (held : heldRow (step.exec system).engine = some file) :
    heldRow system.engine = some file ∨
      ∃ fileId accountId, system.world.db.file fileId accountId = some file := by
  have does := step.does system
  generalize step.exec system = later at does held
  cases does with
  | nothing => exact Or.inl held
  | restart => cases held
  | begin picked idle next identified =>
      rcases answered_of_settle rfl held with ⟨engine, answered, holds⟩
      exact Or.inr (holdsStored_beginTask _ _ _ engine file answered holds)
  | land engine =>
      rcases answered_of_settle rfl held with ⟨later, answered, holds⟩
      rcases of_outcome_landFetched answered with same | same
      · rw [same] at holds
        rw [engine]
        exact Or.inl holds
      · rw [same] at holds
        cases holds
  | record engine => cases held
  | removeCopy engine =>
      rw [engine]
      exact Or.inl held
  | recordDelete engine => cases held

/-- Beside what a task does when it is begun, a step of the engine processes the task in
flight and stores the row it holds on to. -/
theorem keeps_engine {system : System} {step : EngineStep}
    (begins : ∀ picks answers task taskId, step = .begin picks answers → system.engine = .idle →
      system.world.db.nextPending = some task → task.id = some taskId →
        allowed system.world (final (beginTask answers task) system.world))
    (processing : ∀ taskId, AllowsProcessing taskId allowed)
    (downloads : ∀ (world : World) file localPath mtime, heldRow system.engine = some file →
      world.db.acceptsFile (downloadedFile file localPath mtime) = true →
      allowed world (world.withDb (world.db.putFile (downloadedFile file localPath mtime))))
    (evicts : ∀ (world : World) file, heldRow system.engine = some file →
      world.db.acceptsFile (evictedFile file) = true →
      allowed world (world.withDb (world.db.putFile (evictedFile file)))) :
    allowed system.world (step.exec system).world := by
  have does := step.does system
  generalize step.exec system = later at does
  cases does with
  | nothing => exact Std.Refl.refl system.world
  | restart => exact Std.Refl.refl system.world
  | begin picked idle next identified => exact begins _ _ _ _ rfl idle next identified
  | land engine => exact keeps_landFetched (processing _) system.world
  | record engine =>
      refine keeps_recordDownload (fun world file mtime held => ?_) (processing _).toAllowsMarking _
        system.world
      exact downloads world file _ mtime (by rw [engine]; exact held)
  | removeCopy engine => exact keeps_removeLocalCopy (processing 0).disk _ _ system.world
  | recordDelete engine =>
      refine keeps_recordRemoteDelete (fun world file held => ?_) (processing _).toAllowsMarking _
        system.world
      exact evicts world file (by rw [engine]; exact held)

end Next

end GDriver
