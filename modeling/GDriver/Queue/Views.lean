import GDriver.Library.Triple
import GDriver.Moves.Tasks

namespace GDriver
namespace Queue

open Library Routine Db Api Sync

/-!
# What the processing of a task leaves of it

The processors change the status of their task, and the number of its attempts.  Whatever is
looked at of a task, what a processor leaves of it can be computed from what the processor
meets and from what was there before, when it is known what the two statements do to it: the
one that sets the status, and the one that records a failed attempt.
-/

/-- What the two statements do to what is looked at. -/
structure Marking (β : Type) where
  mark : TaskStatus → β → β
  again : TaskStatus → Int → β → β

/-- Something that is looked at of a stored task. -/
structure TaskView (β : Type) extends Marking β where
  sees : SyncTask → β
  sees_mark : ∀ (task : SyncTask) status errorMsg now,
    sees { task with status := status, errorMsg := errorMsg, updatedAt := now } = mark status (sees task)
  sees_again : ∀ (task : SyncTask) status retryCount errorMsg now,
    sees { task with status := status, retryCount := retryCount, errorMsg := errorMsg, updatedAt := now } =
      again status retryCount (sees task)

/-- Whether a download fetches its content and puts it in place. -/
def lands (answers : DownloadAnswers) (localPath : String) (world : World) : Bool :=
  answers.fetched.failure.isNone &&
    (answers.renameFailure.isNone &&
      (answers.fetched.written.isSome || (world.disk (tmpPath localPath)).isSome))

/-- Whether the answer to the creation of a media item says that it was created. -/
def created : Except String (List MediaItemResult) → Bool
  | .ok (⟨some ⟨_, code⟩, _⟩ :: _) => code = some 0
  | .ok (⟨none, hasMediaItem⟩ :: _) => hasMediaItem
  | _ => false

namespace Marking

variable {β : Type} (view : Marking β)

/-- After the statement that completes a task. -/
def closed (runs : Bool) (before : β) : β :=
  if runs then view.mark .completed before else before

/-- After the statement that records a failed attempt. -/
def retried (runs : Bool) (task : SyncTask) (before : β) : β :=
  if runs then
    (if maxRetries < task.retryCount + 1 then view.mark .failed before
      else view.again .pending (task.retryCount + 1) before)
  else before

def uploadFile (answers : UploadAnswers) (task : SyncTask) (world : World) (before : β) : β :=
  match task.localPath with
  | none => view.closed answers.completes before
  | some localPath =>
      if !answers.marks then before
      else if finds answers.readFailure localPath world && answers.server.reply.isOk then
        view.closed answers.completes (view.mark .inProgress before)
      else view.retried answers.failure.setsStatus task (view.mark .inProgress before)

def downloadFile (answers : DownloadAnswers) (task : SyncTask) (world : World) (before : β) : β :=
  match task.fileId, task.localPath with
  | some _, some localPath =>
      if !answers.marks then before
      else if !(answers.looksUp && answers.createDirFailure.isNone) then view.mark .inProgress before
      else if lands answers localPath world then view.closed answers.completes (view.mark .inProgress before)
      else view.retried answers.failure.setsStatus task (view.mark .inProgress before)
  | _, _ => view.closed answers.completes before

def deleteFile (answers : DeleteAnswers) (task : SyncTask) (world : World) (before : β) : β :=
  if !answers.marks then before
  else
    match task.fileId, task.localPath with
    | some _, _ =>
        if answers.looksUp then view.closed answers.completes (view.mark .inProgress before)
        else view.mark .inProgress before
    | none, some localPath =>
        if !answers.looksUp then view.mark .inProgress before
        else if (world.db.fileAtLocalPath localPath).isNone || answers.server.reply.isOk then
          view.closed answers.completes (view.mark .inProgress before)
        else view.retried answers.failure.setsStatus task (view.mark .inProgress before)
    | none, none => view.closed answers.completes (view.mark .inProgress before)

def backupPhoto (answers : PhotosAnswers) (task : SyncTask) (world : World) (before : β) : β :=
  match task.localPath with
  | none => view.closed answers.completes before
  | some localPath =>
      if !isSupportedPhotoFormat localPath then view.retried answers.setsStatus task before
      else if !answers.marks then before
      else if (finds answers.readFailure localPath world && answers.uploadToken.isOk) &&
          created answers.batchCreate then view.closed answers.completes (view.mark .inProgress before)
      else view.retried answers.setsStatus task (view.mark .inProgress before)

/-- After a conflict check, and after the upload that follows unless the check has resolved a
conflict. -/
def checked (result : Except String Bool) (before uploaded : β) : β :=
  match result with
  | .ok true => view.mark .completed before
  | _ => uploaded

section Processing

variable [Rfc3339]

def processUpload (answers : TaskAnswers) (task : SyncTask) (world : World) (before : β) : β :=
  match task.fileId, task.localPath with
  | some fileId, some localPath =>
      view.checked (outcome (checkAndResolve answers.conflict task fileId localPath) world) before
        (view.uploadFile answers.upload task
          (final (checkAndResolve answers.conflict task fileId localPath) world) before)
  | _, _ => view.uploadFile answers.upload task world before

/-- After the engine has handed a pending task to the processor of its operation. -/
def processTask (answers : TaskAnswers) (task : SyncTask) (world : World) (before : β) : β :=
  match task.operation with
  | .upload => if answers.hasClient then view.processUpload answers task world before else before
  | .download => if answers.hasClient then view.downloadFile answers.download task world before else before
  | .photosBackup => if answers.hasClient then view.backupPhoto answers.photos task world before else before
  | .delete => if answers.hasClient then view.deleteFile answers.delete task world before else before
  | .rename => view.closed answers.marksUnknown before
  | .move => view.closed answers.marksUnknown before

end Processing

end Marking

/-- The task under this number is in the queue, and this is seen of it. -/
def HasView {β : Type} (view : TaskView β) (taskId : Nat) (value : β) (world : World) : Prop :=
  (world.db.task taskId).map view.sees = some value

/-! ## Single statements -/

section Statements

variable {β : Type} {view : TaskView β} {taskId : Nat} {value : β} {world : World}

theorem HasView.of_sameQueue {later : World} (same : SameQueueIn world later)
    (before : HasView view taskId value world) : HasView view taskId value later := by
  simp only [HasView, Database.task, SameQueueIn, SameQueue] at before same ⊢
  rw [same]
  exact before

theorem hasView_updateTask {change : SyncTask → SyncTask}
    (keeps : ∀ task, (change task).id = task.id) {shows : β → β}
    (changes : ∀ task, view.sees (change task) = shows (view.sees task)) (before : HasView view taskId value world) :
    HasView view taskId (shows value) (world.withDb (world.db.updateTask taskId change keeps)) := by
  rcases Option.map_eq_some_iff.mp before with ⟨task, found, seen⟩
  rw [HasView, World.withDb_db, Database.task_updateTask_self, found, Option.map_some,
    Option.map_some, changes, seen]

theorem hasView_updateTaskStatus (runs : Bool) (now : Int) (later : TaskStatus)
    (errorMsg : Option String) (before : HasView view taskId value world) :
    HasView view taskId (if runs then view.mark later value else value)
      (final (onDb (updateTaskStatus runs now taskId later errorMsg)) world) := by
  rw [final_onDb, final_updateTaskStatus]
  split
  · exact hasView_updateTask _ (fun task => view.sees_mark task later errorMsg now) before
  · exact before

theorem hasView_updateTaskRetry (runs : Bool) (now : Int) (later : TaskStatus) (retryCount : Int)
    (errorMsg : Option String) (before : HasView view taskId value world) :
    HasView view taskId (if runs then view.again later retryCount value else value)
      (final (onDb (updateTaskRetry runs now taskId later retryCount errorMsg)) world) := by
  rw [final_onDb, updateTaskRetry, final_execute]
  split
  · exact hasView_updateTask _ (fun task => view.sees_again task later retryCount errorMsg now) before
  · exact before

theorem hasView_handleFailure (errorCode : String) (answers : FailureAnswers) (task : SyncTask)
    (errorMsg : String) (before : HasView view taskId value world) :
    HasView view taskId (view.retried answers.setsStatus task value)
      (final (onDb (handleFailure errorCode answers task taskId errorMsg)) world) := by
  rw [Marking.retried]
  by_cases last : maxRetries < task.retryCount + 1
  · have given := hasView_updateTaskStatus answers.setsStatus answers.now .failed (some errorMsg)
      before
    rw [if_pos last]
    generalize (if answers.setsStatus then view.mark .failed value else value) = later at given ⊢
    simp only [final_onDb, handleFailure, if_pos last] at given ⊢
    rw [final_bind]
    split
    · rw [final_attempt, insertError, final_execute]
      split
      · exact given
      · exact given
    · exact given
  · rw [if_neg last]
    simp only [handleFailure, if_neg last]
    exact hasView_updateTaskRetry _ _ _ _ _ before

theorem hasView_handlePhotoFailure (answers : PhotosAnswers) (task : SyncTask)
    (errorMsg : String) (before : HasView view taskId value world) :
    HasView view taskId (view.retried answers.setsStatus task value)
      (final (handlePhotoFailure answers task taskId errorMsg) world) := by
  rw [Marking.retried]
  by_cases last : maxRetries < task.retryCount + 1
  · rw [if_pos last]
    simp only [handlePhotoFailure, if_pos last]
    exact hasView_updateTaskStatus _ _ _ _ before
  · rw [if_neg last]
    simp only [handlePhotoFailure, if_neg last]
    exact hasView_updateTaskRetry _ _ _ _ _ before

theorem hasView_complete (runs : Bool) (now : Int) (errorMsg : Option String)
    (before : HasView view taskId value world) :
    HasView view taskId (view.closed runs value)
      (final (onDb (updateTaskStatus runs now taskId .completed errorMsg)) world) :=
  hasView_updateTaskStatus runs now .completed errorMsg before

/-- A processor marks its task, and goes on if that has worked. -/
theorem hasView_marked {α : Type} {marks : Bool} {now : Int} {rest : Unit → Routine String World α}
    {later : β} (before : HasView view taskId value world)
    (goesOn : ∀ marked : World, marked.disk = world.disk → marked.db.driveFiles = world.db.driveFiles →
      HasView view taskId (view.mark .inProgress value) marked → HasView view taskId later (final (rest ()) marked)) :
    HasView view taskId (if !marks then value else later)
      (final (onDb (updateTaskStatus marks now taskId .inProgress none) >>= rest) world) := by
  have marked := hasView_updateTaskStatus marks now .inProgress none before
  have answered := outcome_onDb_updateTaskStatus marks now taskId .inProgress none world
  cases marks with
  | false =>
      rw [final_bind_of_error answered]
      exact marked
  | true =>
      rw [final_bind_of_ok answered]
      refine goesOn _ ?_ ?_ marked
      · rw [final_onDb]
        rfl
      · rw [final_onDb, final_updateTaskStatus]
        rfl

end Statements

/-! ## Downloads -/

section Downloads

variable {β : Type} {view : TaskView β} {value : β} {answers : DownloadAnswers} {download : Download}
  {world : World}

theorem isOk_fetchContent :
    (outcome (fetchContent answers download) world).isOk = answers.fetched.failure.isNone := by
  rw [fetchContent, outcome_bind_of_ok (outcome_perform _ _), writeFetched,
    outcome_bind_of_ok (outcome_perform _ _)]
  cases answers.fetched.failure with
  | none => rfl
  | some failure => rfl

/-- What a transfer leaves: the temporary file, if anything was written. -/
theorem fetchContent_spec :
    SameQueueIn world (final (fetchContent answers download) world) ∧
      (((final (fetchContent answers download) world).disk (tmpPath download.localPath)).isSome =
        (answers.fetched.written.isSome || (world.disk (tmpPath download.localPath)).isSome)) := by
  rw [fetchContent, final_bind_of_ok (outcome_perform _ _), writeFetched,
    final_bind_of_ok (outcome_perform _ _)]
  cases written : answers.fetched.written with
  | none =>
      cases answers.fetched.failure with
      | none => exact ⟨rfl, rfl⟩
      | some failure => exact ⟨rfl, rfl⟩
  | some file =>
      have there (other : World) : ((other.putOnDisk (tmpPath download.localPath)
          (some file)).disk (tmpPath download.localPath)).isSome = true := by
        rw [World.disk_putOnDisk_self, Option.isSome_some]
      cases answers.fetched.failure with
      | none => exact ⟨rfl, there _⟩
      | some failure => exact ⟨rfl, there _⟩

theorem isOk_landDownload :
    (outcome (landDownload answers download) world).isOk =
      finds answers.renameFailure (tmpPath download.localPath) world :=
  isOk_onFile _ _ _

theorem hasView_failDownload (errorMsg : String)
    (running : HasView view download.taskId value world) :
    HasView view download.taskId (view.retried answers.failure.setsStatus download.task value)
      (final (failDownload answers download errorMsg) world) := by
  rw [failDownload, final_bind_of_ok (outcome_attempt _ _)]
  refine hasView_handleFailure _ _ _ _ (running.of_sameQueue ?_)
  exact keeps_attempt (keeps_removeFile (fun _ _ => rfl) _) world

theorem hasView_recordDownload (running : HasView view download.taskId value world) :
    HasView view download.taskId (view.closed answers.completes value)
      (final (recordDownload answers download) world) := by
  have stored : SameQueueIn world (final (storeDownloaded answers download) world) :=
    keeps_storeDownloaded (fun _ _ _ _ _ => rfl) answers world
  have answered : outcome (storeDownloaded answers download) world = .ok () := by
    cases found : download.driveFile with
    | none =>
        rw [storeDownloaded, found]
        rfl
    | some file =>
        simp only [storeDownloaded, found]
        rw [outcome_bind_of_ok (outcome_inspect _ _)]
        rfl
  rw [recordDownload, final_bind_of_ok answered]
  exact hasView_complete _ _ _ (running.of_sameQueue stored)

end Downloads

/-! ## Deletions -/

section Deletions

variable {β : Type} {view : TaskView β} {value : β} {answers : DeleteAnswers} {taskId : Nat} {world : World}

theorem sameQueue_removeLocalCopy (delete : RemoteDelete) :
    Keeps SameQueueIn (removeLocalCopy answers delete) := by
  rw [removeLocalCopy]
  split
  · exact keeps_pure ()
  · exact keeps_attempt (keeps_removeFile (fun _ _ => rfl) _)

theorem hasView_recordRemoteDelete (delete : RemoteDelete)
    (running : HasView view delete.taskId value world) :
    HasView view delete.taskId (view.closed answers.completes value)
      (final (recordRemoteDelete answers delete) world) := by
  have stored : SameQueueIn world (final (storeEvicted answers delete) world) :=
    keeps_storeEvicted (fun _ _ _ _ => rfl) answers world
  have answered : outcome (storeEvicted answers delete) world = .ok () := by
    rw [storeEvicted]
    split
    · rfl
    · rfl
  rw [recordRemoteDelete, final_bind_of_ok answered]
  exact hasView_complete _ _ _ (running.of_sameQueue stored)

theorem hasView_removed (delete : RemoteDelete)
    (running : HasView view delete.taskId value world) :
    HasView view delete.taskId (view.closed answers.completes value)
      (final (removeLocalCopy answers delete >>= fun _ => recordRemoteDelete answers delete) world) := by
  have answered : outcome (removeLocalCopy answers delete) world = .ok () := by
    rw [removeLocalCopy]
    split
    · rfl
    · rfl
  rw [final_bind_of_ok answered]
  exact hasView_recordRemoteDelete delete
    (running.of_sameQueue (sameQueue_removeLocalCopy delete world))

theorem hasView_handleLocalDelete (task : SyncTask) (localPath : String)
    (running : HasView view taskId value world) :
    HasView view taskId
      (if !answers.looksUp then value
        else if (world.db.fileAtLocalPath localPath).isNone || answers.server.reply.isOk then
          view.closed answers.completes value
        else view.retried answers.failure.setsStatus task value)
      (final (handleLocalDelete answers task taskId localPath) world) := by
  have looked : outcome (onDb (getFileByLocalPath answers.looksUp localPath)) world =
      if answers.looksUp then .ok (world.db.fileAtLocalPath localPath)
      else .error databaseError := by
    rw [outcome_onDb, outcome_getFileByLocalPath]
  have stays : final (onDb (getFileByLocalPath answers.looksUp localPath)) world = world := by
    rw [final_onDb, final_getFileByLocalPath]
    rfl
  cases looksUp : answers.looksUp with
  | false =>
      rw [looksUp] at looked stays
      rw [handleLocalDelete, looksUp, final_bind_of_error looked, stays]
      exact running
  | true =>
      rw [looksUp] at looked stays
      rw [handleLocalDelete, looksUp, final_bind_of_ok looked, stays]
      cases world.db.fileAtLocalPath localPath with
      | none => exact hasView_complete _ _ _ running
      | some file =>
          dsimp only
          rw [final_bind_of_ok (outcome_observe _ _), final_observe, final_filesDelete,
            outcome_filesDelete]
          have requested : HasView view taskId value
              (answers.server.carryOut task.accountId file.id
                (world.send task.accountId (.delete file.id))) := by
            refine running.of_sameQueue ?_
            rw [DeleteReply.carryOut]
            split
            · rfl
            · rfl
          cases answers.server.reply with
          | error failure => exact hasView_handleFailure _ _ _ _ requested
          | ok done =>
              dsimp only
              rw [final_bind_of_ok (outcome_onDb _ _)]
              refine hasView_complete _ _ _ (requested.of_sameQueue ?_)
              rw [final_onDb, final_attempt, final_markTrashed]
              split
              · rfl
              · rfl

end Deletions

/-! ## Photos -/

/-- The upload of the bytes of a photo reads the file and gets a token. -/
theorem uploadMediaItem_spec {answers : PhotosAnswers} {accountId localPath : String}
    {world : World} :
    (outcome (uploadMediaItemFromPath answers accountId localPath) world).isOk =
        (finds answers.readFailure localPath world && answers.uploadToken.isOk) ∧
      SameQueueIn world (final (uploadMediaItemFromPath answers accountId localPath) world) := by
  have reading : (outcome (readFile answers.readFailure localPath) world).isOk =
      finds answers.readFailure localPath world := isOk_onFile _ _ _
  rw [uploadMediaItemFromPath, ← reading]
  cases read : outcome (readFile answers.readFailure localPath) world with
  | error failure =>
      rw [outcome_bind_of_error read, final_bind_of_error read, final_readFile]
      exact ⟨rfl, Std.Refl.refl world⟩
  | ok content =>
      rw [outcome_bind_of_ok read, final_bind_of_ok read, final_readFile,
        outcome_bind_of_ok (outcome_perform _ _), final_bind_of_ok (outcome_perform _ _),
        outcome_received, final_received]
      exact ⟨rfl, rfl⟩

/-! ## Conflicts -/

section Conflicts

variable [Rfc3339] {β : Type} {view : TaskView β} {before : β} {task : SyncTask} {taskId : Nat}

theorem sameQueue_uploadConflictCopy (answers : ResolveAnswers) (task : SyncTask)
    (dbRecord : Db.DriveFile) (localPath : String) (content : List UInt8) :
    Keeps SameQueueIn (uploadConflictCopy answers task dbRecord localPath content) := by
  intro world
  rw [uploadConflictCopy, final_bind_of_ok (outcome_observe _ _), final_observe, final_filesUpload,
    outcome_filesUpload]
  cases answers.server.reply with
  | error failure =>
      rw [SameQueueIn, final_pure, db_store, World.send_db]
      exact Std.Refl.refl world.db
  | ok apiFile =>
      dsimp only
      rw [final_onDb, final_attempt, final_upsertFile, SameQueueIn, World.withDb_db, db_store,
        World.send_db]
      split
      · rfl
      · rfl

variable (identified : task.id = some taskId)
include identified

/-- A resolution touches its task with its last statement only. -/
theorem meets_resolveConflict (answers : ResolveAnswers) (dbRecord : Db.DriveFile)
    (localPath : String) (remoteFile : Api.DriveFile) :
    Meets (HasView view taskId before)
      (resolveConflict answers task dbRecord localPath remoteFile)
      fun result => HasView view taskId (if result.isOk then view.mark .completed before else before) := by
  have leaves {α : Type} {routine : Routine String World α} (keeps : Keeps SameQueueIn routine) :
      Meets (HasView view taskId before) routine fun _ => HasView view taskId before :=
    meets_of_keeps keeps fun _ _ same before => before.of_sameQueue same
  simp only [resolveConflict, identified, Option.getD_some]
  refine meets_bind (leaves (keeps_renameFile (fun _ _ => rfl) (fun _ _ => rfl) _))
    (fun _ _ stopped => stopped) fun _ => ?_
  refine meets_bind (leaves (keeps_readFile _ _)) (fun _ _ stopped => stopped) fun content => ?_
  refine meets_bind (leaves (sameQueue_uploadConflictCopy _ _ _ _ _)) (fun _ _ stopped => stopped)
    fun _ => ?_
  refine meets_bind (leaves (keeps_perform fun _ => rfl)) (fun _ _ stopped => stopped) fun _ => ?_
  refine meets_bind (leaves (keeps_writeFetched fun _ _ _ => rfl)) (fun _ _ stopped => stopped)
    fun _ => ?_
  refine meets_bind (leaves (keeps_renameFile (fun _ _ => rfl) (fun _ _ => rfl) _))
    (fun _ _ stopped => stopped) fun _ => ?_
  refine meets_bind (leaves (keeps_inspect _)) (fun _ _ stopped => stopped) fun landed => ?_
  refine meets_bind (leaves (@keeps_onDb_upsertFile SameQueueIn _ _ (fun _ _ => rfl) _))
    (fun _ _ stopped => stopped) fun _ => ?_
  intro world pending
  have completed := hasView_complete answers.completes answers.now (some "conflict resolved")
    pending
  rw [outcome_onDb, outcome_updateTaskStatus]
  cases runs : answers.completes with
  | true =>
      rw [runs] at completed
      exact completed
  | false =>
      rw [runs] at completed
      exact completed

theorem meets_checkAndResolve (answers : ConflictAnswers) (fileId localPath : String) :
    Meets (HasView view taskId before) (checkAndResolve answers task fileId localPath)
      fun result => HasView view taskId (view.checked result before before) := by
  have reads {α : Type} {routine : Routine String World α} (keeps : Keeps SameQueueIn routine) :
      Meets (HasView view taskId before) routine fun _ => HasView view taskId before :=
    meets_of_keeps keeps fun _ _ same before => before.of_sameQueue same
  have nothing : Meets (HasView view taskId before) (pure false : Routine String World Bool)
      fun result => HasView view taskId (view.checked result before before) := meets_pure fun _ pending => pending
  refine meets_bind (reads (keeps_onDb_select _ _)) (fun _ _ stopped => stopped) fun known => ?_
  cases known with
  | none => exact nothing
  | some dbRecord =>
      refine meets_bind (reads (keeps_inspect _)) (fun _ _ stopped => stopped) fun mtime => ?_
      cases mtime with
      | none => exact nothing
      | some currentLocalMtime =>
          refine meets_bind (reads (keeps_perform fun _ => rfl)) (fun _ _ stopped => stopped)
            fun _ => ?_
          cases answers.remote with
          | error failure => exact nothing
          | ok remoteFile =>
              cases tag : remoteFile.etag with
              | none =>
                  simp only [tag]
                  exact nothing
              | some currentRemoteEtag =>
                  simp only [tag]
                  split
                  · exact meets_bind (meets_resolveConflict identified _ _ _ _)
                      (fun _ _ stopped => stopped) fun _ => meets_pure fun _ completed => completed
                  · exact nothing

end Conflicts

/-! ## The processors -/

section Processors

variable {β : Type} {view : TaskView β} {before : β} {task : SyncTask} {taskId : Nat} {world : World}
  (identified : task.id = some taskId) (pending : HasView view taskId before world)
include identified pending

theorem hasView_downloadFile (answers : DownloadAnswers) :
    HasView view taskId (view.downloadFile answers task world before)
      (final (downloadFile answers task) world) := by
  cases about : task.fileId with
  | none =>
      simp only [downloadFile, startDownload, identified, about, Marking.downloadFile, bind_assoc]
      rw [final_bind]
      have completed := hasView_complete answers.completes answers.now (some "no file_id") pending
      split
      · exact completed
      · exact completed
  | some fileId =>
      cases path : task.localPath with
      | none =>
          simp only [downloadFile, startDownload, identified, about, path, Marking.downloadFile, bind_assoc]
          rw [final_bind]
          have completed := hasView_complete answers.completes answers.now (some "no local_path")
            pending
          split
          · exact completed
          · exact completed
      | some localPath =>
          simp only [downloadFile, startDownload, identified, about, path, Marking.downloadFile, bind_assoc]
          refine hasView_marked pending fun marked disk _ running => ?_
          have looked := outcome_onDb_getFileById answers.looksUp fileId task.accountId marked
          have stays : final (onDb (getFileById answers.looksUp fileId task.accountId)) marked =
              marked := by
            rw [final_onDb, final_getFileById]
            rfl
          cases looksUp : answers.looksUp with
          | false =>
              rw [looksUp] at looked stays
              rw [final_bind_of_error looked, stays]
              exact running
          | true =>
              rw [looksUp] at looked stays
              rw [final_bind_of_ok looked, stays]
              cases answers.createDirFailure with
              | some failure => exact running
              | none =>
                  simp only [pure_bind, Option.isNone_none, Bool.and_self, Bool.not_true,
                    Bool.false_eq_true, if_false]
                  let download : Download :=
                    ⟨task, taskId, fileId, localPath, marked.db.file fileId task.accountId⟩
                  have fetching := @isOk_fetchContent answers download marked
                  rcases @fetchContent_spec answers download marked with ⟨same, there⟩
                  have fetched := running.of_sameQueue same
                  rw [final_bind_of_ok (outcome_observe _ _), final_observe, lands, ← fetching]
                  cases outcome (fetchContent answers download) marked with
                  | error failure => exact hasView_failDownload failure fetched
                  | ok done =>
                      generalize final (fetchContent answers download) marked = after at there fetched
                      have landing := @isOk_landDownload answers download after
                      have kept : SameQueueIn after (final (landDownload answers download) after) :=
                        keeps_renameFile (fun _ _ => rfl) (fun _ _ => rfl) _ after
                      rw [finds, there, disk] at landing
                      dsimp only
                      rw [final_bind_of_ok (outcome_observe _ _), final_observe]
                      change HasView view taskId (if (true && _) = true then _ else _) _
                      rw [← landing]
                      cases outcome (landDownload answers download) after with
                      | error failure => exact hasView_failDownload _ (fetched.of_sameQueue kept)
                      | ok done => exact hasView_recordDownload (fetched.of_sameQueue kept)

theorem hasView_deleteFile (answers : DeleteAnswers) :
    HasView view taskId (view.deleteFile answers task world before) (final (deleteFile answers task) world) := by
  simp only [deleteFile, identified, Marking.deleteFile]
  refine hasView_marked pending fun marked _ rows running => ?_
  cases about : task.fileId with
  | some fileId =>
      have looked := outcome_onDb_getFileById answers.looksUp fileId task.accountId marked
      have stays : final (onDb (getFileById answers.looksUp fileId task.accountId)) marked =
          marked := by
        rw [final_onDb, final_getFileById]
        rfl
      simp only [handleRemoteDelete, lookUpRemoteDelete, bind_assoc, pure_bind]
      cases looksUp : answers.looksUp with
      | false =>
          rw [looksUp] at looked stays
          rw [final_bind_of_error looked, stays]
          exact running
      | true =>
          rw [looksUp] at looked stays
          rw [final_bind_of_ok looked, stays, if_pos rfl]
          exact hasView_removed _ running
  | none =>
      cases path : task.localPath with
      | none => exact hasView_complete _ _ _ running
      | some localPath =>
          have same : marked.db.fileAtLocalPath localPath = world.db.fileAtLocalPath localPath := by
            rw [Database.fileAtLocalPath, Database.fileAtLocalPath, rows]
          simp only [← same]
          exact hasView_handleLocalDelete _ _ running

theorem hasView_backupPhoto (answers : PhotosAnswers) :
    HasView view taskId (view.backupPhoto answers task world before) (final (backupPhoto answers task) world) := by
  cases path : task.localPath with
  | none =>
      simp only [backupPhoto, identified, path, Marking.backupPhoto]
      exact hasView_complete _ _ _ pending
  | some localPath =>
      simp only [backupPhoto, identified, path, Marking.backupPhoto]
      cases supported : isSupportedPhotoFormat localPath with
      | false => exact hasView_handlePhotoFailure _ _ _ pending
      | true =>
          simp only [Bool.not_true, Bool.false_eq_true, if_false]
          refine hasView_marked pending fun marked disk _ running => ?_
          have fails {reached : World} (errorMsg : String) :=
            @hasView_handlePhotoFailure β view taskId (view.mark .inProgress before) reached answers task errorMsg
          rcases @uploadMediaItem_spec answers task.accountId localPath marked with ⟨uploads, same⟩
          have uploaded := running.of_sameQueue same
          rw [final_bind_of_ok (outcome_observe _ _), final_observe, ← finds_congr disk, ← uploads]
          cases outcome (uploadMediaItemFromPath answers task.accountId localPath) marked with
          | error failure => exact fails _ uploaded
          | ok uploadToken =>
              dsimp only
              rw [final_bind_of_ok (outcome_perform _ _), final_perform]
              generalize final (uploadMediaItemFromPath answers task.accountId localPath) marked =
                after at uploaded
              have sent : HasView view taskId (view.mark .inProgress before) (World.send task.accountId
                  (.batchCreate uploadToken ((fileName localPath).getD "Untitled")) after) :=
                uploaded.of_sameQueue rfl
              cases batch : answers.batchCreate with
              | error failure => exact fails _ sent
              | ok results =>
                  cases results with
                  | nil => exact fails _ sent
                  | cons result rest =>
                      rcases result with ⟨status, hasMediaItem⟩
                      cases status with
                      | none =>
                          cases hasMediaItem with
                          | true => exact hasView_complete _ _ _ sent
                          | false => exact fails _ sent
                      | some status =>
                          rcases status with ⟨message, code⟩
                          by_cases zero : code = some 0
                          · simp only [zero, created, decide_true, Bool.and_true, if_true]
                            exact hasView_complete _ _ _ sent
                          · simp only [zero, created, decide_false, Bool.and_false, if_false,
                              Bool.false_eq_true]
                            exact fails _ sent

variable [Rfc3339]

theorem hasView_uploadFile (answers : UploadAnswers) :
    HasView view taskId (view.uploadFile answers task world before) (final (uploadFile answers task) world) := by
  cases path : task.localPath with
  | none =>
      simp only [uploadFile, identified, path, Marking.uploadFile]
      exact hasView_complete _ _ _ pending
  | some localPath =>
      simp only [uploadFile, identified, path, Marking.uploadFile]
      refine hasView_marked pending fun marked disk _ running => ?_
      have reading : (outcome (readFile answers.readFailure localPath) marked).isOk =
          finds answers.readFailure localPath marked := isOk_onFile _ _ _
      rw [final_bind_of_ok (outcome_observe _ _), final_observe, final_readFile,
        ← finds_congr disk, ← reading]
      cases outcome (readFile answers.readFailure localPath) marked with
      | error failure => exact hasView_handleFailure _ _ _ _ running
      | ok content =>
          dsimp only
          rw [final_bind_of_ok (outcome_observe _ _), final_observe, final_filesUpload,
            outcome_filesUpload]
          have uploaded : HasView view taskId (view.mark .inProgress before)
              (answers.server.store task.accountId (uploadMetadata localPath) content
                (marked.send task.accountId (.upload (uploadMetadata localPath) content))) := by
            refine running.of_sameQueue ?_
            rw [SameQueueIn, db_store, World.send_db]
            exact Std.Refl.refl marked.db
          cases answers.server.reply with
          | error failure => exact hasView_handleFailure _ _ _ _ uploaded
          | ok apiFile =>
              dsimp only
              rw [final_bind_of_ok (outcome_onDb _ _)]
              refine hasView_complete _ _ _ (uploaded.of_sameQueue ?_)
              rw [final_onDb, final_attempt, final_upsertFile]
              split
              · rfl
              · rfl

theorem hasView_processUpload (answers : TaskAnswers) :
    HasView view taskId (view.processUpload answers task world before)
      (final (processUpload answers task) world) := by
  have uploads := hasView_uploadFile identified pending answers.upload
  cases about : task.fileId with
  | none =>
      simp only [processUpload, about, Marking.processUpload]
      exact uploads
  | some fileId =>
      cases path : task.localPath with
      | none =>
          simp only [processUpload, about, path, Marking.processUpload]
          exact uploads
      | some localPath =>
          simp only [processUpload, about, path, Marking.processUpload]
          have checked : HasView view taskId
              (view.checked (outcome (checkAndResolve answers.conflict task fileId localPath) world) before before)
              (final (checkAndResolve answers.conflict task fileId localPath) world) :=
            meets_checkAndResolve identified answers.conflict fileId localPath world pending
          rw [final_bind_of_ok (outcome_observe _ _), final_observe]
          generalize outcome (checkAndResolve answers.conflict task fileId localPath) world = result
            at checked ⊢
          cases result with
          | error failure => exact hasView_uploadFile identified checked answers.upload
          | ok resolved =>
              cases resolved with
              | true => exact checked
              | false => exact hasView_uploadFile identified checked answers.upload

/-- The status in which the engine leaves a pending task. -/
theorem hasView_processTask (answers : TaskAnswers) :
    HasView view taskId (view.processTask answers task world before) (final (processTask answers task) world) := by
  have unknown : HasView view taskId (view.closed answers.marksUnknown before)
      (final (processUnknown answers task) world) := by
    have completed := hasView_complete answers.marksUnknown answers.now (some "unknown operation")
      pending
    simp only [processUnknown, identified]
    rw [final_onDb] at completed ⊢
    exact completed
  cases operation : task.operation with
  | upload =>
      simp only [processTask, Marking.processTask, operation]
      split
      · exact hasView_processUpload identified pending answers
      · exact pending
  | download =>
      simp only [processTask, Marking.processTask, operation]
      split
      · exact hasView_downloadFile identified pending answers.download
      · exact pending
  | photosBackup =>
      simp only [processTask, Marking.processTask, operation]
      split
      · exact hasView_backupPhoto identified pending answers.photos
      · exact pending
  | delete =>
      simp only [processTask, Marking.processTask, operation]
      split
      · exact hasView_deleteFile identified pending answers.delete
      · exact pending
  | rename =>
      simp only [processTask, Marking.processTask, operation]
      exact unknown
  | move =>
      simp only [processTask, Marking.processTask, operation]
      exact unknown

end Processors

/-! ## Parts of a task -/

namespace Marking

variable {β : Type} (view : Marking β)

/-- After the download of a pending task was begun. -/
def beginDownload (answers : DownloadAnswers) (task : SyncTask) (before : β) : β :=
  match task.fileId, task.localPath with
  | some _, some _ =>
      if !answers.marks then before
      else if !(answers.looksUp && answers.createDirFailure.isNone) then view.mark .inProgress before
      else if answers.fetched.failure.isNone then view.mark .inProgress before
      else view.retried answers.failure.setsStatus task (view.mark .inProgress before)
  | _, _ => view.closed answers.completes before

/-- After the deletion of a pending task was begun. -/
def beginDelete (answers : DeleteAnswers) (task : SyncTask) (world : World) (before : β) : β :=
  match task.fileId with
  | some _ => if !answers.marks then before else view.mark .inProgress before
  | none => view.deleteFile answers task world before

/-- After the processing of a pending task was begun. -/
def beginTask [Rfc3339] (answers : TaskAnswers) (task : SyncTask) (world : World) (before : β) : β :=
  if answers.hasClient && task.operation = .download then view.beginDownload answers.download task before
  else if answers.hasClient && task.operation = .delete then view.beginDelete answers.delete task world before
  else view.processTask answers task world before

/-- After the content of a task has been put in place, or not. -/
def landFetched (answers : DownloadAnswers) (download : Download) (world : World) (before : β) : β :=
  if finds answers.renameFailure (tmpPath download.localPath) world then before
  else view.retried answers.failure.setsStatus download.task before

end Marking

section Begun

variable {β : Type} {view : TaskView β} {before : β} {task : SyncTask} {taskId : Nat} {world : World}
  (identified : task.id = some taskId) (pending : HasView view taskId before world)
include identified pending

theorem hasView_beginDownload (answers : DownloadAnswers) :
    HasView view taskId (view.beginDownload answers task before) (final (beginDownload answers task) world) := by
  have completes (errorMsg : Option String) := hasView_complete answers.completes answers.now errorMsg pending
  cases about : task.fileId with
  | none =>
      simp only [beginDownload, startDownload, identified, about, Marking.beginDownload, bind_assoc]
      rw [final_bind]
      split
      · exact completes _
      · exact completes _
  | some fileId =>
      cases path : task.localPath with
      | none =>
          simp only [beginDownload, startDownload, identified, about, path, Marking.beginDownload, bind_assoc]
          rw [final_bind]
          split
          · exact completes _
          · exact completes _
      | some localPath =>
          simp only [beginDownload, startDownload, identified, about, path, Marking.beginDownload, bind_assoc]
          refine hasView_marked pending fun marked _ _ running => ?_
          have looked := outcome_onDb_getFileById answers.looksUp fileId task.accountId marked
          have stays : final (onDb (getFileById answers.looksUp fileId task.accountId)) marked = marked := by
            rw [final_onDb, final_getFileById]
            rfl
          cases looksUp : answers.looksUp with
          | false =>
              rw [looksUp] at looked stays
              rw [final_bind_of_error looked, stays]
              exact running
          | true =>
              rw [looksUp] at looked stays
              rw [final_bind_of_ok looked, stays]
              cases answers.createDirFailure with
              | some failure => exact running
              | none =>
                  simp only [pure_bind]
                  let download : Download :=
                    ⟨task, taskId, fileId, localPath, marked.db.file fileId task.accountId⟩
                  have fetching := @isOk_fetchContent answers download marked
                  have fetched := running.of_sameQueue (@fetchContent_spec answers download marked).1
                  rw [final_bind_of_ok (outcome_observe _ _), final_observe, ← fetching]
                  cases outcome (fetchContent answers download) marked with
                  | ok done => exact fetched
                  | error failure =>
                      dsimp only
                      rw [final_bind_pure]
                      exact hasView_failDownload failure fetched

theorem hasView_beginDelete (answers : DeleteAnswers) :
    HasView view taskId (view.beginDelete answers task world before) (final (beginDelete answers task) world) := by
  cases about : task.fileId with
  | none =>
      simp only [beginDelete, identified, about, Marking.beginDelete, final_bind_pure]
      exact hasView_deleteFile identified pending answers
  | some fileId =>
      simp only [beginDelete, identified, about, Marking.beginDelete]
      refine hasView_marked pending fun marked _ _ running => running.of_sameQueue ?_
      exact keeps_bind (keeps_bind (keeps_onDb_select _ _) fun _ => keeps_pure _) (fun _ => keeps_pure _) marked

variable [Rfc3339]

theorem hasView_beginTask (answers : TaskAnswers) :
    HasView view taskId (view.beginTask answers task world before) (final (beginTask answers task) world) := by
  rw [beginTask, Marking.beginTask]
  split
  · exact hasView_beginDownload identified pending answers.download
  · split
    · exact hasView_beginDelete identified pending answers.delete
    · rw [final_bind_pure]
      exact hasView_processTask identified pending answers

end Begun

theorem hasView_landFetched {β : Type} {view : TaskView β} {before : β} (answers : DownloadAnswers)
    {download : Download} {world : World} (running : HasView view download.taskId before world) :
    HasView view download.taskId (view.landFetched answers download world before)
      (final (landFetched answers download) world) := by
  have landing := @isOk_landDownload answers download world
  have kept : SameQueueIn world (final (landDownload answers download) world) :=
    keeps_renameFile (fun _ _ => rfl) (fun _ _ => rfl) _ world
  have moved := running.of_sameQueue kept
  rw [landFetched, final_bind_of_ok (outcome_observe _ _), final_observe, Marking.landFetched, ← landing]
  cases outcome (landDownload answers download) world with
  | ok done => exact moved
  | error failure =>
      dsimp only
      rw [final_bind_pure]
      exact hasView_failDownload _ moved

/-! ## Two markings at once -/

/-- Two markings go together: while the task runs, and after its attempt has ended. -/
structure Together {β γ : Type} (first : Marking β) (second : Marking γ) (task : SyncTask)
    (running ended : β → γ → Prop) : Prop where
  marks : ∀ status one two, status ≠ .failed → running one two → running (first.mark status one)
    (second.mark status two)
  ends : ∀ one two, running one two → ended one two
  fails : ∀ one two, maxRetries < task.retryCount + 1 → running one two →
    ended (first.mark .failed one) (second.mark .failed two)
  again : ∀ one two, ¬ maxRetries < task.retryCount + 1 → running one two →
    ended (first.again .pending (task.retryCount + 1) one) (second.again .pending (task.retryCount + 1) two)

namespace Together

variable {β γ : Type} {first : Marking β} {second : Marking γ} {task : SyncTask} {running ended : β → γ → Prop}
  (together : Together first second task running ended) {one : β} {two : γ}
include together

theorem closed (runs : Bool) (has : running one two) : ended (first.closed runs one) (second.closed runs two) := by
  apply together.ends
  cases runs with
  | false => exact has
  | true =>
      have completed : TaskStatus.completed ≠ .failed := by decide
      exact together.marks _ _ _ completed has

theorem retried (runs : Bool) (has : running one two) :
    ended (first.retried runs task one) (second.retried runs task two) := by
  cases runs with
  | false => exact together.ends _ _ has
  | true =>
      rw [Marking.retried, Marking.retried, if_pos rfl, if_pos rfl]
      by_cases last : maxRetries < task.retryCount + 1
      · rw [if_pos last, if_pos last]
        exact together.fails _ _ last has
      · rw [if_neg last, if_neg last]
        exact together.again _ _ last has

theorem inProgress (has : running one two) : running (first.mark .inProgress one) (second.mark .inProgress two) := by
  have other : TaskStatus.inProgress ≠ .failed := by decide
  exact together.marks _ _ _ other has

/-- An attempt on a marked task succeeds or fails. -/
theorem attempted (succeeds completes records : Bool) (has : running one two) :
    ended (if succeeds then first.closed completes one else first.retried records task one)
      (if succeeds then second.closed completes two else second.retried records task two) := by
  cases succeeds with
  | true => exact together.closed completes has
  | false => exact together.retried records has

omit together in
/-- A task that cannot be marked is left alone. -/
theorem marked {marks : Bool} {oneLater : β} {twoLater : γ} (stops : ended one two)
    (goesOn : ended oneLater twoLater) :
    ended (if !marks then one else oneLater) (if !marks then two else twoLater) := by
  cases marks with
  | false => exact stops
  | true => exact goesOn

theorem uploadFile (answers : UploadAnswers) (world : World) (has : running one two) :
    ended (first.uploadFile answers task world one) (second.uploadFile answers task world two) := by
  rw [Marking.uploadFile, Marking.uploadFile]
  cases task.localPath with
  | none => exact together.closed _ has
  | some localPath => exact marked (together.ends _ _ has) (together.attempted _ _ _ (together.inProgress has))

theorem downloadFile (answers : DownloadAnswers) (world : World) (has : running one two) :
    ended (first.downloadFile answers task world one) (second.downloadFile answers task world two) := by
  rw [Marking.downloadFile, Marking.downloadFile]
  cases task.fileId with
  | none => exact together.closed _ has
  | some fileId =>
      cases task.localPath with
      | none => exact together.closed _ has
      | some localPath =>
          have running := together.inProgress has
          refine marked (together.ends _ _ has) ?_
          cases answers.looksUp && answers.createDirFailure.isNone with
          | false => exact together.ends _ _ running
          | true => exact together.attempted _ _ _ running

theorem deleteFile (answers : DeleteAnswers) (world : World) (has : running one two) :
    ended (first.deleteFile answers task world one) (second.deleteFile answers task world two) := by
  have running := together.inProgress has
  rw [Marking.deleteFile, Marking.deleteFile]
  refine marked (together.ends _ _ has) ?_
  cases task.fileId with
  | some fileId =>
      cases answers.looksUp with
      | false => exact together.ends _ _ running
      | true => exact together.closed _ running
  | none =>
      cases task.localPath with
      | none => exact together.closed _ running
      | some localPath =>
          cases answers.looksUp with
          | false => exact together.ends _ _ running
          | true => exact together.attempted _ _ _ running

theorem backupPhoto (answers : PhotosAnswers) (world : World) (has : running one two) :
    ended (first.backupPhoto answers task world one) (second.backupPhoto answers task world two) := by
  rw [Marking.backupPhoto, Marking.backupPhoto]
  cases task.localPath with
  | none => exact together.closed _ has
  | some localPath =>
      refine marked (together.retried _ has) (marked (together.ends _ _ has) ?_)
      exact together.attempted _ _ _ (together.inProgress has)

theorem processUpload [Rfc3339] (answers : TaskAnswers) (world : World) (has : running one two) :
    ended (first.processUpload answers task world one) (second.processUpload answers task world two) := by
  rw [Marking.processUpload, Marking.processUpload]
  cases task.fileId with
  | none => exact together.uploadFile _ _ has
  | some fileId =>
      cases task.localPath with
      | none => exact together.uploadFile _ _ has
      | some localPath =>
          dsimp only
          have completed : TaskStatus.completed ≠ .failed := by decide
          cases outcome (checkAndResolve answers.conflict task fileId localPath) world with
          | error failure => exact together.uploadFile _ _ has
          | ok resolved =>
              cases resolved with
              | false => exact together.uploadFile _ _ has
              | true => exact together.ends _ _ (together.marks _ _ _ completed has)

/-- What two markings have to do with each other holds after the processing of the task. -/
theorem processTask [Rfc3339] (answers : TaskAnswers) (world : World) (has : running one two) :
    ended (first.processTask answers task world one) (second.processTask answers task world two) := by
  have waits := together.ends _ _ has
  rw [Marking.processTask, Marking.processTask]
  cases task.operation with
  | rename => exact together.closed _ has
  | move => exact together.closed _ has
  | upload =>
      cases answers.hasClient with
      | false => exact waits
      | true => exact together.processUpload _ _ has
  | download =>
      cases answers.hasClient with
      | false => exact waits
      | true => exact together.downloadFile _ _ has
  | delete =>
      cases answers.hasClient with
      | false => exact waits
      | true => exact together.deleteFile _ _ has
  | photosBackup =>
      cases answers.hasClient with
      | false => exact waits
      | true => exact together.backupPhoto _ _ has

theorem beginDownload (answers : DownloadAnswers) (has : running one two) :
    ended (first.beginDownload answers task one) (second.beginDownload answers task two) := by
  rw [Marking.beginDownload, Marking.beginDownload]
  cases task.fileId with
  | none => exact together.closed _ has
  | some fileId =>
      cases task.localPath with
      | none => exact together.closed _ has
      | some localPath =>
          have running := together.inProgress has
          refine marked (together.ends _ _ has) ?_
          cases answers.looksUp && answers.createDirFailure.isNone with
          | false => exact together.ends _ _ running
          | true =>
              cases answers.fetched.failure with
              | none => exact together.ends _ _ running
              | some failure => exact together.retried _ running

theorem beginDelete (answers : DeleteAnswers) (world : World) (has : running one two) :
    ended (first.beginDelete answers task world one) (second.beginDelete answers task world two) := by
  rw [Marking.beginDelete, Marking.beginDelete]
  cases task.fileId with
  | none => exact together.deleteFile _ _ has
  | some fileId => exact marked (together.ends _ _ has) (together.ends _ _ (together.inProgress has))

theorem beginTask [Rfc3339] (answers : TaskAnswers) (world : World) (has : running one two) :
    ended (first.beginTask answers task world one) (second.beginTask answers task world two) := by
  rw [Marking.beginTask, Marking.beginTask]
  split
  · exact together.beginDownload _ has
  · split
    · exact together.beginDelete _ _ has
    · exact together.processTask _ _ has

end Together

theorem Together.landFetched {β γ : Type} {first : Marking β} {second : Marking γ} {download : Download}
    {running ended : β → γ → Prop} (together : Together first second download.task running ended) {one : β} {two : γ}
    (answers : DownloadAnswers) (world : World) (has : running one two) :
    ended (first.landFetched answers download world one) (second.landFetched answers download world two) := by
  rw [Marking.landFetched, Marking.landFetched]
  cases finds answers.renameFailure (tmpPath download.localPath) world with
  | true => exact together.ends _ _ has
  | false => exact together.retried _ has

end Queue
end GDriver
