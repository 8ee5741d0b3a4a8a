import GDriver.Moves.Engine

namespace GDriver
namespace Local

open Library Routine Db Api Sync

/-!
# What an upload and a deletion store

An upload puts its file on Drive and stores the row mapped from the answer.  A
deletion by path removes the file of the row at the path from Drive and marks the row
as trashed.  Everything else that the two do concerns tasks and errors.
-/

/-- The live files that an account has at the place a path leads to. -/
def liveFilesAt (accountId path : String) (db : Database) : List Db.DriveFile :=
  db.driveFiles.records.filter fun file =>
    !file.isTrashed && decide (file.accountId = accountId) &&
      file.localPath.any fun other => decide (placeOf other = placeOf path)

theorem of_mem_liveFilesAt {accountId path : String} {db : Database} {file : Db.DriveFile}
    (member : file ∈ liveFilesAt accountId path db) :
    file ∈ db.driveFiles.records ∧ file.isTrashed = false ∧ file.accountId = accountId ∧
      ∃ other, file.localPath = some other ∧ placeOf other = placeOf path := by
  rcases List.mem_filter.mp member with ⟨stored, meets⟩
  rw [Bool.and_eq_true, Bool.and_eq_true, Bool.not_eq_true', decide_eq_true_eq] at meets
  rcases meets with ⟨⟨live, account⟩, there⟩
  rcases (Option.any_eq_true _ _).mp there with ⟨other, path, same⟩
  exact ⟨stored, live, account, other, path, of_decide_eq_true same⟩

/-- The files on Drive, the rows and the accounts are the same. -/
structure SameStore (world later : World) : Prop where
  drive : later.drive = world.drive
  rows : later.db.driveFiles = world.db.driveFiles
  accounts : later.db.accounts = world.db.accounts

instance : IsPreorder World SameStore where
  refl _ := ⟨rfl, rfl, rfl⟩
  trans _ _ _ one two :=
    ⟨two.drive.trans one.drive, two.rows.trans one.rows, two.accounts.trans one.accounts⟩

theorem allowsProcessing_sameStore (taskId : Nat) : AllowsProcessing taskId SameStore where
  disk _ _ _ := ⟨rfl, rfl, rfl⟩
  send _ _ _ := ⟨rfl, rfl, rfl⟩
  task _ _ _ _ := ⟨rfl, rfl, rfl⟩
  error _ _ := ⟨rfl, rfl, rfl⟩

section Statements

variable {world later : World}

theorem SameStore.symm (same : SameStore world later) : SameStore later world :=
  ⟨same.drive.symm, same.rows.symm, same.accounts.symm⟩

theorem drive_store_congr (same : later.drive = world.drive) (server : UploadReply) (accountId : String)
    (metadata : CreateFileMetadata) (content : List UInt8) :
    (server.store accountId metadata content later).drive =
      (server.store accountId metadata content world).drive := by
  rw [UploadReply.store, UploadReply.store]
  induction server.files generalizing world later with
  | nil => exact same
  | cons file rest inductionHypothesis =>
      apply inductionHypothesis
      simp only [World.putOnDrive, same]

theorem SameStore.store (same : SameStore world later) (server : UploadReply) (accountId : String)
    (metadata : CreateFileMetadata) (content : List UInt8) :
    SameStore (server.store accountId metadata content world)
      (server.store accountId metadata content later) := by
  refine ⟨drive_store_congr same.drive _ _ _ _, ?_, ?_⟩
  · rw [db_store, db_store]
    exact same.rows
  · rw [db_store, db_store]
    exact same.accounts

theorem SameStore.upsert (same : SameStore world later) (runs : Bool) (file : Db.DriveFile) :
    SameStore (world.withDb (final (upsertFile runs file) world.db))
      (later.withDb (final (upsertFile runs file) later.db)) := by
  have accepts : later.db.acceptsFile file = world.db.acceptsFile file := by
    simp only [Database.acceptsFile, Database.file, Database.hasAccount, same.rows, same.accounts]
  rw [final_upsertFile, final_upsertFile, accepts]
  split
  · refine ⟨same.drive, ?_, same.accounts⟩
    simp only [Database.putFile, World.withDb_db, same.rows]
  · exact ⟨same.drive, same.rows, same.accounts⟩

end Statements

/-! ## Uploads -/

/-- The bytes that an upload sends. -/
def sent (answers : UploadAnswers) (localPath : String) (world : World) : Option (List UInt8) :=
  if answers.marks then (outcome (readFile answers.readFailure localPath) world).toOption else none

/-- The world in which the normal upload of a task begins, unless its check has resolved a
conflict. -/
def uploadsFrom [Rfc3339] (answers : TaskAnswers) (task : SyncTask) (world : World) : Option World :=
  match task.fileId, task.localPath with
  | some fileId, some localPath =>
      match outcome (checkAndResolve answers.conflict task fileId localPath) world with
      | .ok true => none
      | _ => some (final (checkAndResolve answers.conflict task fileId localPath) world)
  | _, _ => some world

/-- What is read from a file depends on the disk only. -/
theorem outcome_readFile_congr {world later : World} (same : later.disk = world.disk)
    (failure : Option String) (path : String) :
    outcome (readFile failure path) later = outcome (readFile failure path) world := by
  cases found : world.disk path with
  | none =>
      have missing : later.disk path = none := by rw [same, found]
      simp only [outcome, readFile, onFile_of_missing found, onFile_of_missing missing, answer]
  | some file =>
      have there : later.disk path = some file := by rw [same, found]
      cases failure with
      | none => simp only [outcome, readFile, onFile_of_found found, onFile_of_found there, answer]
      | some message => rfl

section Uploads

variable [Rfc3339]

/-- Store the row of an uploaded file. -/
def recorded (upserts : Bool) (accountId : String) (reply : Except String Api.DriveFile)
    (world : World) : World :=
  match reply with
  | .error _ => world
  | .ok apiFile => world.withDb (final (upsertFile upserts (mapApiFileToDb apiFile accountId)) world.db)

/-- What an upload stores on Drive and in the rows. -/
def uploaded (answers : UploadAnswers) (accountId localPath : String) (world : World) : World :=
  match sent answers localPath world with
  | none => world
  | some content =>
      recorded answers.upserts accountId answers.server.reply
        (answers.server.store accountId (uploadMetadata localPath) content world)

variable {answers : UploadAnswers} {task : SyncTask} {taskId : Nat} {localPath : String}

theorem sameStore_uploadFile (identified : task.id = some taskId)
    (path : task.localPath = some localPath) (world : World) :
    SameStore (uploaded answers task.accountId localPath world)
      (final (uploadFile answers task) world) := by
  have processing := allowsProcessing_sameStore taskId
  have marks := keeps_updateTaskStatus processing.toAllowsMarking
  have fails (errorMsg : String) :=
    keeps_handleFailure processing.toAllowsMarking "UPLOAD_FAILED" answers.failure task errorMsg
  have marked := marks answers.marks answers.now .inProgress none world
  have disk : (final (onDb (updateTaskStatus answers.marks answers.now taskId .inProgress none))
      world).disk = world.disk := by
    rw [final_onDb, World.withDb_disk]
  have reports := outcome_onDb_updateTaskStatus answers.marks answers.now taskId .inProgress none world
  simp only [uploadFile, identified, path]
  rw [final_bind, reports]
  generalize final (onDb (updateTaskStatus answers.marks answers.now taskId .inProgress none)) world =
    begun at marked disk
  cases marksIt : answers.marks with
  | false =>
      simp only [uploaded, sent, marksIt, Bool.false_eq_true, if_false]
      exact marked
  | true =>
      rw [if_pos rfl]
      dsimp only
      rw [final_bind_of_ok (outcome_observe _ _), final_observe, final_readFile]
      rw [outcome_readFile_congr disk]
      cases reading : outcome (readFile answers.readFailure localPath) world with
      | error failure =>
          simp only [uploaded, sent, marksIt, reading, if_true, Except.toOption]
          exact IsTrans.trans _ _ _ marked (fails _ begun)
      | ok content =>
          have stored := (IsTrans.trans _ _ _ marked
            (processing.send begun task.accountId (.upload (uploadMetadata localPath) content))).store
              answers.server task.accountId (uploadMetadata localPath) content
          simp only [uploaded, sent, marksIt, reading, if_true, Except.toOption]
          rw [final_bind_of_ok (outcome_observe _ _), final_observe, outcome_filesUpload,
            final_filesUpload]
          cases answers.server.reply with
          | error failure => exact IsTrans.trans _ _ _ stored (fails _ _)
          | ok apiFile =>
              have recordedToo := stored.upsert answers.upserts (mapApiFileToDb apiFile task.accountId)
              dsimp only [recorded]
              rw [final_bind_of_ok (outcome_onDb _ _)]
              exact IsTrans.trans _ _ _ recordedToo (marks _ _ _ _ _)

end Uploads

/-! ## Deletions by path -/

/-- The row whose file a deletion by path removes from Drive. -/
def soughtRow (answers : DeleteAnswers) (localPath : String) (db : Database) : Option Db.DriveFile :=
  if answers.marks && answers.looksUp then db.fileAtLocalPath localPath else none

/-- What a deletion of this row by path leaves on Drive and in the rows. -/
def removedFrom (answers : DeleteAnswers) (accountId : String) (file : Db.DriveFile) (world : World) :
    World :=
  let removed := answers.server.carryOut accountId file.id world
  match answers.server.reply with
  | .error _ => removed
  | .ok _ => removed.withDb (final (markTrashed answers.marksTrashed file.id file.accountId) removed.db)

def removedByPath (answers : DeleteAnswers) (accountId localPath : String) (world : World) : World :=
  match soughtRow answers localPath world.db with
  | none => world
  | some file => removedFrom answers accountId file world

theorem SameStore.carryOut {world later : World} (same : SameStore world later) (server : DeleteReply)
    (accountId fileId : String) :
    SameStore (server.carryOut accountId fileId world) (server.carryOut accountId fileId later) := by
  rw [DeleteReply.carryOut, DeleteReply.carryOut]
  split
  · refine ⟨?_, same.rows, same.accounts⟩
    simp only [World.putOnDrive, same.drive]
  · exact same

theorem SameStore.markTrashed {world later : World} (same : SameStore world later) (runs : Bool)
    (fileId accountId : String) :
    SameStore (world.withDb (final (markTrashed runs fileId accountId) world.db))
      (later.withDb (final (markTrashed runs fileId accountId) later.db)) := by
  rw [final_markTrashed, final_markTrashed]
  split
  · refine ⟨same.drive, ?_, same.accounts⟩
    simp only [Database.updateFileAt, World.withDb_db, same.rows]
  · exact ⟨same.drive, same.rows, same.accounts⟩

section Deletions

variable {answers : DeleteAnswers} {task : SyncTask} {taskId : Nat} {localPath : String}

theorem sameStore_handleLocalDelete (marksIt : answers.marks = true) {world begun : World}
    (marked : SameStore world begun) :
    SameStore (removedByPath answers task.accountId localPath world)
      (final (handleLocalDelete answers task taskId localPath) begun) := by
  have processing := allowsProcessing_sameStore taskId
  have marks := keeps_updateTaskStatus processing.toAllowsMarking
  have looked : outcome (onDb (getFileByLocalPath answers.looksUp localPath)) begun =
      if answers.looksUp then .ok (world.db.fileAtLocalPath localPath) else .error databaseError := by
    rw [outcome_onDb, outcome_getFileByLocalPath, Database.fileAtLocalPath, Database.fileAtLocalPath,
      marked.rows]
  have stays : final (onDb (getFileByLocalPath answers.looksUp localPath)) begun = begun := by
    rw [final_onDb, final_getFileByLocalPath]
    rfl
  rw [handleLocalDelete, final_bind, looked, stays]
  cases looksUp : answers.looksUp with
  | false =>
      simp only [removedByPath, soughtRow, looksUp, Bool.and_false, Bool.false_eq_true, if_false]
      exact marked
  | true =>
      rw [if_pos rfl]
      cases found : world.db.fileAtLocalPath localPath with
      | none =>
          simp only [removedByPath, soughtRow, marksIt, looksUp, found, Bool.and_self, if_true]
          exact IsTrans.trans _ _ _ marked (marks _ _ _ _ _)
      | some file =>
          have sent := IsTrans.trans _ _ _ marked (processing.send begun task.accountId (.delete file.id))
          have removed := sent.carryOut answers.server task.accountId file.id
          simp only [removedByPath, removedFrom, soughtRow, marksIt, looksUp, found, Bool.and_self,
            if_true]
          rw [final_bind_of_ok (outcome_observe _ _), final_observe, outcome_filesDelete,
            final_filesDelete]
          cases answers.server.reply with
          | error failure =>
              exact IsTrans.trans _ _ _ removed (keeps_handleFailure processing.toAllowsMarking _ _ _ _ _)
          | ok done =>
              dsimp only
              rw [final_bind_of_ok (outcome_onDb _ _)]
              exact IsTrans.trans _ _ _ (removed.markTrashed answers.marksTrashed file.id file.accountId)
                (marks _ _ _ _ _)

/-- A deletion begins by removing from Drive what it finds at its path.  One with a file
id removes nothing yet. -/
theorem sameStore_beginDelete (identified : task.id = some taskId) (world : World) :
    SameStore (match task.fileId, task.localPath with
        | none, some localPath => removedByPath answers task.accountId localPath world
        | _, _ => world)
      (final (beginDelete answers task) world) := by
  have processing := allowsProcessing_sameStore taskId
  have marks := keeps_updateTaskStatus processing.toAllowsMarking
  have marked := marks answers.marks answers.now .inProgress none world
  have reports := outcome_onDb_updateTaskStatus answers.marks answers.now taskId .inProgress none world
  cases about : task.fileId with
  | some fileId =>
      simp only [beginDelete, identified, about]
      refine keeps_bind (marks _ _ _ _) (fun _ => ?_) world
      refine keeps_bind ?_ fun _ => keeps_pure _
      exact keeps_bind (keeps_onDb_select _ _) fun _ => keeps_pure _
  | none =>
      cases path : task.localPath with
      | none =>
          simp only [beginDelete, deleteFile, identified, about, path]
          exact keeps_bind (keeps_bind (marks _ _ _ _) fun _ => marks _ _ _ _) (fun _ => keeps_pure _) world
      | some localPath =>
          simp only [beginDelete, deleteFile, identified, about, path]
          rw [final_bind_pure, final_bind, reports]
          cases marksIt : answers.marks with
          | false =>
              simp only [removedByPath, soughtRow, marksIt, Bool.false_and, Bool.false_eq_true, if_false]
              rw [marksIt] at marked
              exact marked
          | true =>
              rw [marksIt] at marked
              exact sameStore_handleLocalDelete marksIt marked

end Deletions

end Local
end GDriver
