import GDriver.Library.Run
import GDriver.System

namespace GDriver
namespace Local

open Library Routine Db Api Sync

/-!
# What a completed upload links

An upload is asked for by a row, by its path.  After a completed upload that
row should be the row of the file which holds the bytes on Drive.  The uploader
never reads the asking row: it creates a new file under the name of the local
file, and stores the row mapped from the server's answer, which has no path.
So no completed upload links anything, whatever it uploads and for whichever
row.
-/

/-- A row of the account at this path that is not in the trash. -/
def RowAt (accountId localPath : String) (db : Database) (file : Db.DriveFile) : Prop :=
  db.file file.id accountId = some file ∧ file.isTrashed = false ∧
    file.localPath = some localPath

/-- The name and the parent that an upload should keep: those of the row it
is for, or those of the path when it is for none. -/
def expectedPlace (task : SyncTask) (localPath : String) (db : Database) :
    String × Option String :=
  match task.fileId.bind fun fileId => db.file fileId task.accountId with
  | some file => (file.name, file.parentId)
  | none => ((fileName localPath).getD "Untitled", none)

/-- The path is linked to the file that an upload stored on Drive: there is
exactly one row at the path, it is the row of that file, it no longer awaits
upload, and row and file have the expected name and parent. -/
structure Linked (task : SyncTask) (localPath uploadedId : String) (place : String × Option String)
    (content : List UInt8) (world : World) (row : Db.DriveFile) : Prop where
  only : ∀ file, RowAt task.accountId localPath world.db file ↔ file = row
  uploaded : row.id = uploadedId
  settled : row.syncState ≠ .modified
  name : row.name = place.1
  parent : row.parentId = place.2
  stored : ∃ remote, world.drive task.accountId uploadedId = some remote ∧
    remote.bytes = content ∧ remote.name = place.1 ∧ remote.parents.head? = place.2

/-- The server answers with the file it stored, and gives a new file an id of
its own. -/
structure StoresNewFile (server : UploadReply) (accountId : String) (db : Database) : Prop where
  answered : ∀ apiFile, server.reply = .ok apiFile →
    ∃ fileId parents, server.stored = some (fileId, parents) ∧ apiFile.id = some fileId
  fresh : ∀ fileId parents, server.stored = some (fileId, parents) →
    db.file fileId accountId = none

section Uploading

variable [Rfc3339]

/-- The upload links its row to the file it stored on Drive. -/
def LinksRow (answers : UploadAnswers) (task : SyncTask) (localPath : String)
    (world : World) : Prop :=
  ∃ content uploadedId parents row,
    (world.disk localPath).map DiskFile.bytes = some content ∧
      answers.server.stored = some (uploadedId, parents) ∧
        Linked task localPath uploadedId (expectedPlace task localPath world.db) content
          (final (uploadFile answers task) world) row

variable {answers : UploadAnswers} {task : SyncTask} {taskId : Nat} {localPath : String}
  {world : World}

/-- An upload that completes its task got an answer from the server, and left
the rows as they were or stored the row mapped from the answer. -/
theorem uploadFile_completed (identified : task.id = some taskId)
    (path : task.localPath = some localPath) (running : NotCompleted taskId world.db)
    (completed : ¬ NotCompleted taskId (final (uploadFile answers task) world).db) :
    ∃ apiFile, answers.server.reply = .ok apiFile ∧
      ((final (uploadFile answers task) world).db.driveFiles = world.db.driveFiles ∨
        (final (uploadFile answers task) world).db.driveFiles =
          (world.db.putFile (mapApiFileToDb apiFile task.accountId)).driveFiles) := by
  have marked := notCompleted_updateTaskStatus (by decide : TaskStatus.inProgress ≠ .completed)
    answers.marks answers.now none running
  have sameRows : (final (updateTaskStatus answers.marks answers.now taskId .inProgress none)
      world.db).driveFiles = world.db.driveFiles := by
    rw [final_updateTaskStatus]
    split <;> rfl
  simp only [uploadFile, identified, path] at completed ⊢
  cases marks : outcome (onDb (updateTaskStatus answers.marks answers.now taskId .inProgress none))
      world with
  | error failure =>
      rw [final_bind_of_error marks, final_onDb] at completed
      exact absurd marked completed
  | ok done =>
      rw [final_bind_of_ok marks, final_bind_of_ok (outcome_observe _ _), final_onDb, final_observe,
        final_readFile] at completed ⊢
      generalize final (updateTaskStatus answers.marks answers.now taskId .inProgress none)
        world.db = db at marked sameRows completed ⊢
      cases reading : outcome (readFile answers.readFailure localPath) (world.withDb db) with
      | error failure =>
          simp only [reading, final_onDb, World.withDb_db] at completed
          exact absurd (notCompleted_handleFailure _ _ _ _ marked) completed
      | ok content =>
          simp only [reading] at completed ⊢
          rw [final_bind_of_ok (outcome_observe _ _), final_observe, outcome_filesUpload] at completed ⊢
          cases replied : answers.server.reply with
          | error failure =>
              simp only [replied, final_filesUpload, final_onDb, db_store, World.send_db,
                World.withDb_db] at completed
              exact absurd (notCompleted_handleFailure _ _ _ _ marked) completed
          | ok apiFile =>
              refine ⟨apiFile, rfl, ?_⟩
              dsimp only
              rw [final_bind_of_ok (outcome_onDb _ _), final_filesUpload]
              let upserting : Routine String Database Unit :=
                attempt (upsertFile answers.upserts (mapApiFileToDb apiFile task.accountId))
              have stored : (final upserting db).driveFiles = world.db.driveFiles ∨
                  (final upserting db).driveFiles =
                    (world.db.putFile (mapApiFileToDb apiFile task.accountId)).driveFiles := by
                rw [final_attempt, final_upsertFile]
                split
                · exact Or.inr (congrArg (fun table : KeyedTable Db.DriveFile.key => table.upsert
                    (mapApiFileToDb apiFile task.accountId)) sameRows)
                · exact Or.inl sameRows
              have onlyStatus (later : Database) : (final (updateTaskStatus answers.completes
                  answers.now taskId .completed none) later).driveFiles = later.driveFiles := by
                rw [final_updateTaskStatus]
                split <;> rfl
              simp only [final_onDb, World.withDb_db, db_store, World.send_db, onlyStatus]
              exact stored

/-- Whatever the state, the task and the answers: an upload that ends completed
does not link its row. -/
theorem completed_upload_links_nothing (identified : task.id = some taskId)
    (path : task.localPath = some localPath) (running : NotCompleted taskId world.db)
    (server : StoresNewFile answers.server task.accountId world.db)
    (completed : ¬ NotCompleted taskId (final (uploadFile answers task) world).db) :
    ¬ LinksRow answers task localPath world := by
  rintro ⟨content, uploadedId, parents, row, _, stored, linked⟩
  rcases uploadFile_completed identified path running completed with ⟨apiFile, replied, rows⟩
  rcases server.answered apiFile replied with ⟨fileId, otherParents, alsoStored, named⟩
  have same : uploadedId = fileId := by
    rw [stored] at alsoStored
    exact (Prod.mk.inj (Option.some.inj alsoStored)).1
  have absent := server.fresh uploadedId parents stored
  rcases (linked.only row).mpr rfl with ⟨found, _, atPath⟩
  rw [linked.uploaded, Database.file] at found
  rcases rows with unchanged | upserted
  · rw [unchanged] at found
    exact Option.some_ne_none row (found.symm.trans absent)
  · rw [upserted] at found
    have mapped : (world.db.putFile (mapApiFileToDb apiFile task.accountId)).file uploadedId
        task.accountId = some row := found
    rw [Database.file_putFile, mapApiFileToDb_id, named, same, mapApiFileToDb_accountId,
      if_pos ⟨rfl, rfl⟩] at mapped
    rw [← Option.some.inj mapped, mapApiFileToDb_localPath] at atPath
    cases atPath

end Uploading

/-- One account is connected, and its user has created a file in the mounted
file system, written to it and flushed it. -/
def flushedNotes : System :=
  run (@System.exec untimed) [
    .sync (.connect true ⟨"ann@example.com", "ann@example.com", 0⟩),
    .vfs "/cache" (Vfs.CallbackAnswers.allRun 5 1) (.create 0 (some "notes.txt")),
    .vfs "/cache" (Vfs.CallbackAnswers.allRun 6 1) (.write 1 1 0 [104, 105] 2),
    .vfs "/cache" (Vfs.CallbackAnswers.allRun 7 1) (.flush 1 1)] System.initial

/-- The task the flush has enqueued. -/
def flushTask : SyncTask :=
  { pendingTask 7 "ann@example.com" (some "local-1") .upload
      (some "/cache/ann@example.com/local-1") 1 with id := some 1 }

/-- The server stores the file and answers with it. -/
def storedOnDrive : UploadAnswers :=
  UploadAnswers.allRun
    ⟨some ("drive-1", ["root"]), .ok { Api.DriveFile.named "drive-1" "local-1" with
      parents := some ["root"] }, []⟩ 8

theorem storesNewFile_storedOnDrive {db : Database} {accountId : String}
    (absent : db.file "drive-1" accountId = none) :
    StoresNewFile storedOnDrive.server accountId db where
  answered := by
    intro apiFile replied
    cases replied
    exact ⟨"drive-1", ["root"], rfl, rfl⟩
  fresh := by
    intro fileId parents stored
    cases stored
    exact absent

/-- An upload that the watcher asks for links nothing either. -/
theorem completed_upload_links_nothing_of_watched :
    ¬ @LinksRow untimed storedOnDrive
      { flushTask with fileId := none } "/cache/ann@example.com/local-1" flushedNotes.world := by
  apply @completed_upload_links_nothing untimed storedOnDrive { flushTask with fileId := none } 1
    "/cache/ann@example.com/local-1" flushedNotes.world rfl rfl
  · have status : (flushedNotes.world.db.task 1).map SyncTask.status = some .pending := by decide
    intro task found completed
    rw [Option.mem_def.mp found, Option.map_some, completed] at status
    cases status
  · exact storesNewFile_storedOnDrive (by decide)
  · exact not_notCompleted (by decide)

/-- The flushed file is uploaded and its task completed, and nothing is linked. -/
theorem flushed_upload_unlinked :
    flushedNotes.world.db.task 1 = some flushTask ∧
      ((final (@uploadFile untimed storedOnDrive flushTask) flushedNotes.world).db.task 1).map
        SyncTask.status = some .completed ∧
      ¬ @LinksRow untimed storedOnDrive flushTask "/cache/ann@example.com/local-1"
        flushedNotes.world := by
  refine ⟨by decide, by decide, ?_⟩
  rintro ⟨content, uploadedId, parents, row, _, stored, linked⟩
  cases stored
  have pathless : ((final (@uploadFile untimed storedOnDrive flushTask) flushedNotes.world).db.file
      "drive-1" flushTask.accountId).bind Db.DriveFile.localPath = none := by
    decide
  rcases (linked.only row).mpr rfl with ⟨found, _, atPath⟩
  rw [linked.uploaded] at found
  have path : row.localPath = none := by
    rw [found] at pathless
    exact pathless
  rw [path] at atPath
  cases atPath

end Local
end GDriver
