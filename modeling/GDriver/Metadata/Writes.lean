import GDriver.Library.KeyedUpdates
import GDriver.Sync.Initial

namespace GDriver
namespace Metadata

open Library Routine Db Api Sync

/-!
# The metadata writes of both syncs

What a remote change or a listed file does to `drive_files` is one of two
writes: trash the row under a key, or store a whole row.  This module says
which write a change asks for, and that processing the change makes exactly
that write, when the statements it depends on are executed, and otherwise
none.  The tasks that are enqueued along the way touch no file row.
-/

/-- One write to `drive_files`. -/
inductive FileWrite where
  | trash (fileId accountId : String)
  | store (file : Db.DriveFile)
  deriving DecidableEq, Repr

namespace FileWrite

/-- The key of the row a write is about. -/
def key : FileWrite → String × String
  | trash fileId accountId => (fileId, accountId)
  | store file => file.key

/-- What a write makes of the row under its key. -/
def act : FileWrite → Option Db.DriveFile → Option Db.DriveFile
  | trash _ _, cell => cell.map Db.DriveFile.trashed
  | store file, _ => some file

/-- Carry out a write. -/
def apply : FileWrite → Database → Database
  | trash fileId accountId, db =>
      db.updateFileAt fileId accountId Db.DriveFile.trashed Db.DriveFile.key_trashed
  | store file, db => db.putFile file

/-- Writes as updates of the file cells. -/
def updates : KeyedUpdates (String × String) (Option Db.DriveFile) FileWrite where
  target := fun write => some write.key
  act := act

/-- A write is seen at its own key only. -/
theorem cells_apply (write : FileWrite) (db : Database) :
    (write.apply db).cells = updates.apply write db.cells := by
  funext key
  by_cases same : key = write.key
  · rw [updates.apply_of_addressed (congrArg some same.symm)]
    cases write with
    | trash fileId accountId =>
        exact (KeyedTable.lookup_updateAt db.driveFiles _ _ Db.DriveFile.key_trashed key).trans (if_pos same)
    | store file => exact (KeyedTable.lookup_upsert db.driveFiles file key).trans (if_pos same)
  · rw [updates.apply_of_not_addressed fun here => same (Option.some.inj here).symm]
    cases write with
    | trash fileId accountId =>
        exact (KeyedTable.lookup_updateAt db.driveFiles _ _ Db.DriveFile.key_trashed key).trans (if_neg same)
    | store file => exact KeyedTable.lookup_upsert_of_ne db.driveFiles file same

/-- A write leaves every row under another key alone, its row number included. -/
theorem lookupRow_apply_of_ne (write : FileWrite) (db : Database) {key : String × String}
    (different : key ≠ write.key) :
    (write.apply db).driveFiles.lookupRow key = db.driveFiles.lookupRow key := by
  cases write with
  | trash fileId accountId =>
      exact KeyedTable.lookupRow_updateAt_of_ne db.driveFiles _ Db.DriveFile.key_trashed different
  | store file => exact KeyedTable.lookupRow_upsert_of_ne db.driveFiles file different

@[simp] theorem hasAccount_apply (write : FileWrite) (db : Database) (accountId : String) :
    (write.apply db).hasAccount accountId = db.hasAccount accountId := by
  cases write <;> rfl

/-- A write to files leaves the tokens alone. -/
@[simp] theorem syncTokens_apply (write : FileWrite) (db : Database) :
    (write.apply db).syncTokens = db.syncTokens := by
  cases write <;> rfl

end FileWrite

/-! ## What processing a change writes -/

/-- Whether the statements a write depends on are executed. -/
def writeRuns (answers : ProcessChangeAnswers) (db : Database) : FileWrite → Bool
  | .trash _ _ => answers.marks
  | .store file => answers.looksUp && (answers.upserts && db.acceptsFile file)

@[simp] theorem writeRuns_trash (answers : ProcessChangeAnswers) (db : Database)
    (fileId accountId : String) :
    writeRuns answers db (.trash fileId accountId) = answers.marks := rfl

@[simp] theorem writeRuns_store (answers : ProcessChangeAnswers) (db : Database)
    (file : Db.DriveFile) :
    writeRuns answers db (.store file) =
      (answers.looksUp && (answers.upserts && db.acceptsFile file)) := rfl

/-- A routine that touches the task queue at most and reports no error. -/
structure OnlyEnqueues (routine : Routine String Database Unit) : Prop where
  keeps : Keeps Database.AgreeBesideQueue routine
  completes : ∀ db, outcome routine db = .ok ()

theorem OnlyEnqueues.pure : OnlyEnqueues (Pure.pure ()) :=
  ⟨keeps_pure (), fun _ => rfl⟩

theorem OnlyEnqueues.enqueue (runs : Bool) (task : SyncTask) :
    OnlyEnqueues (attempt (Db.enqueue runs task)) :=
  ⟨keeps_attempt (keeps_enqueue runs task), fun _ => rfl⟩

theorem onlyEnqueues_enqueueTask (answers : ProcessChangeAnswers) (accountId fileId : String)
    (operation : TaskOperation) (dbFile : Db.DriveFile) :
    OnlyEnqueues (enqueueTask answers accountId fileId operation dbFile) :=
  OnlyEnqueues.enqueue _ _

theorem onlyEnqueues_downloadWhenCovered (runs : Bool)
    (listed : Except String (List SyncFolder)) (filePath : String) (task : SyncTask) :
    OnlyEnqueues (match listed with
      | .error _ => Pure.pure ()
      | .ok syncFolders =>
          if syncFolders.any fun folder =>
              folder.isEnabled && startsWith filePath folder.localPath then
            attempt (Db.enqueue runs task)
          else Pure.pure ()) := by
  cases listed with
  | error failure => exact OnlyEnqueues.pure
  | ok syncFolders =>
      dsimp only
      split
      · exact OnlyEnqueues.enqueue _ _
      · exact OnlyEnqueues.pure

theorem onlyEnqueues_deleteOfKnown (answers : ProcessChangeAnswers) (accountId fileId : String)
    (known : Option Db.DriveFile) :
    OnlyEnqueues (match known with
      | none => Pure.pure ()
      | some existing =>
          if existing.localPath.isSome then
            enqueueTask answers accountId fileId .delete existing
          else Pure.pure ()) := by
  cases known with
  | none => exact OnlyEnqueues.pure
  | some existing =>
      dsimp only
      split
      · exact onlyEnqueues_enqueueTask answers accountId fileId .delete _
      · exact OnlyEnqueues.pure

theorem onlyEnqueues_enqueueDownloadForChange (answers : ProcessChangeAnswers)
    (accountId : String) (dbFile : Db.DriveFile) (syncMode : SyncMode) (mountPoint : String) :
    OnlyEnqueues (enqueueDownloadForChange answers accountId dbFile syncMode mountPoint) := by
  unfold enqueueDownloadForChange
  split
  · exact OnlyEnqueues.pure
  · split
    · exact OnlyEnqueues.pure
    · exact OnlyEnqueues.pure
    · exact OnlyEnqueues.pure
    · exact OnlyEnqueues.pure
    · cases syncMode with
      | mirror => exact OnlyEnqueues.enqueue _ _
      | stream =>
          constructor
          · refine keeps_bind (keeps_observe (keeps_statement _ _ _ fun _ => rfl)) ?_
            intro listed
            exact (onlyEnqueues_downloadWhenCovered answers.enqueues listed _ _).keeps
          · intro db
            rw [outcome_bind_of_ok (outcome_observe _ _)]
            exact (onlyEnqueues_downloadWhenCovered answers.enqueues _ _ _).completes _

section Processing

variable [Rfc3339]

/-- The write a change asks for: none without a file id, and none for a
surviving file without its record. -/
def changeWrite (accountId : String) (change : Change) : Option FileWrite :=
  match change.fileId with
  | none => none
  | some fileId =>
      if change.removed.getD false then some (.trash fileId accountId)
      else change.file.map fun apiFile => .store (mapApiFileToDb apiFile accountId)

/-- The database after the write of a change, tasks aside. -/
def changeWritten (answers : ProcessChangeAnswers) (accountId : String) (change : Change)
    (db : Database) : Database :=
  match changeWrite accountId change with
  | none => db
  | some write => if writeRuns answers db write then write.apply db else db

theorem changeWrite_of_unnamed {change : Change} (unnamed : change.fileId = none)
    (accountId : String) : changeWrite accountId change = none := by
  unfold changeWrite
  rw [unnamed]

theorem changeWrite_of_removed {change : Change} {fileId : String}
    (about : change.fileId = some fileId) (removed : change.removed.getD false = true)
    (accountId : String) : changeWrite accountId change = some (.trash fileId accountId) := by
  unfold changeWrite
  rw [about, removed]
  rfl

theorem changeWrite_of_record {change : Change} {fileId : String} {apiFile : Api.DriveFile}
    (about : change.fileId = some fileId) (survives : change.removed.getD false = false)
    (record : change.file = some apiFile) (accountId : String) :
    changeWrite accountId change = some (.store (mapApiFileToDb apiFile accountId)) := by
  unfold changeWrite
  rw [about, survives, record]
  rfl

theorem changeWrite_of_no_record {change : Change} {fileId : String}
    (about : change.fileId = some fileId) (survives : change.removed.getD false = false)
    (record : change.file = none) (accountId : String) :
    changeWrite accountId change = none := by
  unfold changeWrite
  rw [about, survives, record]
  rfl

/-- The row that a change stores is that of its record. -/
theorem of_changeWrite_store {accountId : String} {change : Change} {file : Db.DriveFile}
    (stores : changeWrite accountId change = some (.store file)) :
    ∃ apiFile, change.file = some apiFile ∧ file = mapApiFileToDb apiFile accountId := by
  rw [changeWrite] at stores
  split at stores
  · cases stores
  · split at stores
    · cases stores
    · rcases Option.map_eq_some_iff.mp stores with ⟨apiFile, record, same⟩
      cases same
      exact ⟨apiFile, record, rfl⟩

theorem changeWritten_of_asked {accountId : String} {change : Change} {write : FileWrite}
    (asked : changeWrite accountId change = some write) (answers : ProcessChangeAnswers)
    (db : Database) :
    changeWritten answers accountId change db =
      if writeRuns answers db write then write.apply db else db := by
  unfold changeWritten
  rw [asked]

theorem changeWritten_of_not_asked {accountId : String} {change : Change}
    (asked : changeWrite accountId change = none) (answers : ProcessChangeAnswers)
    (db : Database) : changeWritten answers accountId change db = db := by
  unfold changeWritten
  rw [asked]

/-- Whether a change is processed without an error. -/
def changeCompletes (answers : ProcessChangeAnswers) (accountId : String) (change : Change)
    (db : Database) : Bool :=
  match changeWrite accountId change with
  | none => true
  | some write => writeRuns answers db write && answers.looksUp

/-- Processing a change makes the write it asks for, beside that only
enqueues tasks, and reports an error when a statement of its own fails. -/
structure ProcessesChange (answers : ProcessChangeAnswers) (accountId : String)
    (change : Change) (routine : Routine String Database Unit) (db : Database) : Prop where
  writes : Database.AgreeBesideQueue (changeWritten answers accountId change db) (final routine db)
  reports : outcome routine db =
    if changeCompletes answers accountId change db then .ok () else .error databaseError

variable {answers : ProcessChangeAnswers} {accountId : String} {change : Change} {db : Database}

private theorem processes_nothing (asked : changeWrite accountId change = none) :
    ProcessesChange answers accountId change (Pure.pure ()) db where
  writes := by
    rw [changeWritten_of_not_asked asked]
    rfl
  reports := by
    unfold changeCompletes
    rw [asked]
    rfl

private theorem processes_removal {fileId : String} (about : change.fileId = some fileId)
    (removed : change.removed.getD false = true) (syncMode : SyncMode) (mountPoint : String) :
    ProcessesChange answers accountId change
      (processChange answers accountId change syncMode mountPoint) db := by
  have asked := changeWrite_of_removed about removed accountId
  have written := changeWritten_of_asked asked answers db
  have completes : changeCompletes answers accountId change db =
      (answers.marks && answers.looksUp) := by
    unfold changeCompletes
    rw [asked]
    rfl
  have marking := outcome_markTrashed answers.marks db fileId accountId
  rw [writeRuns_trash] at written
  unfold processChange
  rw [about]
  dsimp only
  rw [if_pos removed]
  by_cases marks : answers.marks = true
  · rw [if_pos marks] at written marking
    have looking := outcome_getFileById answers.looksUp
      (db.updateFileAt fileId accountId Db.DriveFile.trashed Db.DriveFile.key_trashed)
      fileId accountId
    by_cases looksUp : answers.looksUp = true
    · rw [if_pos looksUp] at looking
      have quiet := onlyEnqueues_deleteOfKnown answers accountId fileId
        (Database.file (db.updateFileAt fileId accountId Db.DriveFile.trashed
          Db.DriveFile.key_trashed) fileId accountId)
      constructor
      · rw [final_bind_of_ok marking, final_markTrashed, if_pos marks, final_bind_of_ok looking,
          final_getFileById, written]
        exact quiet.keeps _
      · rw [outcome_bind_of_ok marking, final_markTrashed, if_pos marks,
          outcome_bind_of_ok looking, final_getFileById, completes, marks, looksUp]
        exact quiet.completes _
    · rw [if_neg looksUp] at looking
      constructor
      · rw [final_bind_of_ok marking, final_markTrashed, if_pos marks,
          final_bind_of_error looking, final_getFileById, written]
        rfl
      · rw [outcome_bind_of_ok marking, final_markTrashed, if_pos marks,
          outcome_bind_of_error looking, completes, Bool.eq_false_iff.mpr looksUp,
          Bool.and_false]
        rfl
  · rw [if_neg marks] at written marking
    constructor
    · rw [final_bind_of_error marking, final_markTrashed, if_neg marks, written]
      rfl
    · rw [outcome_bind_of_error marking, completes, Bool.eq_false_iff.mpr marks]
      rfl

private theorem processes_record {fileId : String} (about : change.fileId = some fileId)
    (survives : change.removed.getD false = false) {apiFile : Api.DriveFile}
    (record : change.file = some apiFile) (syncMode : SyncMode) (mountPoint : String) :
    ProcessesChange answers accountId change
      (processChange answers accountId change syncMode mountPoint) db := by
  have asked := changeWrite_of_record about survives record accountId
  have written := changeWritten_of_asked asked answers db
  have completes : changeCompletes answers accountId change db =
      (answers.looksUp && (answers.upserts && db.acceptsFile (mapApiFileToDb apiFile accountId)) &&
        answers.looksUp) := by
    unfold changeCompletes
    rw [asked]
    rfl
  have looking := outcome_getFileById answers.looksUp db fileId accountId
  have upserting := outcome_upsertFile answers.upserts db (mapApiFileToDb apiFile accountId)
  rw [writeRuns_store] at written
  unfold processChange
  rw [about]
  dsimp only
  rw [survives, if_neg Bool.false_ne_true, record]
  dsimp only
  by_cases looksUp : answers.looksUp = true
  · rw [if_pos looksUp] at looking
    rw [looksUp, Bool.true_and] at written
    rw [looksUp, Bool.true_and, Bool.and_true] at completes
    by_cases stored : (answers.upserts && db.acceptsFile (mapApiFileToDb apiFile accountId)) = true
    · rw [if_pos stored] at written upserting
      have quiet (isNew : Bool) : OnlyEnqueues (
          if apiFile.trashed = some true then
            if (mapApiFileToDb apiFile accountId).localPath.isSome then
              enqueueTask answers accountId fileId .delete (mapApiFileToDb apiFile accountId)
            else Pure.pure ()
          else if isNew then
            enqueueDownloadForChange answers accountId (mapApiFileToDb apiFile accountId) syncMode
              mountPoint
          else
            enqueueDownloadForChange answers accountId (mapApiFileToDb apiFile accountId) syncMode
              mountPoint) := by
        split
        · split
          · exact onlyEnqueues_enqueueTask answers accountId fileId .delete _
          · exact OnlyEnqueues.pure
        · split <;>
            exact onlyEnqueues_enqueueDownloadForChange answers accountId _ syncMode mountPoint
      constructor
      · rw [final_bind_of_ok looking, final_getFileById, final_bind_of_ok upserting,
          final_upsertFile, if_pos stored, written]
        exact (quiet _).keeps _
      · rw [outcome_bind_of_ok looking, final_getFileById, outcome_bind_of_ok upserting,
          final_upsertFile, if_pos stored, completes, if_pos stored]
        exact (quiet _).completes _
    · rw [if_neg stored] at written upserting
      constructor
      · rw [final_bind_of_ok looking, final_getFileById, final_bind_of_error upserting,
          final_upsertFile, if_neg stored, written]
        rfl
      · rw [outcome_bind_of_ok looking, final_getFileById, outcome_bind_of_error upserting,
          completes, if_neg stored]
  · rw [if_neg looksUp] at looking
    rw [Bool.eq_false_iff.mpr looksUp, Bool.false_and] at written
    rw [Bool.eq_false_iff.mpr looksUp, Bool.and_false] at completes
    constructor
    · rw [final_bind_of_error looking, final_getFileById, written]
      rfl
    · rw [outcome_bind_of_error looking, completes]
      rfl

theorem processChange_spec (answers : ProcessChangeAnswers) (accountId : String)
    (change : Change) (syncMode : SyncMode) (mountPoint : String) (db : Database) :
    ProcessesChange answers accountId change
      (processChange answers accountId change syncMode mountPoint) db := by
  cases about : change.fileId with
  | none =>
      have nothing : processChange answers accountId change syncMode mountPoint =
          Pure.pure () := by
        unfold processChange
        rw [about]
      rw [nothing]
      exact processes_nothing (changeWrite_of_unnamed about accountId)
  | some fileId =>
      cases removed : change.removed.getD false with
      | true => exact processes_removal about removed syncMode mountPoint
      | false =>
          cases record : change.file with
          | some apiFile => exact processes_record about removed record syncMode mountPoint
          | none =>
              have nothing : processChange answers accountId change syncMode mountPoint =
                  Pure.pure () := by
                unfold processChange
                rw [about]
                dsimp only
                rw [removed, if_neg Bool.false_ne_true, record]
              rw [nothing]
              exact processes_nothing (changeWrite_of_no_record about removed record accountId)

/-! ## What processing a change leaves alone -/

theorem hasAccount_changeWritten :
    (changeWritten answers accountId change db).hasAccount accountId = db.hasAccount accountId := by
  unfold changeWritten
  split
  · rfl
  · split
    · exact FileWrite.hasAccount_apply _ db accountId
    · rfl

theorem syncTokens_changeWritten :
    (changeWritten answers accountId change db).syncTokens = db.syncTokens := by
  unfold changeWritten
  split
  · rfl
  · split
    · exact FileWrite.syncTokens_apply _ db
    · rfl

theorem hasAccount_processChange (change : Change) (syncMode : SyncMode) (mountPoint : String) :
    (final (processChange answers accountId change syncMode mountPoint) db).hasAccount accountId =
      db.hasAccount accountId := by
  have spec := processChange_spec answers accountId change syncMode mountPoint db
  unfold Database.hasAccount
  rw [spec.writes.accounts]
  exact hasAccount_changeWritten

theorem syncTokens_processChange (change : Change) (syncMode : SyncMode) (mountPoint : String) :
    (final (processChange answers accountId change syncMode mountPoint) db).syncTokens =
      db.syncTokens := by
  rw [(processChange_spec answers accountId change syncMode mountPoint db).writes.syncTokens]
  exact syncTokens_changeWritten

end Processing

end Metadata
end GDriver
