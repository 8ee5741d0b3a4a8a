import GDriver.Db.Schema
import GDriver.Library.Like
import GDriver.Library.Routine

namespace GDriver
namespace Db

open Library Routine

/-!
# Statements on `drive_files`

Every function is one statement.  Its first argument says whether the
database executes it: a statement that is not executed leaves the database
alone and reports an error.  A row may only be inserted for a stored account;
updating a row in place does not look at `accounts` again.
-/

/-- The text of a database error; nothing in the daemon looks inside it. -/
def databaseError : String := "database error"

/-- One statement on the database. -/
def query {α : Type} (runs : Bool) (effect : Database → α × Database) :
    Routine String Database α :=
  statement runs databaseError effect

/-- One statement that only reads. -/
def select {α : Type} (runs : Bool) (read : Database → α) : Routine String Database α :=
  query runs fun db => (read db, db)

/-- One statement that only writes. -/
def execute (runs : Bool) (write : Database → Database) : Routine String Database Unit :=
  query runs fun db => ((), write db)

section Statements

variable {α : Type} (runs : Bool)

@[simp] theorem final_select (read : Database → α) (db : Database) :
    final (select runs read) db = db := by
  unfold select query
  rw [final_statement]
  split <;> rfl

@[simp] theorem outcome_select (read : Database → α) (db : Database) :
    outcome (select runs read) db = if runs then .ok (read db) else .error databaseError := by
  unfold select query
  rw [outcome_statement]

@[simp] theorem final_execute (write : Database → Database) (db : Database) :
    final (execute runs write) db = if runs then write db else db := by
  unfold execute query
  rw [final_statement]

@[simp] theorem outcome_execute (write : Database → Database) (db : Database) :
    outcome (execute runs write) db = if runs then .ok () else .error databaseError := by
  unfold execute query
  rw [outcome_statement]

/-- A statement that only reads makes no move. -/
theorem keeps_select {allowed : Database → Database → Prop} [Std.Refl allowed]
    (read : Database → α) : Keeps allowed (select runs read) := by
  intro db
  rw [final_select]
  exact Std.Refl.refl db

theorem keeps_execute {allowed : Database → Database → Prop} [Std.Refl allowed]
    {write : Database → Database} (moves : ∀ db, allowed db (write db)) :
    Keeps allowed (execute runs write) := by
  intro db
  rw [final_execute]
  split
  · exact moves db
  · exact Std.Refl.refl db

end Statements

/-! ## The table as a whole -/

namespace Database

/-- Store a file row under its key. -/
def putFile (db : Database) (file : DriveFile) : Database :=
  { db with driveFiles := db.driveFiles.upsert file }

/-- Change the selected file rows, leaving their keys alone. -/
def updateFiles (db : Database) (selected : Row DriveFile → Bool) (change : DriveFile → DriveFile)
    (keeps : ∀ file, (change file).key = file.key) : Database :=
  { db with driveFiles := db.driveFiles.update selected change keeps }

/-- Change the file row under one key, leaving the key alone. -/
def updateFileAt (db : Database) (id accountId : String) (change : DriveFile → DriveFile)
    (keeps : ∀ file, (change file).key = file.key) : Database :=
  { db with driveFiles := db.driveFiles.updateAt (id, accountId) change keeps }

/-- The file cells of the database, by key. -/
def cells (db : Database) : String × String → Option DriveFile :=
  db.driveFiles.lookup

/-- Whether the foreign key on the account lets this row be stored. -/
def acceptsFile (db : Database) (file : DriveFile) : Bool :=
  (db.file file.id file.accountId).isSome || db.hasAccount file.accountId

theorem file_putFile (db : Database) (file : DriveFile) (fileId accountId : String) :
    (db.putFile file).file fileId accountId =
      if fileId = file.id ∧ accountId = file.accountId then some file
      else db.file fileId accountId := by
  unfold Database.file putFile
  rw [KeyedTable.lookup_upsert]
  simp only [DriveFile.key, Prod.mk.injEq]

@[simp] theorem file_putFile_self (db : Database) (file : DriveFile) :
    (db.putFile file).file file.id file.accountId = some file := by
  rw [file_putFile, if_pos ⟨rfl, rfl⟩]

theorem file_updateFiles (db : Database) (selected : Row DriveFile → Bool)
    (change : DriveFile → DriveFile) (keeps : ∀ file, (change file).key = file.key)
    (fileId accountId : String) :
    (db.updateFiles selected change keeps).file fileId accountId =
      (db.driveFiles.lookupRow (fileId, accountId)).map fun row =>
        if selected row then change row.data else row.data := by
  unfold Database.file updateFiles KeyedTable.lookup
  rw [KeyedTable.lookupRow_update, Option.map_map]
  congr 1
  funext row
  simp only [Function.comp_apply]
  split <;> rfl

theorem file_updateFileAt (db : Database) (id owner : String) (change : DriveFile → DriveFile)
    (keeps : ∀ file, (change file).key = file.key) (fileId accountId : String) :
    (db.updateFileAt id owner change keeps).file fileId accountId =
      if fileId = id ∧ accountId = owner then (db.file fileId accountId).map change
      else db.file fileId accountId := by
  unfold Database.file updateFileAt
  rw [KeyedTable.lookup_updateAt]
  simp only [Prod.mk.injEq]

@[simp] theorem hasAccount_putFile (db : Database) (file : DriveFile) (accountId : String) :
    (db.putFile file).hasAccount accountId = db.hasAccount accountId := rfl

@[simp] theorem hasAccount_updateFiles (db : Database) (selected : Row DriveFile → Bool)
    (change : DriveFile → DriveFile) (keeps : ∀ file, (change file).key = file.key)
    (accountId : String) :
    (db.updateFiles selected change keeps).hasAccount accountId = db.hasAccount accountId := rfl

end Database

/-- The file with its trash flag set. -/
def DriveFile.trashed (file : DriveFile) : DriveFile :=
  { file with isTrashed := true }

@[simp] theorem DriveFile.key_trashed (file : DriveFile) : file.trashed.key = file.key := rfl

/-- The file in another sync state. -/
def DriveFile.inState (state : SyncState) (file : DriveFile) : DriveFile :=
  { file with syncState := state }

@[simp] theorem DriveFile.key_inState (state : SyncState) (file : DriveFile) :
    (file.inState state).key = file.key := rfl

/-- The file rows are the same. -/
def Database.SameFiles (db later : Database) : Prop :=
  later.driveFiles = db.driveFiles

instance : Std.Refl Database.SameFiles where
  refl _ := rfl

instance : IsTrans Database Database.SameFiles where
  trans _ _ _ one two := Eq.trans two one

/-! ## The functions of the `files` module -/

/-- Insert a new file or update all mutable columns when the key exists. -/
def upsertFile (runs : Bool) (file : DriveFile) : Routine String Database Unit := fun db =>
  execute (runs && db.acceptsFile file) (fun db => db.putFile file) db

/-- The file row under a Drive id and account. -/
def getFileById (runs : Bool) (id accountId : String) :
    Routine String Database (Option DriveFile) :=
  select runs fun db => db.file id accountId

/-- The first row of the scan with this `local_path`. -/
def Database.fileAtLocalPath (db : Database) (path : String) : Option DriveFile :=
  (db.driveFiles.findRow? fun row => row.data.localPath = some path).map Row.data

/-- The file row whose `local_path` matches exactly. -/
def getFileByLocalPath (runs : Bool) (path : String) :
    Routine String Database (Option DriveFile) :=
  select runs fun db => db.fileAtLocalPath path

/-- Update `sync_state` for the file under this key. -/
def setSyncState (runs : Bool) (id accountId : String) (state : SyncState) :
    Routine String Database Unit :=
  execute runs fun db =>
    db.updateFileAt id accountId (DriveFile.inState state) (DriveFile.key_inState state)

/-- Mark the file as trashed. -/
def markTrashed (runs : Bool) (id accountId : String) : Routine String Database Unit :=
  execute runs fun db =>
    db.updateFileAt id accountId DriveFile.trashed DriveFile.key_trashed

/-- Of two candidates the one with the shorter `local_path`, the earlier row
when they are equally long. -/
def shorterPath (best : Option DriveFile) (file : DriveFile) : Option DriveFile :=
  match best with
  | none => some file
  | some kept =>
      if (file.localPath.getD "").length < (kept.localPath.getD "").length then some file
      else some kept

/-- The non-trashed row with the shortest `local_path` ending in the suffix. -/
def Database.fileUnderSuffix (db : Database) (suffix : String) : Option DriveFile :=
  (db.driveFiles.records.filter fun file =>
    (file.localPath.any fun path => like path ("%/" ++ suffix)) && !file.isTrashed).foldl
      shorterPath none

/-- Find a file whose `local_path` ends with the given relative path. -/
def findFileByRelativeSuffix (runs : Bool) (suffix : String) :
    Routine String Database (Option DriveFile) :=
  select runs fun db => db.fileUnderSuffix suffix

/-! ## What the statements do -/

section Specifications

variable (runs : Bool) (db : Database)

@[simp] theorem final_upsertFile (file : DriveFile) :
    final (upsertFile runs file) db =
      if runs && db.acceptsFile file then db.putFile file else db :=
  final_execute _ _ db

@[simp] theorem outcome_upsertFile (file : DriveFile) :
    outcome (upsertFile runs file) db =
      if runs && db.acceptsFile file then .ok () else .error databaseError :=
  outcome_execute _ _ db

@[simp] theorem final_markTrashed (id accountId : String) :
    final (markTrashed runs id accountId) db =
      if runs then db.updateFileAt id accountId DriveFile.trashed DriveFile.key_trashed else db :=
  final_execute _ _ db

@[simp] theorem outcome_markTrashed (id accountId : String) :
    outcome (markTrashed runs id accountId) db =
      if runs then .ok () else .error databaseError :=
  outcome_execute _ _ db

@[simp] theorem final_getFileById (id accountId : String) :
    final (getFileById runs id accountId) db = db :=
  final_select runs _ db

@[simp] theorem outcome_getFileById (id accountId : String) :
    outcome (getFileById runs id accountId) db =
      if runs then .ok (db.file id accountId) else .error databaseError :=
  outcome_select runs _ db

@[simp] theorem final_getFileByLocalPath (path : String) :
    final (getFileByLocalPath runs path) db = db :=
  final_select runs _ db

@[simp] theorem outcome_getFileByLocalPath (path : String) :
    outcome (getFileByLocalPath runs path) db =
      if runs then .ok (db.fileAtLocalPath path) else .error databaseError :=
  outcome_select runs _ db

end Specifications

end Db
end GDriver
