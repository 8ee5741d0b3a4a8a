import GDriver.Moves.Targets
import GDriver.Vfs.Directories

namespace GDriver
namespace Tree

open Library Routine Db Vfs

/-!
# The root of a mount

The kernel addresses the root of a mount by the inode 1, the callbacks know it as the inode 0.
The inode 1 is for them that of the row with the number 1, which the table gives to the first
row that is inserted.
-/

/-- Under the kernel's inode of the root the callbacks act on My Drive, and no row is shown
under it. -/
structure RootIsMyDrive (world : World) : Prop where
  attributes : ∀ answers : CallbackAnswers, answers.runs 0 = true →
    ∃ attr, outcome (getattr answers fuseRootId) world = .ok attr ∧ attr.isDirectory = true
  listings : ∀ (answers : CallbackAnswers) (offset room : Nat), 0 < offset →
    outcome (readdir answers fuseRootId offset room) world = outcome (readdir answers rootInode offset room) world
  lookups : ∀ (answers : CallbackAnswers) (name : Option String),
    outcome (lookup answers fuseRootId name) world = outcome (lookup answers rootInode name) world
  creates : ∀ (answers : CallbackAnswers) (cacheDir : String) (name : Option String),
    create answers cacheDir fuseRootId name world = create answers cacheDir rootInode name world
  mkdirs : ∀ (answers : CallbackAnswers) (name : Option String),
    mkdir answers fuseRootId name world = mkdir answers rootInode name world
  unexposed : ∀ row ∈ world.db.driveFiles.rows, row.data.isTrashed = false → row.rowid ≠ fuseRootId

section Callbacks

variable {answers : CallbackAnswers} {world : World}

/-- The attributes at an inode other than 0 are those of the row with this number. -/
theorem outcome_getattr (runs : answers.runs 0 = true) {ino : Nat} (inside : ino ≠ rootInode) :
    outcome (getattr answers ino) world =
      (Database.rowAtInode world.db ino).elim (.error .enoent) fun row => .ok (fileToAttr answers.now row) := by
  rw [getattr, if_neg inside, getFileByInode, outcome_bind_orEio_select, if_pos runs]
  cases Database.rowAtInode world.db ino with
  | none => rfl
  | some row => rfl

/-- A row that is shown at an inode is stored with its number. -/
theorem of_rowAtInode {db : Database} {ino : Nat} {row : Row DriveFile}
    (found : Database.rowAtInode db ino = some row) :
    row ∈ db.driveFiles.rows ∧ row.rowid = ino ∧ row.data.isTrashed = false := by
  rcases Table.of_findRow?_eq_some found with ⟨member, condition⟩
  simp only [Bool.and_eq_true, decide_eq_true_eq, Bool.not_eq_true'] at condition
  exact ⟨member, condition.1, condition.2⟩

/-- The kernel's root has attributes only when a row is shown there. -/
theorem exposed_of_getattr (runs : answers.runs 0 = true) {attr : FileAttr}
    (answered : outcome (getattr answers fuseRootId) world = .ok attr) :
    ∃ row ∈ world.db.driveFiles.rows, row.data.isTrashed = false ∧ row.rowid = fuseRootId := by
  rw [outcome_getattr runs (by decide)] at answered
  cases found : Database.rowAtInode world.db fuseRootId with
  | none =>
      rw [found] at answered
      cases answered
  | some row =>
      rcases of_rowAtInode found with ⟨member, number, live⟩
      exact ⟨row, member, live, number⟩

end Callbacks

/-- An insert answers the next row number. -/
theorem outcome_insertFile (runs : Bool) (file : DriveFile) (db : Database) :
    outcome (insertFile runs file) db =
      if runs && (db.file file.id file.accountId).isNone && db.hasAccount file.accountId then
        .ok db.driveFiles.nextRowid
      else .error databaseError :=
  outcome_statement (runs && (db.file file.id file.accountId).isNone && db.hasAccount file.accountId)
    databaseError (fun later : Database => (later.driveFiles.nextRowid, later.putFile file)) db

/-- The first row of a table gets the kernel's inode of the root. -/
theorem first_inode {db : Database} (none : db.driveFiles.rows = []) {file : DriveFile}
    (account : db.hasAccount file.accountId = true) :
    outcome (insertFile true file) db = .ok fuseRootId := by
  have absent : db.file file.id file.accountId = Option.none := by
    rw [Database.file, KeyedTable.lookup, KeyedTable.lookupRow, Table.findRow?, none]
    rfl
  have number : db.driveFiles.nextRowid = fuseRootId := by
    rw [Table.nextRowid, Table.lastRowid, none]
    rfl
  rw [outcome_insertFile, absent, account, number]
  rfl

/-- In no state is the kernel's root My Drive. -/
theorem kernel_root_is_never_my_drive (world : World) : ¬ RootIsMyDrive world := by
  intro holds
  rcases holds.attributes (CallbackAnswers.allRun 0 0) rfl with ⟨attr, answered, _⟩
  rcases exposed_of_getattr rfl answered with ⟨row, member, live, number⟩
  exact holds.unexposed row member live number

/-- A database with one account and no file. -/
def withAccount : Database :=
  { Database.fresh with accounts := Database.fresh.accounts.upsert ⟨"ann@example.com", "ann@example.com", 0⟩ }

/-- A file created in an empty My Drive is what the kernel takes for the root. -/
theorem notes_become_root :
    let created := final (create (CallbackAnswers.allRun 1 1) "/cache" rootInode (some "notes.txt"))
      (World.around withAccount)
    ¬ RootIsMyDrive created ∧
      (outcome (getattr (CallbackAnswers.allRun 1 1) fuseRootId) created).toOption.map FileAttr.isDirectory =
        some false := by
  refine ⟨fun holds => ?_, by decide⟩
  have shown : ∃ row ∈ (final (create (CallbackAnswers.allRun 1 1) "/cache" rootInode (some "notes.txt"))
      (World.around withAccount)).db.driveFiles.rows, row.data.isTrashed = false ∧ row.rowid = fuseRootId := by
    decide
  rcases shown with ⟨row, member, live, number⟩
  exact holds.unexposed row member live number

end Tree
end GDriver
