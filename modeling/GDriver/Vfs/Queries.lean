import GDriver.Sync.Incremental

namespace GDriver
namespace Vfs

open Library Routine Db Sync

/-!
# Database queries of the mounted file system

The mounted file system names a file by the number of its row, and the root
of My Drive by a number no row has.  Every query of its listings leaves out
trashed rows.
-/

/-- The inode of the root.  Row numbers begin at 1. -/
def rootInode : Nat := 0

namespace Database

/-- The row with this number, unless it is trashed. -/
def rowAtInode (db : Database) (inode : Nat) : Option (Row DriveFile) :=
  db.driveFiles.findRow? fun row => row.rowid = inode && !row.data.isTrashed

/-- Whether a row is a child of the directory with this inode: the rows
without a parent are the children of the root. -/
def isChildOf (db : Database) (parentInode : Nat) (file : DriveFile) : Bool :=
  if parentInode = rootInode then file.parentId.isNone
  else
    db.driveFiles.rows.any fun parent =>
      parent.rowid = parentInode && some parent.data.id = file.parentId &&
        parent.data.accountId = file.accountId

/-- The first row of the scan with this name in this directory. -/
def childNamed (db : Database) (parentInode : Nat) (name : String) : Option (Row DriveFile) :=
  db.driveFiles.findRow? fun row =>
    isChildOf db parentInode row.data && row.data.name = name && !row.data.isTrashed

/-- Whether the directory has any non-trashed children. -/
def hasChildren (db : Database) (inode : Nat) : Bool :=
  if inode = rootInode then
    db.driveFiles.records.any fun file => file.parentId.isNone && !file.isTrashed
  else
    match db.driveFiles.findRow? fun row => row.rowid = inode with
    | none => false
    | some directory =>
        db.driveFiles.records.any fun file =>
          file.parentId = some directory.data.id && !file.isTrashed

end Database

/-- Look up a file by parent inode and name. -/
def lookupByParentAndName (runs : Bool) (parentInode : Nat) (name : String) :
    Routine String Database (Option (Row DriveFile)) :=
  select runs fun db => Database.childNamed db parentInode name

/-- The row of a file with its inode. -/
def getFileByInode (runs : Bool) (inode : Nat) : Routine String Database (Option (Row DriveFile)) :=
  select runs fun db => Database.rowAtInode db inode

/-- The row of a file with its sync state and cache path. -/
def getFileDetailsByInode (runs : Bool) (inode : Nat) :
    Routine String Database (Option DriveFile) :=
  select runs fun db => (Database.rowAtInode db inode).map Row.data

/-- The account and the file id of a parent directory; none for the root. -/
def getParentInfo (runs : Bool) (parentInode : Nat) :
    Routine String Database (Option (String × String)) :=
  if parentInode = rootInode then pure none
  else
    select runs fun db =>
      (Database.rowAtInode db parentInode).map fun row => (row.data.accountId, row.data.id)

/-- Insert a row that is not there yet and answer its row number. -/
def insertFile (runs : Bool) (file : DriveFile) : Routine String Database Nat := fun db =>
  query (runs && (db.file file.id file.accountId).isNone && db.hasAccount file.accountId)
    (fun db => (db.driveFiles.nextRowid, db.putFile file)) db

theorem final_insertFile (runs : Bool) (file : DriveFile) (db : Database) :
    final (insertFile runs file) db =
      if runs && (db.file file.id file.accountId).isNone && db.hasAccount file.accountId then
        db.putFile file
      else db :=
  final_statement (runs && (db.file file.id file.accountId).isNone && db.hasAccount file.accountId)
    databaseError (fun later : Database => (later.driveFiles.nextRowid, later.putFile file)) db

/-- A row created locally: not known to Drive yet. -/
def localFile (now : Int) (fileId accountId name mimeType : String) (parentId : Option String)
    (localPath : Option String) (syncState : SyncState) : DriveFile where
  id := fileId
  accountId := accountId
  name := name
  mimeType := mimeType
  parentId := parentId
  size := some 0
  etag := none
  version := none
  modifiedTime := some now
  isTrashed := false
  isShared := false
  localPath := localPath
  syncState := syncState
  localMtime := none

/-- Insert a locally-created file and answer its inode. -/
def insertLocalFile (runs : Bool) (now : Int) (fileId accountId name mimeType : String)
    (parentId : Option String) (localPath : String) : Routine String Database Nat :=
  insertFile runs (localFile now fileId accountId name mimeType parentId (some localPath) .modified)

/-- Insert a locally-created folder and answer its inode. -/
def insertLocalFolder (runs : Bool) (now : Int) (fileId accountId name : String)
    (parentId : Option String) : Routine String Database Nat :=
  insertFile runs (localFile now fileId accountId name folderMimeType parentId none .cloudOnly)

/-- Change the row with this number. -/
def updateInode (runs : Bool) (inode : Nat) (change : DriveFile → DriveFile)
    (keeps : ∀ file, (change file).key = file.key) : Routine String Database Unit :=
  execute runs fun db => db.updateFiles (fun row => row.rowid = inode) change keeps

/-- The file with a new size and modification time, awaiting upload. -/
def resized (size modifiedTime : Int) (file : DriveFile) : DriveFile :=
  { file with
    size := some size
    modifiedTime := some modifiedTime
    syncState := .modified }

/-- Update the cached size and modification time for a file. -/
def updateFileSizeMtime (runs : Bool) (inode : Nat) (size modifiedTime : Int) :
    Routine String Database Unit :=
  updateInode runs inode (resized size modifiedTime) fun _ => rfl

/-- Soft-delete a file by inode. -/
def softDeleteByInode (runs : Bool) (inode : Nat) : Routine String Database Unit :=
  updateInode runs inode DriveFile.trashed DriveFile.key_trashed

/-- The file under a new name and parent, awaiting upload. -/
def moved (now : Int) (newName : String) (newParentId : Option String) (file : DriveFile) :
    DriveFile :=
  { file with
    name := newName
    parentId := newParentId
    modifiedTime := some now
    syncState := .modified }

/-- Rename a file and optionally move it to a new parent. -/
def renameRow (runs : Bool) (now : Int) (inode : Nat) (newName : String)
    (newParentId : Option String) : Routine String Database Unit :=
  updateInode runs inode (moved now newName newParentId) fun _ => rfl

/-- Whether the directory has any children. -/
def hasChildren (runs : Bool) (inode : Nat) : Routine String Database Bool :=
  select runs fun db => Database.hasChildren db inode

/-- Enqueue a task of the mounted file system or the file provider, which
come before all others. -/
def enqueueTask (runs : Bool) (now : Int) (accountId fileId : String) (operation : TaskOperation)
    (localPath : Option String) : Routine String Database SyncTask :=
  enqueue runs (pendingTask now accountId (some fileId) operation localPath 1)

def enqueueDownloadTask (runs : Bool) (now : Int) (accountId fileId localPath : String) :
    Routine String Database SyncTask :=
  enqueueTask runs now accountId fileId .download (some localPath)

def enqueueUploadTask (runs : Bool) (now : Int) (accountId fileId localPath : String) :
    Routine String Database SyncTask :=
  enqueueTask runs now accountId fileId .upload (some localPath)

end Vfs
end GDriver
