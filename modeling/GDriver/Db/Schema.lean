import GDriver.Library.Table

namespace GDriver
namespace Db

open Library

/-!
# The daemon's database

The tables of the daemon's SQLite database that the synchronisation code
reads and writes, with their primary keys.  A column that names one of a
fixed set of states is an inductive type here; the database stores its name.
Times are Unix milliseconds.

The tables of ignored devices, notifications and feedback, and the profile
columns of an account, are read by no function modelled here and are left out.
-/

/-- Per-file sync state, the `sync_state` column of `drive_files`. -/
inductive SyncState where
  /-- File exists only in the cloud; not cached locally. -/
  | cloudOnly
  /-- File is currently being downloaded. -/
  | downloading
  /-- File is currently being uploaded. -/
  | uploading
  /-- File is cached locally; can be evicted. -/
  | cached
  /-- File is pinned for offline access. -/
  | offline
  /-- Local file has unsaved changes awaiting upload. -/
  | modified
  /-- File is fully mirrored to disk. -/
  | synced
  /-- Last sync attempt failed. -/
  | error
  deriving DecidableEq, Repr

/-- Whether files are downloaded on demand or mirrored in full. -/
inductive SyncMode where
  | stream
  | mirror
  deriving DecidableEq, Repr

/-- The MIME type of a Drive folder. -/
def folderMimeType : String := "application/vnd.google-apps.folder"

/-- A row of `accounts`. -/
structure Account where
  id : String
  email : String
  lastUsedAt : Int
  deriving DecidableEq, Repr

/-- A row of `drive_files`: one Drive file or folder of one account. -/
structure DriveFile where
  id : String
  accountId : String
  name : String
  mimeType : String
  /-- The folder holding the file; none for the root of My Drive. -/
  parentId : Option String
  size : Option Int
  etag : Option String
  version : Option Int
  modifiedTime : Option Int
  isTrashed : Bool
  isShared : Bool
  /-- Local cache path in Stream mode, mirror path in Mirror mode. -/
  localPath : Option String
  syncState : SyncState
  /-- Last modified time of the local copy, for conflict detection. -/
  localMtime : Option Int
  deriving DecidableEq, Repr

/-- The primary key of `drive_files`. -/
def DriveFile.key (file : DriveFile) : String × String :=
  (file.id, file.accountId)

def DriveFile.isFolder (file : DriveFile) : Bool :=
  file.mimeType = folderMimeType

/-- What a queued task asks for. -/
inductive TaskOperation where
  | upload
  | download
  | delete
  | photosBackup
  | rename
  | move
  deriving DecidableEq, Repr

inductive TaskStatus where
  | pending
  | inProgress
  | completed
  | failed
  deriving DecidableEq, Repr

/-- A row of `sync_queue`: one pending, running or finished task. -/
structure SyncTask where
  /-- None until the task is stored. -/
  id : Option Nat
  accountId : String
  fileId : Option String
  operation : TaskOperation
  localPath : Option String
  /-- 1 (highest) to 10 (lowest). -/
  priority : Int
  status : TaskStatus
  retryCount : Int
  errorMsg : Option String
  createdAt : Int
  updatedAt : Int
  deriving DecidableEq, Repr

/-- A row of `sync_tokens`: the Changes API cursor of an account. -/
structure SyncToken where
  accountId : String
  pageToken : String
  updatedAt : Int
  deriving DecidableEq, Repr

/-- A row of `sync_folders`: one folder configured for syncing. -/
structure SyncFolder where
  accountId : String
  localPath : String
  folderType : String
  isEnabled : Bool
  deriving DecidableEq, Repr

/-- No account configures one path twice. -/
def SyncFolder.key (folder : SyncFolder) : String × String :=
  (folder.accountId, folder.localPath)

/-- A row of `sync_errors`: one persistent sync error. -/
structure SyncError where
  accountId : Option String
  fileId : Option String
  fileName : Option String
  errorCode : String
  errorMsg : String
  isResolved : Bool
  createdAt : Int
  deriving DecidableEq, Repr

/-- The task queue.  The `id` column of a stored task is its row number. -/
structure SyncQueue extends Table SyncTask where
  numbered : ∀ row ∈ rows, row.data.id = some row.rowid

namespace SyncQueue

def empty : SyncQueue where
  toTable := Table.empty
  numbered := by
    intro row member
    cases member

/-- Store a task under a fresh number. -/
def insert (queue : SyncQueue) (task : SyncTask) : SyncQueue where
  toTable := queue.toTable.insert { task with id := some queue.nextRowid }
  numbered := by
    intro row member
    rw [Table.rows_insert] at member
    rcases List.mem_append.mp member with stored | fresh
    · exact queue.numbered row stored
    · rw [List.mem_singleton.mp fresh]

/-- Change the selected tasks, leaving their numbers alone. -/
def update (queue : SyncQueue) (selected : Row SyncTask → Bool) (change : SyncTask → SyncTask)
    (keeps : ∀ task, (change task).id = task.id) : SyncQueue where
  toTable := queue.toTable.update selected change
  numbered := by
    intro row member
    rcases List.mem_map.mp member with ⟨before, stored, same⟩
    rw [← same]
    split
    · exact (keeps before.data).trans (queue.numbered before stored)
    · exact queue.numbered before stored

end SyncQueue

structure Database where
  accounts : KeyedTable Account.id
  driveFiles : KeyedTable DriveFile.key
  syncQueue : SyncQueue
  syncTokens : KeyedTable SyncToken.accountId
  syncFolders : KeyedTable SyncFolder.key
  syncErrors : Table SyncError

/-- The database right after the migrations have run. -/
def Database.fresh : Database where
  accounts := KeyedTable.empty
  driveFiles := KeyedTable.empty
  syncQueue := SyncQueue.empty
  syncTokens := KeyedTable.empty
  syncFolders := KeyedTable.empty
  syncErrors := Table.empty

/-- The file row of one account under a Drive id. -/
def Database.file (db : Database) (fileId accountId : String) : Option DriveFile :=
  db.driveFiles.lookup (fileId, accountId)

def Database.hasAccount (db : Database) (accountId : String) : Bool :=
  (db.accounts.lookup accountId).isSome

end Db
end GDriver
