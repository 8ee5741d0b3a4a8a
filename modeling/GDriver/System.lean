import GDriver.Ipc.Handlers
import GDriver.Sync.Engine
import GDriver.Vfs.Linux
import GDriver.Watcher.Events

namespace GDriver

open Library Routine Db Api

/-!
# The system

Everything that changes the state of the daemon, as one step function over
operations: the connection of accounts, the writes of both syncs, requests,
callbacks of the mounted file system, events of the watcher, the steps of the
engine, and the user working on local files.

The engine processes one task at a time.  Between the parts of a download and
of the removal of a local copy it waits, and other operations can come in
between; it then holds on to what it has looked up.  The other processors are
one step.  A poll or a mode switch may come at any moment here, though the
engine's loop takes them only between tasks: the runs of the program are among
the runs of this system.
-/

/-- What the engine is in the middle of. -/
inductive EngineState where
  | idle
  /-- The content of a download has been fetched. -/
  | fetched (download : Sync.Download)
  /-- The fetched content has been renamed into place. -/
  | landed (download : Sync.Download)
  /-- The row of a file to remove locally has been looked up. -/
  | removing (delete : Sync.RemoteDelete)
  /-- The local file has been removed. -/
  | removed (delete : Sync.RemoteDelete)
  deriving DecidableEq, Repr

structure System where
  world : World
  engine : EngineState

/-- The system right after its first start. -/
def System.initial : System where
  world := World.around Database.fresh
  engine := .idle

/-- A write to the database by a sync, or by the connection of an account. -/
inductive SyncWork where
  | connect (runs : Bool) (account : Account)
  | disconnect (runs : Bool) (accountId : String)
  | storeToken (runs : Bool) (now : Int) (accountId pageToken : String)
  /-- The upsert of one listed file. -/
  | listed (runs : Bool) (accountId : String) (apiFile : Api.DriveFile)
  | change (answers : Sync.ProcessChangeAnswers) (accountId : String) (reported : Change)
      (syncMode : SyncMode) (mountPoint : String)
  | mirror (answers : Sync.MirrorAnswers) (accountId mountPoint : String)
  | resetMirror (runs : Bool) (accountId : String)

/-- A request of the user interface or of the file provider. -/
inductive Rpc where
  | setOffline (path : Option String) (enabled : Option Bool)
  | clearCache
  | fetchContents (path : Option String)
  | createItem (name : Option String) (isFolder : Option Bool) (localPath : Option String)
  | modifyItem (path newName localPath : Option String)
  | deleteItem (path : Option String)

/-- A callback of the mounted file system. -/
inductive Callback where
  | openFile (ino : Nat)
  | read (ino fh : Nat)
  | create (parent : Nat) (name : Option String)
  | write (ino fh offset : Nat) (data : List UInt8) (written : Nat)
  | flush (ino fh : Nat)
  | fsync (ino fh : Nat)
  | unlink (parent : Nat) (name : Option String)
  | rename (parent : Nat) (name : Option String) (newParent : Nat) (newName : Option String)
  | mkdir (parent : Nat) (name : Option String)
  | rmdir (parent : Nat) (name : Option String)
  | release (fh : Nat)

/-- A step of the engine: take the next pending task, or go on with the part
of a task it is in the middle of. -/
inductive EngineStep where
  | begin (picks : Bool) (answers : Sync.TaskAnswers)
  | land (answers : Sync.DownloadAnswers)
  | record (answers : Sync.DownloadAnswers)
  | removeCopy (answers : Sync.DeleteAnswers)
  | recordDelete (answers : Sync.DeleteAnswers)
  /-- The daemon is stopped and started again. -/
  | restart

inductive Operation where
  | sync (work : SyncWork)
  | rpc (ctx : Ipc.RouterContext) (answers : Ipc.RpcAnswers) (request : Rpc)
  | vfs (cacheDir : String) (answers : Vfs.CallbackAnswers) (callback : Callback)
  /-- An event under a watched folder, when the engine is not paused. -/
  | event (path : String) (isDir : Bool) (kind : Watcher.EventKind)
      (folders : List Watcher.WatchedFolder) (now : Int) (runs : Bool)
  | engine (step : EngineStep)
  /-- The user writes or removes a file outside the mounted file system. -/
  | user (path : String) (file : Option DiskFile)

section Execution

variable [Rfc3339]

def SyncWork.run : SyncWork → Routine String Database Unit
  | .connect runs account => insertAccount runs account
  | .disconnect runs accountId => deleteAccount runs accountId
  | .storeToken runs now accountId pageToken => setToken runs now accountId pageToken
  | .listed runs accountId apiFile => upsertFile runs (mapApiFileToDb apiFile accountId)
  | .change answers accountId reported syncMode mountPoint =>
      Sync.processChange answers accountId reported syncMode mountPoint
  | .mirror answers accountId mountPoint =>
      attempt (Sync.enqueueMirrorDownloads answers accountId mountPoint)
  | .resetMirror runs accountId => Sync.resetMirrorToStream runs accountId

def Rpc.run (ctx : Ipc.RouterContext) (answers : Ipc.RpcAnswers) :
    Rpc → Routine Ipc.RpcError Database Unit
  | .setOffline path enabled => attempt (Ipc.handleFsSetOffline ctx answers path enabled)
  | .clearCache => Ipc.handleOfflineClearCache (answers.runs 0)
  | .fetchContents path => attempt (Ipc.handleFpFetchContents ctx answers path)
  | .createItem name isFolder localPath =>
      attempt (Ipc.handleFpCreateItem answers name isFolder localPath)
  | .modifyItem path newName localPath => Ipc.handleFpModifyItem ctx answers path newName localPath
  | .deleteItem path => Ipc.handleFpDeleteItem ctx answers path

def Callback.run (cacheDir : String) (answers : Vfs.CallbackAnswers) :
    Callback → Routine Vfs.Errno World Unit
  | .openFile ino => attempt (Vfs.openFile answers cacheDir ino)
  | .read ino fh => Vfs.requestContent answers cacheDir ino fh
  | .create parent name => attempt (Vfs.create answers cacheDir parent name)
  | .write ino fh offset data written => attempt (Vfs.write answers ino fh offset data written)
  | .flush ino fh => Vfs.flush answers ino fh
  | .fsync ino fh => Vfs.fsync answers ino fh
  | .unlink parent name => Vfs.unlink answers parent name
  | .rename parent name newParent newName => Vfs.rename answers parent name newParent newName
  | .mkdir parent name => attempt (Vfs.mkdir answers parent name)
  | .rmdir parent name => Vfs.rmdir answers parent name
  | .release fh => Vfs.release fh

/-- Enqueue the task of an event. -/
def watch (path : String) (isDir : Bool) (kind : Watcher.EventKind)
    (folders : List Watcher.WatchedFolder) (now : Int) (runs : Bool) :
    Routine String Database Unit :=
  match Watcher.eventToTask path isDir kind folders now with
  | none => pure ()
  | some task => attempt (enqueue runs task)

/-- Begin a download: up to the rename, or to its failure. -/
def beginDownload (answers : Sync.DownloadAnswers) (task : SyncTask) :
    Routine String World EngineState := do
  match ← Sync.startDownload answers task with
  | none => pure .idle
  | some download =>
      match ← observe (Sync.fetchContent answers download) with
      | .error failure => do
          Sync.failDownload answers download failure
          pure .idle
      | .ok () => pure (.fetched download)

/-- Begin a deletion: up to the removal of the local file, if it has one. -/
def beginDelete (answers : Sync.DeleteAnswers) (task : SyncTask) :
    Routine String World EngineState :=
  match task.id, task.fileId with
  | some taskId, some fileId => do
      onDb (updateTaskStatus answers.marks answers.now taskId .inProgress none)
      let delete ← Sync.lookUpRemoteDelete answers task taskId fileId
      pure (.removing delete)
  | _, _ => do
      Sync.deleteFile answers task
      pure .idle

/-- Begin the processing of a task.  Downloads and deletions stop where the
daemon waits; every other task is processed at once. -/
def beginTask (answers : Sync.TaskAnswers) (task : SyncTask) : Routine String World EngineState :=
  if answers.hasClient && task.operation = .download then beginDownload answers.download task
  else if answers.hasClient && task.operation = .delete then beginDelete answers.delete task
  else do
    Sync.processTask answers task
    pure .idle

/-- Take the next pending task and begin it. -/
def beginNext (picks : Bool) (answers : Sync.TaskAnswers) : Routine String World EngineState := do
  match ← onDb (nextPendingTask picks) with
  | none => pure .idle
  | some task => beginTask answers task

/-- Put the fetched content in place. -/
def landFetched (answers : Sync.DownloadAnswers) (download : Sync.Download) :
    Routine String World EngineState := do
  match ← observe (Sync.landDownload answers download) with
  | .error failure => do
      Sync.failDownload answers download ("rename failed: " ++ failure)
      pure .idle
  | .ok () => pure (.landed download)

/-- The state of the engine after a routine that answers it: idle after an
error, which is logged only. -/
def settle (routine : Routine String World EngineState) (world : World) : System where
  world := final routine world
  engine := match outcome routine world with
    | .ok engine => engine
    | .error _ => .idle

/-- A step of the engine does nothing in a state it does not belong to. -/
def EngineStep.exec (system : System) : EngineStep → System
  | .begin picks answers =>
      match system.engine with
      | .idle => settle (beginNext picks answers) system.world
      | _ => system
  | .land answers =>
      match system.engine with
      | .fetched download => settle (landFetched answers download) system.world
      | _ => system
  | .record answers =>
      match system.engine with
      | .landed download =>
          { world := final (Sync.recordDownload answers download) system.world, engine := .idle }
      | _ => system
  | .removeCopy answers =>
      match system.engine with
      | .removing delete =>
          { world := final (Sync.removeLocalCopy answers delete) system.world
            engine := .removed delete }
      | _ => system
  | .recordDelete answers =>
      match system.engine with
      | .removed delete =>
          { world := final (Sync.recordRemoteDelete answers delete) system.world, engine := .idle }
      | _ => system
  | .restart => { system with engine := .idle }

/-- Do something to the world, leaving the engine alone. -/
def System.onWorld (system : System) (world : World) : System :=
  { system with world := world }

/-- Do something to the database only. -/
def System.onDb (system : System) (db : Database) : System :=
  system.onWorld (system.world.withDb db)

/-- Carry out one operation. -/
def System.exec (system : System) : Operation → System
  | .sync work => system.onDb (final work.run system.world.db)
  | .rpc ctx answers request => system.onDb (final (request.run ctx answers) system.world.db)
  | .vfs cacheDir answers callback =>
      system.onWorld (final (callback.run cacheDir answers) system.world)
  | .event path isDir kind folders now runs =>
      system.onDb (final (watch path isDir kind folders now runs) system.world.db)
  | .engine step => step.exec system
  | .user path file => system.onWorld (system.world.putOnDisk path file)

end Execution

end GDriver
