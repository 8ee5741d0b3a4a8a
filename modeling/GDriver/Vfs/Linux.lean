import GDriver.Sync.Tasks
import GDriver.Vfs.Queries

namespace GDriver
namespace Vfs

open Library Routine Db Sync

/-!
# The mounted file system

The callbacks of the mounted file system that change something: they work on
the database, on the cache files on disk, and on the table of open handles.
Each ends with a reply or with an error number.  A name that is not valid
text is no name.
-/

/-- The error numbers the callbacks reply with. -/
inductive Errno where
  | enoent
  | eio
  | eisdir
  | enotdir
  | enotempty
  | eexist
  | ebadf
  | eopnotsupp
  deriving DecidableEq, Repr

/-- What one callback meets: whether its statements are executed and its calls
fail, each counted from zero in the order of the source, and its clocks. -/
structure CallbackAnswers where
  runs : Nat → Bool
  failures : Nat → Option String
  now : Int
  nanos : Nat

/-- Every statement and every call succeeds. -/
def CallbackAnswers.allRun (now : Int) (nanos : Nat) : CallbackAnswers where
  runs := fun _ => true
  failures := fun _ => none
  now := now
  nanos := nanos

/-- A database routine whose failure is an input/output error. -/
def orEio {α : Type} (routine : Routine String Database α) : Routine Errno World α :=
  mapError (fun _ => .eio) (onDb routine)

/-- A call that fails with an input/output error. -/
def callOrEio (failure : Option String) : Routine Errno World Unit :=
  match failure with
  | some _ => throw .eio
  | none => pure ()

/-- A value that must be there. -/
def orErrno {α : Type} (errno : Errno) (found : Option α) : Routine Errno World α :=
  match found with
  | some value => pure value
  | none => throw errno

/-- Refuse to go on. -/
def refuseIf (condition : Bool) (errno : Errno) : Routine Errno World Unit :=
  if condition then throw errno else pure ()

/-- The local cache path for a file. -/
def cachePath (cacheDir accountId fileId : String) : String :=
  joinPath (joinPath cacheDir accountId) fileId

/-- Guess a MIME type from a file name extension. -/
def guessMimeFromName (name : String) : String :=
  guessMime name

/-- The account and the parent for a new entry of a directory.  At the root an
account has to be found first. -/
def newEntryOwner (parentRuns accountRuns : Bool) (parent : Nat) :
    Routine Errno World (String × Option String) := do
  match ← orEio (getParentInfo parentRuns parent) with
  | some (accountId, parentFileId) => pure (accountId, some parentFileId)
  | none =>
      if parent = rootInode then do
        let accountId ← orErrno .eio (← orEio (getFirstAccountId accountRuns))
        pure (accountId, none)
      else throw .enoent

/-- The attributes of an entry.  The change and creation times are those of
the last modification. -/
structure FileAttr where
  ino : Nat
  size : Nat
  blocks : Nat
  atime : Int
  mtime : Int
  isDirectory : Bool
  perm : Nat
  nlink : Nat
  deriving DecidableEq, Repr

/-- A signed 64-bit number read as an unsigned one. -/
def asUnsigned (value : Int) : Nat :=
  if value < 0 then (value + 18446744073709551616).toNat else value.toNat

/-- The attributes of the root. -/
def rootAttr (now : Int) : FileAttr where
  ino := rootInode
  size := 0
  blocks := 0
  atime := now
  mtime := now
  isDirectory := true
  perm := 0o755
  nlink := 2

/-- The attributes of a row.  A column without a value counts as zero. -/
def fileToAttr (now : Int) (row : Row DriveFile) : FileAttr :=
  let size := if row.data.isFolder then 0 else asUnsigned (row.data.size.getD 0)
  { ino := row.rowid
    size := size
    blocks := (size + 511) / 512
    atime := now
    mtime := asUnsigned (row.data.modifiedTime.getD 0)
    isDirectory := row.data.isFolder
    perm := if row.data.isFolder then 0o755 else 0o644
    nlink := if row.data.isFolder then 2 else 1 }

/-- The attributes of an inode. -/
def getattr (answers : CallbackAnswers) (ino : Nat) : Routine Errno World FileAttr :=
  if ino = rootInode then pure (rootAttr answers.now)
  else do
    let row ← orErrno .enoent (← orEio (getFileByInode (answers.runs 0) ino))
    pure (fileToAttr answers.now row)

/-- Open a regular file. -/
def openFile (answers : CallbackAnswers) (cacheDir : String) (ino : Nat) :
    Routine Errno World Nat := do
  refuseIf (ino = rootInode) .eisdir
  let details ← orErrno .enoent (← orEio (getFileDetailsByInode (answers.runs 0) ino))
  refuseIf details.isFolder .eisdir
  refuseIf (isGoogleWorkspaceMime details.mimeType) .eopnotsupp
  let fh ← inspect World.nextFh
  let localPath := details.localPath.getD (cachePath cacheDir details.accountId details.id)
  perform (World.openFile ⟨ino, localPath⟩)
  pure fh

/-- The handle a callback is called with, if it is that of the inode. -/
def validHandle (ino fh : Nat) : Routine Errno World OpenHandle := do
  let handle ← orErrno .ebadf ((← inspect World.openFiles) fh)
  if handle.ino = ino then pure handle else throw .ebadf

/-- The first half of a read, before it waits: a file that is not there is
requested from the engine. -/
def requestContent (answers : CallbackAnswers) (cacheDir : String) (ino fh : Nat) :
    Routine Errno World Unit := do
  let _ ← validHandle ino fh
  let details ← orErrno .enoent (← orEio (getFileDetailsByInode (answers.runs 0) ino))
  let localPath := details.localPath.getD (cachePath cacheDir details.accountId details.id)
  let present ← inspect fun world => (world.disk localPath).isSome
  if details.syncState = .cloudOnly || !present then do
    callOrEio (answers.failures 0)
    let _ ← orEio (enqueueDownloadTask (answers.runs 1) answers.now details.accountId details.id
      localPath)
    pure ()
  else pure ()

/-- What others do while a read waits for a download, and how the wait ends. -/
structure DownloadWait where
  meanwhile : World → World
  downloaded : Except String Bool

/-- Have a file downloaded that is not there, and wait for it. -/
def awaitContent (answers : CallbackAnswers) (details : DriveFile) (localPath : String)
    (wait : DownloadWait) : Routine Errno World Unit := do
  let present ← inspect fun world => (world.disk localPath).isSome
  if details.syncState = .cloudOnly || !present then do
    callOrEio (answers.failures 0)
    let _ ← orEio (enqueueDownloadTask (answers.runs 1) answers.now details.accountId details.id
      localPath)
    perform wait.meanwhile
    match wait.downloaded with
    | .ok true => pure ()
    | _ => throw .eio
  else pure ()

/-- The bytes of a local file from an offset on. -/
def readContent (answers : CallbackAnswers) (localPath : String) (offset size : Nat) :
    Routine Errno World (List UInt8) := do
  callOrEio (answers.failures 1)
  let file ← orErrno .eio ((← inspect World.disk) localPath)
  callOrEio (answers.failures 2)
  callOrEio (answers.failures 3)
  pure ((file.bytes.drop offset).take size)

/-- Read from an open file, after a download if it is not there. -/
def read (answers : CallbackAnswers) (cacheDir : String) (ino fh offset size : Nat)
    (wait : DownloadWait) : Routine Errno World (List UInt8) := do
  let _ ← validHandle ino fh
  let details ← orErrno .enoent (← orEio (getFileDetailsByInode (answers.runs 0) ino))
  let localPath := details.localPath.getD (cachePath cacheDir details.accountId details.id)
  awaitContent answers details localPath wait
  readContent answers localPath offset size

/-- Create and open a file. -/
def create (answers : CallbackAnswers) (cacheDir : String) (parent : Nat) (name : Option String) :
    Routine Errno World Nat := do
  let name ← orErrno .enoent name
  let (accountId, parentFileId) ← newEntryOwner (answers.runs 0) (answers.runs 1) parent
  let tempFileId := "local-" ++ toString answers.nanos
  let localPath := cachePath cacheDir accountId tempFileId
  callOrEio (answers.failures 0)
  let ino ← orEio (insertLocalFile (answers.runs 2) answers.now tempFileId accountId name
    (guessMimeFromName name) parentFileId localPath)
  callOrEio (answers.failures 1)
  perform (World.putOnDisk localPath (some ⟨[], answers.now⟩))
  let fh ← inspect World.nextFh
  perform (World.openFile ⟨ino, localPath⟩)
  pure fh

/-- What is in an empty file after a write at an offset.  The gap before the
bytes is only filled when there are bytes. -/
def writtenAt (offset : Nat) (arrived : List UInt8) : List UInt8 :=
  if arrived.isEmpty then [] else List.replicate offset 0 ++ arrived

/-- Write to an open file.  The local file is opened anew, and emptied, at
every write; `written` of the bytes get through. -/
def write (answers : CallbackAnswers) (ino fh offset : Nat) (data : List UInt8) (written : Nat) :
    Routine Errno World Nat := do
  let handle ← validHandle ino fh
  callOrEio (answers.failures 0)
  perform (World.putOnDisk handle.localPath (some ⟨[], answers.now⟩))
  callOrEio (answers.failures 1)
  callOrEio (answers.failures 2)
  let arrived := data.take written
  perform (World.putOnDisk handle.localPath
    (some ⟨writtenAt offset arrived, answers.now⟩))
  attempt (onDb (updateFileSizeMtime (answers.runs 0) ino ((offset + arrived.length : Nat) : Int)
    answers.now))
  pure arrived.length

/-- Enqueue an upload for a locally-modified open file. -/
def uploadIfModified (answers : CallbackAnswers) (ino fh : Nat) : Routine Errno World Unit := do
  let handle ← validHandle ino fh
  let details ← orErrno .ebadf (← mapError (fun _ => .ebadf)
    (onDb (getFileDetailsByInode (answers.runs 0) ino)))
  if details.syncState = .modified then do
    let _ ← orEio (enqueueUploadTask (answers.runs 1) answers.now details.accountId details.id
      handle.localPath)
    pure ()
  else pure ()

def flush : CallbackAnswers → Nat → Nat → Routine Errno World Unit :=
  uploadIfModified

def fsync : CallbackAnswers → Nat → Nat → Routine Errno World Unit :=
  uploadIfModified

/-- Enqueue a task for the row with this inode, if it is found, and do
something with it.  Errors of either are ignored. -/
def announce (answers : CallbackAnswers) (ino : Nat) (operation : TaskOperation)
    (andThen : DriveFile → Routine Errno World Unit) : Routine Errno World Unit := do
  match ← observe (onDb (getFileDetailsByInode (answers.runs 1) ino)) with
  | .ok (some details) => do
      attempt (onDb (enqueueTask (answers.runs 2) answers.now details.accountId details.id operation
        details.localPath))
      andThen details
  | _ => pure ()

/-- Remove a file. -/
def unlink (answers : CallbackAnswers) (parent : Nat) (name : Option String) :
    Routine Errno World Unit := do
  let name ← orErrno .enoent name
  let row ← orErrno .enoent (← orEio (lookupByParentAndName (answers.runs 0) parent name))
  refuseIf row.data.isFolder .eisdir
  announce answers row.rowid .delete fun details =>
    match details.localPath with
    | none => pure ()
    | some localPath => attempt (removeFile (answers.failures 0) localPath)
  orEio (softDeleteByInode (answers.runs 3) row.rowid)

/-- Rename the cache file along with its row. -/
def renameCacheFile (failure : Option String) (newName : String) (details : DriveFile) :
    Routine Errno World Unit :=
  match details.localPath with
  | none => pure ()
  | some oldPath =>
      match parentPath oldPath with
      | none => pure ()
      | some directory => attempt (renameFile failure oldPath (joinPath directory newName))

/-- Refuse a name that is found in the directory.  A lookup that fails finds
nothing. -/
def refuseIfTaken (runs : Bool) (parent : Nat) (name : String) : Routine Errno World Unit := do
  match ← observe (onDb (lookupByParentAndName runs parent name)) with
  | .ok (some _) => throw .eexist
  | _ => pure ()

/-- The file id of the directory a file is moved to; none for the root. -/
def newParentOf (runs : Bool) (newParent : Nat) : Routine Errno World (Option String) := do
  if newParent = rootInode then pure none
  else
    match ← observe (onDb (getParentInfo runs newParent)) with
    | .ok (some (_, parentFileId)) => pure (some parentFileId)
    | _ => throw .enoent

/-- Rename or move a file. -/
def rename (answers : CallbackAnswers) (parent : Nat) (name : Option String) (newParent : Nat)
    (newName : Option String) : Routine Errno World Unit := do
  let name ← orErrno .enoent name
  let newName ← orErrno .enoent newName
  let row ← orErrno .enoent (← orEio (lookupByParentAndName (answers.runs 0) parent name))
  refuseIfTaken (answers.runs 3) newParent newName
  let newParentId ← newParentOf (answers.runs 4) newParent
  orEio (renameRow (answers.runs 5) answers.now row.rowid newName newParentId)
  announce answers row.rowid .rename (renameCacheFile (answers.failures 0) newName)

/-- Create a folder. -/
def mkdir (answers : CallbackAnswers) (parent : Nat) (name : Option String) :
    Routine Errno World Nat := do
  let name ← orErrno .enoent name
  refuseIfTaken (answers.runs 0) parent name
  let (accountId, parentFileId) ← newEntryOwner (answers.runs 1) (answers.runs 2) parent
  let tempFileId := "local-folder-" ++ toString answers.nanos
  orEio (insertLocalFolder (answers.runs 3) answers.now tempFileId accountId name parentFileId)

/-- Remove an empty folder. -/
def rmdir (answers : CallbackAnswers) (parent : Nat) (name : Option String) :
    Routine Errno World Unit := do
  let name ← orErrno .enoent name
  let row ← orErrno .enoent (← orEio (lookupByParentAndName (answers.runs 0) parent name))
  refuseIf (!row.data.isFolder) .enotdir
  refuseIf (← orEio (hasChildren (answers.runs 4) row.rowid)) .enotempty
  announce answers row.rowid .delete fun _ => pure ()
  orEio (softDeleteByInode (answers.runs 3) row.rowid)

/-- Close an open file. -/
def release (fh : Nat) : Routine Errno World Unit :=
  perform (World.releaseFile fh)

end Vfs
end GDriver
