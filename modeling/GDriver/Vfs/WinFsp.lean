import GDriver.Vfs.Directories
import GDriver.Vfs.Windows

namespace GDriver
namespace Vfs
namespace Windows

open Library Routine Db Sync

/-!
# The other callbacks on Windows

A callback gets the handle that the file was opened with.  Directories are listed from a name on and not
from an offset on, and a file is deleted when its last handle is cleaned up.
-/

/-- All status codes of the callbacks. -/
inductive CallbackStatus where
  | ofNtStatus (status : NtStatus)
  | notADirectory
  | directoryNotEmpty
  | cannotDelete
  deriving DecidableEq, Repr

/-- A routine whose status is one of many. -/
def widened {α : Type} (routine : Routine NtStatus World α) : Routine CallbackStatus World α :=
  mapError .ofNtStatus routine

/-- Refuse to go on, with one of many codes. -/
def refuseWith (condition : Bool) (status : CallbackStatus) : Routine CallbackStatus World Unit :=
  if condition then throw status else pure ()

/-- What Windows gets to know about a file. -/
structure FileInfo where
  isDirectory : Bool
  allocationSize : Nat
  fileSize : Nat
  creationTime : Int
  lastAccessTime : Int
  lastWriteTime : Int
  changeTime : Int
  indexNumber : Nat
  deriving DecidableEq, Repr

/-- What Windows gets to know about a row.  A column without a value counts as zero. -/
def fileToInfo (now : Int) (row : Row DriveFile) : FileInfo :=
  let size := if row.data.isFolder then 0 else asUnsigned (row.data.size.getD 0)
  let mtime : Int := asUnsigned (row.data.modifiedTime.getD 0)
  { isDirectory := row.data.isFolder
    allocationSize := size
    fileSize := size
    creationTime := mtime
    lastAccessTime := now
    lastWriteTime := mtime
    changeTime := mtime
    indexNumber := row.rowid }

/-- What is known about an empty file or folder of this moment. -/
def emptyInfo (isDirectory : Bool) (now : Int) (indexNumber : Nat) : FileInfo where
  isDirectory := isDirectory
  allocationSize := 0
  fileSize := 0
  creationTime := now
  lastAccessTime := now
  lastWriteTime := now
  changeTime := now
  indexNumber := indexNumber

/-- The row with a name in a directory, which must be there. -/
def lookupComponent (runs : Bool) (missing : NtStatus) (inode : Nat) (component : String) :
    Routine CallbackStatus World (Row DriveFile) :=
  widened do orStatus missing (← orInternalError (lookupByParentAndName runs inode component))

/-- Walk down through folders only. -/
def walkFolders (runs : Nat → Bool) (missing : NtStatus) :
    Nat → List String → Nat → Routine CallbackStatus World Nat
  | _, [], inode => pure inode
  | first, component :: rest, inode => do
      let row ← lookupComponent (runs first) missing inode component
      refuseWith (!row.data.isFolder) .notADirectory
      walkFolders runs missing (first + 1) rest row.rowid

/-- Whether a path is that of a directory.  All its components but the last must be folders. -/
def getSecurityByName (answers : CallbackAnswers) (path : String) : Routine CallbackStatus World Bool :=
  if path = "" || path = "\\" || path = "/" then pure true
  else do
    let components := (splitAtEvery '\\' (cleanPath path)).map String.ofList
    let parent ← walkFolders answers.runs .objectNameNotFound 7 components.dropLast rootInode
    let row ← lookupComponent (answers.runs (7 + components.dropLast.length)) .objectNameNotFound parent
      (components.getLast?.getD "")
    pure row.data.isFolder

/-- Whether an entry is behind the one that a listing goes on after. -/
def isBehind (marker : Option String) (name : String) : Bool :=
  match marker with
  | none => true
  | some last => !decide (name ≤ last)

/-- List a directory behind a name, as far as the buffer has room. -/
def readDirectory (answers : CallbackAnswers) (ino : Nat) (marker : Option String) (room : Nat) :
    Routine NtStatus World (List (String × FileInfo)) := do
  let children ← orInternalError (listChildrenByInode (answers.runs 0) ino)
  let behind := children.filter fun child => isBehind marker child.data.name
  pure ((behind.take room).map fun child => (child.data.name, fileToInfo answers.now child))

/-- Write to an open file.  The local file is opened anew, and emptied, at every write; `written` of the
bytes get through. -/
def write (answers : CallbackAnswers) (handle : OpenHandle) (offset : Nat) (buffer : List UInt8) (written : Nat) :
    Routine NtStatus World Nat := do
  refuseIf (handle.ino = rootInode) .invalidDeviceRequest
  callOrInternalError (answers.failures 0)
  perform (World.putOnDisk handle.localPath (some ⟨[], answers.now⟩))
  callOrInternalError (answers.failures 1)
  callOrInternalError (answers.failures 2)
  let arrived := buffer.take written
  perform (World.putOnDisk handle.localPath (some ⟨writtenAt offset arrived, answers.now⟩))
  attempt (onDb (updateFileSizeMtime (answers.runs 0) handle.ino ((offset + arrived.length : Nat) : Int) answers.now))
  pure arrived.length

/-- Enqueue an upload for a locally-modified open file.  All errors are ignored. -/
def flush (answers : CallbackAnswers) (handle : OpenHandle) : Routine NtStatus World Unit := do
  if handle.ino = rootInode then pure ()
  else
    match ← observe (onDb (getFileDetailsByInode (answers.runs 0) handle.ino)) with
    | .ok (some details) =>
        if details.syncState = .modified then
          attempt (onDb (enqueueUploadTask (answers.runs 1) answers.now details.accountId details.id handle.localPath))
        else pure ()
    | _ => pure ()

/-- Clean up a handle; the first flag says that the file is being deleted.  All errors are ignored. -/
def cleanup (answers : CallbackAnswers) (ino flags : Nat) : Routine NtStatus World Unit :=
  if flags % 2 = 1 && ino ≠ rootInode then do
    mapError (fun _ => .internalError) (announce answers ino .delete fun details =>
      match details.localPath with
      | none => pure ()
      | some localPath => attempt (removeFile (answers.failures 0) localPath))
    attempt (onDb (softDeleteByInode (answers.runs 3) ino))
  else pure ()

/-- The account and the parent for a new entry of a directory.  At the root an account has to be found. -/
def newEntryOwner (parentRuns accountRuns : Bool) (parent : Nat) :
    Routine CallbackStatus World (String × Option String) := do
  if parent = rootInode then do
    let accountId ← widened do orStatus .internalError (← orInternalError (getFirstAccountId accountRuns))
    pure (accountId, none)
  else
    match ← observe (onDb (getParentInfo parentRuns parent)) with
    | .ok (some (accountId, parentFileId)) => pure (accountId, some parentFileId)
    | _ => throw (.ofNtStatus .objectPathNotFound)

/-- Refuse a name that is found in the directory.  A lookup that fails finds nothing. -/
def refuseCollision (runs : Bool) (parent : Nat) (name : String) : Routine CallbackStatus World Unit := do
  match ← observe (onDb (lookupByParentAndName runs parent name)) with
  | .ok (some _) => throw (.ofNtStatus .objectNameCollision)
  | _ => pure ()

/-- The row for a new folder. -/
def createFolder (answers : CallbackAnswers) (owner : String × Option String) (name : String) :
    Routine NtStatus World (OpenHandle × FileInfo) := do
  let tempFileId := "local-" ++ toString answers.nanos
  let ino ← orInternalError (insertLocalFolder (answers.runs 3) answers.now tempFileId owner.1 name owner.2)
  pure (⟨ino, ""⟩, emptyInfo true answers.now ino)

/-- The row for a new file, and an empty file in the cache. -/
def createFile (paths : PathFunctions) (answers : CallbackAnswers) (cacheDir : String)
    (owner : String × Option String) (name : String) : Routine NtStatus World (OpenHandle × FileInfo) := do
  let tempFileId := "local-" ++ toString answers.nanos
  let localPath := paths.cachePath cacheDir owner.1 tempFileId
  callOrInternalError (answers.failures 0)
  let ino ← orInternalError (insertLocalFile (answers.runs 3) answers.now tempFileId owner.1 name
    (guessMimeFromName name) owner.2 localPath)
  callOrInternalError (answers.failures 1)
  perform (World.putOnDisk localPath (some ⟨[], answers.now⟩))
  pure (⟨ino, localPath⟩, emptyInfo false answers.now ino)

/-- Create a file or a folder at a path that must be free. -/
def create (paths : PathFunctions) (answers : CallbackAnswers) (cacheDir path : String) (isDirectory : Bool) :
    Routine CallbackStatus World (OpenHandle × FileInfo) := do
  let (directory, name) := splitPath path
  let parent ← walkFolders answers.runs .objectPathNotFound 7 directory rootInode
  refuseCollision (answers.runs 0) parent name
  let owner ← newEntryOwner (answers.runs 1) (answers.runs 2) parent
  widened (if isDirectory then createFolder answers owner name else createFile paths answers cacheDir owner name)

/-- The bytes of a file that is cut or filled with zeros to a size. -/
def setLen (size : Nat) (bytes : List UInt8) : List UInt8 :=
  bytes.take size ++ List.replicate (size - bytes.length) 0

/-- Set the size of an open file.  An allocation size says nothing about the content. -/
def setFileSize (answers : CallbackAnswers) (handle : OpenHandle) (newSize : Nat) (setAllocationSize : Bool) :
    Routine NtStatus World Unit := do
  refuseIf (handle.ino = rootInode) .invalidDeviceRequest
  if setAllocationSize then pure ()
  else do
    callOrInternalError (answers.failures 0)
    let file ← orStatus .internalError ((← inspect World.disk) handle.localPath)
    callOrInternalError (answers.failures 1)
    perform (World.putOnDisk handle.localPath (some ⟨setLen newSize file.bytes, answers.now⟩))
    attempt (onDb (updateFileSizeMtime (answers.runs 0) handle.ino newSize answers.now))

/-- Whether an open file may be deleted: the root and what has children may not. -/
def canDelete (answers : CallbackAnswers) (ino : Nat) : Routine CallbackStatus World Unit := do
  refuseWith (ino = rootInode) .cannotDelete
  let row ← widened do orStatus .objectNameNotFound (← orInternalError (getFileByInode (answers.runs 0) ino))
  if row.data.isFolder then do
    let occupied ← widened (orInternalError (hasChildren (answers.runs 1) ino))
    refuseWith occupied .directoryNotEmpty
  else pure ()

end Windows
end Vfs
end GDriver
