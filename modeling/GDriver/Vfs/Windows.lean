import GDriver.Vfs.Linux

namespace GDriver
namespace Vfs

open Library Routine Db Sync

/-!
# The mounted drive on Windows

On Windows a file is named by its path in the mount, whose components are looked up one after the
other.  A rename may replace what has its new name.
-/

/-- The path functions of a platform. -/
structure PathFunctions where
  parent : String → Option String
  join : String → String → String

/-- The local cache path for a file. -/
def PathFunctions.cachePath (paths : PathFunctions) (cacheDir accountId fileId : String) : String :=
  paths.join (paths.join cacheDir accountId) fileId

/-- Those of the systems whose paths are separated by slashes. -/
def PathFunctions.unix : PathFunctions where
  parent := parentPath
  join := joinPath

namespace Windows

/-- The status codes that callbacks end with. -/
inductive NtStatus where
  | objectPathNotFound
  | objectNameNotFound
  | objectNameCollision
  | internalError
  | invalidDeviceRequest
  | ioTimeout
  | notSupported
  deriving DecidableEq, Repr

/-- A database routine whose failure is an internal error. -/
def orInternalError {α : Type} (routine : Routine String Database α) : Routine NtStatus World α :=
  mapError (fun _ => .internalError) (onDb routine)

/-- A call that fails with an internal error. -/
def callOrInternalError (failure : Option String) : Routine NtStatus World Unit :=
  match failure with
  | some _ => throw .internalError
  | none => pure ()

/-- A value that must be there. -/
def orStatus {α : Type} (status : NtStatus) (found : Option α) : Routine NtStatus World α :=
  match found with
  | some value => pure value
  | none => throw status

/-- Refuse to go on. -/
def refuseIf (condition : Bool) (status : NtStatus) : Routine NtStatus World Unit :=
  if condition then throw status else pure ()

/-- A path of the mount without the separators in front. -/
def cleanPath (path : String) : List Char :=
  (path.toList.dropWhile fun first => first = '\\').dropWhile fun first => first = '/'

/-- The components of the directory of a path, and the last component. -/
def splitPath (path : String) : List String × String :=
  match splitAtLast '\\' (cleanPath path) with
  | none => ([], String.ofList (cleanPath path))
  | some ([], name) => ([], String.ofList name)
  | some (parent, name) => ((splitAtEvery '\\' parent).map String.ofList, String.ofList name)

/-- Walk from a directory down to the one that these components lead to.  The lookups are counted
from `first` on. -/
def walk (runs : Nat → Bool) (missing : NtStatus) : Nat → List String → Nat → Routine NtStatus World Nat
  | _, [], inode => pure inode
  | first, component :: rest, inode => do
      let row ← orStatus missing (← orInternalError (lookupByParentAndName (runs first) inode component))
      walk runs missing (first + 1) rest row.rowid

/-- The second half of an open, which has walked to an inode. -/
def openInode (paths : PathFunctions) (answers : CallbackAnswers) (cacheDir : String) (ino : Nat) :
    Routine NtStatus World OpenHandle := do
  let details ← orStatus .objectNameNotFound (← orInternalError (getFileDetailsByInode (answers.runs 0) ino))
  refuseIf (isGoogleWorkspaceMime details.mimeType) .notSupported
  pure ⟨ino, details.localPath.getD (paths.cachePath cacheDir details.accountId details.id)⟩

/-- Open a path of the mount; the root is opened without a file. -/
def openPath (paths : PathFunctions) (answers : CallbackAnswers) (cacheDir path : String) :
    Routine NtStatus World OpenHandle :=
  if (cleanPath path).isEmpty then pure ⟨rootInode, ""⟩
  else do
    let ino ← walk answers.runs .objectNameNotFound 7
      ((splitAtEvery '\\' (cleanPath path)).map String.ofList) rootInode
    openInode paths answers cacheDir ino

/-- Have a file downloaded that is not there, and wait for it. -/
def awaitContent (answers : CallbackAnswers) (details : DriveFile) (localPath : String) (wait : DownloadWait) :
    Routine NtStatus World Unit := do
  let present ← inspect fun world => (world.disk localPath).isSome
  if details.syncState = .cloudOnly || !present then do
    callOrInternalError (answers.failures 0)
    let _ ← orInternalError (enqueueDownloadTask (answers.runs 1) answers.now details.accountId details.id localPath)
    perform wait.meanwhile
    match wait.downloaded with
    | .ok true => pure ()
    | .ok false => throw .ioTimeout
    | .error _ => throw .internalError
  else pure ()

/-- The bytes of a local file from an offset on. -/
def readContent (answers : CallbackAnswers) (localPath : String) (offset size : Nat) :
    Routine NtStatus World (List UInt8) := do
  callOrInternalError (answers.failures 1)
  let file ← orStatus .internalError ((← inspect World.disk) localPath)
  callOrInternalError (answers.failures 2)
  callOrInternalError (answers.failures 3)
  pure ((file.bytes.drop offset).take size)

/-- Read from an open file, after a download if it is not there. -/
def read (paths : PathFunctions) (answers : CallbackAnswers) (cacheDir : String) (ino offset size : Nat)
    (wait : DownloadWait) : Routine NtStatus World (List UInt8) := do
  refuseIf (ino = rootInode) .invalidDeviceRequest
  let details ← orStatus .objectNameNotFound (← orInternalError (getFileDetailsByInode (answers.runs 0) ino))
  let localPath := details.localPath.getD (paths.cachePath cacheDir details.accountId details.id)
  awaitContent answers details localPath wait
  readContent answers localPath offset size

/-- Make way for a rename: what has the new name is trashed, if it may be replaced.  A lookup that
fails finds nothing. -/
def replaceTarget (answers : CallbackAnswers) (newParent : Nat) (newName : String) (replaceIfExists : Bool) :
    Routine NtStatus World Unit := do
  match ← observe (onDb (lookupByParentAndName (answers.runs 3) newParent newName)) with
  | .ok (some target) =>
      if replaceIfExists then orInternalError (softDeleteByInode (answers.runs 6) target.rowid)
      else throw .objectNameCollision
  | _ => pure ()

/-- The file id of the directory a file is moved to; none for the root. -/
def newParentOf (runs : Bool) (newParent : Nat) : Routine NtStatus World (Option String) := do
  if newParent = rootInode then pure none
  else
    match ← observe (onDb (getParentInfo runs newParent)) with
    | .ok (some (_, parentFileId)) => pure (some parentFileId)
    | _ => throw .objectPathNotFound

/-- Rename the cache file along with its row. -/
def renameCacheFile (paths : PathFunctions) (failure : Option String) (newName : String) (details : DriveFile) :
    Routine Errno World Unit :=
  match details.localPath with
  | none => pure ()
  | some oldPath =>
      match paths.parent oldPath with
      | none => pure ()
      | some directory => attempt (renameFile failure oldPath (paths.join directory newName))

/-- Rename or move a file.  The errors of the announcement are ignored. -/
def rename (paths : PathFunctions) (answers : CallbackAnswers) (fileName newFileName : String)
    (replaceIfExists : Bool) : Routine NtStatus World Unit := do
  let (oldDirectory, oldName) := splitPath fileName
  let (newDirectory, newName) := splitPath newFileName
  let oldParent ← walk answers.runs .objectPathNotFound 7 oldDirectory rootInode
  let newParent ← walk answers.runs .objectPathNotFound (7 + oldDirectory.length) newDirectory rootInode
  let row ← orStatus .objectNameNotFound
    (← orInternalError (lookupByParentAndName (answers.runs 0) oldParent oldName))
  replaceTarget answers newParent newName replaceIfExists
  let newParentId ← newParentOf (answers.runs 4) newParent
  orInternalError (renameRow (answers.runs 5) answers.now row.rowid newName newParentId)
  mapError (fun _ => .internalError)
    (announce answers row.rowid .rename (renameCacheFile paths (answers.failures 0) newName))

example : splitPath "\\docs\\work\\notes.txt" = (["docs", "work"], "notes.txt") := by decide

end Windows
end Vfs
end GDriver
