import GDriver.Vfs.Queries
import GDriver.World

namespace GDriver
namespace Ipc

open Library Routine Db Sync

/-!
# Request handlers

The handlers of the JSON-RPC requests that change the database: pinning a
file for offline use, clearing the cache, and the requests of the file
provider.  Parameters arrive as the handlers extract them: none when the
request does not carry them in the right type.
-/

/-- The error of a response. -/
inductive RpcError where
  | invalidParams (message : String)
  | notFound (message : String)
  | internalError (message : String)
  deriving DecidableEq, Repr

/-- The part of the configuration and of the environment that the handlers
read. -/
structure RouterContext where
  mountPoint : String
  homeDir : Option String
  cacheDir : String

/-- What one request meets: whether its statements are executed, counted from
zero in the order of the source, and its clocks. -/
structure RpcAnswers where
  runs : Nat → Bool
  now : Int
  nanos : Nat

/-- Every statement is executed. -/
def RpcAnswers.allRun (now : Int) (nanos : Nat) : RpcAnswers where
  runs := fun _ => true
  now := now
  nanos := nanos

/-- A database routine whose failure is an internal error. -/
def orInternal {α : Type} (routine : Routine String Database α) : Routine RpcError Database α :=
  mapError .internalError routine

/-- A value that must be there. -/
def orRpcError {α : Type} (error : RpcError) (found : Option α) : Routine RpcError Database α :=
  match found with
  | some value => pure value
  | none => throw error

/-- Extract a required parameter. -/
def requiredParam {α : Type} (key : String) (param : Option α) : Routine RpcError Database α :=
  orRpcError (.invalidParams (key ++ " is required")) param

/-- Expand a leading tilde to the home directory. -/
def expandTilde (homeDir : Option String) (path : String) : String :=
  match homeDir with
  | none => path
  | some home =>
      if startsWith path "~/" then home ++ "/" ++ String.ofList (path.toList.drop 2)
      else if path = "~" then home
      else path

/-- The path relative to the mount point, if the text of the path begins with
that of the mount point. -/
def relativeToMount (ctx : RouterContext) (path : String) : Option String :=
  let mount := trimEndMatches (expandTilde ctx.homeDir ctx.mountPoint) '/'
  let absPath := if startsWith path "/" then path else "/" ++ path
  if startsWith absPath mount then
    some (trimStartMatches (String.ofList (absPath.toList.drop mount.toList.length)) '/')
  else none

/-- Try to find a file by stripping the mount point from the path and
searching for the relative portion. -/
def resolvePathUnderMount (ctx : RouterContext) (runs : Bool) (path : String) :
    Routine RpcError Database (Option DriveFile) :=
  match relativeToMount ctx path with
  | none => pure none
  | some "" => pure none
  | some relative => orInternal (findFileByRelativeSuffix runs relative)

/-- Resolve a file by its local path: exact match first, then by the relative
path under the mount point. -/
def resolveFileForPath (ctx : RouterContext) (answers : RpcAnswers) (path : String) :
    Routine RpcError Database DriveFile := do
  match ← orInternal (getFileByLocalPath (answers.runs 0) path) with
  | some file => pure file
  | none =>
      orRpcError (.notFound "file not found for path")
        (← resolvePathUnderMount ctx (answers.runs 1) path)

/-! ## Offline handlers -/

/-- Reset all user-pinned offline files back to `cached` state. -/
def handleOfflineClearCache (runs : Bool) : Routine RpcError Database Unit :=
  orInternal (execute runs fun db =>
    db.updateFiles (fun row => row.data.syncState = .offline && !row.data.isTrashed)
      (DriveFile.inState .cached) (DriveFile.key_inState .cached))

/-- The state a request to change the offline availability asks for. -/
def offlineState (enabled : Bool) : SyncState :=
  if enabled then .offline else .cached

/-- Change a file's offline availability. -/
def handleFsSetOffline (ctx : RouterContext) (answers : RpcAnswers) (path : Option String)
    (enabled : Option Bool) : Routine RpcError Database SyncState := do
  let path ← requiredParam "path" path
  let enabled ← orRpcError (.invalidParams "enabled (bool) is required") enabled
  let file ← resolveFileForPath ctx answers path
  orInternal (setSyncState (answers.runs 2) file.id file.accountId (offlineState enabled))
  pure (offlineState enabled)

/-! ## File provider handlers -/

/-- Trigger the download of a file and answer its local path. -/
def handleFpFetchContents (ctx : RouterContext) (answers : RpcAnswers) (path : Option String) :
    Routine RpcError Database String := do
  let path ← requiredParam "path" path
  let file ← resolveFileForPath ctx answers path
  let localPath :=
    file.localPath.getD (ctx.cacheDir ++ "/" ++ file.accountId ++ "/" ++ file.id)
  let _ ← orInternal (Vfs.enqueueDownloadTask (answers.runs 2) answers.now file.accountId file.id
    localPath)
  pure localPath

/-- Guess the MIME type of a file name for the file provider. -/
def guessMime (name : String) : String :=
  match (((splitAtLast '.' name.toList).map Prod.snd).getD name.toList).map Char.toLower |>
      String.ofList with
  | "jpg" | "jpeg" => "image/jpeg"
  | "png" => "image/png"
  | "gif" => "image/gif"
  | "webp" => "image/webp"
  | "svg" => "image/svg+xml"
  | "mp4" => "video/mp4"
  | "webm" => "video/webm"
  | "mp3" => "audio/mpeg"
  | "wav" => "audio/wav"
  | "pdf" => "application/pdf"
  | "json" => "application/json"
  | "xml" => "application/xml"
  | "zip" => "application/zip"
  | "gz" => "application/gzip"
  | "txt" | "md" | "csv" => "text/plain"
  | "html" | "htm" => "text/html"
  | "css" => "text/css"
  | "js" | "mjs" => "application/javascript"
  | "ts" => "application/typescript"
  | "doc" | "docx" => "application/msword"
  | "xls" | "xlsx" => "application/vnd.ms-excel"
  | "ppt" | "pptx" => "application/vnd.ms-powerpoint"
  | _ => "application/octet-stream"

/-- Create a new file or folder.  A file that comes without content gets no
upload. -/
def handleFpCreateItem (answers : RpcAnswers) (name : Option String) (isFolder : Option Bool)
    (localPath : Option String) : Routine RpcError Database String := do
  let name ← requiredParam "name" name
  let isFolder := isFolder.getD false
  let accountId ← orRpcError (.internalError "no account connected")
    (← orInternal (getFirstAccountId (answers.runs 0)))
  let tempId := "local-" ++ toString answers.nanos
  if isFolder then do
    let _ ← orInternal (Vfs.insertFile (answers.runs 1)
      (Vfs.localFile answers.now tempId accountId name folderMimeType none none .cloudOnly))
    pure tempId
  else do
    let _ ← orInternal (Vfs.insertFile (answers.runs 1)
      (Vfs.localFile answers.now tempId accountId name (guessMime name) none localPath .modified))
    match localPath with
    | none => pure tempId
    | some path => do
        let _ ← orInternal
          (Vfs.enqueueUploadTask (answers.runs 2) answers.now accountId tempId path)
        pure tempId

/-- The file under a new name. -/
def renamed (now : Int) (newName : String) (file : DriveFile) : DriveFile :=
  { file with
    name := newName
    modifiedTime := some now }

/-- The file with new content at a path, awaiting upload. -/
def rewritten (now : Int) (localPath : String) (file : DriveFile) : DriveFile :=
  { file with
    localPath := some localPath
    syncState := .modified
    modifiedTime := some now }

/-- The file moved to the trash. -/
def discarded (now : Int) (file : DriveFile) : DriveFile :=
  { file with
    isTrashed := true
    modifiedTime := some now }

/-- Change the row of a file. -/
def updateRow (runs : Bool) (file : DriveFile) (change : DriveFile → DriveFile)
    (keeps : ∀ row, (change row).key = row.key) : Routine RpcError Database Unit :=
  orInternal (execute runs fun db => db.updateFileAt file.id file.accountId change keeps)

/-- Give a file a new name, if there is one. -/
def modifyName (answers : RpcAnswers) (file : DriveFile) (newName : Option String) :
    Routine RpcError Database Unit :=
  match newName with
  | none => pure ()
  | some newName => do
      updateRow (answers.runs 2) file (renamed answers.now newName) fun _ => rfl
      let _ ← orInternal (Vfs.enqueueTask (answers.runs 3) answers.now file.accountId file.id .rename
        file.localPath)
      pure ()

/-- Give a file new content, if there is any. -/
def modifyContent (answers : RpcAnswers) (file : DriveFile) (localPath : Option String) :
    Routine RpcError Database Unit :=
  match localPath with
  | none => pure ()
  | some localPath => do
      updateRow (answers.runs 4) file (rewritten answers.now localPath) fun _ => rfl
      let _ ← orInternal (Vfs.enqueueUploadTask (answers.runs 5) answers.now file.accountId file.id
        localPath)
      pure ()

/-- Rename a file or write new content. -/
def handleFpModifyItem (ctx : RouterContext) (answers : RpcAnswers) (path newName : Option String)
    (localPath : Option String) : Routine RpcError Database Unit := do
  let path ← requiredParam "path" path
  let file ← resolveFileForPath ctx answers path
  modifyName answers file newName
  modifyContent answers file localPath

/-- Trash a file. -/
def handleFpDeleteItem (ctx : RouterContext) (answers : RpcAnswers) (path : Option String) :
    Routine RpcError Database Unit := do
  let path ← requiredParam "path" path
  let file ← resolveFileForPath ctx answers path
  updateRow (answers.runs 2) file (discarded answers.now) fun _ => rfl
  let _ ← orInternal (Vfs.enqueueTask (answers.runs 3) answers.now file.accountId file.id .delete
    file.localPath)
  pure ()

end Ipc
end GDriver
