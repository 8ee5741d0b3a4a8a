import GDriver.Sync.Downloader

namespace GDriver
namespace Sync

open Library Routine Db Api

/-!
# Conflict detection and resolution

A conflict occurs when both the local file and the remote Drive file have been
modified since the last sync.  Resolution keeps both versions: the local copy
is renamed with a "conflict copy" suffix and uploaded separately, while the
remote version is downloaded to the original path.
-/

/-- Whether both the local file and the remote Drive file have changed since
the last sync. -/
def detectConflict (currentLocalMtimeMs : Int) (dbRecord : Db.DriveFile)
    (currentRemoteEtag : String) : Bool :=
  let localChanged := dbRecord.localMtime.any fun stored => stored < currentLocalMtimeMs
  let remoteChanged := dbRecord.etag.any fun stored => stored ≠ currentRemoteEtag
  localChanged && remoteChanged

/-- A clock reading as text.  The format has no slash in it. -/
structure Timestamp where
  text : String
  noSlash : '/' ∉ text.toList
  deriving DecidableEq, Repr

theorem notMem_newYear : '/' ∉ "2026-01-01 00:00:00".toList := by decide

/-- What one resolution meets.  `timestamp` is the clock reading in the name
of the conflict copy. -/
structure ResolveAnswers where
  timestamp : Timestamp
  renameFailure : Option String
  readFailure : Option String
  server : UploadReply
  upsertsCopy : Bool
  fetched : Fetched
  landFailure : Option String
  statsFile : Bool
  upsertsRecord : Bool
  completes : Bool
  now : Int

/-- Every statement and every call succeeds, and the server stores the copy. -/
def ResolveAnswers.allRun (server : UploadReply) (written : DiskFile) (now : Int) :
    ResolveAnswers where
  timestamp := ⟨"2026-01-01 00:00:00", notMem_newYear⟩
  renameFailure := none
  readFailure := none
  server := server
  upsertsCopy := true
  fetched := ⟨some written, none, isSome_written written⟩
  landFailure := none
  statsFile := true
  upsertsRecord := true
  completes := true
  now := now

/-- The name of the conflict copy of the file at a path. -/
def conflictName (timestamp localPath : String) : String :=
  (fileStem localPath).getD "Untitled" ++ " (conflict copy " ++ timestamp ++ ")" ++
    ((extension localPath).map fun ext => "." ++ ext).getD ""

/-- The conflict copy stands next to the file. -/
def conflictPath (timestamp localPath : String) : String :=
  joinPath ((parentPath localPath).getD ".") (conflictName timestamp localPath)

/-- The row of the file after its remote version has been downloaded. -/
def resolvedFile (dbRecord : Db.DriveFile) (remoteFile : Api.DriveFile) (localPath : String)
    (landed : Option DiskFile) : Db.DriveFile :=
  { dbRecord with
    syncState := .cached
    localPath := some localPath
    etag := remoteFile.etag.or dbRecord.etag
    version := (remoteFile.version.bind parseI64).or dbRecord.version
    size := (landed.map fun file => (file.bytes.length : Int)).or dbRecord.size
    localMtime :=
      ((landed.map DiskFile.mtime).filter fun mtime => 0 ≤ mtime).or dbRecord.localMtime }

/-- Upload the conflict copy and store its row.  Without an upload the copy
remains on disk only. -/
def uploadConflictCopy [Rfc3339] (answers : ResolveAnswers) (task : SyncTask)
    (dbRecord : Db.DriveFile) (localPath : String) (content : List UInt8) :
    Routine String World Unit := do
  let metadata : CreateFileMetadata :=
    ⟨conflictName answers.timestamp.text localPath, guessMime (conflictPath answers.timestamp.text localPath),
      dbRecord.parentId.map fun parent => [parent]⟩
  match ← observe (filesUpload task.accountId metadata content answers.server) with
  | .ok apiFile =>
      onDb (attempt (upsertFile answers.upsertsCopy (mapApiFileToDb apiFile task.accountId)))
  | .error _ => pure ()

/-- Keep both versions. -/
def resolveConflict [Rfc3339] (answers : ResolveAnswers) (task : SyncTask)
    (dbRecord : Db.DriveFile) (localPath : String) (remoteFile : Api.DriveFile) :
    Routine String World Unit := do
  let copy := conflictPath answers.timestamp.text localPath
  renameFile answers.renameFailure localPath copy
  let content ← readFile answers.readFailure copy
  uploadConflictCopy answers task dbRecord localPath content
  perform (World.send task.accountId (.download dbRecord.id))
  writeFetched answers.fetched (tmpPath localPath)
  renameFile answers.landFailure (tmpPath localPath) localPath
  let landed ← inspect fun world => if answers.statsFile then world.disk localPath else none
  onDb (upsertFile answers.upsertsRecord (resolvedFile dbRecord remoteFile localPath landed))
  onDb (updateTaskStatus answers.completes answers.now (task.id.getD 0) .completed
    (some "conflict resolved"))

/-- What one conflict check meets. -/
structure ConflictAnswers where
  looksUp : Bool
  statsFile : Bool
  remote : Except String Api.DriveFile
  resolve : ResolveAnswers

/-- Check for a conflict before uploading.  Answers whether one was detected
and resolved; an error makes the caller fall back to the normal upload. -/
def checkAndResolve [Rfc3339] (answers : ConflictAnswers) (task : SyncTask)
    (fileId localPath : String) : Routine String World Bool := do
  match ← onDb (getFileById answers.looksUp fileId task.accountId) with
  | none => pure false
  | some dbRecord =>
      match ← inspect (mtimeOf answers.statsFile localPath) with
      | none => pure false
      | some currentLocalMtime => do
          perform (World.send task.accountId (.get fileId))
          match answers.remote with
          | .error _ => pure false
          | .ok remoteFile =>
              match remoteFile.etag with
              | none => pure false
              | some currentRemoteEtag =>
                  if detectConflict currentLocalMtime dbRecord currentRemoteEtag then do
                    resolveConflict answers.resolve task dbRecord localPath remoteFile
                    pure true
                  else pure false

end Sync
end GDriver
