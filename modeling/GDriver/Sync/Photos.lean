import GDriver.Sync.Tasks

namespace GDriver
namespace Sync

open Library Routine Db

/-!
# Google Photos backup

A media file is backed up in two steps: its bytes are uploaded for a token,
and a media item is created from the token.  A failure is recorded on the task
row only; the events pushed to the user interface change no state and are left
out.
-/

/-- The extensions of the supported image and video formats. -/
def photoExtensions : List String :=
  ["jpg", "jpeg", "png", "gif", "bmp", "tiff", "tif", "webp", "heic", "heif", "raw", "cr2", "nef",
    "arw", "dng", "mp4", "mov", "avi", "wmv", "flv", "mkv", "3gp", "m4v", "mpg", "mpeg", "webm"]

/-- Whether the file at a path has a supported format. -/
def isSupportedPhotoFormat (path : String) : Bool :=
  (extension path).any fun ext => photoExtensions.contains ext.toLower

/-- The status of the creation of a media item. -/
structure MediaItemStatus where
  message : Option String
  code : Option Int
  deriving DecidableEq, Repr

/-- The result of creating a single media item. -/
structure MediaItemResult where
  status : Option MediaItemStatus
  hasMediaItem : Bool
  deriving DecidableEq, Repr

/-- What one `backupPhoto` meets. -/
structure PhotosAnswers where
  marks : Bool
  readFailure : Option String
  uploadToken : Except String String
  batchCreate : Except String (List MediaItemResult)
  completes : Bool
  setsStatus : Bool
  now : Int

/-- Every statement and every call succeeds, and the server creates the item. -/
def PhotosAnswers.allRun (uploadToken : String) (now : Int) : PhotosAnswers where
  marks := true
  readFailure := none
  uploadToken := .ok uploadToken
  batchCreate := .ok [⟨some ⟨some "Success", some 0⟩, true⟩]
  completes := true
  setsStatus := true
  now := now

/-- Record a failed attempt on the task row. -/
def handlePhotoFailure (answers : PhotosAnswers) (task : SyncTask) (taskId : Nat)
    (errorMsg : String) : Routine String World Unit :=
  let newRetry := task.retryCount + 1
  if maxRetries < newRetry then
    onDb (updateTaskStatus answers.setsStatus answers.now taskId .failed (some errorMsg))
  else
    onDb (updateTaskRetry answers.setsStatus answers.now taskId .pending newRetry (some errorMsg))

/-- Upload the bytes of the file at a path for an upload token. -/
def uploadMediaItemFromPath (answers : PhotosAnswers) (accountId localPath : String) :
    Routine String World String := do
  let content ← readFile answers.readFailure localPath
  perform (World.send accountId (.uploadMedia content))
  received answers.uploadToken

/-- Process a single Photos backup task. -/
def backupPhoto (answers : PhotosAnswers) (task : SyncTask) : Routine String World Unit :=
  match task.id with
  | none => pure ()
  | some taskId =>
      let complete :=
        onDb (updateTaskStatus answers.completes answers.now taskId .completed none)
      match task.localPath with
      | none =>
          onDb (updateTaskStatus answers.completes answers.now taskId .completed
            (some "no local_path"))
      | some localPath =>
          if !isSupportedPhotoFormat localPath then
            handlePhotoFailure answers task taskId ("unsupported photo format: " ++ localPath)
          else do
            onDb (updateTaskStatus answers.marks answers.now taskId .inProgress none)
            match ← observe (uploadMediaItemFromPath answers task.accountId localPath) with
            | .error failure =>
                handlePhotoFailure answers task taskId ("upload failed: " ++ failure)
            | .ok uploadToken => do
                perform (World.send task.accountId
                  (.batchCreate uploadToken ((fileName localPath).getD "Untitled")))
                match answers.batchCreate with
                | .error failure =>
                    handlePhotoFailure answers task taskId ("batchCreate failed: " ++ failure)
                | .ok [] =>
                    handlePhotoFailure answers task taskId "batchCreate returned empty results"
                | .ok (⟨some ⟨message, code⟩, _⟩ :: _) =>
                    if code = some 0 then complete
                    else
                      handlePhotoFailure answers task taskId
                        ("Photos API error: " ++ message.getD "unknown")
                | .ok (⟨none, hasMediaItem⟩ :: _) =>
                    if hasMediaItem then complete
                    else
                      handlePhotoFailure answers task taskId
                        "batchCreate returned no status and no mediaItem"

end Sync
end GDriver
