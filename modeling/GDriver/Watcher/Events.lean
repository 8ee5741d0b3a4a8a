import GDriver.Sync.Incremental
import GDriver.Library.Path

namespace GDriver
namespace Watcher

open Library Db Sync

/-!
# Local filesystem watcher

How an event under a watched folder becomes a task.  The task carries the path
and no file id.
-/

/-- What an event reports. -/
inductive EventKind where
  | create
  | modifyName
  | modifyData
  | modifyAny
  | modifyMetadata
  | modifyOther
  | removeFile
  | removeFolder
  | removeAny
  | removeOther
  | access
  | other
  deriving DecidableEq, Repr

/-- A watched sync folder. -/
structure WatchedFolder where
  root : String
  accountId : String
  folderType : String
  deriving DecidableEq, Repr

/-- What all spellings of one path share. -/
structure PathKey where
  absolute : Bool
  /-- Whether a relative path says that it begins here. -/
  fromHere : Bool
  parts : List String
  deriving DecidableEq, Repr

/-- Paths are told apart by their components. -/
def pathKey (path : String) : PathKey where
  absolute := startsWith path "/"
  fromHere := path = "." || startsWith path "./"
  parts := components path

example : pathKey "/home/ann//Docs/" = pathKey "/home/ann/Docs" := by decide

/-- All components: the root directory or a leading `.`, and then the parts. -/
def PathKey.steps (key : PathKey) : List String :=
  (if key.absolute then ["/"] else if key.fromHere then ["."] else []) ++ key.parts

/-- Whether a path is inside a folder, component by component. -/
def isInside (root path : String) : Bool :=
  (pathKey root).steps.isPrefixOf (pathKey path).steps

/-- The watched folder that owns the path: the one whose root is the longest text, in bytes; of
several the one met last. -/
def findOwningFolder (path : String) (folders : List WatchedFolder) : Option WatchedFolder :=
  (folders.filter fun folder => isInside folder.root path).foldl
    (fun best folder =>
      match best with
      | none => some folder
      | some kept =>
          if folder.root.utf8ByteSize < kept.root.utf8ByteSize then some kept else some folder)
    none

/-- The operation an event asks for. -/
def operationFor (isPhotos : Bool) : EventKind → Option TaskOperation
  | .create | .modifyName | .modifyData | .modifyAny | .modifyOther =>
      some (if isPhotos then .photosBackup else .upload)
  | .removeFile | .removeAny | .removeOther => some .delete
  | .modifyMetadata | .removeFolder | .access | .other => none

/-- Convert a single filesystem event to an optional task.  Directories and
paths outside every watched folder are ignored. -/
def eventToTask (path : String) (isDir : Bool) (kind : EventKind) (folders : List WatchedFolder)
    (now : Int) : Option SyncTask :=
  if isDir then none
  else
    match findOwningFolder path folders with
    | none => none
    | some folder =>
        (operationFor (folder.folderType = "photos") kind).map fun operation =>
          pendingTask now folder.accountId none operation (some path) 5

/-- The task of an event knows the path, and no file id. -/
theorem of_eventToTask {path : String} {isDir : Bool} {kind : EventKind}
    {folders : List WatchedFolder} {now : Int} {task : SyncTask}
    (watched : eventToTask path isDir kind folders now = some task) :
    task.fileId = none ∧ task.localPath = some path ∧ task.status = .pending := by
  rw [eventToTask] at watched
  split at watched
  · cases watched
  · split at watched
    · cases watched
    · rcases Option.map_eq_some_iff.mp watched with ⟨operation, _, same⟩
      rw [← same]
      exact ⟨rfl, rfl, rfl⟩

theorem isNew_of_eventToTask {path : String} {isDir : Bool} {kind : EventKind}
    {folders : List WatchedFolder} {now : Int} {task : SyncTask}
    (watched : eventToTask path isDir kind folders now = some task) : task.IsNew := by
  rw [eventToTask] at watched
  split at watched
  · cases watched
  · split at watched
    · cases watched
    · rcases Option.map_eq_some_iff.mp watched with ⟨operation, _, same⟩
      rw [← same]
      exact ⟨rfl, rfl⟩

end Watcher
end GDriver
