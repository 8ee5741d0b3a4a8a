import GDriver.Moves.Engine
import Mathlib.Order.Defs.Unbundled

namespace GDriver

open Library Routine Db Vfs

/-!
# The moves of callbacks and requests

The same for the callbacks of the mounted file system and for the requests: a
relation that allows the moves of a routine allows every run of it.  Here each
routine names the moves it is made of.
-/

theorem keeps_orEio {allowed : World → World → Prop} {α : Type}
    {routine : Routine String Database α} (keeps : Keeps allowed (onDb routine)) : Keeps allowed (orEio routine) :=
  keeps_mapError keeps

section Callbacks

variable {allowed : World → World → Prop} [IsPreorder World allowed]

theorem keeps_orErrno {α : Type} (errno : Errno) (found : Option α) :
    Keeps allowed (orErrno errno found) := by
  cases found with
  | none => exact keeps_throw errno
  | some value => exact keeps_pure value

theorem keeps_refuseIf (condition : Bool) (errno : Errno) :
    Keeps allowed (refuseIf condition errno) := by
  cases condition with
  | false => exact keeps_pure ()
  | true => exact keeps_throw errno

theorem keeps_callOrEio (failure : Option String) : Keeps allowed (callOrEio failure) := by
  cases failure with
  | none => exact keeps_pure ()
  | some message => exact keeps_throw Errno.eio

theorem keeps_orEio_select {α : Type} (runs : Bool) (read : Database → α) :
    Keeps allowed (orEio (select runs read)) := by
  refine keeps_orEio fun world => ?_
  rw [final_onDb, final_select]
  exact Std.Refl.refl world

theorem keeps_getParentInfo (runs : Bool) (parent : Nat) :
    Keeps allowed (onDb (getParentInfo runs parent)) := by
  intro world
  rw [final_onDb, getParentInfo]
  split
  · exact Std.Refl.refl world
  · rw [final_select]
    exact Std.Refl.refl world

theorem keeps_validHandle (ino fh : Nat) : Keeps allowed (validHandle ino fh) := by
  refine keeps_bind (keeps_inspect _) fun handles => ?_
  refine keeps_bind (keeps_orErrno _ _) fun handle => ?_
  split
  · exact keeps_pure handle
  · exact keeps_throw Errno.ebadf

theorem keeps_newEntryOwner (parentRuns accountRuns : Bool) (parent : Nat) :
    Keeps allowed (newEntryOwner parentRuns accountRuns parent) := by
  refine keeps_bind (keeps_orEio (keeps_getParentInfo _ _)) fun info => ?_
  cases info with
  | some owner => exact keeps_pure _
  | none =>
      dsimp only
      split
      · refine keeps_bind (keeps_orEio_select _ _) fun account => ?_
        exact keeps_bind (keeps_orErrno _ _) fun _ => keeps_pure _
      · exact keeps_throw Errno.enoent

theorem keeps_openFile (opens : ∀ world handle, allowed world (World.openFile handle world))
    (answers : CallbackAnswers) (cacheDir : String) (ino : Nat) :
    Keeps allowed (Vfs.openFile answers cacheDir ino) := by
  refine keeps_bind (keeps_refuseIf _ _) fun _ => ?_
  refine keeps_bind (keeps_orEio_select _ _) fun details => ?_
  refine keeps_bind (keeps_orErrno _ _) fun details => ?_
  refine keeps_bind (keeps_refuseIf _ _) fun _ => ?_
  refine keeps_bind (keeps_refuseIf _ _) fun _ => ?_
  refine keeps_bind (keeps_inspect _) fun fh => ?_
  exact keeps_bind (keeps_perform fun world => opens world _) fun _ => keeps_pure fh

theorem keeps_requestContent
    (enqueues : ∀ runs now accountId fileId localPath,
      Keeps allowed (onDb (enqueueDownloadTask runs now accountId fileId localPath)))
    (answers : CallbackAnswers) (cacheDir : String) (ino fh : Nat) :
    Keeps allowed (requestContent answers cacheDir ino fh) := by
  refine keeps_bind (keeps_validHandle _ _) fun _ => ?_
  refine keeps_bind (keeps_orEio_select _ _) fun details => ?_
  refine keeps_bind (keeps_orErrno _ _) fun details => ?_
  refine keeps_bind (keeps_inspect _) fun present => ?_
  split
  · refine keeps_bind (keeps_callOrEio _) fun _ => ?_
    exact keeps_bind (keeps_orEio (enqueues _ _ _ _ _)) fun _ => keeps_pure ()
  · exact keeps_pure ()

theorem keeps_write (disk : ∀ world path file, allowed world (World.putOnDisk path file world))
    (resizes : ∀ runs ino size modifiedTime,
      Keeps allowed (onDb (updateFileSizeMtime runs ino size modifiedTime)))
    (answers : CallbackAnswers) (ino fh offset : Nat) (data : List UInt8) (written : Nat) :
    Keeps allowed (Vfs.write answers ino fh offset data written) := by
  refine keeps_bind (keeps_validHandle _ _) fun handle => ?_
  refine keeps_bind (keeps_callOrEio _) fun _ => ?_
  refine keeps_bind (keeps_perform fun world => disk world _ _) fun _ => ?_
  refine keeps_bind (keeps_callOrEio _) fun _ => ?_
  refine keeps_bind (keeps_callOrEio _) fun _ => ?_
  refine keeps_bind (keeps_perform fun world => disk world _ _) fun _ => ?_
  exact keeps_bind (keeps_attempt (resizes _ _ _ _)) fun _ => keeps_pure _

theorem keeps_uploadIfModified
    (enqueues : ∀ runs now accountId fileId localPath,
      Keeps allowed (onDb (enqueueUploadTask runs now accountId fileId localPath)))
    (answers : CallbackAnswers) (ino fh : Nat) :
    Keeps allowed (uploadIfModified answers ino fh) := by
  refine keeps_bind (keeps_validHandle _ _) fun handle => ?_
  refine keeps_bind (keeps_mapError ?_) fun details => ?_
  · intro world
    rw [final_onDb, getFileDetailsByInode, final_select]
    exact Std.Refl.refl world
  · refine keeps_bind (keeps_orErrno _ _) fun details => ?_
    split
    · exact keeps_bind (keeps_orEio (enqueues _ _ _ _ _)) fun _ => keeps_pure ()
    · exact keeps_pure ()

theorem keeps_create (disk : ∀ world path file, allowed world (World.putOnDisk path file world))
    (opens : ∀ world handle, allowed world (World.openFile handle world))
    {answers : CallbackAnswers}
    (inserts : ∀ fileId accountId name mimeType parentId localPath,
      Keeps allowed (onDb (insertFile (answers.runs 2)
        (localFile answers.now fileId accountId name mimeType parentId localPath .modified))))
    (cacheDir : String) (parent : Nat) (name : Option String) :
    Keeps allowed (Vfs.create answers cacheDir parent name) := by
  refine keeps_bind (keeps_orErrno _ _) fun name => ?_
  refine keeps_bind (keeps_newEntryOwner _ _ _) fun owner => ?_
  refine keeps_bind (keeps_callOrEio _) fun _ => ?_
  refine keeps_bind (keeps_orEio (inserts _ _ _ _ _ _)) fun ino => ?_
  refine keeps_bind (keeps_callOrEio _) fun _ => ?_
  refine keeps_bind (keeps_perform fun world => disk world _ _) fun _ => ?_
  refine keeps_bind (keeps_inspect _) fun fh => ?_
  exact keeps_bind (keeps_perform fun world => opens world _) fun _ => keeps_pure fh

theorem keeps_refuseIfTaken (runs : Bool) (parent : Nat) (name : String) :
    Keeps allowed (refuseIfTaken runs parent name) := by
  refine keeps_bind (keeps_observe fun world => ?_) fun taken => ?_
  · rw [final_onDb, lookupByParentAndName, final_select]
    exact Std.Refl.refl world
  · split
    · exact keeps_throw Errno.eexist
    · exact keeps_pure ()

theorem keeps_newParentOf (runs : Bool) (newParent : Nat) :
    Keeps allowed (newParentOf runs newParent) := by
  rw [newParentOf]
  split
  · exact keeps_pure none
  · refine keeps_bind (keeps_observe (keeps_getParentInfo _ _)) fun info => ?_
    split
    · exact keeps_pure _
    · exact keeps_throw Errno.enoent

theorem keeps_mkdir {answers : CallbackAnswers}
    (inserts : ∀ fileId accountId name mimeType parentId localPath,
      Keeps allowed (onDb (insertFile (answers.runs 3)
        (localFile answers.now fileId accountId name mimeType parentId localPath .cloudOnly))))
    (parent : Nat) (name : Option String) :
    Keeps allowed (Vfs.mkdir answers parent name) := by
  refine keeps_bind (keeps_orErrno _ _) fun name => ?_
  refine keeps_bind (keeps_refuseIfTaken _ _ _) fun _ => ?_
  refine keeps_bind (keeps_newEntryOwner _ _ _) fun owner => ?_
  exact keeps_orEio (inserts _ _ _ _ _ _)

section Announcing

variable {answers : CallbackAnswers}
  (enqueues : answers.runs 1 = true → ∀ task, task.IsNew → task.operation ≠ .download →
    Keeps allowed (onDb (enqueue (answers.runs 2) task)))
include enqueues

theorem keeps_announce (ino : Nat) {operation : TaskOperation} (other : operation ≠ .download)
    {andThen : DriveFile → Routine Errno World Unit} (goesOn : ∀ file, Keeps allowed (andThen file)) :
    Keeps allowed (announce answers ino operation andThen) := by
  refine keeps_bind_of_answers (keeps_observe fun world => ?_) fun world known answered => ?_
  · rw [final_onDb, getFileDetailsByInode, final_select]
    exact Std.Refl.refl world
  · rw [outcome_observe, outcome_onDb, getFileDetailsByInode, outcome_select] at answered
    cases answered
    split
    · next details found =>
        have runs : answers.runs 1 = true := by
          by_contra fails
          rw [if_neg fails] at found
          cases found
        exact keeps_bind (keeps_attempt (enqueues runs _ ⟨rfl, rfl⟩ other)) fun _ => goesOn _
    · exact keeps_pure ()

theorem keeps_unlink
    (removes : ∀ failure path, Keeps allowed (removeFile failure path))
    (trashes : ∀ ino, Keeps allowed (onDb (softDeleteByInode (answers.runs 3) ino)))
    (parent : Nat) (name : Option String) : Keeps allowed (unlink answers parent name) := by
  refine keeps_bind (keeps_orErrno _ _) fun name => ?_
  refine keeps_bind (keeps_orEio_select _ _) fun row => ?_
  refine keeps_bind (keeps_orErrno _ _) fun row => ?_
  refine keeps_bind (keeps_refuseIf _ _) fun _ => ?_
  refine keeps_bind (keeps_announce enqueues _ (by decide) fun details => ?_) fun _ => ?_
  · split
    · exact keeps_pure ()
    · exact keeps_attempt (removes _ _)
  · exact keeps_orEio (trashes _)

theorem keeps_rmdir
    (trashes : ∀ ino, Keeps allowed (onDb (softDeleteByInode (answers.runs 3) ino)))
    (parent : Nat) (name : Option String) : Keeps allowed (rmdir answers parent name) := by
  refine keeps_bind (keeps_orErrno _ _) fun name => ?_
  refine keeps_bind (keeps_orEio_select _ _) fun row => ?_
  refine keeps_bind (keeps_orErrno _ _) fun row => ?_
  refine keeps_bind (keeps_refuseIf _ _) fun _ => ?_
  refine keeps_bind (keeps_orEio_select _ _) fun taken => ?_
  refine keeps_bind (keeps_refuseIf _ _) fun _ => ?_
  refine keeps_bind (keeps_announce enqueues _ (by decide) fun _ => keeps_pure ()) fun _ => ?_
  exact keeps_orEio (trashes _)

theorem keeps_rename
    (moves : ∀ now ino newName newParentId,
      Keeps allowed (onDb (renameRow (answers.runs 5) now ino newName newParentId)))
    (renames : ∀ failure source target, Keeps allowed (renameFile failure source target))
    (parent : Nat) (name : Option String) (newParent : Nat) (newName : Option String) :
    Keeps allowed (rename answers parent name newParent newName) := by
  refine keeps_bind (keeps_orErrno _ _) fun name => ?_
  refine keeps_bind (keeps_orErrno _ _) fun newName => ?_
  refine keeps_bind (keeps_orEio_select _ _) fun row => ?_
  refine keeps_bind (keeps_orErrno _ _) fun row => ?_
  refine keeps_bind (keeps_refuseIfTaken _ _ _) fun _ => ?_
  refine keeps_bind (keeps_newParentOf _ _) fun newParentId => ?_
  refine keeps_bind (keeps_orEio (moves _ _ _ _)) fun _ => ?_
  refine keeps_announce enqueues _ (by decide) fun details => ?_
  rw [renameCacheFile]
  split
  · exact keeps_pure ()
  · split
    · exact keeps_pure ()
    · exact keeps_attempt (renames _ _ _)

end Announcing

end Callbacks

section Requests

open Ipc

variable {allowed : Database → Database → Prop} [IsPreorder Database allowed]

theorem keeps_orRpcError {α : Type} (error : RpcError) (found : Option α) :
    Keeps allowed (orRpcError error found) := by
  cases found with
  | none => exact keeps_throw error
  | some value => exact keeps_pure value

/-- Finding the file of a path changes nothing. -/
theorem keeps_resolveFileForPath (ctx : RouterContext) (answers : RpcAnswers) (path : String) :
    Keeps allowed (resolveFileForPath ctx answers path) := by
  refine keeps_bind (keeps_mapError (keeps_select _ _)) fun exact => ?_
  cases exact with
  | some file => exact keeps_pure file
  | none =>
      refine keeps_bind ?_ fun found => keeps_orRpcError _ _
      rw [resolvePathUnderMount]
      split
      · exact keeps_pure none
      · exact keeps_pure none
      · exact keeps_mapError (keeps_select _ _)

theorem keeps_insertFile {file : DriveFile} (stores : ∀ db : Database, allowed db (db.putFile file))
    (runs : Bool) : Keeps allowed (insertFile runs file) := by
  intro db
  rw [final_insertFile]
  split
  · exact stores db
  · exact Std.Refl.refl db

omit [IsPreorder Database allowed] in
@[simp] theorem final_resolveFileForPath (ctx : RouterContext) (answers : RpcAnswers)
    (path : String) (db : Database) : final (resolveFileForPath ctx answers path) db = db :=
  (@keeps_resolveFileForPath Eq inferInstance ctx answers path db).symm

theorem keeps_handleFsSetOffline
    (sets : ∀ runs fileId accountId enabled,
      Keeps allowed (setSyncState runs fileId accountId (offlineState enabled)))
    (ctx : RouterContext) (answers : RpcAnswers) (path : Option String) (enabled : Option Bool) :
    Keeps allowed (handleFsSetOffline ctx answers path enabled) := by
  refine keeps_bind (keeps_orRpcError _ _) fun path => ?_
  refine keeps_bind (keeps_orRpcError _ _) fun enabled => ?_
  refine keeps_bind (keeps_resolveFileForPath _ _ _) fun file => ?_
  exact keeps_bind (keeps_mapError (sets _ _ _ _)) fun _ => keeps_pure _

theorem keeps_handleFpFetchContents
    (enqueues : ∀ runs now accountId fileId localPath,
      Keeps allowed (enqueueDownloadTask runs now accountId fileId localPath))
    (ctx : RouterContext) (answers : RpcAnswers) (path : Option String) :
    Keeps allowed (handleFpFetchContents ctx answers path) := by
  refine keeps_bind (keeps_orRpcError _ _) fun path => ?_
  refine keeps_bind (keeps_resolveFileForPath _ _ _) fun file => ?_
  exact keeps_bind (keeps_mapError (enqueues _ _ _ _ _)) fun _ => keeps_pure _

theorem keeps_modifyContent
    (updates : ∀ runs fileId accountId now localPath,
      Keeps allowed (execute runs fun db =>
        db.updateFileAt fileId accountId (rewritten now localPath) fun _ => rfl))
    (enqueues : ∀ runs now accountId fileId localPath,
      Keeps allowed (enqueueUploadTask runs now accountId fileId localPath))
    (answers : RpcAnswers) (file : DriveFile) (localPath : Option String) :
    Keeps allowed (modifyContent answers file localPath) := by
  cases localPath with
  | none => exact keeps_pure ()
  | some localPath =>
      refine keeps_bind (keeps_mapError (updates _ _ _ _ _)) fun _ => ?_
      exact keeps_bind (keeps_mapError (enqueues _ _ _ _ _)) fun _ => keeps_pure ()

theorem keeps_handleFpModifyItem {answers : RpcAnswers} {newName : Option String}
    (renames : ∀ name, newName = some name → ∀ fileId accountId,
      Keeps allowed (execute (answers.runs 2) fun db =>
        db.updateFileAt fileId accountId (renamed answers.now name) fun _ => rfl))
    (announces : newName.isSome = true → ∀ task, task.IsNew → task.operation ≠ .download →
      Keeps allowed (enqueue (answers.runs 3) task))
    (updates : ∀ runs fileId accountId now localPath,
      Keeps allowed (execute runs fun db =>
        db.updateFileAt fileId accountId (rewritten now localPath) fun _ => rfl))
    (enqueues : ∀ runs now accountId fileId localPath,
      Keeps allowed (enqueueUploadTask runs now accountId fileId localPath))
    (ctx : RouterContext) (path localPath : Option String) :
    Keeps allowed (handleFpModifyItem ctx answers path newName localPath) := by
  refine keeps_bind (keeps_orRpcError _ _) fun path => ?_
  refine keeps_bind (keeps_resolveFileForPath _ _ _) fun file => ?_
  refine keeps_bind ?_ fun _ => keeps_modifyContent updates enqueues _ _ _
  cases newName with
  | none => exact keeps_pure ()
  | some newName =>
      refine keeps_bind (keeps_mapError (renames _ rfl _ _)) fun _ => ?_
      have other : TaskOperation.rename ≠ .download := by decide
      exact keeps_bind (keeps_mapError (announces rfl _ ⟨rfl, rfl⟩ other)) fun _ => keeps_pure ()

theorem keeps_handleFpDeleteItem {answers : RpcAnswers}
    (trashes : ∀ fileId accountId,
      Keeps allowed (execute (answers.runs 2) fun db =>
        db.updateFileAt fileId accountId (discarded answers.now) fun _ => rfl))
    (announces : ∀ task, task.IsNew → task.operation ≠ .download →
      Keeps allowed (enqueue (answers.runs 3) task))
    (ctx : RouterContext) (path : Option String) :
    Keeps allowed (handleFpDeleteItem ctx answers path) := by
  refine keeps_bind (keeps_orRpcError _ _) fun path => ?_
  refine keeps_bind (keeps_resolveFileForPath _ _ _) fun file => ?_
  refine keeps_bind (keeps_mapError (trashes _ _)) fun _ => ?_
  have other : TaskOperation.delete ≠ .download := by decide
  exact keeps_bind (keeps_mapError (announces _ ⟨rfl, rfl⟩ other)) fun _ => keeps_pure ()

theorem keeps_handleFpCreateItem {answers : RpcAnswers}
    (inserts : ∀ fileId accountId name mimeType parentId localPath syncState,
      Keeps allowed (insertFile (answers.runs 1)
        (localFile answers.now fileId accountId name mimeType parentId localPath syncState)))
    (enqueues : ∀ runs now accountId fileId localPath,
      Keeps allowed (enqueueUploadTask runs now accountId fileId localPath))
    (name : Option String) (isFolder : Option Bool) (localPath : Option String) :
    Keeps allowed (handleFpCreateItem answers name isFolder localPath) := by
  refine keeps_bind (keeps_orRpcError _ _) fun name => ?_
  refine keeps_bind (keeps_mapError (keeps_select _ _)) fun account => ?_
  refine keeps_bind (keeps_orRpcError _ _) fun accountId => ?_
  split
  · exact keeps_bind (keeps_mapError (inserts _ _ _ _ _ _ _)) fun _ => keeps_pure _
  · refine keeps_bind (keeps_mapError (inserts _ _ _ _ _ _ _)) fun _ => ?_
    cases localPath with
    | none => exact keeps_pure _
    | some path =>
        exact keeps_bind (keeps_mapError (enqueues _ _ _ _ _)) fun _ => keeps_pure _

end Requests

/-! ## Everything that comes from outside -/

/-- The relation allows what a request does to the database: it enqueues tasks, inserts
rows, and changes rows in columns that only the server fills in otherwise. -/
structure AllowsEdits (allowed : Database → Database → Prop) : Prop where
  enqueues : ∀ db task, task.IsNew → allowed db (db.putTask task)
  inserts : ∀ (db : Database) now fileId accountId name mimeType parentId localPath syncState,
    allowed db
      (db.putFile (localFile now fileId accountId name mimeType parentId localPath syncState))
  updates : ∀ (db : Database) selected change keeps,
    (∀ file : DriveFile, (change file).etag = file.etag) → allowed db (db.updateFiles selected change keeps)

section Edits

variable {onDatabase : Database → Database → Prop} [IsPreorder Database onDatabase]
  (edits : AllowsEdits onDatabase)
include edits

theorem AllowsEdits.keeps_enqueue (runs : Bool) {task : SyncTask} (new : task.IsNew) :
    Keeps onDatabase (enqueue runs task) := by
  intro db
  rw [final_enqueue]
  split
  · exact edits.enqueues db task new
  · exact Std.Refl.refl db

theorem keeps_request (ctx : Ipc.RouterContext) (answers : Ipc.RpcAnswers) (request : Rpc) :
    Keeps onDatabase (request.run ctx answers) := by
  have updates (runs : Bool) (fileId accountId : String) (change : DriveFile → DriveFile)
      (keeps : ∀ file, (change file).key = file.key) (same : ∀ file, (change file).etag = file.etag) :
      Keeps onDatabase (execute runs fun db => db.updateFileAt fileId accountId change keeps) :=
    keeps_execute runs fun db => edits.updates db _ _ _ same
  cases request with
  | setOffline path enabled =>
      exact keeps_attempt
        (keeps_handleFsSetOffline (fun _ _ _ _ => updates _ _ _ _ _ fun _ => rfl) _ _ _ _)
  | clearCache => exact keeps_mapError (keeps_execute _ fun db => edits.updates db _ _ _ fun _ => rfl)
  | fetchContents path =>
      exact keeps_attempt
        (keeps_handleFpFetchContents (fun _ _ _ _ _ => edits.keeps_enqueue _ ⟨rfl, rfl⟩) _ _ _)
  | createItem name isFolder localPath =>
      refine keeps_attempt (keeps_handleFpCreateItem (fun _ _ _ _ _ _ _ => ?_)
        (fun _ _ _ _ _ => edits.keeps_enqueue _ ⟨rfl, rfl⟩) _ _ _)
      exact keeps_insertFile (fun db => edits.inserts db _ _ _ _ _ _ _ _) _
  | modifyItem path newName localPath =>
      exact keeps_handleFpModifyItem (fun _ _ _ _ => updates _ _ _ _ _ fun _ => rfl)
        (fun _ _ new _ => edits.keeps_enqueue _ new)
        (fun _ _ _ _ _ => updates _ _ _ _ _ fun _ => rfl)
        (fun _ _ _ _ _ => edits.keeps_enqueue _ ⟨rfl, rfl⟩) _ _ _
  | deleteItem path =>
      exact keeps_handleFpDeleteItem (fun _ _ => updates _ _ _ _ _ fun _ => rfl)
        (fun _ new _ => edits.keeps_enqueue _ new) _ _

variable {allowed : World → World → Prop} [IsPreorder World allowed]

omit edits [IsPreorder Database onDatabase] [IsPreorder World allowed] in
/-- The relation allows what a callback does beside that: it works on files and keeps
track of those that are open. -/
structure AllowsCallbacks (onDatabase : Database → Database → Prop)
    (allowed : World → World → Prop) : Prop where
  lifts : ∀ (world : World) db, onDatabase world.db db → allowed world (world.withDb db)
  disk : ∀ (world : World) path file, allowed world (world.putOnDisk path file)
  opens : ∀ (world : World) handle, allowed world (world.openFile handle)
  releases : ∀ (world : World) fh, allowed world (world.releaseFile fh)

theorem keeps_callback (allows : AllowsCallbacks onDatabase allowed) (cacheDir : String)
    (answers : CallbackAnswers) (callback : Callback) :
    Keeps allowed (callback.run cacheDir answers) := by
  have enqueues (runs : Bool) (task : SyncTask) (new : task.IsNew) :
      Keeps allowed (onDb (enqueue runs task)) := keeps_onDb allows.lifts (edits.keeps_enqueue runs new)
  have inserts (runs : Bool) (now : Int) (fileId accountId name mimeType : String)
      (parentId localPath : Option String) (syncState : SyncState) : Keeps allowed (onDb
        (insertFile runs (localFile now fileId accountId name mimeType parentId localPath syncState))) :=
    keeps_onDb allows.lifts (keeps_insertFile (fun db => edits.inserts db _ _ _ _ _ _ _ _) runs)
  have updates (runs : Bool) (ino : Nat) (change : DriveFile → DriveFile)
      (keeps : ∀ file, (change file).key = file.key) (same : ∀ file, (change file).etag = file.etag) :
      Keeps allowed (onDb (updateInode runs ino change keeps)) :=
    keeps_onDb allows.lifts (keeps_execute runs fun db => edits.updates db _ _ _ same)
  have disk := allows.disk
  cases callback with
  | openFile ino => exact keeps_attempt (keeps_openFile allows.opens _ _ _)
  | read ino fh => exact keeps_requestContent (fun _ _ _ _ _ => enqueues _ _ ⟨rfl, rfl⟩) _ _ _ _
  | create parent name =>
      exact keeps_attempt
        (keeps_create disk allows.opens (fun _ _ _ _ _ _ => inserts _ _ _ _ _ _ _ _ _) _ _ _)
  | write ino fh offset data written =>
      exact keeps_attempt (keeps_write disk (fun _ _ _ _ => updates _ _ _ _ fun _ => rfl) _ _ _ _ _ _)
  | flush ino fh => exact keeps_uploadIfModified (fun _ _ _ _ _ => enqueues _ _ ⟨rfl, rfl⟩) _ _ _
  | fsync ino fh => exact keeps_uploadIfModified (fun _ _ _ _ _ => enqueues _ _ ⟨rfl, rfl⟩) _ _ _
  | unlink parent name =>
      exact keeps_unlink (fun _ _ new _ => enqueues _ _ new)
        (fun failure path => keeps_removeFile (fun world => disk world path) failure)
        (fun _ => updates _ _ _ _ fun _ => rfl) _ _
  | rename parent name newParent newName =>
      exact keeps_rename (fun _ _ new _ => enqueues _ _ new)
        (fun _ _ _ _ => updates _ _ _ _ fun _ => rfl)
        (fun failure source target =>
          keeps_renameFile (fun world => disk world source) (fun world => disk world target) failure)
        _ _ _ _
  | mkdir parent name =>
      exact keeps_attempt (keeps_mkdir (fun _ _ _ _ _ _ => inserts _ _ _ _ _ _ _ _ _) _ _)
  | rmdir parent name =>
      exact keeps_rmdir (fun _ _ new _ => enqueues _ _ new) (fun _ => updates _ _ _ _ fun _ => rfl)
        _ _
  | release fh => exact keeps_perform fun world => allows.releases world fh

end Edits

end GDriver
