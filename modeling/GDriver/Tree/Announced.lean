import GDriver.Local.Deletes
import GDriver.Tree.Calls

namespace GDriver
namespace Tree

open Library Routine Db Api Sync Vfs Local

/-!
# Changes that are announced

A callback or a request that removes or renames an entry finds its row and enqueues a task for the
engine.  A file that is created with its content is announced as well.  As long as such a task waits, the
queue is not drained.
-/

/-- A task of the queue waits for the engine. -/
def HasPending (db : Database) : Prop :=
  ∃ taskId task, db.task taskId = some task ∧ task.status = .pending

theorem HasPending.of_same {db later : Database} (pending : HasPending db) (same : SameQueue db later) :
    HasPending later := by
  rcases pending with ⟨taskId, task, found, waits⟩
  refine ⟨taskId, task, ?_, waits⟩
  rw [Database.task, same]
  exact found

theorem HasPending.of_keepsTasks {db later : Database} (pending : HasPending db) (keeps : KeepsTasks none db later) :
    HasPending later := by
  rcases pending with ⟨taskId, task, found, waits⟩
  rcases keeps.kept taskId task found with ⟨after, reached, _, same⟩
  have unchanged := same fun busy => by cases busy
  rw [unchanged] at reached
  exact ⟨taskId, task, reached, waits⟩

theorem hasPending_putTask {db : Database} {task : SyncTask} (waits : task.status = .pending) :
    HasPending (db.putTask task) :=
  ⟨db.nextTaskId, _, Database.task_putTask_next db task, waits⟩

/-- The operation changes an entry, and all its statements up to that of the task are executed. -/
def Enqueues (system : System) : Operation → Prop
  | .vfs _ answers (.unlink parent name) =>
      (answers.runs 1 && answers.runs 2) = true ∧ (unlinkedRow answers parent name system.world.db).isSome = true
  | .vfs _ answers (.rmdir parent name) =>
      (answers.runs 1 && answers.runs 2) = true ∧ (removedFolder answers parent name system.world.db).isSome = true
  | .vfs _ answers (.rename parent name newParent newName) =>
      (answers.runs 1 && answers.runs 2) = true ∧
        (renamedRow answers parent name newParent newName system.world).isSome = true
  | .rpc _ answers (.createItem name isFolder localPath) =>
      answers.runs 2 = true ∧ isFolder.getD false = false ∧ localPath.isSome = true ∧
        ∃ accountId, createdItemFor answers name system.world.db = some accountId ∧
          system.world.db.hasAccount accountId = true ∧
          system.world.db.file ("local-" ++ toString answers.nanos) accountId = none
  | .rpc ctx answers (.modifyItem path newName _) =>
      (answers.runs 2 && answers.runs 3) = true ∧ newName.isSome = true ∧
        (requestedRow ctx answers system.world.db path).isSome = true
  | .rpc ctx answers (.deleteItem path) =>
      (answers.runs 2 && answers.runs 3) = true ∧ (requestedRow ctx answers system.world.db path).isSome = true
  | _ => False

section Callbacks

variable {answers : CallbackAnswers} {parent : Nat} {name : Option String} {world : World} {row : Row Db.DriveFile}

theorem hasPending_announce {operation : TaskOperation} {andThen : Db.DriveFile → Routine Errno World Unit}
    {ino : Nat} (executes : (answers.runs 1 && answers.runs 2) = true) (found : Database.rowAtInode world.db ino =
      some row)
    (goesOn : ∀ details, Keeps SameQueueIn (andThen details)) :
    HasPending (final (announce answers ino operation andThen) world).db := by
  rw [Bool.and_eq_true] at executes
  rw [final_announce, if_pos executes.1, found, Option.map_some, Option.elim_some, executes.2, Vfs.enqueueTask,
    final_enqueue, if_pos rfl]
  exact (hasPending_putTask rfl).of_same (goesOn row.data _)

/-- What is announced before its row is trashed waits afterwards too. -/
theorem hasPending_removal {andThen : Db.DriveFile → Routine Errno World Unit}
    (executes : (answers.runs 1 && answers.runs 2) = true) (found : Database.rowAtInode world.db row.rowid = some row)
    (goesOn : ∀ details, Keeps SameQueueIn (andThen details))
    (completes : ∀ details world, outcome (andThen details) world = .ok ()) :
    HasPending (final (announce answers row.rowid .delete andThen >>= fun _ =>
      orEio (softDeleteByInode (answers.runs 3) row.rowid)) world).db := by
  rw [final_bind_of_ok (outcome_announce completes)]
  exact (hasPending_announce executes found goesOn).of_same
    (keeps_mapError (sameQueueIn_softDelete (answers.runs 3) row.rowid) _)

theorem hasPending_unlink (executes : (answers.runs 1 && answers.runs 2) = true)
    (found : unlinkedRow answers parent name world.db = some row) :
    HasPending (final (unlink answers parent name) world).db := by
  have known := of_namedRow (Option.filter_eq_some_iff.mp found).1
  rw [final_unlink_of_some found]
  refine hasPending_removal executes (rowAtInode_of_mem known.1 known.2) (fun details => ?_)
    fun details world => outcome_removeCacheFile _ details
  rw [removeCacheFile]
  cases details.localPath with
  | none => exact keeps_pure ()
  | some path => exact keeps_attempt (keeps_removeFile (fun _ _ => rfl) _)

theorem hasPending_rmdir (executes : (answers.runs 1 && answers.runs 2) = true)
    (found : removedFolder answers parent name world.db = some row) :
    HasPending (final (rmdir answers parent name) world).db := by
  have known := of_namedRow (Option.filter_eq_some_iff.mp found).1
  rw [final_rmdir_of_some found]
  exact hasPending_removal executes (rowAtInode_of_mem known.1 known.2) (fun _ => keeps_pure ()) fun _ _ => rfl

theorem hasPending_rename {newParent : Nat} {newName : Option String}
    (executes : (answers.runs 1 && answers.runs 2) = true)
    (found : renamedRow answers parent name newParent newName world = some row) :
    HasPending (final (Vfs.rename answers parent name newParent newName) world).db := by
  rcases of_renamedRow found with ⟨renames, member, live⟩
  rcases final_rename_of_some found with ⟨wanted, newParentId, _, _, ends⟩
  have changed : (final (orEio (renameRow (answers.runs 5) answers.now row.rowid wanted newParentId)) world).db =
      movedAt world.db row.rowid answers.now wanted newParentId := by
    have moves := @db_updateInode world (answers.runs 5) row.rowid (moved answers.now wanted newParentId) fun _ => rfl
    rw [renames, if_pos rfl] at moves
    rw [renames]
    exact moves
  have answered : outcome (orEio (renameRow (answers.runs 5) answers.now row.rowid wanted newParentId)) world =
      .ok () := by
    rw [renames]
    rfl
  rw [ends, final_bind_of_ok answered]
  refine @hasPending_announce _ _ ⟨row.rowid, moved answers.now wanted newParentId row.data⟩ _ _ row.rowid
    executes ?_ fun details => ?_
  · rw [changed]
    exact rowAtInode_of_mem (moved_mem member) live
  · rw [Vfs.renameCacheFile]
    split
    · exact keeps_pure ()
    · split
      · exact keeps_pure ()
      · exact keeps_attempt (keeps_renameFile (fun _ _ => rfl) (fun _ _ => rfl) _)

end Callbacks

section Requests

open Ipc

variable {ctx : RouterContext} {answers : RpcAnswers} {path newName : Option String} {db : Database}

theorem hasPending_deleteItem (executes : (answers.runs 2 && answers.runs 3) = true)
    (found : (requestedRow ctx answers db path).isSome = true) :
    HasPending (final (handleFpDeleteItem ctx answers path) db) := by
  rcases Option.isSome_iff_exists.mp found with ⟨row, requested⟩
  rcases of_requestedRow requested with ⟨_, file, request, _⟩
  rcases Option.bind_eq_some_iff.mp request with ⟨wanted, given, resolved⟩
  rw [Bool.and_eq_true] at executes
  have ends : final (handleFpDeleteItem ctx answers path) db =
      (db.updateFileAt file.id file.accountId (discarded answers.now) fun _ => rfl).putTask
        (pendingTask answers.now file.accountId (some file.id) .delete file.localPath 1) := by
    simp only [handleFpDeleteItem, requiredParam, final_bind_orRpcError, final_bind_resolveFileForPath,
      given, Option.elim_some, resolved, executes.1, executes.2]
    rfl
  rw [ends]
  exact hasPending_putTask rfl

theorem hasPending_modifyItem {localPath : Option String} (executes : (answers.runs 2 && answers.runs 3) = true)
    (named : newName.isSome = true) (found : (requestedRow ctx answers db path).isSome = true) :
    HasPending (final (handleFpModifyItem ctx answers path newName localPath) db) := by
  rcases Option.isSome_iff_exists.mp found with ⟨row, requested⟩
  rcases of_requestedRow requested with ⟨_, file, request, _⟩
  rcases Option.bind_eq_some_iff.mp request with ⟨wanted, given, resolved⟩
  rcases Option.isSome_iff_exists.mp named with ⟨name, same⟩
  rw [Bool.and_eq_true] at executes
  let announced := (db.updateFileAt file.id file.accountId (renamed answers.now name) fun _ => rfl).putTask
    (pendingTask answers.now file.accountId (some file.id) .rename file.localPath 1)
  have ends : final (handleFpModifyItem ctx answers path newName localPath) db =
      final (modifyContent answers file localPath) announced := by
    simp only [handleFpModifyItem, requiredParam, final_bind_orRpcError, final_bind_resolveFileForPath,
      given, Option.elim_some, resolved, same, modifyName, executes.1, executes.2]
    rfl
  have edits := (allowsTasks_keepsTasks none).toEdits
  have goesOn : Keeps (KeepsTasks none) (modifyContent answers file localPath) :=
    keeps_modifyContent (fun _ _ _ _ _ => keeps_execute _ fun db => edits.updates db _ _ _ fun _ => rfl)
      (fun _ _ _ _ _ => edits.keeps_enqueue _ ⟨rfl, rfl⟩) _ _ _
  rw [ends]
  exact HasPending.of_keepsTasks (hasPending_putTask rfl) (goesOn announced)

theorem insertFile_of_absent {file : Db.DriveFile} (absent : db.file file.id file.accountId = none)
    (account : db.hasAccount file.accountId = true) :
    outcome (orInternal (Vfs.insertFile true file)) db = .ok db.driveFiles.nextRowid ∧
      final (orInternal (Vfs.insertFile true file)) db = db.putFile file := by
  have accepted : (true && (db.file file.id file.accountId).isNone && db.hasAccount file.accountId) = true := by
    rw [absent, account]
    rfl
  have answers := outcome_statement (true && (db.file file.id file.accountId).isNone && db.hasAccount file.accountId)
    databaseError (fun later : Database => (later.driveFiles.nextRowid, later.putFile file)) db
  rw [if_pos accepted] at answers
  rw [orInternal, outcome_mapError, final_mapError, final_insertFile, if_pos accepted]
  exact ⟨congrArg (Except.mapError _) answers, rfl⟩

theorem hasPending_createItem {name : Option String} {isFolder : Option Bool} {localPath : Option String}
    {accountId : String} (executes : answers.runs 2 = true) (regular : isFolder.getD false = false)
    (path : localPath.isSome = true) (created : createdItemFor answers name db = some accountId)
    (account : db.hasAccount accountId = true)
    (absent : db.file ("local-" ++ toString answers.nanos) accountId = none) :
    HasPending (final (handleFpCreateItem answers name isFolder localPath) db) := by
  rw [createdItemFor] at created
  split at created
  · next both =>
      rw [Bool.and_eq_true] at both
      rcases Option.isSome_iff_exists.mp both.2 with ⟨newName, named⟩
      rcases Option.isSome_iff_exists.mp path with ⟨target, there⟩
      have found := Option.join_eq_some_iff.mp created
      let file := Vfs.localFile answers.now ("local-" ++ toString answers.nanos) accountId newName
        (Ipc.guessMime newName) none (some target) .modified
      have stores := @insertFile_of_absent db file absent account
      have ends : final (handleFpCreateItem answers name isFolder localPath) db =
          (db.putFile file).putTask
            (pendingTask answers.now accountId (some ("local-" ++ toString answers.nanos)) .upload (some target)
              1) := by
        simp only [handleFpCreateItem, requiredParam, final_bind_orRpcError, final_bind_getFirstAccountId, named,
          Option.elim_some, found, regular, there, both.1, executes, Bool.false_eq_true, if_false]
        rw [final_bind_of_ok stores.1, stores.2]
        rfl
      rw [ends]
      exact hasPending_putTask rfl
  · cases created

end Requests

theorem hasPending_exec [Rfc3339] {system : System} {operation : Operation} (enqueues : Enqueues system operation) :
    HasPending (system.exec operation).world.db := by
  cases operation with
  | vfs cacheDir answers callback =>
      cases callback with
      | unlink parent name =>
          rcases Option.isSome_iff_exists.mp enqueues.2 with ⟨row, found⟩
          exact hasPending_unlink enqueues.1 found
      | rmdir parent name =>
          rcases Option.isSome_iff_exists.mp enqueues.2 with ⟨row, found⟩
          exact hasPending_rmdir enqueues.1 found
      | rename parent name newParent newName =>
          rcases Option.isSome_iff_exists.mp enqueues.2 with ⟨row, found⟩
          exact hasPending_rename enqueues.1 found
      | _ => cases enqueues
  | rpc ctx answers request =>
      cases request with
      | createItem name isFolder localPath =>
          rcases enqueues with ⟨executes, regular, path, accountId, created, account, absent⟩
          exact hasPending_createItem executes regular path created account absent
      | modifyItem path newName localPath => exact hasPending_modifyItem enqueues.1 enqueues.2.1 enqueues.2.2
      | deleteItem path => exact hasPending_deleteItem enqueues.1 enqueues.2
      | _ => cases enqueues
  | _ => cases enqueues

end Tree
end GDriver
