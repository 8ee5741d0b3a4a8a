import GDriver.Local.Deletes
import GDriver.Local.Present
import GDriver.Moves.Stored
import GDriver.Moves.Tasks

namespace GDriver
namespace Local

open Library Routine Db Api Sync Vfs

/-!
# Deleted files that come back

The user deletes a file by unlinking it or through the file provider.  The row is moved to the
trash, and a task is enqueued that looks the row up, removes its local copy and clears its path.
Downloads that hold on to the row as it was before, and changes that Drive had reported before,
write the row as a whole, and a download puts its file at the path whatever the row says.
-/

/-- A file that the user deleted, as its row was, and the task that was enqueued for it. -/
structure Deletion where
  file : Db.DriveFile
  taskId : Nat
  deriving DecidableEq, Repr

/-- The file that an operation deletes for the user, when its row is changed. -/
def deletion (system : System) : Operation → Option Deletion
  | .vfs _ answers (.unlink parent name) =>
      if answers.runs 3 then
        (unlinkedRow answers parent name system.world.db).map fun row =>
          ⟨row.data, system.world.db.nextTaskId⟩
      else none
  | .rpc ctx answers (.deleteItem path) =>
      if answers.runs 2 then
        (requestedRow ctx answers system.world.db path).map fun row => ⟨row, system.world.db.nextTaskId⟩
      else none
  | _ => none

/-- The delete enqueues its task. -/
def Announces : Operation → Prop
  | .vfs _ answers (.unlink _ _) => answers.runs 1 = true ∧ answers.runs 2 = true
  | .rpc _ answers (.deleteItem _) => answers.runs 3 = true
  | _ => True

/-- The engine is idle, and every task is closed. -/
def Drained (system : System) : Prop :=
  system.engine = .idle ∧
    ∀ task ∈ system.world.db.syncQueue.records, task.status ≠ .pending ∧ task.status ≠ .inProgress

instance (system : System) : Decidable (Drained system) :=
  inferInstanceAs (Decidable (_ ∧ _))

theorem Drained.closed {system : System} (drained : Drained system) {taskId : Nat} {task : SyncTask}
    (stored : system.world.db.task taskId = some task) : task.status ≠ .pending ∧ task.status ≠ .inProgress := by
  rcases Option.map_eq_some_iff.mp stored with ⟨row, found, same⟩
  have member := (Table.of_findRow?_eq_some found).1
  exact drained.2 task (List.mem_map.mpr ⟨row, member, same⟩)

/-- There is no file at the path that the deleted file had. -/
def Gone (deletion : Deletion) (world : World) : Prop :=
  ∀ path, deletion.file.localPath = some path → world.disk path = none

/-- The row is in the trash, and once the queue is drained there is no file at the path it had
when it was deleted, nor at the one it has. -/
def StaysDeleted (deletion : Deletion) (system : System) : Prop :=
  ∃ row, system.world.db.file deletion.file.id deletion.file.accountId = some row ∧ row.isTrashed = true ∧
    (Drained system → Gone deletion system.world ∧
      ∀ path, row.localPath = some path → system.world.disk path = none)

/-- The task of the deletion has not been begun. -/
def NotBegun (deletion : Deletion) (system : System) : Prop :=
  ∃ task, system.world.db.task deletion.taskId = some task ∧ task.status = .pending

/-- The task of the deletion has not removed the local copy yet. -/
def AwaitsRemoval (deletion : Deletion) (system : System) : Prop :=
  ∃ task, system.world.db.task deletion.taskId = some task ∧
    (task.status = .pending ∨ task.status = .inProgress) ∧
      (inFlight system.engine = some deletion.taskId → ∃ delete, system.engine = .removing delete)

/-- The step writes the row of the deleted file only in the trash and with the path it had, which
may be cleared once the task has been begun.  It puts no file at the path once the task
has removed the copy, its removal of the copy succeeds, and the account stays. -/
structure LeavesDeleted [Rfc3339] (deletion : Deletion) (system : System) (operation : Operation) : Prop where
  rows : ∀ row, Stores system operation row → row.key = deletion.file.key →
    row.isTrashed = true ∧ (row.localPath = deletion.file.localPath ∨
      row.localPath = none ∧ ¬ NotBegun deletion system)
  puts : ¬ AwaitsRemoval deletion system →
    ∀ path, deletion.file.localPath = some path → ¬ Puts system operation (placeOf path)
  removes : ∀ answers delete path, operation = .engine (.removeCopy answers) →
    system.engine = .removing delete → delete.taskId = deletion.taskId → delete.localPath = some path →
      (system.world.disk path).isSome = true → answers.removeFailure = none
  stays : operation ≠ .sync (.disconnect true deletion.file.accountId)

/-! ## The task of a deletion -/

section Beginning

variable {answers : DeleteAnswers} {task : SyncTask} {taskId : Nat} {fileId : String} {world : World}

/-- A delete task with a file id holds on to the row as it is when the task is begun. -/
theorem of_outcome_beginDelete (identified : task.id = some taskId) (about : task.fileId = some fileId)
    {engine : EngineState} (answered : outcome (beginDelete answers task) world = .ok engine) :
    engine = .removing ⟨task, taskId, world.db.file fileId task.accountId⟩ := by
  simp only [beginDelete, identified, about] at answered
  rw [outcome_bind] at answered
  split at answered
  · rw [lookUpRemoteDelete, bind_assoc, outcome_bind] at answered
    split at answered
    · next known found =>
        have looked : known = world.db.file fileId task.accountId := by
          rw [outcome_onDb, outcome_getFileById, final_onDb, World.withDb_db, final_updateTaskStatus] at found
          split at found
          · rw [← Except.ok.inj found]
            split
            · rfl
            · rfl
          · cases found
        rw [← looked]
        cases answered
        rfl
    · cases answered
  · cases answered

/-- Beginning it changes nothing but its status. -/
theorem final_beginDelete (identified : task.id = some taskId) (about : task.fileId = some fileId) :
    final (beginDelete answers task) world =
      final (onDb (updateTaskStatus answers.marks answers.now taskId .inProgress none)) world := by
  have looks (other : World) :
      final (lookUpRemoteDelete answers task taskId fileId >>= fun delete =>
        (pure (EngineState.removing delete) : Routine String World EngineState)) other = other := by
    have keeps : Keeps Eq (lookUpRemoteDelete answers task taskId fileId >>= fun delete =>
        (pure (.removing delete) : Routine String World EngineState)) :=
      keeps_bind (keeps_bind (keeps_onDb_select _ _) fun _ => keeps_pure _) fun _ => keeps_pure _
    exact (keeps other).symm
  simp only [beginDelete, identified, about]
  rw [final_bind]
  split
  · exact looks _
  · rfl

/-- The task is to remove the local copy of the file. -/
structure RemovesCopy (file : Db.DriveFile) (task : SyncTask) : Prop where
  operation : task.operation = .delete
  fileId : task.fileId = some file.id
  accountId : task.accountId = file.accountId

theorem RemovesCopy.of_asksSame {file : Db.DriveFile} {after : SyncTask} (removes : RemovesCopy file task)
    (same : task.AsksSame after) : RemovesCopy file after where
  operation := same.operation.trans removes.operation
  fileId := same.fileId.trans removes.fileId
  accountId := same.accountId.trans removes.accountId

end Beginning

section Removing

variable [Rfc3339] {answers : TaskAnswers} {task : SyncTask} {taskId : Nat} {file : Db.DriveFile} {world : World}

/-- After the task has been begun, the engine holds on to the row or is idle. -/
theorem engine_beginTask (identified : task.id = some taskId) (removes : RemovesCopy file task) :
    (settle (beginTask answers task) world).engine = .idle ∨
      (settle (beginTask answers task) world).engine =
        .removing ⟨task, taskId, world.db.file file.id file.accountId⟩ := by
  cases client : answers.hasClient with
  | false =>
      rw [settle_beginTask_of_no_client client (Or.inr removes.operation)]
      exact Or.inl rfl
  | true =>
      rw [beginTask_delete client removes.operation, settle]
      cases answered : outcome (beginDelete answers.delete task) world with
      | error failure => exact Or.inl rfl
      | ok engine =>
          rw [← removes.accountId]
          exact Or.inr (of_outcome_beginDelete identified removes.fileId answered)

/-- The task is open still. -/
theorem status_beginTask (identified : task.id = some taskId) (removes : RemovesCopy file task)
    (stored : world.db.task taskId = some task) (pending : task.status = .pending) :
    ∃ after, (settle (beginTask answers task) world).world.db.task taskId = some after ∧
      (after.status = .pending ∨ after.status = .inProgress) := by
  cases client : answers.hasClient with
  | false =>
      rw [settle_beginTask_of_no_client client (Or.inr removes.operation)]
      exact ⟨task, stored, Or.inl pending⟩
  | true =>
      rw [beginTask_delete client removes.operation, settle, final_beginDelete identified removes.fileId,
        final_onDb, final_updateTaskStatus, World.withDb_db]
      split
      · rw [Database.task_updateTask_self, stored]
        exact ⟨_, rfl, Or.inr rfl⟩
      · exact ⟨task, stored, Or.inl pending⟩

end Removing

/-! ## The invariant -/

/-- The task was pending if it is pending later. -/
def PendingBefore (taskId : Nat) (world later : World) : Prop :=
  ∀ after, later.db.task taskId = some after → after.status = .pending →
    ∃ task, world.db.task taskId = some task ∧ task.status = .pending

instance (taskId : Nat) : IsPreorder World (PendingBefore taskId) where
  refl _ after found pending := ⟨after, found, pending⟩
  trans _ _ _ one two after found pending := by
    rcases two after found pending with ⟨between, there, waits⟩
    exact one between there waits

theorem PendingBefore.of_same {taskId : Nat} {world later : World}
    (same : later.db.syncQueue = world.db.syncQueue) : PendingBefore taskId world later := by
  intro after found pending
  rw [Database.task, same] at found
  exact ⟨after, found, pending⟩

theorem pendingBefore_recordRemoteDelete (answers : DeleteAnswers) (delete : RemoteDelete) :
    Keeps (PendingBefore delete.taskId) (recordRemoteDelete answers delete) := by
  refine keeps_bind (keeps_storeEvicted (fun _ _ _ _ => .of_same rfl) answers) fun _ => ?_
  refine keeps_onDb_execute (fun world after found pending => ?_) _
  rw [World.withDb_db, Database.task_updateTask_self] at found
  rcases Option.map_eq_some_iff.mp found with ⟨task, _, same⟩
  rw [← same] at pending
  cases pending

/-- The row is in the trash with the path it had, or without one after the task has been begun.
The task looks up the row as it is now, and once it has removed the copy there is no file. -/
structure KeptAway (deletion : Deletion) (system : System) : Prop where
  row : ∃ row, system.world.db.file deletion.file.id deletion.file.accountId = some row ∧
    row.isTrashed = true ∧ (row.localPath = deletion.file.localPath ∨
      row.localPath = none ∧ ¬ NotBegun deletion system)
  task : ∃ task, system.world.db.task deletion.taskId = some task ∧ RemovesCopy deletion.file task
  flight : inFlight system.engine = some deletion.taskId →
    (∃ delete, system.engine = .removing delete ∧ delete.localPath = deletion.file.localPath) ∨
      ∃ delete, system.engine = .removed delete
  gone : ¬ AwaitsRemoval deletion system → Gone deletion system.world

section Steps

variable [Rfc3339] {deletion : Deletion} {system : System} {operation : Operation}

/-- What an operation does that works on the task of the deletion. -/
inductive Works (deletion : Deletion) (system : System) : Operation → System → Prop where
  | begins {picks : Bool} {answers : TaskAnswers} {task : SyncTask} (idle : system.engine = .idle)
      (identified : task.id = some deletion.taskId) (pending : task.status = .pending)
      (stored : system.world.db.task deletion.taskId = some task) :
      Works deletion system (.engine (.begin picks answers)) (settle (beginTask answers task) system.world)
  | rests {picks : Bool} {answers : TaskAnswers} :
      Works deletion system (.engine (.begin picks answers)) system
  | removes {answers : DeleteAnswers} {delete : RemoteDelete} (engine : system.engine = .removing delete)
      (same : delete.taskId = deletion.taskId) (path : delete.localPath = deletion.file.localPath) :
      Works deletion system (.engine (.removeCopy answers))
        { world := final (removeLocalCopy answers delete) system.world, engine := .removed delete }
  | records {answers : DeleteAnswers} {delete : RemoteDelete} (engine : system.engine = .removed delete)
      (same : delete.taskId = deletion.taskId) :
      Works deletion system (.engine (.recordDelete answers))
        { world := final (recordRemoteDelete answers delete) system.world, engine := .idle }

theorem works_of_busy (away : KeptAway deletion system)
    (busy : busyTask system operation = some deletion.taskId) :
    Works deletion system operation (system.exec operation) := by
  rcases busyTask_cases busy with within | ⟨picks, answers, task, same, idle, next, identified⟩
  · cases operation with
    | engine step =>
        rcases away.flight within with ⟨delete, engine, path⟩ | ⟨delete, engine⟩
        · rw [engine] at within
          cases step with
          | removeCopy answers =>
              simp only [System.exec, EngineStep.exec, engine]
              exact .removes engine (Option.some.inj within) path
          | _ => simp only [busyTask, engine, reduceCtorEq] at busy
        · rw [engine] at within
          cases step with
          | recordDelete answers =>
              simp only [System.exec, EngineStep.exec, engine]
              exact .records engine (Option.some.inj within)
          | _ => simp only [busyTask, engine, reduceCtorEq] at busy
    | _ => cases busy
  · subst same
    rcases Database.of_nextPending next with ⟨number, numbered, stored, pending⟩
    cases identified.symm.trans numbered
    simp only [System.exec, EngineStep.exec, idle]
    rcases settle_beginNext picks answers system.world with nothing | ⟨other, _, same, begun⟩
    · rw [nothing, ← idle]
      exact .rests
    · cases next.symm.trans same
      rw [begun]
      exact .begins idle identified pending stored

/-- The task was not begun before if it is not begun after. -/
theorem notBegun_of_exec (away : KeptAway deletion system)
    (after : NotBegun deletion (system.exec operation)) : NotBegun deletion system := by
  rcases after with ⟨later, reached, pending⟩
  rcases away.task with ⟨task, stored, removes⟩
  rcases (proceeds_exec system operation).tasks.kept _ _ stored with ⟨kept, there, _, stays⟩
  cases reached.symm.trans there
  by_cases busy : busyTask system operation = some deletion.taskId
  · have works := works_of_busy away busy
    generalize system.exec operation = ended at works reached there
    cases works with
    | begins idle identified pending stored => exact ⟨_, stored, pending⟩
    | rests => exact ⟨_, reached, pending⟩
    | @removes answers delete engine same path =>
        have keeps : Keeps (PendingBefore deletion.taskId) (removeLocalCopy answers delete) :=
          keeps_removeLocalCopy (fun _ _ _ => .of_same rfl) answers delete
        exact keeps system.world later reached pending
    | @records answers delete engine same =>
        rw [← same] at reached
        rw [NotBegun, ← same]
        exact pendingBefore_recordRemoteDelete answers delete system.world later reached pending
  · rw [stays busy] at pending
    exact ⟨task, stored, pending⟩

theorem task_exec (away : KeptAway deletion system) :
    ∃ task, (system.exec operation).world.db.task deletion.taskId = some task ∧ RemovesCopy deletion.file task := by
  rcases away.task with ⟨task, stored, removes⟩
  rcases (proceeds_exec system operation).tasks.kept _ _ stored with ⟨after, reached, same, _⟩
  exact ⟨after, reached, removes.of_asksSame same⟩

/-- The row stays in the trash and keeps its path until the task has been begun. -/
theorem row_exec (away : KeptAway deletion system) (leaves : LeavesDeleted deletion system operation) :
    ∃ row, (system.exec operation).world.db.file deletion.file.id deletion.file.accountId = some row ∧
      row.isTrashed = true ∧ (row.localPath = deletion.file.localPath ∨
        row.localPath = none ∧ ¬ NotBegun deletion (system.exec operation)) := by
  rcases away.row with ⟨row, stored, trashed, path⟩
  have stays : (system.world.db.file deletion.file.id deletion.file.accountId).isSome = true := by
    rw [stored]
    rfl
  rcases Option.isSome_iff_exists.mp (keepsRow_exec leaves.stays stays) with ⟨after, reached⟩
  have begun (before : ¬ NotBegun deletion system) : ¬ NotBegun deletion (system.exec operation) :=
    fun waits => before (notBegun_of_exec away waits)
  refine ⟨after, reached, ?_⟩
  rcases rowsFrom_exec system operation _ _ after reached with before | stores
  · cases stored.symm.trans before
    exact ⟨trashed, path.imp_right fun cleared => ⟨cleared.1, begun cleared.2⟩⟩
  · have key := (Database.holds_of_file reached).2
    rcases leaves.rows after stores (Prod.ext key.1 key.2) with ⟨trashed, path⟩
    exact ⟨trashed, path.imp_right fun cleared => ⟨cleared.1, begun cleared.2⟩⟩

/-- The engine holds on to the row as it was deleted, until it has removed the copy. -/
theorem flight_exec (away : KeptAway deletion system)
    (within : inFlight (system.exec operation).engine = some deletion.taskId) :
    (∃ delete, (system.exec operation).engine = .removing delete ∧
        delete.localPath = deletion.file.localPath) ∨
      ∃ delete, (system.exec operation).engine = .removed delete := by
  by_cases busy : busyTask system operation = some deletion.taskId
  · have works := works_of_busy away busy
    generalize system.exec operation = later at works within
    cases works with
    | @begins picks answers task idle identified pending stored =>
        rcases away.task with ⟨_, same, removes⟩
        cases stored.symm.trans same
        rcases @engine_beginTask _ answers task _ _ system.world identified removes with rests | holds
        · rw [rests] at within
          cases within
        · refine Or.inl ⟨_, holds, ?_⟩
          rcases away.row with ⟨row, found, _, path | ⟨_, begun⟩⟩
          · rw [RemoteDelete.localPath, found, Option.bind_some, path]
          · exact (begun ⟨task, stored, pending⟩).elim
    | rests => exact away.flight within
    | removes engine same path => exact Or.inr ⟨_, rfl⟩
    | records engine same => cases within
  · have same := engine_exec_of_not_busy busy within
    rw [same] at within ⊢
    exact away.flight within

/-- Once the task has removed the copy, no file is put at the path. -/
theorem gone_of_untouched (gone : Gone deletion system.world)
    (puts : ∀ path, deletion.file.localPath = some path → ¬ Puts system operation (placeOf path)) :
    Gone deletion (system.exec operation).world := by
  intro path target
  cases after : (system.exec operation).world.disk path with
  | none => rfl
  | some file =>
      have there : ((system.exec operation).world.disk path).isSome = true := by
        rw [after]
        rfl
      rcases (diskFrom_exec system operation).comes path there with before | put
      · rw [gone path target] at before
        cases before
      · exact (puts path target put).elim

omit [Rfc3339] in
/-- The removal of the copy takes the file from the path. -/
theorem gone_removeLocalCopy {answers : DeleteAnswers} {delete : RemoteDelete}
    (path : delete.localPath = deletion.file.localPath)
    (removes : ∀ path, delete.localPath = some path → (system.world.disk path).isSome = true →
      answers.removeFailure = none) :
    Gone deletion (final (removeLocalCopy answers delete) system.world) := by
  intro target held
  rw [← path] at held
  simp only [removeLocalCopy, held, final_attempt]
  cases there : system.world.disk target with
  | none =>
      have lost : finds answers.removeFailure target system.world = false := by
        rw [finds, there]
        exact Bool.and_false _
      rw [removeFile, final_onFile_of_lost lost]
      exact there
  | some file =>
      have works := removes target held (by rw [there]; rfl)
      rw [removeFile, works, final, onFile_of_found there, endState]
      exact World.disk_putOnDisk_self target none system.world

theorem gone_exec (away : KeptAway deletion system) (leaves : LeavesDeleted deletion system operation)
    (removed : ¬ AwaitsRemoval deletion (system.exec operation)) :
    Gone deletion (system.exec operation).world := by
  by_cases awaits : AwaitsRemoval deletion system
  · rcases awaits with ⟨task, stored, stage, removing⟩
    rcases away.task with ⟨_, same, removes⟩
    cases stored.symm.trans same
    rcases (proceeds_exec system operation).tasks.kept _ _ stored with ⟨after, reached, _, stays⟩
    by_cases busy : busyTask system operation = some deletion.taskId
    · have works := works_of_busy away busy
      generalize system.exec operation = later at works removed
      cases works with
      | @begins picks answers begun idle identified pending there =>
          cases stored.symm.trans there
          rcases @status_beginTask _ answers task _ _ system.world identified removes stored pending with
            ⟨later, reached, stage⟩
          refine (removed ⟨later, reached, stage, fun within => ?_⟩).elim
          rcases @engine_beginTask _ answers task _ _ system.world identified removes with rests | holds
          · rw [rests] at within
            cases within
          · exact ⟨_, holds⟩
      | rests => exact (removed ⟨task, stored, stage, removing⟩).elim
      | removes engine same path =>
          exact gone_removeLocalCopy path fun target held there =>
            leaves.removes _ _ target rfl engine same held there
      | records engine same =>
          rcases removing (by rw [engine, ← same]; rfl) with ⟨delete, other⟩
          cases engine.symm.trans other
    · refine (removed ⟨after, reached, ?_, fun within => ?_⟩).elim
      · rw [stays busy]
        exact stage
      · have same := engine_exec_of_not_busy busy within
        rw [same] at within ⊢
        exact removing within
  · exact gone_of_untouched (away.gone awaits) (leaves.puts awaits)

theorem keptAway_exec (away : KeptAway deletion system) (leaves : LeavesDeleted deletion system operation) :
    KeptAway deletion (system.exec operation) where
  row := row_exec away leaves
  task := task_exec away
  flight := flight_exec away
  gone := gone_exec away leaves

end Steps

/-! ## The delete itself -/

section Deleting

/-- An unlink trashes the row and enqueues the task. -/
theorem deleted_unlink {answers : CallbackAnswers} {parent : Nat} {name : Option String}
    {row : Row Db.DriveFile} {world : World} (executes : answers.runs 3 = true) (looksUp : answers.runs 1 = true)
    (enqueues : answers.runs 2 = true) (found : unlinkedRow answers parent name world.db = some row) :
    (final (unlink answers parent name) world).db.file row.data.id row.data.accountId = some row.data.trashed ∧
      ∃ task, (final (unlink answers parent name) world).db.task world.db.nextTaskId = some task ∧
        task.status = .pending ∧ RemovesCopy row.data task := by
  refine ⟨file_unlink executes found, ?_⟩
  have known := of_namedRow (Option.filter_eq_some_iff.mp found).1
  let task := pendingTask answers.now row.data.accountId (some row.data.id) .delete row.data.localPath 1
  have announced : final (announce answers row.rowid .delete (removeCacheFile (answers.failures 0))) world =
      final (removeCacheFile (answers.failures 0) row.data) (world.withDb (world.db.putTask task)) := by
    rw [final_announce, if_pos looksUp, rowAtInode_of_mem known.1 known.2, Option.map_some, Option.elim_some,
      enqueues, Vfs.enqueueTask, final_enqueue, if_pos rfl]
  have same : SameQueueIn (world.withDb (world.db.putTask task)) (final (unlink answers parent name) world) := by
    rw [final_unlink_of_some found, final_bind_of_ok (outcome_announce fun details world =>
      outcome_removeCacheFile _ details), announced]
    refine IsTrans.trans _ _ _ ?_ (keeps_mapError (sameQueueIn_softDelete _ _) _)
    rw [removeCacheFile]
    cases row.data.localPath with
    | none => exact Std.Refl.refl _
    | some path => exact keeps_attempt (keeps_removeFile (fun _ _ => rfl) _) _
  refine ⟨{ task with id := some world.db.nextTaskId }, ?_, rfl, rfl, rfl, rfl⟩
  rw [Database.task, same]
  exact Database.task_putTask_next world.db task

/-- So does a request of the file provider. -/
theorem deleted_deleteItem {ctx : Ipc.RouterContext} {answers : Ipc.RpcAnswers} {path : Option String}
    {row : Db.DriveFile} {db : Database} (executes : answers.runs 2 = true) (enqueues : answers.runs 3 = true)
    (found : requestedRow ctx answers db path = some row) :
    (final (Ipc.handleFpDeleteItem ctx answers path) db).file row.id row.accountId =
        some (Ipc.discarded answers.now row) ∧
      ∃ task, (final (Ipc.handleFpDeleteItem ctx answers path) db).task db.nextTaskId = some task ∧
        task.status = .pending ∧ RemovesCopy row task := by
  rcases of_requestedRow found with ⟨held, file, requested, key⟩
  rcases Option.bind_eq_some_iff.mp requested with ⟨wanted, given, resolved⟩
  have names := Prod.mk.inj key
  let task := pendingTask answers.now file.accountId (some file.id) .delete file.localPath 1
  have ends : final (Ipc.handleFpDeleteItem ctx answers path) db =
      (db.updateFileAt file.id file.accountId (Ipc.discarded answers.now) fun _ => rfl).putTask task := by
    simp only [Ipc.handleFpDeleteItem, Ipc.requiredParam, final_bind_orRpcError, final_bind_resolveFileForPath,
      given, Option.elim_some, resolved, executes, enqueues]
    rfl
  rw [ends]
  constructor
  · rw [Database.file, Database.driveFiles_putTask]
    have changed := Database.file_updateFileAt db file.id file.accountId (Ipc.discarded answers.now) (fun _ => rfl)
      row.id row.accountId
    rw [if_pos ⟨names.1.symm, names.2.symm⟩, held] at changed
    exact changed
  · exact ⟨{ task with id := some db.nextTaskId }, Database.task_putTask_next _ task, rfl, rfl,
      congrArg some names.1, names.2⟩

variable [Rfc3339] {system : System} {operation : Operation} {about : Deletion}

/-- What the delete leaves behind, when its task is pending and the engine is not in the middle
of it. -/
theorem keptAway_of_deleted {row : Db.DriveFile} (stored : InFlightStored system)
    (number : about.taskId = system.world.db.nextTaskId)
    (engine : (system.exec operation).engine = system.engine)
    (found : (system.exec operation).world.db.file about.file.id about.file.accountId = some row)
    (trashed : row.isTrashed = true) (path : row.localPath = about.file.localPath)
    (enqueued : ∃ task, (system.exec operation).world.db.task system.world.db.nextTaskId = some task ∧
      task.status = .pending ∧ RemovesCopy about.file task) :
    KeptAway about (system.exec operation) := by
  rcases enqueued with ⟨task, there, pending, removes⟩
  rw [← number] at there
  have outside : inFlight (system.exec operation).engine ≠ some about.taskId := by
    intro within
    rw [engine] at within
    have known := stored about.taskId within
    rw [number, Database.task_nextTaskId] at known
    cases known
  constructor
  · exact ⟨row, found, trashed, Or.inl path⟩
  · exact ⟨task, there, removes⟩
  · exact fun within => (outside within).elim
  · exact fun removed => (removed ⟨task, there, Or.inl pending, fun within => (outside within).elim⟩).elim

theorem keptAway_delete (stored : InFlightStored system) (deletes : deletion system operation = some about)
    (announces : Announces operation) : KeptAway about (system.exec operation) := by
  cases operation with
  | vfs cacheDir answers callback =>
      cases callback with
      | unlink parent name =>
          simp only [deletion] at deletes
          split at deletes
          · next executes =>
              rcases Option.map_eq_some_iff.mp deletes with ⟨row, found, same⟩
              subst same
              have deleted := deleted_unlink executes announces.1 announces.2 found
              exact keptAway_of_deleted stored rfl rfl deleted.1 rfl rfl deleted.2
          · cases deletes
      | _ => cases deletes
  | rpc ctx answers request =>
      cases request with
      | deleteItem path =>
          simp only [deletion] at deletes
          split at deletes
          · next executes =>
              rcases Option.map_eq_some_iff.mp deletes with ⟨row, found, same⟩
              subst same
              have deleted := deleted_deleteItem executes announces found
              exact keptAway_of_deleted stored rfl rfl deleted.1 rfl rfl deleted.2
          · cases deletes
      | _ => cases deletes
  | _ => cases deletes

omit [Rfc3339] in
/-- A file that is kept away stays deleted. -/
theorem KeptAway.staysDeleted (away : KeptAway about system) : StaysDeleted about system := by
  rcases away.row with ⟨row, found, trashed, path⟩
  refine ⟨row, found, trashed, fun drained => ?_⟩
  have removed : ¬ AwaitsRemoval about system := by
    rintro ⟨task, stored, pending | within, _⟩
    · exact (drained.closed stored).1 pending
    · exact (drained.closed stored).2 within
  have gone := away.gone removed
  refine ⟨gone, fun target held => ?_⟩
  rcases path with same | ⟨cleared, _⟩
  · exact gone target (same.symm.trans held)
  · rw [cleared] at held
    cases held

end Deleting

/-! ## Steps that leave a file deleted -/

section Leaving

variable {about : Deletion} {system : System}

instance : Decidable (NotBegun about system) :=
  decidable_of_iff _ (Option.any_eq_true (fun task => decide (task.status = .pending)) _ |>.trans
    (exists_congr fun _ => and_congr_right fun _ => decide_eq_true_iff))

/-- The task waits, or the engine is about to remove the copy for it. -/
theorem awaitsRemoval_of_notBegun (waits : NotBegun about system)
    (idle : inFlight system.engine ≠ some about.taskId) : AwaitsRemoval about system := by
  rcases waits with ⟨task, stored, pending⟩
  exact ⟨task, stored, Or.inl pending, fun within => (idle within).elim⟩

variable [Rfc3339] {picks : Bool} {answers : TaskAnswers} {row : Db.DriveFile} {place : Place}

/-- A download that is begun stores no row. -/
theorem not_stores_of_download (next : system.world.db.nextPending.map SyncTask.operation = some .download) :
    ¬ Stores system (.engine (.begin picks answers)) row := by
  rintro ⟨_, _, task, pending, _, ⟨uploads, _⟩ | ⟨deletes, _⟩⟩
  · rw [pending, Option.map_some, uploads] at next
    cases next
  · rw [pending, Option.map_some, deletes] at next
    cases next

/-- A delete that is begun only trashes rows. -/
theorem trashes_of_delete (next : system.world.db.nextPending.map SyncTask.operation = some .delete)
    (stores : Stores system (.engine (.begin picks answers)) row) :
    ∃ before, system.world.db.Holds before ∧ Trashes before row := by
  rcases stores with ⟨_, _, task, pending, _, ⟨uploads, _⟩ | ⟨_, trashes⟩⟩
  · rw [pending, Option.map_some, uploads] at next
    cases next
  · exact trashes

omit [Rfc3339] in
/-- A delete that is begun puts no file on disk. -/
theorem not_puts_of_delete (next : system.world.db.nextPending.map SyncTask.operation = some .delete) :
    ¬ Puts system (.engine (.begin picks answers)) place := by
  rintro ⟨_, _, task, pending, _, ⟨downloads, _⟩ | ⟨uploads, _⟩⟩
  · rw [pending, Option.map_some, downloads] at next
    cases next
  · rw [pending, Option.map_some, uploads] at next
    cases next

/-- A removal that is reported only trashes rows. -/
theorem trashes_of_removal {change : ProcessChangeAnswers} {accountId mountPoint : String} {reported : Change}
    {syncMode : SyncMode} (removed : reported.removed.getD false = true)
    (stores : Stores system (.sync (.change change accountId reported syncMode mountPoint)) row) :
    ∃ before, system.world.db.Holds before ∧ Trashes before row := by
  rcases stores with ⟨write, asked, _, acted⟩
  cases named : reported.fileId with
  | none =>
      rw [Metadata.changeWrite_of_unnamed named] at asked
      cases asked
  | some fileId =>
      rw [Metadata.changeWrite_of_removed named removed] at asked
      cases asked
      rcases Option.map_eq_some_iff.mp acted with ⟨before, found, same⟩
      exact ⟨before, (Database.holds_of_file found).1, same.symm⟩

omit [Rfc3339] in
/-- A row of the file that is trashed keeps its path. -/
theorem of_trashes {held : Db.DriveFile}
    (found : system.world.db.file about.file.id about.file.accountId = some held)
    (trashes : ∃ before, system.world.db.Holds before ∧ Trashes before row) (key : row.key = about.file.key) :
    row.isTrashed = true ∧ row.localPath = held.localPath := by
  rcases trashes with ⟨before, there, same⟩
  rw [same] at key ⊢
  have names := Prod.mk.inj key
  have known : before.id = about.file.id ∧ before.accountId = about.file.accountId := names
  rw [Database.Holds, known.1, known.2, found] at there
  cases there
  exact ⟨rfl, rfl⟩

variable {held : Db.DriveFile}

/-- While the task waits, a download may be begun. -/
theorem leavesDeleted_beginDownload (next : system.world.db.nextPending.map SyncTask.operation = some .download)
    (awaits : AwaitsRemoval about system) : LeavesDeleted about system (.engine (.begin picks answers)) where
  rows _ stores _ := (not_stores_of_download next stores).elim
  puts removed := (removed awaits).elim
  removes _ _ _ := nofun
  stays := nofun

theorem leavesDeleted_beginDelete (next : system.world.db.nextPending.map SyncTask.operation = some .delete)
    (found : system.world.db.file about.file.id about.file.accountId = some held)
    (path : held.localPath = about.file.localPath ∨ held.localPath = none ∧ ¬ NotBegun about system) :
    LeavesDeleted about system (.engine (.begin picks answers)) where
  rows row stores key := by
    rcases of_trashes found (trashes_of_delete next stores) key with ⟨trashed, same⟩
    rw [same]
    exact ⟨trashed, path⟩
  puts _ _ _ := not_puts_of_delete next
  removes _ _ _ := nofun
  stays := nofun

theorem leavesDeleted_removal {change : ProcessChangeAnswers} {accountId mountPoint : String} {reported : Change}
    {syncMode : SyncMode} (removed : reported.removed.getD false = true)
    (found : system.world.db.file about.file.id about.file.accountId = some held)
    (path : held.localPath = about.file.localPath ∨ held.localPath = none ∧ ¬ NotBegun about system) :
    LeavesDeleted about system (.sync (.change change accountId reported syncMode mountPoint)) where
  rows row stores key := by
    rcases of_trashes found (trashes_of_removal removed stores) key with ⟨trashed, same⟩
    rw [same]
    exact ⟨trashed, path⟩
  puts _ _ _ := not_false
  removes _ _ _ := nofun
  stays := nofun

theorem leavesDeleted_land {landing : DownloadAnswers} (awaits : AwaitsRemoval about system) :
    LeavesDeleted about system (.engine (.land landing)) where
  rows _ stores := stores.elim
  puts removed := (removed awaits).elim
  removes _ _ _ := nofun
  stays := nofun

/-- A download writes the row that it looked up, which must be the one in the trash. -/
theorem leavesDeleted_record {landing : DownloadAnswers}
    (held : ∀ download row, system.engine = .landed download → download.driveFile = some row →
      row.isTrashed = true ∧ some download.localPath = about.file.localPath) :
    LeavesDeleted about system (.engine (.record landing)) where
  rows row stores _ := by
    rcases stores with ⟨download, before, engine, looked, _, same⟩
    rcases held download before engine looked with ⟨trashed, path⟩
    rw [same]
    exact ⟨trashed, Or.inl path⟩
  puts _ _ _ := not_false
  removes _ _ _ := nofun
  stays := nofun

theorem leavesDeleted_removeCopy {removal : DeleteAnswers} (works : removal.removeFailure = none) :
    LeavesDeleted about system (.engine (.removeCopy removal)) where
  rows _ stores := stores.elim
  puts _ _ _ := not_false
  removes answers delete path same _ _ _ _ := by
    cases same
    exact works
  stays := nofun

/-- A delete clears the path of the row that it looked up. -/
theorem leavesDeleted_recordDelete {removal : DeleteAnswers} (begun : ¬ NotBegun about system)
    (held : ∀ delete row, system.engine = .removed delete → delete.driveFile = some row → row.isTrashed = true) :
    LeavesDeleted about system (.engine (.recordDelete removal)) where
  rows row stores _ := by
    rcases stores with ⟨delete, before, engine, looked, _, same⟩
    have trashed := held delete before engine looked
    rw [same]
    exact ⟨trashed, Or.inr ⟨rfl, begun⟩⟩
  puts _ _ _ := not_false
  removes _ _ _ := nofun
  stays := nofun

end Leaving

/-- The mirrored file is deleted through the file provider. -/
def deletesNotes : Operation :=
  .rpc ⟨"/mnt", none, "/cache"⟩ (Ipc.RpcAnswers.allRun 15 1) (.deleteItem (some "/mnt/notes.txt"))

/-- The engine carries out the delete task. -/
def removesNotes : List Operation := [
  beginsLater, .engine (.removeCopy (DeleteAnswers.allRun 20)),
  .engine (.recordDelete (DeleteAnswers.allRun 20))]

/-- The row of the file as it was downloaded. -/
def notesRow : Db.DriveFile where
  id := "notes"
  accountId := "ann@example.com"
  name := "notes.txt"
  mimeType := "application/octet-stream"
  parentId := none
  size := none
  etag := none
  version := none
  modifiedTime := none
  isTrashed := false
  isShared := false
  localPath := some "/mnt/notes.txt"
  syncState := .cached
  localMtime := some 10

/-- The row as the delete left it. -/
def discardedNotes : Db.DriveFile :=
  Ipc.discarded 15 notesRow

/-- Drive reports that the notes are removed. -/
def notesRemoved : Change where
  fileId := some "notes"
  removed := some true
  file := none

/-- The mirrored notes are asked for again, so that a download of them is pending. -/
def askedNotes : List Operation :=
  mirroredNotes ++ [.rpc ⟨"/mnt", none, "/cache"⟩ (Ipc.RpcAnswers.allRun 14 1) (.fetchContents (some "/mnt/notes.txt"))]

/-- The download is carried out, Drive reports the removal of the file, and both the task of the
delete and that of the report are carried out. -/
def interleavesNotes : List Operation := [
  beginsLater, .engine (.land (DownloadAnswers.allRun ⟨[1], 10⟩ 20)),
  .engine (.record (DownloadAnswers.allRun ⟨[1], 10⟩ 20)),
  .sync (.change (ProcessChangeAnswers.allRun 21) "ann@example.com" notesRemoved .mirror "/mnt")] ++
    removesNotes ++ removesNotes

/-- The state after the delete and the first steps of that. -/
def deletingNotes (steps : Nat) : System :=
  run (@System.exec untimed) (interleavesNotes.take steps)
    (@System.exec untimed (run (@System.exec untimed) askedNotes System.initial) deletesNotes)

/-- Where the file was put that a download has landed. -/
def landedPath : EngineState → Option String
  | .landed download => some download.localPath
  | _ => none

/-- What the engine looked up is in the trash. -/
theorem trashed_of_heldRow {system : System} {row : Db.DriveFile} {delete : RemoteDelete}
    (holds : (heldRow system.engine).map Db.DriveFile.isTrashed = some true) (engine : system.engine = .removed delete)
    (looked : delete.driveFile = some row) : row.isTrashed = true := by
  rw [engine, heldRow, looked] at holds
  exact Option.some.inj holds

theorem leavesDeleted_deletingNotes :
    Along (@System.exec untimed) (@LeavesDeleted untimed ⟨notesRow, 3⟩) interleavesNotes (deletingNotes 0) := by
  have waits (steps : Nat) (pending : NotBegun ⟨notesRow, 3⟩ (deletingNotes steps))
      (idle : inFlight (deletingNotes steps).engine ≠ some 3) : AwaitsRemoval ⟨notesRow, 3⟩ (deletingNotes steps) :=
    awaitsRemoval_of_notBegun pending idle
  have cleared : ((deletingNotes 7).world.db.file "notes" "ann@example.com") = some (evictedFile discardedNotes) := by
    decide
  refine ⟨?_, ?_, ?_, ?_, ?_, ?_, ?_, ?_, ?_, ?_, trivial⟩
  · exact @leavesDeleted_beginDownload ⟨notesRow, 3⟩ (deletingNotes 0) untimed _ _ (by decide)
      (waits 0 (by decide) (by decide))
  · exact @leavesDeleted_land ⟨notesRow, 3⟩ (deletingNotes 1) untimed _ (waits 1 (by decide) (by decide))
  · refine @leavesDeleted_record ⟨notesRow, 3⟩ (deletingNotes 2) untimed _ fun download row engine looked => ?_
    have holds : heldRow (deletingNotes 2).engine = some discardedNotes := by
      decide
    have target : landedPath (deletingNotes 2).engine = some "/mnt/notes.txt" := by
      decide
    rw [engine, heldRow, looked] at holds
    rw [engine] at target
    rw [Option.some.inj holds]
    exact ⟨rfl, target⟩
  · exact @leavesDeleted_removal ⟨notesRow, 3⟩ (deletingNotes 3) untimed discardedNotes _ _ _ _ _ rfl (by decide)
      (Or.inl rfl)
  · exact @leavesDeleted_beginDelete ⟨notesRow, 3⟩ (deletingNotes 4) untimed _ _ discardedNotes (by decide) (by decide)
      (Or.inl rfl)
  · exact @leavesDeleted_removeCopy ⟨notesRow, 3⟩ (deletingNotes 5) untimed _ rfl
  · exact @leavesDeleted_recordDelete ⟨notesRow, 3⟩ (deletingNotes 6) untimed _ (by decide)
      fun delete row => trashed_of_heldRow (by decide)
  · exact @leavesDeleted_beginDelete ⟨notesRow, 3⟩ (deletingNotes 7) untimed _ _ _ (by decide) cleared
      (Or.inr ⟨rfl, by decide⟩)
  · exact @leavesDeleted_removeCopy ⟨notesRow, 3⟩ (deletingNotes 8) untimed _ rfl
  · exact @leavesDeleted_recordDelete ⟨notesRow, 3⟩ (deletingNotes 9) untimed _ (by decide)
      fun delete row => trashed_of_heldRow (by decide)

/-- The delete arrives between the parts of the download, and the download goes on. -/
def deletesBetween : List Operation :=
  mirroredNotes.take 4 ++ deletesNotes :: (mirroredNotes.drop 4 ++ removesNotes)

end Local
end GDriver
