import GDriver.Library.Run
import GDriver.Local.Storing
import GDriver.Moves.Targets
import GDriver.Moves.Tasks

namespace GDriver
namespace Local

open Library Routine Db Api Sync

/-!
# Deletes the user asks for

The user deletes a file by removing it from a watched folder, by unlinking it
in the mounted file system, or through the file provider.  Each of these
enqueues a delete task.  The processor takes a task with a file id to come from
Drive, and only a task without one to come from the user.  The mounted file
system and the file provider put the file id in.

A run is followed together with the deletes that were asked for in it.  As long
as every file that Drive knows is deleted by its path alone, and the path still
leads to the file when the engine gets to the task, every such task that is
completed has reached Drive.
-/

/-- A delete the user has asked for: the task that was enqueued for it, and the
file of an account that it is about. -/
structure AskedDelete where
  taskId : Nat
  accountId : String
  fileId : String
  deriving DecidableEq, Repr

/-- Whether Drive gave out this id.  An id made up locally begins with
`local-`. -/
def isDriveId (fileId : String) : Bool :=
  !startsWith fileId "local-"

/-- The files that the user deletes with an operation.  What is removed from a watched
folder is the live file that its account has at the place, and every one if there
are several. -/
def deletedFiles (system : System) : Operation → List Db.DriveFile
  | .vfs _ answers (.unlink parent name) =>
      ((unlinkedRow answers parent name system.world.db).map Row.data).toList
  | .vfs _ answers (.rmdir parent name) =>
      ((removedFolder answers parent name system.world.db).map Row.data).toList
  | .rpc ctx answers (.deleteItem path) => (deletedItem ctx answers path system.world.db).toList
  | .event path isDir kind folders now _ =>
      (Watcher.eventToTask path isDir kind folders now).elim [] fun task =>
        liveFilesAt task.accountId path system.world.db
  | _ => []

/-- The deletion of the file has been requested from the Drive of its account. -/
def Issued (accountId fileId : String) (world : World) : Prop :=
  (accountId, Request.delete fileId) ∈ world.requests

/-- A system with the deletes that its user has asked for so far. -/
structure Asking where
  system : System
  asked : List AskedDelete

def Asking.initial : Asking where
  system := System.initial
  asked := []

section Operations

variable [Rfc3339]

/-- The deletes that an operation asks for, of files that Drive knows, if a delete task
was enqueued for them. -/
def asks (system : System) (operation : Operation) : List AskedDelete :=
  ((system.exec operation).world.db.task system.world.db.nextTaskId).elim [] fun task =>
    if task.operation = .delete then
      ((deletedFiles system operation).filter fun file => isDriveId file.id).map fun file =>
        ⟨system.world.db.nextTaskId, file.accountId, file.id⟩
    else []

/-- Carry out one operation, noting the deletes it asks for. -/
def Asking.exec (state : Asking) (operation : Operation) : Asking where
  system := state.system.exec operation
  asked := state.asked ++ asks state.system operation

end Operations

/-- Every delete whose task is completed has been requested from Drive. -/
def DeletesReachDrive (state : Asking) : Prop :=
  ∀ delete ∈ state.asked,
    (state.system.world.db.task delete.taskId).map SyncTask.status = some .completed →
      Issued delete.accountId delete.fileId state.system.world

/-- No file that Drive knows is deleted by its id, and a path to delete still
leads to the file that was meant. -/
def DeletesByPath (state : Asking) : Operation → Prop
  | .vfs _ answers (.unlink parent name) =>
      (answers.runs 1 && answers.runs 2) = true →
        ∀ row, unlinkedRow answers parent name state.system.world.db = some row →
          isDriveId row.data.id = false
  | .vfs _ answers (.rmdir parent name) =>
      (answers.runs 1 && answers.runs 2) = true →
        ∀ row, removedFolder answers parent name state.system.world.db = some row →
          isDriveId row.data.id = false
  | .rpc ctx answers (.deleteItem path) =>
      answers.runs 3 = true →
        ∀ file, deletedItem ctx answers path state.system.world.db = some file →
          isDriveId file.id = false
  | .engine (.begin picks answers) =>
      state.system.engine = .idle → picks = true → answers.hasClient = true →
        (answers.delete.marks && answers.delete.looksUp) = true →
          ∀ task path, state.system.world.db.nextPending = some task → task.localPath = some path →
            ∀ delete ∈ state.asked, task.id = some delete.taskId →
              (state.system.world.db.fileAtLocalPath path).map Db.DriveFile.id =
                some delete.fileId
  | _ => True

/-! ## The processing of a delete by path -/

section Processing

variable {answers : DeleteAnswers} {task : SyncTask} {taskId : Nat} {path fileId : String}
  {world : World}

/-- A delete by path that completes its task has requested the deletion of the
file at the path. -/
theorem issued_of_handleLocalDelete
    (leads : answers.looksUp = true →
      (world.db.fileAtLocalPath path).map Db.DriveFile.id = some fileId)
    (running : NotCompleted taskId world.db) :
    NotCompleted taskId (final (handleLocalDelete answers task taskId path) world).db ∨
      Issued task.accountId fileId (final (handleLocalDelete answers task taskId path) world) := by
  cases looksUp : answers.looksUp with
  | false =>
      have fails : outcome (onDb (getFileByLocalPath answers.looksUp path)) world =
          .error databaseError := by
        rw [outcome_onDb, outcome_getFileByLocalPath, looksUp, if_neg Bool.false_ne_true]
      refine Or.inl ?_
      rw [handleLocalDelete, final_bind_of_error fails, final_onDb, final_getFileByLocalPath]
      exact running
  | true =>
      rcases Option.map_eq_some_iff.mp (leads looksUp) with ⟨file, found, named⟩
      have answered : outcome (onDb (getFileByLocalPath answers.looksUp path)) world =
          .ok (some file) := by
        rw [outcome_onDb, outcome_getFileByLocalPath, looksUp, if_pos rfl, found]
      refine Or.inr ?_
      rw [handleLocalDelete, final_bind_of_ok answered, final_onDb, final_getFileByLocalPath]
      dsimp only
      rw [final_bind_of_ok (outcome_observe _ _), final_observe, final_filesDelete,
        outcome_filesDelete, named]
      have requested : (task.accountId, Request.delete fileId) ∈
          (answers.server.carryOut task.accountId fileId
            ((world.withDb world.db).send task.accountId (.delete fileId))).requests := by
        rw [requests_carryOut]
        exact List.mem_append_right _ (List.mem_singleton.mpr rfl)
      cases answers.server.reply with
      | error failure =>
          rw [final_onDb]
          exact requested
      | ok done =>
          dsimp only
          rw [final_bind_of_ok (outcome_onDb _ _), final_onDb, final_onDb]
          exact requested

/-- The same for a whole delete task without a file id. -/
theorem issued_of_deleteFile (identified : task.id = some taskId) (byPath : task.fileId = none)
    (there : task.localPath = some path)
    (leads : (answers.marks && answers.looksUp) = true →
      (world.db.fileAtLocalPath path).map Db.DriveFile.id = some fileId)
    (running : NotCompleted taskId world.db) :
    NotCompleted taskId (final (deleteFile answers task) world).db ∨
      Issued task.accountId fileId (final (deleteFile answers task) world) := by
  have marked := notCompleted_updateTaskStatus (by decide : TaskStatus.inProgress ≠ .completed)
    answers.marks answers.now none running
  simp only [deleteFile, identified, byPath, there]
  cases marks : answers.marks with
  | false =>
      refine Or.inl ?_
      rw [final_bind, outcome_onDb, outcome_updateTaskStatus, if_neg Bool.false_ne_true, final_onDb]
      rw [marks] at marked
      exact marked
  | true =>
      have answered : outcome (onDb (updateTaskStatus true answers.now taskId .inProgress none))
          world = .ok () := by
        rw [outcome_onDb, outcome_updateTaskStatus, if_pos rfl]
      rw [marks] at marked
      rw [marks, Bool.true_and] at leads
      rw [final_bind_of_ok answered, final_onDb]
      refine issued_of_handleLocalDelete ?_ marked
      intro looksUp
      rw [World.withDb_db, final_updateTaskStatus, if_pos rfl]
      exact leads looksUp

end Processing

/-! ## The invariant -/

/-- Every delete that was asked for is in the queue by its path and for the account, and has
been requested from Drive if it is completed.  The engine is in the middle of tasks
with a file id only. -/
structure Accounted (state : Asking) : Prop where
  asked : ∀ delete ∈ state.asked, ∃ task path,
    state.system.world.db.task delete.taskId = some task ∧ task.operation = .delete ∧
      task.fileId = none ∧ task.accountId = delete.accountId ∧ task.localPath = some path ∧
        (task.status = .completed → Issued delete.accountId delete.fileId state.system.world)
  engine : ∀ taskId, inFlight state.system.engine = some taskId →
    ∃ task fileId, state.system.world.db.task taskId = some task ∧ task.fileId = some fileId

theorem accounted_initial : Accounted Asking.initial where
  asked _ member := nomatch member
  engine _ within := nomatch within

theorem Issued.of_proceeds {accountId fileId : String} {busy : Option Nat} {world later : World}
    (proceeds : Proceeds busy world later) (issued : Issued accountId fileId world) :
    Issued accountId fileId later :=
  proceeds.sent _ issued

theorem sameQueue_enqueue_of_not_run {runs : Bool} (fails : runs = false) (task : SyncTask) :
    Keeps SameQueue (enqueue runs task) := by
  intro db
  rw [final_enqueue, fails]
  rfl

theorem sameQueueIn_softDelete (runs : Bool) (ino : Nat) :
    Keeps SameQueueIn (onDb (Vfs.softDeleteByInode runs ino)) := by
  intro world
  rw [final_onDb, Vfs.softDeleteByInode, Vfs.updateInode, final_execute]
  split <;> rfl

/-- Unless the task is looked up and enqueued, nothing is announced. -/
theorem sameQueueIn_announced {answers : Vfs.CallbackAnswers}
    (fails : ¬ (answers.runs 1 && answers.runs 2) = true) :
    answers.runs 1 = true → ∀ task, task.IsNew → task.operation ≠ .download →
      Keeps SameQueueIn (onDb (enqueue (answers.runs 2) task)) := by
  intro looksUp task _ _
  rw [looksUp, Bool.true_and] at fails
  exact keeps_onDb (fun _ _ same => same)
    (sameQueue_enqueue_of_not_run (Bool.eq_false_iff.mpr fails) task)

section Asking

variable [Rfc3339] {state : Asking} {operation : Operation}

theorem mem_asks {system : System} {delete : AskedDelete} (asked : delete ∈ asks system operation) :
    ∃ file task, file ∈ deletedFiles system operation ∧ isDriveId file.id = true ∧
      (system.exec operation).world.db.task system.world.db.nextTaskId = some task ∧
        task.operation = .delete ∧ delete = ⟨system.world.db.nextTaskId, file.accountId, file.id⟩ := by
  rw [asks] at asked
  cases enqueued : (system.exec operation).world.db.task system.world.db.nextTaskId with
  | none =>
      rw [enqueued] at asked
      cases asked
  | some task =>
      rw [enqueued, Option.elim_some] at asked
      split at asked
      · next operates =>
          rcases List.mem_map.mp asked with ⟨file, member, same⟩
          rcases List.mem_filter.mp member with ⟨about, known⟩
          exact ⟨file, task, about, known, rfl, operates, same.symm⟩
      · cases asked

/-- An operation that leaves the queue alone asks for nothing. -/
theorem not_asks_of_sameQueue {system : System} {delete : AskedDelete}
    (same : SameQueueIn system.world (system.exec operation).world) : delete ∉ asks system operation := by
  intro asked
  rcases mem_asks asked with ⟨_, task, _, _, enqueued, _, _⟩
  have absent := Database.task_nextTaskId system.world.db
  simp only [Database.task, SameQueueIn, SameQueue] at enqueued absent same
  rw [same, absent] at enqueued
  cases enqueued

/-- An operation that deletes no file asks for nothing. -/
theorem not_asks_of_nothing {system : System} {delete : AskedDelete}
    (nothing : deletedFiles system operation = []) : delete ∉ asks system operation := by
  intro asked
  rcases mem_asks asked with ⟨file, _, about, _⟩
  rw [nothing] at about
  cases about

/-- A task that the user's delete enqueues for a file known to Drive has the path
and no file id, and is for the account of the file. -/
theorem byPath_of_asks {delete : AskedDelete} (byPath : DeletesByPath state operation)
    (asked : delete ∈ asks state.system operation) :
    ∃ task path, (state.system.exec operation).world.db.task delete.taskId = some task ∧
      task.operation = .delete ∧ task.fileId = none ∧ task.accountId = delete.accountId ∧
        task.localPath = some path ∧ task.status ≠ .completed := by
  cases operation with
  | vfs cacheDir answers callback =>
      cases callback with
      | unlink parent name =>
          rcases mem_asks asked with ⟨file, _, about, known, _⟩
          rcases Option.map_eq_some_iff.mp (Option.mem_toList.mp about) with ⟨row, found, same⟩
          by_cases runs : (answers.runs 1 && answers.runs 2) = true
          · rw [← same, byPath runs row found] at known
            cases known
          · have keeps : Keeps SameQueueIn (Vfs.unlink answers parent name) :=
              keeps_unlink (sameQueueIn_announced runs)
                (fun failure path => keeps_removeFile (fun _ _ => rfl) failure)
                (sameQueueIn_softDelete _) parent name
            exact (not_asks_of_sameQueue (keeps state.system.world) asked).elim
      | rmdir parent name =>
          rcases mem_asks asked with ⟨file, _, about, known, _⟩
          rcases Option.map_eq_some_iff.mp (Option.mem_toList.mp about) with ⟨row, found, same⟩
          by_cases runs : (answers.runs 1 && answers.runs 2) = true
          · rw [← same, byPath runs row found] at known
            cases known
          · have keeps : Keeps SameQueueIn (Vfs.rmdir answers parent name) :=
              keeps_rmdir (sameQueueIn_announced runs) (sameQueueIn_softDelete _) parent name
            exact (not_asks_of_sameQueue (keeps state.system.world) asked).elim
      | _ => exact (not_asks_of_nothing rfl asked).elim
  | rpc ctx answers request =>
      cases request with
      | deleteItem path =>
          rcases mem_asks asked with ⟨file, _, about, known, _⟩
          by_cases runs : answers.runs 3 = true
          · rw [byPath runs file (Option.mem_toList.mp about)] at known
            cases known
          · have keeps : Keeps SameQueue (Ipc.handleFpDeleteItem ctx answers path) :=
              keeps_handleFpDeleteItem (fun _ _ => keeps_execute _ fun _ => rfl)
                (fun task _ _ => sameQueue_enqueue_of_not_run (Bool.eq_false_iff.mpr runs) task) ctx path
            refine absurd asked (not_asks_of_sameQueue ?_)
            exact keeps state.system.world.db
      | _ => exact (not_asks_of_nothing rfl asked).elim
  | event path isDir kind folders now runs =>
      rcases mem_asks asked with ⟨file, task, about, _, enqueued, operates, same⟩
      have wrote : (state.system.exec (.event path isDir kind folders now runs)).world.db =
          final (watch path isDir kind folders now runs) state.system.world.db := rfl
      rw [same]
      refine ⟨task, path, enqueued, operates, ?_⟩
      rw [wrote, watch] at enqueued
      rw [deletedFiles] at about
      cases watched : Watcher.eventToTask path isDir kind folders now with
      | none =>
          rw [watched] at about
          cases about
      | some request =>
          rcases Watcher.of_eventToTask watched with ⟨byPath, there, pending⟩
          rw [watched, Option.elim_some] at about
          rw [watched] at enqueued
          rw [final_attempt, final_enqueue] at enqueued
          split at enqueued
          · rw [Database.task_putTask_next] at enqueued
            rw [← Option.some.inj enqueued]
            refine ⟨byPath, (of_mem_liveFilesAt about).2.2.1.symm, there, ?_⟩
            rw [pending]
            decide
          · rw [Database.task_nextTaskId] at enqueued
            cases enqueued
  | sync work => exact (not_asks_of_nothing rfl asked).elim
  | engine step => exact (not_asks_of_nothing rfl asked).elim
  | user path file => exact (not_asks_of_nothing rfl asked).elim

/-! ## Every step -/

/-- A delete by path that the engine begins has been requested from Drive if it is
completed. -/
theorem issued_of_begin {system : System} {picks : Bool} {answers : TaskAnswers} {task : SyncTask}
    {delete : AskedDelete} {path : String} (idle : system.engine = .idle)
    (next : system.world.db.nextPending = some task) (identified : task.id = some delete.taskId)
    (stored : system.world.db.task delete.taskId = some task) (pending : task.status = .pending)
    (operates : task.operation = .delete) (byPath : task.fileId = none)
    (account : task.accountId = delete.accountId) (there : task.localPath = some path)
    (leads : picks = true → answers.hasClient = true →
      (answers.delete.marks && answers.delete.looksUp) = true →
        (system.world.db.fileAtLocalPath path).map Db.DriveFile.id = some delete.fileId) :
    NotCompleted delete.taskId ((EngineStep.begin picks answers).exec system).world.db ∨
      Issued delete.accountId delete.fileId ((EngineStep.begin picks answers).exec system).world := by
  have running : NotCompleted delete.taskId system.world.db := by
    intro other found
    rw [stored] at found
    cases found
    rw [pending]
    decide
  simp only [EngineStep.exec, idle]
  rcases settle_beginNext picks answers system.world with nothing | ⟨other, picked, same, begun⟩
  · rw [nothing]
    exact Or.inl running
  · rw [next] at same
    cases same
    rw [begun]
    cases client : answers.hasClient with
    | false =>
        rw [settle_beginTask_of_no_client client (Or.inr operates)]
        exact Or.inl running
    | true =>
        have deletes : beginDelete answers.delete task =
            deleteFile answers.delete task >>= fun _ => pure EngineState.idle := by
          simp only [beginDelete, identified, byPath]
        rw [beginTask_delete client operates, deletes]
        simp only [settle, final_bind_pure]
        rw [← account]
        exact issued_of_deleteFile identified byPath there (leads picked client) running

theorem accounted_exec (accounted : Accounted state) (byPath : DeletesByPath state operation) :
    Accounted (state.exec operation) := by
  have proceeds := proceeds_exec state.system operation
  constructor
  · intro delete member
    rcases List.mem_append.mp member with before | fresh
    · rcases accounted.asked delete before with
        ⟨task, path, stored, operates, byPathOnly, account, there, issued⟩
      rcases proceeds.tasks.kept _ _ stored with ⟨after, reached, asksSame, stays⟩
      refine ⟨after, path, reached, asksSame.operation.trans operates,
        asksSame.fileId.trans byPathOnly, asksSame.accountId.trans account, asksSame.localPath.trans there,
        fun completed => ?_⟩
      by_cases busy : busyTask state.system operation = some delete.taskId
      · rcases busyTask_cases busy with within | ⟨picks, answers, next, same, idle, taken, identified⟩
        · rcases accounted.engine _ within with ⟨other, fileId, found, about⟩
          rw [stored] at found
          cases found
          rw [byPathOnly] at about
          cases about
        · subst same
          rcases Database.of_nextPending taken with ⟨taskId, numbered, found, pending⟩
          rw [identified] at numbered
          cases numbered
          rw [stored] at found
          cases found
          rcases issued_of_begin idle taken identified stored pending operates byPathOnly account there
              (fun picked client runs => byPath idle picked client runs task path taken there delete
                before identified) with running | issuedNow
          · exact absurd completed (running after reached)
          · exact issuedNow
      · rw [stays busy] at completed
        exact Issued.of_proceeds proceeds (issued completed)
    · rcases byPath_of_asks byPath fresh with ⟨task, path, stored, operates, only, account, there, running⟩
      exact ⟨task, path, stored, operates, only, account, there, fun completed => absurd completed running⟩
  · intro taskId within
    have keeps {task : SyncTask} {fileId : String}
        (found : state.system.world.db.task taskId = some task) (about : task.fileId = some fileId) :
        ∃ after fileId, (state.exec operation).system.world.db.task taskId = some after ∧
          after.fileId = some fileId := by
      rcases proceeds.tasks.kept _ _ found with ⟨after, reached, asksSame, _⟩
      exact ⟨after, fileId, reached, asksSame.fileId.trans about⟩
    have was : inFlight state.system.engine = some taskId ∨
        ∃ task, state.system.world.db.nextPending = some task ∧ task.id = some taskId ∧
          task.fileId.isSome = true := by
      cases operation with
      | engine step => exact inFlight_exec within
      | _ => exact Or.inl within
    rcases was with before | ⟨task, next, identified, about⟩
    · rcases accounted.engine taskId before with ⟨task, fileId, found, about⟩
      exact keeps found about
    · rcases Option.isSome_iff_exists.mp about with ⟨fileId, named⟩
      rcases Database.of_nextPending next with ⟨number, numbered, found, _⟩
      rw [identified] at numbered
      cases numbered
      exact keeps found named

end Asking

/-- A file of ann@example.com is mirrored at `/mnt/notes.txt`. -/
def mirroredNotes : List Operation := [
  .sync (.connect true ⟨"ann@example.com", "ann@example.com", 0⟩),
  .sync (.listed true "ann@example.com" (Api.DriveFile.named "notes" "notes.txt")),
  .sync (.mirror (MirrorAnswers.allRun 9 1) "ann@example.com" "/mnt"),
  .engine (.begin true (TaskAnswers.allRun ⟨none, .error "no upload", []⟩ ⟨[1], 10⟩ 5)),
  .engine (.land (DownloadAnswers.allRun ⟨[1], 10⟩ 5)),
  .engine (.record (DownloadAnswers.allRun ⟨[1], 10⟩ 5))]

/-- The mirrored file is removed from its folder. -/
def removedNotes : List Operation :=
  mirroredNotes ++ [.event "/mnt/notes.txt" false .removeFile
    [⟨"/mnt", "ann@example.com", "drive"⟩] 15 true]

/-- The engine begins a task after that. -/
def beginsLater : Operation :=
  .engine (.begin true (TaskAnswers.allRun ⟨none, .error "no upload", []⟩ ⟨[1], 10⟩ 20))

theorem removedNotes_deletesByPath :
    Along (@Asking.exec untimed) DeletesByPath removedNotes Asking.initial := by
  refine ⟨trivial, trivial, trivial, ?_, trivial, trivial, trivial, trivial⟩
  intro _ _ _ _ task path _ _ delete member
  cases member

end Local
end GDriver
