import GDriver.Queue.Flight
import GDriver.Queue.Stranded

namespace GDriver
namespace Errors

open Library Routine Db Api Sync Ipc Conflict Queue

/-!
# Failures for good

After the last retry a task is given up: it is marked as failed, and uploads, downloads and deletions
leave a row in the error log.  The user interface shows the unresolved rows, and offers to try again.
A row mentions the account, the file and its name, not the task.
-/

/-- The same error, resolved. -/
def resolved (error : SyncError) : SyncError :=
  { error with isResolved := true }

/-- Mark an error as resolved. -/
def resolveError (runs : Bool) (id : Int) : Routine String Database Unit :=
  execute runs fun db => { db with syncErrors := db.syncErrors.update (fun row => (row.rowid : Int) = id) resolved }

def handleSyncRetryError (runs : Bool) (errorId : Option Int) : Routine RpcError Database Unit := do
  let errorId ← requiredParam "errorId" errorId
  orInternal (resolveError runs errorId)

/-- Trying again changes the error log alone. -/
theorem syncQueue_handleSyncRetryError (runs : Bool) (errorId : Option Int) (db : Database) :
    (final (handleSyncRetryError runs errorId) db).syncQueue = db.syncQueue := by
  cases errorId with
  | none => rfl
  | some errorId =>
      cases runs with
      | false => rfl
      | true => rfl

/-- The error is what the failure of the task has put into it. -/
structure Shows (error : SyncError) (task : SyncTask) : Prop where
  accountId : error.accountId = some task.accountId
  fileId : error.fileId = task.fileId
  fileName : error.fileName = task.localPath.bind fileName
  errorMsg : task.errorMsg = some error.errorMsg

/-- An unresolved row of the error log that shows the failure of the task. -/
structure Shown (db : Database) (task : SyncTask) (row : Row SyncError) : Prop where
  stored : row ∈ db.syncErrors.rows
  unresolved : row.data.isResolved = false
  about : Shows row.data task

/-- Every failed task has one unresolved error, and trying again makes the task pending with all its
retries. -/
structure Retryable (db : Database) : Prop where
  shown : ∀ taskId task, db.task taskId = some task → task.status = .failed → ∃! row, Shown db task row
  retries : ∀ taskId task row, db.task taskId = some task → task.status = .failed → Shown db task row →
    ∃ after, (final (handleSyncRetryError true (some row.rowid)) db).task taskId = some after ∧
      after.status = .pending ∧ after.retryCount = 0

/-- No task has been given up. -/
def NoneFailed (db : Database) : Prop :=
  ∀ taskId task, db.task taskId = some task → task.status ≠ .failed

/-- There is no way back for a task that was given up. -/
theorem retryable_iff_noneFailed (db : Database) : Retryable db ↔ NoneFailed db := by
  constructor
  · intro retryable taskId task found failed
    rcases retryable.shown taskId task found failed with ⟨row, shown, _⟩
    rcases retryable.retries taskId task row found failed shown with ⟨after, reached, pending, _⟩
    rw [Database.task, syncQueue_handleSyncRetryError] at reached
    have same : task = after := Option.some.inj (found.symm.trans reached)
    rw [same, pending] at failed
    cases failed
  · intro none_
    exact ⟨fun taskId task found failed => absurd failed (none_ taskId task found),
      fun taskId task _ found failed _ => absurd failed (none_ taskId task found)⟩

/-! ## Giving up -/

/-- A failed attempt is recorded, and was the last one. -/
def isLast (runs : Bool) (task : SyncTask) : Bool :=
  runs && decide (maxRetries < task.retryCount + 1)

/-- A marked task is given up when its last attempt does not succeed. -/
def failsLast (marks succeeds runs : Bool) (task : SyncTask) : Bool :=
  marks && (!succeeds && isLast runs task)

def givesUpUpload (answers : UploadAnswers) (task : SyncTask) (found : Bool) : Bool :=
  failsLast answers.marks ((answers.readFailure.isNone && found) && answers.server.reply.isOk)
    answers.failure.setsStatus task

def givesUpUploadTask (answers : TaskAnswers) (task : SyncTask) (world : World) : Bool :=
  match task.localPath, task.fileId with
  | none, _ => false
  | some localPath, none => givesUpUpload answers.upload task (world.disk localPath).isSome
  | some localPath, some fileId =>
      if (detected answers.conflict task fileId localPath world).isSome then
        !resolves answers.conflict.resolve &&
          givesUpUpload answers.upload task (staysInPlace answers.conflict.resolve)
      else givesUpUpload answers.upload task (world.disk localPath).isSome

/-- A download is given up at its beginning when the transfer fails. -/
def givesUpTransfer (answers : DownloadAnswers) (task : SyncTask) : Bool :=
  match task.fileId, task.localPath with
  | some _, some _ =>
      (answers.looksUp && answers.createDirFailure.isNone) &&
        failsLast answers.marks answers.fetched.failure.isNone answers.failure.setsStatus task
  | _, _ => false

/-- It is given up later when the content cannot be put in place. -/
def givesUpLanding (answers : DownloadAnswers) (download : Download) (world : World) : Bool :=
  failsLast true (finds answers.renameFailure (tmpPath download.localPath) world) answers.failure.setsStatus
    download.task

/-- Only the deletion of a file on Drive is given up. -/
def givesUpDelete (answers : DeleteAnswers) (task : SyncTask) (world : World) : Bool :=
  match task.fileId, task.localPath with
  | none, some localPath =>
      answers.looksUp && failsLast answers.marks
        ((world.db.fileAtLocalPath localPath).isNone || answers.server.reply.isOk) answers.failure.setsStatus task
  | _, _ => false

def givesUpPhoto (answers : PhotosAnswers) (task : SyncTask) (world : World) : Bool :=
  match task.localPath with
  | none => false
  | some localPath =>
      if !isSupportedPhotoFormat localPath then isLast answers.setsStatus task
      else failsLast answers.marks ((finds answers.readFailure localPath world && answers.uploadToken.isOk) &&
        created answers.batchCreate) answers.setsStatus task

def givesUpTask (answers : TaskAnswers) (task : SyncTask) (world : World) : Bool :=
  answers.hasClient &&
    match task.operation with
    | .upload => givesUpUploadTask answers task world
    | .download => givesUpTransfer answers.download task
    | .delete => givesUpDelete answers.delete task world
    | .photosBackup => givesUpPhoto answers.photos task world
    | .rename => false
    | .move => false

/-- The operation is the last attempt of a task, and fails. -/
def givesUp (system : System) : Operation → Bool
  | .engine step =>
      match step, system.engine with
      | .begin picks answers, .idle =>
          picks && system.world.db.nextPending.any fun task => givesUpTask answers task system.world
      | .land answers, .fetched download => givesUpLanding answers download system.world
      | _, _ => false
  | _ => false

section Statuses

theorem closed_ne_failed (runs : Bool) {before : TaskStatus} (different : before ≠ .failed) :
    closed runs before ≠ .failed := by
  cases runs with
  | true => exact fun impossible => by cases impossible
  | false => exact different

theorem retried_eq_failed_iff (runs : Bool) (task : SyncTask) {before : TaskStatus} (different : before ≠ .failed) :
    retried runs task before = .failed ↔ isLast runs task = true := by
  rw [retried, isLast]
  cases runs with
  | false => exact iff_of_false different Bool.false_ne_true
  | true =>
      rw [if_pos rfl, Bool.true_and, decide_eq_true_eq]
      split
      · next last => exact iff_of_true rfl last
      · next again => exact iff_of_false (fun impossible => by cases impossible) again

theorem succeeds_eq_failed_iff (succeeds completes runs : Bool) (task : SyncTask) :
    (if succeeds then closed completes .inProgress else retried runs task .inProgress) = .failed ↔
      (!succeeds && isLast runs task) = true := by
  cases succeeds with
  | true => exact iff_of_false (closed_ne_failed completes (by decide)) Bool.false_ne_true
  | false => exact retried_eq_failed_iff runs task (by decide)

theorem marked_eq_failed_iff {marks fails : Bool} {status : TaskStatus}
    (failing : status = .failed ↔ fails = true) :
    (if !marks then TaskStatus.pending else status) = .failed ↔ (marks && fails) = true := by
  cases marks with
  | false => exact iff_of_false (fun impossible => by cases impossible) Bool.false_ne_true
  | true => exact failing

theorem plainUploadStatus_eq_failed_iff (answers : UploadAnswers) (task : SyncTask) (found : Bool) :
    plainUploadStatus answers task found = .failed ↔ givesUpUpload answers task found = true :=
  marked_eq_failed_iff (succeeds_eq_failed_iff _ _ _ task)

variable (task : SyncTask) (world : World)

theorem deleteStatus_eq_failed_iff (answers : DeleteAnswers) :
    deleteStatus answers task world = .failed ↔ givesUpDelete answers task world = true := by
  have closes : closed answers.completes .inProgress ≠ .failed := closed_ne_failed _ (by decide)
  have never {status : TaskStatus} (different : status ≠ .failed) :
      (if !answers.marks then TaskStatus.pending else status) = .failed ↔ false = true := by
    rw [marked_eq_failed_iff (iff_of_false different Bool.false_ne_true), Bool.and_false]
  cases about : task.fileId with
  | some fileId =>
      simp only [deleteStatus, givesUpDelete, about]
      refine never ?_
      split
      · exact closes
      · decide
  | none =>
      cases path : task.localPath with
      | none =>
          simp only [deleteStatus, givesUpDelete, about, path]
          exact never closes
      | some localPath =>
          simp only [deleteStatus, givesUpDelete, about, path]
          cases answers.looksUp with
          | false => exact never fun impossible => by cases impossible
          | true => exact marked_eq_failed_iff (succeeds_eq_failed_iff _ _ _ task)

theorem photosStatus_eq_failed_iff (answers : PhotosAnswers) :
    photosStatus answers task world = .failed ↔ givesUpPhoto answers task world = true := by
  cases path : task.localPath with
  | none =>
      simp only [photosStatus, givesUpPhoto, path]
      exact iff_of_false (closed_ne_failed _ (by decide)) Bool.false_ne_true
  | some localPath =>
      simp only [photosStatus, givesUpPhoto, path]
      cases isSupportedPhotoFormat localPath with
      | false => exact retried_eq_failed_iff _ task (by decide)
      | true => exact marked_eq_failed_iff (succeeds_eq_failed_iff _ _ _ task)

theorem begunDownloadStatus_eq_failed_iff (answers : DownloadAnswers) :
    begunDownloadStatus answers task = .failed ↔ givesUpTransfer answers task = true := by
  have closes : closed answers.completes .pending ≠ .failed := closed_ne_failed _ (by decide)
  cases about : task.fileId with
  | none =>
      simp only [begunDownloadStatus, givesUpTransfer, about]
      exact iff_of_false closes Bool.false_ne_true
  | some fileId =>
      cases path : task.localPath with
      | none =>
          simp only [begunDownloadStatus, givesUpTransfer, about, path]
          exact iff_of_false closes Bool.false_ne_true
      | some localPath =>
          simp only [begunDownloadStatus, givesUpTransfer, about, path]
          cases answers.looksUp && answers.createDirFailure.isNone with
          | false =>
              rw [Bool.not_false, if_pos rfl, Bool.false_and]
              refine iff_of_false ?_ Bool.false_ne_true
              split
              · decide
              · decide
          | true => exact marked_eq_failed_iff (@succeeds_eq_failed_iff _ false _ task)

theorem landedStatus_eq_failed_iff (answers : DownloadAnswers) (download : Download) :
    landedStatus answers download world = .failed ↔ givesUpLanding answers download world = true :=
  @succeeds_eq_failed_iff _ false _ download.task

variable [Rfc3339]

theorem uploadTaskStatus_eq_failed_iff (answers : TaskAnswers) :
    uploadTaskStatus answers task world = .failed ↔ givesUpUploadTask answers task world = true := by
  have plain := plainUploadStatus_eq_failed_iff answers.upload task
  rw [uploadTaskStatus_eq]
  cases path : task.localPath with
  | none =>
      simp only [uploadedStatus, givesUpUploadTask, path]
      exact iff_of_false (closed_ne_failed _ (by decide)) Bool.false_ne_true
  | some localPath =>
      cases about : task.fileId with
      | none =>
          simp only [uploadedStatus, givesUpUploadTask, path, about]
          exact plain _
      | some fileId =>
          simp only [uploadedStatus, givesUpUploadTask, path, about]
          cases (detected answers.conflict task fileId localPath world).isSome with
          | false => exact plain _
          | true =>
              cases resolves answers.conflict.resolve with
              | true => exact iff_of_false (fun impossible => by cases impossible) Bool.false_ne_true
              | false => exact plain _

/-- A task that is begun is given up there and then exactly if its last attempt fails. -/
theorem begunStatus_eq_failed_iff (answers : TaskAnswers) :
    begunStatus answers task world = .failed ↔ givesUpTask answers task world = true := by
  cases client : answers.hasClient with
  | false =>
      have waits : begunStatus answers task world ≠ .failed := by
        simp only [begunStatus, client, Bool.false_and, Bool.false_eq_true, if_false]
        cases operation : task.operation with
        | rename =>
            simp only [taskStatus, operation]
            exact closed_ne_failed _ (by decide)
        | move =>
            simp only [taskStatus, operation]
            exact closed_ne_failed _ (by decide)
        | _ =>
            simp only [taskStatus, operation, client, Bool.false_eq_true, if_false]
            decide
      rw [givesUpTask, client, Bool.false_and]
      exact iff_of_false waits Bool.false_ne_true
  | true =>
      rw [begunStatus, givesUpTask, client, Bool.true_and, Bool.true_and, Bool.true_and]
      cases operation : task.operation with
      | download => exact begunDownloadStatus_eq_failed_iff task answers.download
      | delete =>
          simp only [reduceCtorEq, decide_false, Bool.false_eq_true, if_false, decide_true, if_true]
          cases about : task.fileId with
          | none =>
              simp only [begunDeleteStatus, about]
              exact deleteStatus_eq_failed_iff task world answers.delete
          | some fileId =>
              simp only [begunDeleteStatus, givesUpDelete, about]
              refine iff_of_false ?_ Bool.false_ne_true
              split
              · decide
              · decide
      | upload =>
          simp only [reduceCtorEq, decide_false, Bool.false_eq_true, if_false, taskStatus, operation, client, if_true]
          exact uploadTaskStatus_eq_failed_iff task world answers
      | photosBackup =>
          simp only [reduceCtorEq, decide_false, Bool.false_eq_true, if_false, taskStatus, operation, client, if_true]
          exact photosStatus_eq_failed_iff task world answers.photos
      | rename =>
          simp only [reduceCtorEq, decide_false, Bool.false_eq_true, if_false, taskStatus, operation, iff_false]
          exact closed_ne_failed _ (by decide)
      | move =>
          simp only [reduceCtorEq, decide_false, Bool.false_eq_true, if_false, taskStatus, operation, iff_false]
          exact closed_ne_failed _ (by decide)

end Statuses

/-! ## Runs -/

/-- An operation of the daemon, or a request to try again. -/
inductive ErrorStep where
  | operation (operation : Operation)
  | retryError (runs : Bool) (errorId : Option Int)

section Steps

variable [Rfc3339] {system : System}

/-- Carry out one step. -/
def stepErrors (system : System) : ErrorStep → System
  | .operation operation => system.exec operation
  | .retryError runs errorId => system.onDb (final (handleSyncRetryError runs errorId) system.world.db)

/-- The step is the last attempt of a task, and fails. -/
def failsForGood (system : System) : ErrorStep → Bool
  | .operation operation => givesUp system operation
  | .retryError _ _ => false

theorem statusAfter_eq_failed_iff (operation : Operation) :
    statusAfter system operation = .failed ↔ givesUp system operation = true := by
  have waits : TaskStatus.pending = .failed ↔ false = true := by decide
  have runs : TaskStatus.inProgress = .failed ↔ false = true := by decide
  have closes (completes : Bool) : closed completes .inProgress = .failed ↔ false = true :=
    iff_of_false (closed_ne_failed completes (by decide)) Bool.false_ne_true
  cases operation with
  | engine step =>
      cases engine : system.engine with
      | idle =>
          cases step with
          | begin picks answers =>
              simp only [statusAfter, givesUp, engine]
              cases picks with
              | false => exact waits
              | true =>
                  rw [if_pos rfl, Bool.true_and]
                  cases system.world.db.nextPending with
                  | none => exact waits
                  | some task => exact begunStatus_eq_failed_iff task system.world answers
          | _ =>
              simp only [statusAfter, givesUp, engine]
              exact waits
      | fetched download =>
          cases step with
          | land answers =>
              simp only [statusAfter, givesUp, engine]
              exact landedStatus_eq_failed_iff system.world answers download
          | _ =>
              simp only [statusAfter, givesUp, engine]
              exact waits
      | landed download =>
          cases step with
          | record answers =>
              simp only [statusAfter, givesUp, engine]
              exact closes _
          | _ =>
              simp only [statusAfter, givesUp, engine]
              exact waits
      | removing delete =>
          cases step with
          | removeCopy answers =>
              simp only [statusAfter, givesUp, engine]
              exact runs
          | _ =>
              simp only [statusAfter, givesUp, engine]
              exact waits
      | removed delete =>
          cases step with
          | recordDelete answers =>
              simp only [statusAfter, givesUp, engine]
              exact closes _
          | _ =>
              simp only [statusAfter, givesUp, engine]
              exact waits
  | _ => exact waits

/-- A task that an operation does not work on is given up by nobody. -/
theorem status_of_not_busy {operation : Operation} (none_ : NoneFailed system.world.db) {taskId : Nat}
    (idle : busyTask system operation ≠ some taskId) {task : SyncTask}
    (found : (system.exec operation).world.db.task taskId = some task) : task.status ≠ .failed := by
  have proceeds := (proceeds_exec system operation).tasks
  cases before : system.world.db.task taskId with
  | none =>
      rw [proceeds.fresh taskId task idle found before]
      decide
  | some stored =>
      rcases proceeds.kept taskId stored before with ⟨after, reached, _, same⟩
      rw [Option.some.inj (found.symm.trans reached), same idle]
      exact none_ taskId stored before

omit [Rfc3339] in
/-- An operation that works on no task gives up none. -/
theorem givesUp_of_not_busy {operation : Operation} (rests : busyTask system operation = none) :
    givesUp system operation = false := by
  cases operation with
  | engine step =>
      cases engine : system.engine with
      | idle =>
          cases step with
          | begin picks answers =>
              simp only [busyTask, engine] at rests
              simp only [givesUp, engine]
              cases next : system.world.db.nextPending with
              | none => exact Bool.and_false picks
              | some task =>
                  rcases Database.of_nextPending next with ⟨taskId, identified, _, _⟩
                  rw [next, Option.bind_some, identified] at rests
                  cases rests
          | _ => simp only [givesUp, engine]
      | fetched download =>
          cases step with
          | land answers => simp only [busyTask, engine, reduceCtorEq] at rests
          | _ => simp only [givesUp, engine]
      | landed download =>
          cases step with
          | _ => simp only [givesUp, engine]
      | removing delete =>
          cases step with
          | _ => simp only [givesUp, engine]
      | removed delete =>
          cases step with
          | _ => simp only [givesUp, engine]
  | _ => rfl

/-- After an operation no task is failed, unless the operation has given one up. -/
theorem noneFailed_exec_iff (runs : InFlightRuns system) (none_ : NoneFailed system.world.db)
    (operation : Operation) :
    NoneFailed (system.exec operation).world.db ↔ ¬ givesUp system operation = true := by
  cases busy : busyTask system operation with
  | none =>
      rw [givesUp_of_not_busy busy]
      refine iff_of_true (fun taskId task found => status_of_not_busy none_ ?_ found) Bool.false_ne_true
      rw [busy]
      exact fun impossible => by cases impossible
  | some taskId =>
      have left : HasStatus taskId (statusAfter system operation) (system.exec operation).world := by
        cases operation with
        | engine step => exact hasStatus_exec runs busy
        | _ => cases busy
      rcases Option.map_eq_some_iff.mp left with ⟨task, reached, status⟩
      rw [← statusAfter_eq_failed_iff, ← status]
      constructor
      · intro after
        exact after taskId task reached
      · intro done other stored found
        by_cases same : other = taskId
        · rw [same, reached] at found
          rw [← Option.some.inj found]
          exact done
        · refine status_of_not_busy none_ ?_ found
          rw [busy]
          exact fun working => same (Option.some.inj working).symm

/-- The same for the steps of a run. -/
theorem noneFailed_step_iff (runs : InFlightRuns system) (none_ : NoneFailed system.world.db) (step : ErrorStep) :
    NoneFailed (stepErrors system step).world.db ↔ ¬ failsForGood system step = true := by
  cases step with
  | operation operation => exact noneFailed_exec_iff runs none_ operation
  | retryError executes errorId =>
      refine iff_of_true (fun taskId task found => none_ taskId task ?_) Bool.false_ne_true
      change (final (handleSyncRetryError executes errorId) system.world.db).task taskId = some task at found
      rw [Database.task, syncQueue_handleSyncRetryError] at found
      exact found

theorem inFlightRuns_step (runs : InFlightRuns system) (step : ErrorStep) :
    InFlightRuns (stepErrors system step) := by
  cases step with
  | operation operation => exact inFlightRuns_exec runs operation
  | retryError executes errorId =>
      refine runs.of_kept rfl fun taskId task found => ?_
      change (final (handleSyncRetryError executes errorId) system.world.db).task taskId = some task
      rw [Database.task, syncQueue_handleSyncRetryError]
      exact found

end Steps

/-- What giving up a task leaves in the error log. -/
def failureRow (errorCode : String) (task : SyncTask) (errorMsg : String) (now : Int) : SyncError where
  accountId := some task.accountId
  fileId := task.fileId
  fileName := task.localPath.bind fileName
  errorCode := errorCode
  errorMsg := errorMsg
  isResolved := false
  createdAt := now

/-- A failed upload, download or deletion leaves a row if it is given up and the statement is executed. -/
theorem syncErrors_handleFailure (errorCode : String) (answers : FailureAnswers) (task : SyncTask) (taskId : Nat)
    (errorMsg : String) (db : Database) :
    (final (handleFailure errorCode answers task taskId errorMsg) db).syncErrors =
      if isLast answers.setsStatus task && answers.insertsError then
        db.syncErrors.insert (failureRow errorCode task errorMsg answers.now)
      else db.syncErrors := by
  rw [isLast]
  simp only [handleFailure]
  split
  · next last =>
      have marks : outcome (updateTaskStatus answers.setsStatus answers.now taskId .failed (some errorMsg)) db =
          if answers.setsStatus then .ok () else .error databaseError := outcome_updateTaskStatus _ _ _ _ _ _
      rw [decide_eq_true last, Bool.and_true]
      cases sets : answers.setsStatus with
      | false =>
          rw [sets] at marks
          rw [final_bind_of_error marks]
          rfl
      | true =>
          rw [sets] at marks
          rw [final_bind_of_ok marks, final_attempt, insertError, final_execute, Bool.true_and]
          split
          · rfl
          · rfl
  · next again =>
      rw [decide_eq_false again, Bool.and_false, Bool.false_and, updateTaskRetry, final_execute]
      split
      · rfl
      · rfl

/-- The backup of a photo that is given up leaves none. -/
theorem syncErrors_handlePhotoFailure (answers : PhotosAnswers) (task : SyncTask) (taskId : Nat)
    (errorMsg : String) (world : World) :
    (final (handlePhotoFailure answers task taskId errorMsg) world).db.syncErrors = world.db.syncErrors := by
  simp only [handlePhotoFailure]
  split
  · rw [final_onDb, final_updateTaskStatus]
    split
    · rfl
    · rfl
  · rw [final_onDb, updateTaskRetry, final_execute]
    split
    · rfl
    · rfl

/-- Which failures leave a row in the error log, that trying again leaves the queue alone, and that in a run
every failed task can be tried again exactly as long as there is none. -/
theorem failures_retryable_iff [Rfc3339] :
    (∀ errorCode answers task taskId errorMsg db,
      (final (handleFailure errorCode answers task taskId errorMsg) db).syncErrors =
        if isLast answers.setsStatus task && answers.insertsError then
          db.syncErrors.insert (failureRow errorCode task errorMsg answers.now)
        else db.syncErrors) ∧
    (∀ answers task taskId errorMsg (world : World),
      (final (handlePhotoFailure answers task taskId errorMsg) world).db.syncErrors = world.db.syncErrors) ∧
    (∀ runs errorId db, (final (handleSyncRetryError runs errorId) db).syncQueue = db.syncQueue) ∧
    ∀ steps, Throughout stepErrors (fun system => Retryable system.world.db) steps System.initial ↔
      Along stepErrors (fun system step => ¬ failsForGood system step = true) steps System.initial := by
  refine ⟨syncErrors_handleFailure, syncErrors_handlePhotoFailure, syncQueue_handleSyncRetryError, ?_⟩
  refine @throughout_iff_along _ _ stepErrors (fun system step => ¬ failsForGood system step = true) InFlightRuns
    (fun system => Retryable system.world.db) (fun _ step runs => inFlightRuns_step runs step)
    (fun system step runs retryable => ?_) _ inFlightRuns_initial ?_
  · have none_ := (retryable_iff_noneFailed system.world.db).mp retryable
    exact (retryable_iff_noneFailed _).trans (noneFailed_step_iff runs none_ step)
  · refine (retryable_iff_noneFailed _).mpr fun taskId task found => ?_
    cases found

/-- A file without an extension lies among the photos, and the engine tries four times to back it up. -/
def backsUpUnsupported : List ErrorStep :=
  [.operation (.sync (.connect true ⟨"ann@example.com", "ann@example.com", 0⟩)),
    .operation (.event "/photos/cat" false .create [⟨"/photos", "ann@example.com", "photos"⟩] 1 true)] ++
  List.replicate 4 (.operation (.engine (.begin true (TaskAnswers.allRun ⟨none, .error "no upload", []⟩ ⟨[1], 10⟩ 5))))

/-- A note is to be uploaded, but is gone when the engine reads it. -/
def uploadsMissing : List ErrorStep :=
  [.operation (.sync (.connect true ⟨"ann@example.com", "ann@example.com", 0⟩)),
    .operation (.event "/docs/note.txt" false .create [⟨"/docs", "ann@example.com", "drive"⟩] 1 true)] ++
  List.replicate 4 (.operation (.engine (.begin true (TaskAnswers.allRun ⟨none, .error "no upload", []⟩ ⟨[1], 10⟩ 5))))

/-- The photo is shown nowhere.  The note stays failed when the user tries again. -/
theorem failed_tasks_are_stuck :
    ¬ Retryable (run (@stepErrors untimed) backsUpUnsupported System.initial).world.db ∧
      (run (@stepErrors untimed) backsUpUnsupported System.initial).world.db.syncErrors.rows = [] ∧
      ((run (@stepErrors untimed) (uploadsMissing ++ [.retryError true (some 1)]) System.initial).world.db.task 1).map
        SyncTask.status = some .failed := by
  have failed : ((run (@stepErrors untimed) backsUpUnsupported System.initial).world.db.task 1).map SyncTask.status =
      some .failed := by decide
  refine ⟨fun retryable => ?_, by decide, by decide⟩
  rcases Option.map_eq_some_iff.mp failed with ⟨task, found, status⟩
  exact (retryable_iff_noneFailed _).mp retryable 1 task found status

end Errors
end GDriver
