import Mathlib.Algebra.Ring.Nat
import GDriver.Queue.Attempts
import GDriver.Queue.Budget

namespace GDriver
namespace Queue

open Library Routine Db Api Sync

/-!
# The queue is worked off

Whatever the network, Drive and the disk answer, the calls of the engine come to the end of the queue, if every
account has a client and the statements that keep the books of the queue are executed.  Each turn closes a task
or uses up one of the attempts that it has left, and these are bounded.
-/

/-- Every account has a client, and what keeps the books of the queue is executed: marking, completing and
recording a failure.  Nothing is said about the answers to requests or about the files. -/
structure KeepsBooks (answers : TaskAnswers) : Prop where
  client : answers.hasClient = true
  upload : answers.upload.marks = true ∧ answers.upload.completes = true ∧ answers.upload.failure.setsStatus = true
  download : answers.download.marks = true ∧ answers.download.looksUp = true ∧
    answers.download.createDirFailure = none ∧ answers.download.completes = true ∧
      answers.download.failure.setsStatus = true
  delete : answers.delete.marks = true ∧ answers.delete.looksUp = true ∧ answers.delete.completes = true ∧
    answers.delete.failure.setsStatus = true
  photos : answers.photos.marks = true ∧ answers.photos.completes = true ∧ answers.photos.setsStatus = true
  unknown : answers.marksUnknown = true

/-- In every turn of the call the next task is fetched, and its books are kept. -/
structure WorksOn (answers : PendingAnswers) : Prop where
  picks : ∀ turn, answers.picks turn = true
  books : ∀ turn task, KeepsBooks (answers.tasks turn task)

/-- The number of attempts that a task has left, at least one. -/
def attemptsLeft (task : SyncTask) : Nat :=
  (maxRetries - task.retryCount).toNat + 1

/-- The number of attempts that the waiting tasks have left. -/
def backlog (db : Database) : Nat :=
  ((servingOrder db).map attemptsLeft).sum

/-- The task was done, was given up, or has used up one more attempt. -/
def Advanced (task : SyncTask) (now : Standing) : Prop :=
  now.status = .completed ∨ now.status = .failed ∨
    (now.status = .pending ∧ now.retryCount = task.retryCount + 1 ∧ task.retryCount + 1 ≤ maxRetries)

section Advancing

variable {task : SyncTask} {before : Standing} {world : World}

theorem advanced_closed : Advanced task (standingView.closed true before) :=
  Or.inl rfl

theorem advanced_retried : Advanced task (standingView.retried true task before) := by
  rw [Marking.retried, if_pos rfl]
  split
  · exact Or.inr (Or.inl rfl)
  · next more => exact Or.inr (Or.inr ⟨rfl, rfl, not_lt.mp more⟩)

theorem advanced_uploadFile {answers : UploadAnswers}
    (books : answers.marks = true ∧ answers.completes = true ∧ answers.failure.setsStatus = true) :
    Advanced task (standingView.uploadFile answers task world before) := by
  rw [Marking.uploadFile, books.1, books.2.1, books.2.2]
  cases task.localPath with
  | none => exact advanced_closed
  | some localPath =>
      dsimp only
      split
      · next impossible => cases impossible
      · split
        · exact advanced_closed
        · exact advanced_retried

theorem advanced_downloadFile {answers : DownloadAnswers}
    (books : answers.marks = true ∧ answers.looksUp = true ∧ answers.createDirFailure = none ∧
      answers.completes = true ∧ answers.failure.setsStatus = true) :
    Advanced task (standingView.downloadFile answers task world before) := by
  rcases books with ⟨marks, looksUp, creates, completes, records⟩
  rw [Marking.downloadFile, marks, looksUp, creates, completes, records]
  split
  · split
    · next impossible => cases impossible
    · split
      · next impossible => cases impossible
      · split
        · exact advanced_closed
        · exact advanced_retried
  · exact advanced_closed

theorem advanced_deleteFile {answers : DeleteAnswers}
    (books : answers.marks = true ∧ answers.looksUp = true ∧ answers.completes = true ∧
      answers.failure.setsStatus = true) :
    Advanced task (standingView.deleteFile answers task world before) := by
  rcases books with ⟨marks, looksUp, completes, records⟩
  rw [Marking.deleteFile, marks, looksUp, completes, records]
  split
  · next impossible => cases impossible
  · split
    · exact advanced_closed
    · split
      · exact advanced_closed
      · exact advanced_retried
    · exact advanced_closed

theorem advanced_backupPhoto {answers : PhotosAnswers}
    (books : answers.marks = true ∧ answers.completes = true ∧ answers.setsStatus = true) :
    Advanced task (standingView.backupPhoto answers task world before) := by
  rw [Marking.backupPhoto, books.1, books.2.1, books.2.2]
  cases task.localPath with
  | none => exact advanced_closed
  | some localPath =>
      dsimp only
      split
      · exact advanced_retried
      · split
        · next impossible => cases impossible
        · split
          · exact advanced_closed
          · exact advanced_retried

variable [Rfc3339]

/-- A turn in which the books are kept closes its task or uses up an attempt. -/
theorem advanced_processTask {answers : TaskAnswers} (books : KeepsBooks answers) :
    Advanced task (standingView.processTask answers task world before) := by
  have upload (there : World) := @advanced_uploadFile task before there _ books.upload
  rw [Marking.processTask, books.client, books.unknown]
  cases task.operation with
  | upload =>
      dsimp only
      rw [if_pos rfl, Marking.processUpload]
      cases task.fileId with
      | none => exact upload world
      | some fileId =>
          cases task.localPath with
          | none => exact upload world
          | some localPath =>
              dsimp only
              cases outcome (checkAndResolve answers.conflict task fileId localPath) world with
              | error failure => exact upload _
              | ok resolved =>
                  cases resolved with
                  | true => exact Or.inl rfl
                  | false => exact upload _
  | download => exact advanced_downloadFile books.download
  | photosBackup => exact advanced_backupPhoto books.photos
  | delete => exact advanced_deleteFile books.delete
  | rename => exact advanced_closed
  | move => exact advanced_closed

end Advancing

/-! ## Turns and calls -/

section Calls

variable [Rfc3339] {answers : PendingAnswers} {world : World}

omit [Rfc3339] in
theorem HasView.standing_eq {view : TaskView Standing} {taskId : Nat} {value : Standing} {task : SyncTask}
    (has : HasView view taskId value world) (found : world.db.task taskId = some task) : view.sees task = value := by
  rw [HasView, found] at has
  exact Option.some.inj has

/-- The task that a turn took, and how it stands after the turn. -/
theorem advanced_after_turn {task : SyncTask} {taskId : Nat} {turn : TaskAnswers} (books : KeepsBooks turn)
    (stored : world.db.task taskId = some task) {after : SyncTask}
    (reached : (final (processTask turn task) world).db.task taskId = some after) : Advanced task (standing after) := by
  have has : HasView standingView taskId (standing task) world := congrArg (Option.map standing) stored
  have left := hasView_processTask (Database.id_of_task stored) has turn
  rw [show standing after = _ from HasView.standing_eq left reached]
  exact advanced_processTask books

/-- A turn lowers the backlog. -/
theorem backlog_after_turn {task : SyncTask} {taskId : Nat} {rest : List SyncTask} {turn : TaskAnswers}
    (books : KeepsBooks turn) (stored : world.db.task taskId = some task) (pending : task.status = .pending)
    (line : servingOrder world.db = task :: rest) :
    backlog (final (processTask turn task) world).db + 1 ≤ backlog world.db := by
  have identified := Database.id_of_task stored
  rcases @task_after_turn _ turn task taskId world identified stored pending with ⟨after, reached, _, status⟩
  rcases @servingOrder_after_turn _ turn task taskId world identified stored pending rest line with
    ⟨again, number, asks, order⟩
  have advanced := advanced_after_turn books stored reached
  have before : backlog world.db = attemptsLeft task + (rest.map attemptsLeft).sum := by
    rw [backlog, line]
    rfl
  rw [backlog, order, before]
  split
  · have one : 1 ≤ attemptsLeft task := Nat.le_add_left 1 _
    omega
  · next stays =>
      -- The task waits again, in the place where it was, with one attempt less.
      have same : again = after := by
        have waits : Waits (final (processTask turn task) world).db again := by
          rw [← mem_servingOrder_iff, order, if_neg stays]
          exact List.mem_cons_self
        rcases waits with ⟨otherId, found, _⟩
        have numbered := Database.id_of_task found
        rw [number, identified] at numbered
        rw [← Option.some.inj numbered, reached] at found
        exact (Option.some.inj found).symm
      have used : again.retryCount = task.retryCount + 1 ∧ task.retryCount + 1 ≤ maxRetries := by
        have pendingAgain : (standing after).status = .pending := status.trans (not_not.mp stays)
        rcases advanced with completed | failed | waits
        · rw [pendingAgain] at completed
          cases completed
        · rw [pendingAgain] at failed
          cases failed
        · rw [same]
          exact waits.2
      rw [List.map_cons, List.sum_cons, attemptsLeft, attemptsLeft]
      omega

/-- A call comes to the end of the line, or lowers the backlog in each of its turns. -/
theorem backlog_after_turns (works : WorksOn answers) (turns : Nat) :
    servingOrder (final (processTurns turns answers) world).db = [] ∨
      backlog (final (processTurns turns answers) world).db + turns ≤ backlog world.db := by
  induction turns generalizing answers world with
  | zero => exact Or.inr (Nat.le_refl _)
  | succ turns inductionHypothesis =>
      have steps := final_processTurns_cases turns answers world
      cases line : servingOrder world.db with
      | nil =>
          rw [steps.1 (turnsTaken_eq_nil (Or.inr line))]
          exact Or.inl line
      | cons task rest =>
          rcases of_servingOrder_cons line with ⟨taskId, stored, pending, _⟩
          rw [steps.2 _ _ (turnsTaken_of_line (works.picks 0) line)]
          dsimp only
          have lower := backlog_after_turn (works.books 0 task) stored pending line
          have later : WorksOn answers.later :=
            ⟨fun turn => works.picks (turn + 1), fun turn => works.books (turn + 1)⟩
          rcases @inductionHypothesis answers.later (final (processTask (answers.tasks 0 task) task) world) later with
            done | lowered
          · exact Or.inl done
          · exact Or.inr (by omega)

/-- The task that waited is still asked for, and it waits again or was closed. -/
def WaitsOrClosed (taskId : Nat) (task : SyncTask) (world : World) : Prop :=
  ∃ now, world.db.task taskId = some now ∧ task.AsksSame now ∧
    (now.status = .pending ∨ now.status = .completed ∨ now.status = .failed)

theorem waitsOrClosed_turns {taskId : Nat} {task : SyncTask} (works : WorksOn answers) (turns : Nat)
    (before : WaitsOrClosed taskId task world) :
    WaitsOrClosed taskId task (final (processTurns turns answers) world) := by
  induction turns generalizing answers world with
  | zero => exact before
  | succ turns inductionHypothesis =>
      have steps := final_processTurns_cases turns answers world
      cases line : servingOrder world.db with
      | nil =>
          rw [steps.1 (turnsTaken_eq_nil (Or.inr line))]
          exact before
      | cons first rest =>
          rcases of_servingOrder_cons line with ⟨firstId, stored, pending, identified⟩
          rw [steps.2 _ _ (turnsTaken_of_line (works.picks 0) line)]
          refine inductionHypothesis ⟨fun turn => works.picks (turn + 1), fun turn => works.books (turn + 1)⟩ ?_
          rcases before with ⟨now, found, asks, status⟩
          by_cases own : taskId = firstId
          · rw [own] at found ⊢
            cases stored.symm.trans found
            rcases @task_after_turn _ (answers.tasks 0 first) first firstId world identified stored pending with
              ⟨after, reached, same, _⟩
            refine ⟨after, reached, asks.trans same, ?_⟩
            rcases advanced_after_turn (works.books 0 first) stored reached with completed | failed | ⟨again, _⟩
            · exact Or.inr (Or.inl completed)
            · exact Or.inr (Or.inr failed)
            · exact Or.inl again
          · have others : LeavesOthers firstId world (final (processTask (answers.tasks 0 first) first) world) :=
              keeps_processTask identified (allowsStoring_leavesOthers firstId) (answers.tasks 0 first) world
            exact ⟨now, (others taskId own).trans found, asks, status⟩

end Calls

/-! ## Runs of calls -/

section Draining

variable [Rfc3339]

/-- One call of the engine for its pending tasks. -/
def callOnce (world : World) (answers : PendingAnswers) : World :=
  final (processPendingTasks answers) world

/-- The queue is worked off: nobody waits, and everyone who waited was served or given up. -/
structure WorkedOff (before after : World) : Prop where
  empty : servingOrder after.db = []
  closed : ∀ taskId task, before.db.task taskId = some task → task.status = .pending →
    ∃ now, after.db.task taskId = some now ∧ task.AsksSame now ∧ (now.status = .completed ∨ now.status = .failed)

end Draining

theorem worksOn_uploadsNothing : WorksOn uploadsNothing where
  picks _ := rfl
  books _ _ := ⟨rfl, ⟨rfl, rfl, rfl⟩, ⟨rfl, rfl, rfl, rfl, rfl⟩, ⟨rfl, rfl, rfl, rfl⟩, ⟨rfl, rfl, rfl⟩, rfl⟩

end Queue
end GDriver
