import GDriver.Db.Files

namespace GDriver
namespace Db

open Library Routine

/-!
# Statements on `sync_queue` and `sync_errors`

Tasks are never deleted, so the row number of a task identifies it for good.
A task's status moves through `updateTaskStatus` and `updateTaskRetry` alone.
-/

namespace Database

def putTask (db : Database) (task : SyncTask) : Database :=
  { db with syncQueue := db.syncQueue.insert task }

/-- Change the task stored under a number, leaving its number alone. -/
def updateTask (db : Database) (id : Nat) (change : SyncTask → SyncTask)
    (keeps : ∀ task, (change task).id = task.id) : Database :=
  { db with syncQueue := db.syncQueue.update (fun row => row.rowid = id) change keeps }

/-- The task stored under a number. -/
def task (db : Database) (id : Nat) : Option SyncTask :=
  (db.syncQueue.rowAt id).map Row.data

/-- The number the next task gets. -/
def nextTaskId (db : Database) : Nat :=
  db.syncQueue.nextRowid

@[simp] theorem task_putFile (db : Database) (file : DriveFile) (id : Nat) :
    (db.putFile file).task id = db.task id := rfl

@[simp] theorem task_updateFileAt (db : Database) (fileId accountId : String)
    (change : DriveFile → DriveFile) (keeps : ∀ file, (change file).key = file.key) (id : Nat) :
    (db.updateFileAt fileId accountId change keeps).task id = db.task id := rfl

/-- A stored task knows its number. -/
theorem id_of_task {db : Database} {id : Nat} {task : SyncTask} (stored : db.task id = some task) :
    task.id = some id := by
  rcases Option.map_eq_some_iff.mp stored with ⟨row, found, same⟩
  have member := (Table.of_findRow?_eq_some found).1
  rw [← same, db.syncQueue.numbered row member, Table.rowid_of_rowAt found]

theorem task_putTask_of_some {db : Database} {id : Nat} {stored : SyncTask}
    (found : db.task id = some stored) (task : SyncTask) : (db.putTask task).task id = some stored := by
  rcases Option.map_eq_some_iff.mp found with ⟨row, there, same⟩
  refine Option.map_eq_some_iff.mpr ⟨row, ?_, same⟩
  exact Table.rowAt_insert_of_some there _

/-- No task has the next number yet. -/
theorem task_nextTaskId (db : Database) : db.task db.nextTaskId = none :=
  congrArg (Option.map Row.data) (Table.rowAt_nextRowid db.syncQueue.toTable)

/-- An enqueued task is stored under the next number. -/
theorem task_putTask_next (db : Database) (task : SyncTask) :
    (db.putTask task).task db.nextTaskId = some { task with id := some db.nextTaskId } :=
  congrArg (Option.map Row.data) (Table.rowAt_insert_nextRowid db.syncQueue.toTable _)

/-- A task found after another was enqueued is that one, or was there before. -/
theorem task_putTask_cases {db : Database} {task found : SyncTask} {id : Nat}
    (stored : (db.putTask task).task id = some found) :
    found = { task with id := some db.nextTaskId } ∨ db.task id = some found := by
  rcases Option.map_eq_some_iff.mp stored with ⟨row, there, same⟩
  have member := (Table.of_findRow?_eq_some there).1
  have rows : (db.putTask task).syncQueue.rows =
      db.syncQueue.rows ++ [⟨db.nextTaskId, { task with id := some db.nextTaskId }⟩] := rfl
  rw [rows] at member
  rcases List.mem_append.mp member with before | last
  · refine Or.inr (Option.map_eq_some_iff.mpr ⟨row, ?_, same⟩)
    rw [← Table.rowid_of_rowAt there]
    exact Table.rowAt_of_mem before
  · refine Or.inl (same.symm.trans ?_)
    rw [List.mem_singleton.mp last]

theorem task_updateTask_self (db : Database) (id : Nat) (change : SyncTask → SyncTask)
    (keeps : ∀ task, (change task).id = task.id) :
    (db.updateTask id change keeps).task id = (db.task id).map change := by
  have seen : (db.updateTask id change keeps).syncQueue.rowAt id = _ :=
    Table.rowAt_update db.syncQueue.toTable (fun row => row.rowid = id) change id
  simp only [task, seen, Option.map_map]
  refine Option.map_congr fun row found => ?_
  simp only [Function.comp_apply, Table.rowid_of_rowAt found, decide_true, if_true]

theorem task_updateTask_of_ne (db : Database) {id other : Nat} (different : other ≠ id)
    (change : SyncTask → SyncTask) (keeps : ∀ task, (change task).id = task.id) :
    (db.updateTask id change keeps).task other = db.task other := by
  have seen : (db.updateTask id change keeps).syncQueue.rowAt other = _ :=
    Table.rowAt_update db.syncQueue.toTable (fun row => row.rowid = id) change other
  simp only [task, seen, Option.map_map]
  refine Option.map_congr fun row found => ?_
  simp only [Function.comp_apply, Table.rowid_of_rowAt found, different, decide_false,
    Bool.false_eq_true, if_false]

@[simp] theorem file_updateTask (db : Database) (id : Nat) (change : SyncTask → SyncTask)
    (keeps : ∀ task, (change task).id = task.id) (fileId accountId : String) :
    (db.updateTask id change keeps).file fileId accountId = db.file fileId accountId := rfl

@[simp] theorem file_putTask (db : Database) (task : SyncTask) (fileId accountId : String) :
    (db.putTask task).file fileId accountId = db.file fileId accountId := rfl

@[simp] theorem driveFiles_putTask (db : Database) (task : SyncTask) :
    (db.putTask task).driveFiles = db.driveFiles := rfl

@[simp] theorem driveFiles_updateTask (db : Database) (id : Nat) (change : SyncTask → SyncTask)
    (keeps : ∀ task, (change task).id = task.id) :
    (db.updateTask id change keeps).driveFiles = db.driveFiles := rfl

/-- Nothing but the task queue differs. -/
def AgreeBesideQueue (db later : Database) : Prop :=
  later = { db with syncQueue := later.syncQueue }

instance : Std.Refl AgreeBesideQueue where
  refl _ := rfl

instance : IsTrans Database AgreeBesideQueue where
  trans first second third one two := by
    unfold AgreeBesideQueue at one two ⊢
    rw [two, one]

namespace AgreeBesideQueue

variable {db later : Database}

theorem driveFiles (agree : AgreeBesideQueue db later) : later.driveFiles = db.driveFiles := by
  rw [agree]

theorem accounts (agree : AgreeBesideQueue db later) : later.accounts = db.accounts := by
  rw [agree]

theorem syncTokens (agree : AgreeBesideQueue db later) : later.syncTokens = db.syncTokens := by
  rw [agree]

end AgreeBesideQueue

end Database

/-- A task asks for the same, and in the same turn, after its status has
changed. -/
structure SyncTask.AsksSame (task later : SyncTask) : Prop where
  accountId : later.accountId = task.accountId
  fileId : later.fileId = task.fileId
  operation : later.operation = task.operation
  localPath : later.localPath = task.localPath
  priority : later.priority = task.priority
  createdAt : later.createdAt = task.createdAt

theorem SyncTask.AsksSame.refl (task : SyncTask) : task.AsksSame task :=
  ⟨rfl, rfl, rfl, rfl, rfl, rfl⟩

theorem SyncTask.AsksSame.trans {first second third : SyncTask} (one : first.AsksSame second)
    (two : second.AsksSame third) : first.AsksSame third where
  accountId := two.accountId.trans one.accountId
  fileId := two.fileId.trans one.fileId
  operation := two.operation.trans one.operation
  localPath := two.localPath.trans one.localPath
  priority := two.priority.trans one.priority
  createdAt := two.createdAt.trans one.createdAt

/-- The task has not been attempted yet. -/
structure SyncTask.IsNew (task : SyncTask) : Prop where
  pending : task.status = .pending
  untried : task.retryCount = 0

/-- Insert a new task into the queue and return it with its number. -/
def enqueue (runs : Bool) (task : SyncTask) : Routine String Database SyncTask :=
  query runs fun db => ({ task with id := some db.nextTaskId }, db.putTask task)

/-- Update the status and the error message of a task. -/
def updateTaskStatus (runs : Bool) (now : Int) (id : Nat) (status : TaskStatus)
    (errorMsg : Option String) : Routine String Database Unit :=
  execute runs fun db => db.updateTask id
    (fun task => { task with status := status, errorMsg := errorMsg, updatedAt := now })
    fun _ => rfl

/-- Update the status, the retry count and the error message of a task. -/
def updateTaskRetry (runs : Bool) (now : Int) (id : Nat) (status : TaskStatus) (retryCount : Int)
    (errorMsg : Option String) : Routine String Database Unit :=
  execute runs fun db => db.updateTask id
    (fun task => { task with
      status := status, retryCount := retryCount, errorMsg := errorMsg, updatedAt := now })
    fun _ => rfl

/-- A task that is in progress waits again; any other task is left alone. -/
def SyncTask.reset (now : Int) (task : SyncTask) : SyncTask :=
  if task.status = .inProgress then { task with status := .pending, updatedAt := now } else task

theorem SyncTask.id_reset (now : Int) (task : SyncTask) : (task.reset now).id = task.id := by
  rw [SyncTask.reset]
  split
  · rfl
  · rfl

/-- Reset every task in progress back to pending, and count them.  Meant for crash
recovery; the daemon does not call it. -/
def resetInProgressToPending (runs : Bool) (now : Int) : Routine String Database Nat :=
  query runs fun db =>
    ((db.syncQueue.records.filter fun task => task.status = .inProgress).length,
      { db with syncQueue :=
          db.syncQueue.update (fun _ => true) (SyncTask.reset now) (SyncTask.id_reset now) })

/-- Of two pending tasks the one served first: lower priority number, then
the older one, then the one stored earlier. -/
def servedFirst (best : Option SyncTask) (task : SyncTask) : Option SyncTask :=
  match best with
  | none => some task
  | some kept =>
      if task.priority < kept.priority ∨
          (task.priority = kept.priority ∧ task.createdAt < kept.createdAt) then some task
      else some kept

/-- The pending task to process next, if there is one. -/
def Database.nextPending (db : Database) : Option SyncTask :=
  (db.syncQueue.records.filter fun task => task.status = .pending).foldl servedFirst none

theorem servedFirst_foldl (tasks : List SyncTask) (best : Option SyncTask) {task : SyncTask}
    (served : tasks.foldl servedFirst best = some task) : best = some task ∨ task ∈ tasks := by
  induction tasks generalizing best with
  | nil => exact Or.inl served
  | cons head rest inductionHypothesis =>
      rcases inductionHypothesis _ served with same | later
      · cases best with
        | none => exact Or.inr (List.mem_cons.mpr (Or.inl (Option.some.inj same).symm))
        | some kept =>
            simp only [servedFirst] at same
            split at same
            · exact Or.inr (List.mem_cons.mpr (Or.inl (Option.some.inj same).symm))
            · exact Or.inl same
      · exact Or.inr (List.mem_cons_of_mem _ later)

/-- The task to process next is stored under its number, and pending. -/
theorem Database.of_nextPending {db : Database} {task : SyncTask}
    (next : db.nextPending = some task) :
    ∃ id, task.id = some id ∧ db.task id = some task ∧ task.status = .pending := by
  rcases servedFirst_foldl _ none next with nothing | served
  · cases nothing
  · rcases List.mem_filter.mp served with ⟨member, pending⟩
    rcases List.mem_map.mp member with ⟨row, stored, same⟩
    have found : db.task row.rowid = some task :=
      Option.map_eq_some_iff.mpr ⟨row, Table.rowAt_of_mem stored, same⟩
    exact ⟨row.rowid, Database.id_of_task found, found, of_decide_eq_true pending⟩

def nextPendingTask (runs : Bool) : Routine String Database (Option SyncTask) :=
  select runs Database.nextPending

/-- Record a persistent sync error. -/
def insertError (runs : Bool) (error : SyncError) : Routine String Database Unit :=
  execute runs fun db => { db with syncErrors := db.syncErrors.insert error }

section Specifications

variable (runs : Bool) (db : Database)

@[simp] theorem final_enqueue (task : SyncTask) :
    final (enqueue runs task) db = if runs then db.putTask task else db := by
  unfold enqueue query
  rw [final_statement]

@[simp] theorem final_updateTaskStatus (now : Int) (id : Nat) (status : TaskStatus)
    (errorMsg : Option String) :
    final (updateTaskStatus runs now id status errorMsg) db =
      if runs then
        db.updateTask id
          (fun task => { task with status := status, errorMsg := errorMsg, updatedAt := now })
          fun _ => rfl
      else db :=
  final_execute _ _ db

@[simp] theorem outcome_updateTaskStatus (now : Int) (id : Nat) (status : TaskStatus)
    (errorMsg : Option String) :
    outcome (updateTaskStatus runs now id status errorMsg) db =
      if runs then .ok () else .error databaseError :=
  outcome_execute _ _ db

@[simp] theorem outcome_enqueue (task : SyncTask) :
    outcome (enqueue runs task) db =
      if runs then .ok { task with id := some db.nextTaskId } else .error databaseError := by
  unfold enqueue query
  rw [outcome_statement]

theorem keeps_enqueue (task : SyncTask) :
    Keeps Database.AgreeBesideQueue (enqueue runs task) :=
  keeps_statement _ _ _ fun _ => rfl

end Specifications

end Db
end GDriver
