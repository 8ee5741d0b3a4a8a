import GDriver.Accounts.Owned
import GDriver.Queue.Flight

namespace GDriver
namespace Accounts

open Library Routine Db Api Sync Queue

/-!
# The tasks of a disconnected account

Disconnecting an account deletes the files, the page token and the folders that refer to it.  Its
tasks refer to nothing, and stay.  After that the watcher goes on with the folders it watches, and
whoever has looked up a row of the account before enqueues what it was about to enqueue.
-/

/-- A task that the engine has still to process, or is processing. -/
def IsActive (task : SyncTask) : Prop :=
  task.status = .pending ∨ task.status = .inProgress

/-- Every pending or in-progress task belongs to a stored account. -/
def TasksBelong (db : Database) : Prop :=
  ∀ taskId task, db.task taskId = some task → IsActive task → db.hasAccount task.accountId = true

/-- An operation, or the last statement of one that has taken the account from what it looked up
before other operations came in between. -/
inductive AccountStep where
  | whole (operation : Operation)
  | late (runs : Bool) (now : Int) (accountId : String) (fileId : Option String) (asks : TaskOperation)
      (localPath : Option String) (priority : Int)

def AccountStep.exec [Rfc3339] (system : System) : AccountStep → System
  | .whole operation => system.exec operation
  | .late runs now accountId fileId asks localPath priority =>
      system.onDb (final (enqueue runs (pendingTask now accountId fileId asks localPath priority))
        system.world.db)

/-- An account is disconnected when it has no active task, and tasks are enqueued for accounts that
are there. -/
def Fits (system : System) : AccountStep → Prop
  | .whole (.sync (.disconnect runs accountId)) =>
      runs = true → ∀ taskId task, system.world.db.task taskId = some task → IsActive task →
        task.accountId ≠ accountId
  | .whole (.event path isDir kind folders now runs) =>
      runs = true → ∀ task, Watcher.eventToTask path isDir kind folders now = some task →
        system.world.db.hasAccount task.accountId = true
  | .late runs _ accountId _ _ _ _ => runs = true → system.world.db.hasAccount accountId = true
  | _ => True

/-! ## Single statements -/

section Statements

variable {db : Database}

/-- A new task needs an account, and changes nothing for the others. -/
theorem tasksBelong_enqueue_iff (belong : TasksBelong db) {task : SyncTask} (pending : task.status = .pending)
    (runs : Bool) :
    TasksBelong (final (enqueue runs task) db) ↔ (runs = true → db.hasAccount task.accountId = true) := by
  rw [final_enqueue]
  cases runs with
  | false => exact iff_of_true belong fun impossible => by cases impossible
  | true =>
      rw [if_pos rfl]
      constructor
      · intro after _
        exact after db.nextTaskId { task with id := some db.nextTaskId } (Database.task_putTask_next db task)
          (Or.inl pending)
      · intro owned taskId found stored active
        rcases Database.task_putTask_cases stored with same | before
        · rw [same]
          exact owned rfl
        · exact belong taskId found before active

theorem hasAccount_deleteAccount (db : Database) (accountId other : String) :
    (final (deleteAccount true accountId) db).hasAccount other = true ↔
      db.hasAccount other = true ∧ other ≠ accountId := by
  have looked : (final (deleteAccount true accountId) db).hasAccount other =
      ((db.accounts.lookupRow other).filter fun row => !decide (row.data.id = accountId)).isSome := by
    rw [← KeyedTable.lookupRow_delete db.accounts fun account => decide (account.id = accountId)]
    exact Option.isSome_map
  rw [looked, Database.hasAccount, KeyedTable.lookup, Option.isSome_map]
  cases found : db.accounts.lookupRow other with
  | none => exact iff_of_false Bool.false_ne_true fun both => by cases both.1
  | some row =>
      have named : row.data.id = other := ((KeyedTable.lookupRow_eq_some_iff _ _ _).mp found).2
      rw [Option.filter_some, named]
      by_cases same : other = accountId
      · rw [decide_eq_true same]
        exact iff_of_false Bool.false_ne_true fun both => both.2 same
      · rw [decide_eq_false same]
        exact iff_of_true rfl ⟨rfl, same⟩

/-- What a deleted account takes with it, and that its tasks are not among it. -/
structure TakenAlong (accountId : String) (db later : Database) : Prop where
  account : later.hasAccount accountId = false
  files : ∀ row ∈ later.driveFiles.rows, row.data.accountId ≠ accountId
  token : later.token accountId = none
  folders : ∀ row ∈ later.syncFolders.rows, row.data.accountId ≠ accountId
  tasks : ∀ taskId, later.task taskId = db.task taskId

theorem takenAlong_deleteAccount (db : Database) (accountId : String) :
    TakenAlong accountId db (final (deleteAccount true accountId) db) where
  account := by
    rw [← Bool.not_eq_true, hasAccount_deleteAccount]
    exact fun both => both.2 rfl
  files row member := by
    have kept := (List.mem_filter.mp member).2
    simpa using kept
  token := by
    have left : (db.syncTokens.delete fun token => token.accountId = accountId).lookupRow accountId = none := by
      rw [KeyedTable.lookupRow_delete, Option.filter_eq_none_iff]
      intro row found
      have owner : row.data.accountId = accountId := ((KeyedTable.lookupRow_eq_some_iff _ _ _).mp found).2
      simp [owner]
    exact congrArg (fun row => (row.map Row.data).map SyncToken.pageToken) left
  folders row member := by
    have kept := (List.mem_filter.mp member).2
    simpa using kept
  tasks _ := rfl

/-- An account may go when it has no active task. -/
theorem tasksBelong_deleteAccount_iff (belong : TasksBelong db) (accountId : String) :
    TasksBelong (final (deleteAccount true accountId) db) ↔
      ∀ taskId task, db.task taskId = some task → IsActive task → task.accountId ≠ accountId := by
  constructor
  · intro after taskId task found active
    exact ((hasAccount_deleteAccount db accountId _).mp (after taskId task found active)).2
  · intro others taskId task found active
    exact (hasAccount_deleteAccount db accountId _).mpr
      ⟨belong taskId task found active, others taskId task found active⟩

end Statements

/-! ## Steps -/

/-- The operation neither adds nor removes an account, and takes no account from a folder. -/
def Ordinary : Operation → Prop
  | .sync (.connect _ _) => False
  | .sync (.disconnect _ _) => False
  | .event _ _ _ _ _ _ => False
  | _ => True

theorem Within.rowsOwned {start db : Database} (within : Within start db) : RowsOwned db := by
  intro row member
  rw [within.hasAccount]
  exact within.rows row member

/-- An account that is there stays when another is connected. -/
theorem hasAccount_insertAccount (runs : Bool) (account : Account) {db : Database} {accountId : String}
    (there : db.hasAccount accountId = true) :
    (final (insertAccount runs account) db).hasAccount accountId = true := by
  rw [final_insertAccount]
  split
  · rw [Database.hasAccount, KeyedTable.lookup_upsert]
    split
    · rfl
    · exact there
  · exact there

theorem driveFiles_insertAccount (runs : Bool) (account : Account) (db : Database) :
    (final (insertAccount runs account) db).driveFiles = db.driveFiles := by
  rw [final_insertAccount]
  split
  · rfl
  · rfl

theorem rowsOwned_deleteAccount {db : Database} (owned : RowsOwned db) (accountId : String) :
    RowsOwned (final (deleteAccount true accountId) db) := by
  intro row member
  have different := (takenAlong_deleteAccount db accountId).files row member
  exact (hasAccount_deleteAccount db accountId _).mpr ⟨owned row (List.mem_filter.mp member).1, different⟩

theorem rowsOwned_enqueue {db : Database} (owned : RowsOwned db) (runs : Bool) (task : SyncTask) :
    RowsOwned (final (enqueue runs task) db) := by
  rw [final_enqueue]
  split
  · exact owned
  · exact owned

section Steps

variable [Rfc3339] {system : System}

theorem inFlightRuns_step (runs : InFlightRuns system) (step : AccountStep) : InFlightRuns (step.exec system) := by
  cases step with
  | whole operation => exact inFlightRuns_exec runs operation
  | late executes now accountId fileId asks localPath priority =>
      refine runs.of_kept rfl fun taskId task found => ?_
      change (final (enqueue executes _) system.world.db).task taskId = some task
      rw [final_enqueue]
      split
      · exact Database.task_putTask_of_some found _
      · exact found

theorem within_exec {operation : Operation} (ordinary : Ordinary operation)
    (owned : RowsOwned system.world.db) : Within system.world.db (system.exec operation).world.db := by
  have self := within_self owned
  cases operation with
  | sync work =>
      refine within_sync (fun runs account same => ?_) (fun runs accountId same => ?_) self
      · rw [same] at ordinary
        exact ordinary
      · rw [same] at ordinary
        exact ordinary
  | rpc ctx answers request => exact within_request ctx answers request self
  | vfs cacheDir answers callback => exact within_callback cacheDir answers callback system.world self
  | event path isDir kind folders now runs => exact ordinary.elim
  | engine step => exact within_engine system step self
  | user path file => exact self

/-- A task that is active after an operation was active before, or is new. -/
theorem tasksBelong_exec {operation : Operation} (ordinary : Ordinary operation)
    (owned : RowsOwned system.world.db) (runs : InFlightRuns system) (belong : TasksBelong system.world.db) :
    TasksBelong (system.exec operation).world.db := by
  have within := within_exec ordinary owned
  intro taskId task found active
  rw [within.hasAccount]
  cases there : system.world.db.task taskId with
  | none => exact within.tasks taskId task found there
  | some before =>
      rcases (proceeds_exec system operation).tasks.kept taskId before there with ⟨after, reached, asks, stays⟩
      rw [found] at reached
      cases reached
      rw [asks.accountId]
      refine belong taskId before there ?_
      by_cases busy : busyTask system operation = some taskId
      · rcases busyTask_cases busy with flight | ⟨_, _, next, _, _, served, identified⟩
        · have running := runs taskId flight
          rw [HasStatus, there] at running
          exact Or.inr (Option.some.inj running)
        · rcases Database.of_nextPending served with ⟨number, numbered, stored, pending⟩
          cases identified.symm.trans numbered
          rw [there] at stored
          rw [Option.some.inj stored]
          exact Or.inl pending
      · rw [← stays busy]
        exact active

omit [Rfc3339] in
/-- The watcher takes the account of a task from its list of folders. -/
theorem tasksBelong_watch_iff {db : Database} (belong : TasksBelong db) (path : String) (isDir : Bool)
    (kind : Watcher.EventKind) (folders : List Watcher.WatchedFolder) (now : Int) (runs : Bool) :
    TasksBelong (final (watch path isDir kind folders now runs) db) ↔
      (runs = true → ∀ task, Watcher.eventToTask path isDir kind folders now = some task →
        db.hasAccount task.accountId = true) := by
  cases watched : Watcher.eventToTask path isDir kind folders now with
  | none =>
      simp only [watch, watched]
      exact iff_of_true belong fun _ _ impossible => by cases impossible
  | some task =>
      simp only [watch, watched, final_attempt]
      rw [tasksBelong_enqueue_iff belong (Watcher.of_eventToTask watched).2.2]
      refine forall_congr' fun _ => ⟨fun owned other same => ?_, fun owned => owned task rfl⟩
      rw [← Option.some.inj same]
      exact owned

omit [Rfc3339] in
theorem rowsOwned_watch {db : Database} (owned : RowsOwned db) (path : String) (isDir : Bool)
    (kind : Watcher.EventKind) (folders : List Watcher.WatchedFolder) (now : Int) (runs : Bool) :
    RowsOwned (final (watch path isDir kind folders now runs) db) := by
  rw [watch]
  split
  · exact owned
  · exact rowsOwned_enqueue owned _ _

theorem rowsOwned_exec (owned : RowsOwned system.world.db) (step : AccountStep) :
    RowsOwned (step.exec system).world.db := by
  cases step with
  | late runs now accountId fileId asks localPath priority => exact rowsOwned_enqueue owned _ _
  | whole operation =>
      by_cases ordinary : Ordinary operation
      · exact (within_exec ordinary owned).rowsOwned
      · cases operation with
        | event path isDir kind folders now runs => exact rowsOwned_watch owned _ _ _ _ _ _
        | sync work =>
            cases work with
            | connect runs account =>
                intro row member
                refine hasAccount_insertAccount runs account (owned row ?_)
                rw [← driveFiles_insertAccount runs account]
                exact member
            | disconnect runs accountId =>
                cases runs with
                | false => exact owned
                | true => exact rowsOwned_deleteAccount owned accountId
            | _ => exact absurd trivial ordinary
        | _ => exact absurd trivial ordinary

/-- A step leaves every active task with its account exactly when it fits. -/
theorem tasksBelong_exec_iff (owned : RowsOwned system.world.db) (runs : InFlightRuns system)
    (belong : TasksBelong system.world.db) (step : AccountStep) :
    TasksBelong (step.exec system).world.db ↔ Fits system step := by
  cases step with
  | late executes now accountId fileId asks localPath priority =>
      exact tasksBelong_enqueue_iff belong rfl executes
  | whole operation =>
      cases operation with
      | event path isDir kind folders now executes =>
          exact tasksBelong_watch_iff belong path isDir kind folders now executes
      | sync work =>
          cases work with
          | connect executes account =>
              refine iff_of_true (fun taskId task found active => ?_) trivial
              refine hasAccount_insertAccount executes account (belong taskId task ?_ active)
              change (final (insertAccount executes account) system.world.db).task taskId = some task at found
              rw [final_insertAccount] at found
              split at found
              · exact found
              · exact found
          | disconnect executes accountId =>
              cases executes with
              | false => exact iff_of_true belong fun impossible => by cases impossible
              | true =>
                  exact (tasksBelong_deleteAccount_iff belong accountId).trans
                    ⟨fun others _ => others, fun others => others rfl⟩
          | _ => exact iff_of_true (tasksBelong_exec trivial owned runs belong) trivial
      | _ => exact iff_of_true (tasksBelong_exec trivial owned runs belong) trivial

end Steps

/-- A deleted account takes its files, its token and its folders with it and leaves its tasks.  In
a run every pending or in-progress task belongs to a stored account exactly as long as no account
is disconnected that has such a task, and nothing is enqueued for an account that is gone. -/
theorem tasks_belong_iff [Rfc3339] :
    (∀ db accountId, TakenAlong accountId db (final (deleteAccount true accountId) db)) ∧
    ∀ steps, Throughout AccountStep.exec (fun system => TasksBelong system.world.db) steps System.initial ↔
      Along AccountStep.exec Fits steps System.initial := by
  constructor
  · exact takenAlong_deleteAccount
  · have initially : RowsOwned System.initial.world.db ∧ InFlightRuns System.initial := by
      refine ⟨fun row member => ?_, inFlightRuns_initial⟩
      cases member
    refine @throughout_iff_along _ _ AccountStep.exec Fits
      (fun system => RowsOwned system.world.db ∧ InFlightRuns system) (fun system => TasksBelong system.world.db)
      (fun system step sound => ?_) (fun system step sound belong => ?_) _ initially ?_
    · exact ⟨rowsOwned_exec sound.1 step, inFlightRuns_step sound.2 step⟩
    · exact tasksBelong_exec_iff sound.1 sound.2 belong step
    · intro taskId task found
      cases found

/-- The notes of ann@example.com are asked for, and the account is disconnected before they are
downloaded. -/
def disconnectsWithTask : List AccountStep := [
  .whole (.sync (.connect true ⟨"ann@example.com", "ann@example.com", 0⟩)),
  .whole (.sync (.listed true "ann@example.com" (Api.DriveFile.named "notes" "notes.txt"))),
  .whole (.sync (.mirror (MirrorAnswers.allRun 9 1) "ann@example.com" "/mnt")),
  .whole (.sync (.disconnect true "ann@example.com"))]

/-- A task stays behind when its account is disconnected, and is the next to be taken. -/
theorem disconnected_account_leaves_task :
    ¬ TasksBelong (run (@AccountStep.exec untimed) disconnectsWithTask System.initial).world.db ∧
      (run (@AccountStep.exec untimed) disconnectsWithTask System.initial).world.db.nextPending.map
        SyncTask.accountId = some "ann@example.com" := by
  have served : (run (@AccountStep.exec untimed) disconnectsWithTask System.initial).world.db.nextPending.map
      SyncTask.accountId = some "ann@example.com" := by decide
  have gone : (run (@AccountStep.exec untimed) disconnectsWithTask System.initial).world.db.hasAccount
      "ann@example.com" = false := by decide
  refine ⟨fun belong => ?_, served⟩
  rcases Option.map_eq_some_iff.mp served with ⟨task, next, owner⟩
  rcases Database.of_nextPending next with ⟨taskId, _, stored, pending⟩
  have there := belong taskId task stored (Or.inl pending)
  rw [owner, gone] at there
  cases there

end Accounts
end GDriver
