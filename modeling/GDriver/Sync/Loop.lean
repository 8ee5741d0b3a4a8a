import GDriver.Sync.Engine
import GDriver.Sync.StateMachine
import Mathlib.Data.List.Sort

namespace GDriver
namespace Sync

open Library Routine Db Api

/-!
# Engine loop

The loop waits for a command, for the poll timer or for a task of the watcher,
and handles one of them at a time.  No handler fails: what goes wrong inside is
logged.  What is pushed to the clients and what is logged of state changes and
migrations is kept, so that it can be said afterwards what the loop has done.
-/

/-- The preferences that the engine reads. -/
structure VfsPreferences where
  syncMode : SyncMode
  mountPoint : String
  deriving DecidableEq, Repr

/-- The state of the engine, with what it has shown of its states so far. -/
structure Course where
  state : SyncEngineState
  /-- The statuses pushed to the clients. -/
  pushed : List SyncStatus
  /-- The state changes that were logged, each with the state before it. -/
  changes : List (SyncEngineState × SyncEngineState)
  deriving DecidableEq, Repr

namespace Course

/-- The engine begins idle, and pushes that. -/
def start : Course where
  state := .idle
  pushed := [SyncEngineState.idle.toSyncStatus]
  changes := []

/-- Transition to a new state and push the change. -/
def transitionTo (newState : SyncEngineState) (course : Course) : Course :=
  if course.state = newState then course
  else
    { state := newState
      pushed := course.pushed ++ [newState.toSyncStatus]
      changes := course.changes ++ [(course.state, newState)] }

end Course

/-- What the loop works on. -/
structure SyncLoop where
  world : World
  cfg : VfsPreferences
  course : Course
  /-- The modes that the files have been migrated to so far. -/
  migrations : List SyncMode

namespace SyncLoop

def start (world : World) (cfg : VfsPreferences) : SyncLoop where
  world := world
  cfg := cfg
  course := Course.start
  migrations := []

def transitionTo (newState : SyncEngineState) (loop : SyncLoop) : SyncLoop :=
  { loop with course := loop.course.transitionTo newState }

/-- Run a routine on the world of the loop.  Its error is logged only. -/
def perform {α : Type} (routine : Routine String World α) (loop : SyncLoop) : SyncLoop :=
  { loop with world := final routine loop.world }

/-- Log that the files are migrated to a mode. -/
def migratesTo (mode : SyncMode) (loop : SyncLoop) : SyncLoop :=
  { loop with migrations := loop.migrations ++ [mode] }

end SyncLoop

/-- The accounts, the most recently used one first. -/
def listAccounts (runs : Bool) : Routine String Database (List Account) :=
  select runs fun db =>
    db.accounts.records.insertionSort fun first second => second.lastUsedAt ≤ first.lastUsedAt

/-- Do the same for every account.  An error is logged, and the next account
taken. -/
def forAccounts (routine : String → Routine String World Unit) :
    List Account → Routine String World Unit
  | [] => pure ()
  | account :: rest => do
      attempt (routine account.id)
      forAccounts routine rest

/-! ## Commands -/

/-- What one mode switch meets. -/
structure SwitchAnswers where
  listsAccounts : Bool
  mirror : String → MirrorAnswers
  resets : String → Bool

/-- The accounts are listed, and every statement for them is executed. -/
def SwitchAnswers.allRun : SwitchAnswers where
  listsAccounts := true
  mirror := fun _ => MirrorAnswers.allRun 100 0
  resets := fun _ => true

/-- The migration of one account: downloads for all files, or all files reset
to cloud-only. -/
def migrateAccount (answers : SwitchAnswers) (newMode : SyncMode) (mountPoint accountId : String) :
    Routine String World Unit :=
  match newMode with
  | .mirror =>
      onDb (attempt (enqueueMirrorDownloads (answers.mirror accountId) accountId mountPoint))
  | .stream => onDb (resetMirrorToStream (answers.resets accountId) accountId)

/-- Handle a sync mode switch.  Nothing is done when the mode is the configured
one already. -/
def handleModeSwitch (answers : SwitchAnswers) (newMode : SyncMode) (loop : SyncLoop) : SyncLoop :=
  if loop.cfg.syncMode = newMode then loop
  else
    let started := loop.transitionTo .syncing
    match outcome (onDb (listAccounts answers.listsAccounts)) started.world with
    | .error _ => started.transitionTo .idle
    | .ok accounts =>
        ((started.migratesTo newMode).perform
          (forAccounts (migrateAccount answers newMode loop.cfg.mountPoint) accounts)).transitionTo
            .idle

/-- Process a single command received from the request handlers. -/
def handleCommand (answers : SwitchAnswers) (command : SyncCommand) (loop : SyncLoop) : SyncLoop :=
  match command with
  | .pause => loop.transitionTo .paused
  | .resume => if loop.course.state = .paused then loop.transitionTo .idle else loop
  | .switchMode newMode => handleModeSwitch answers newMode loop

/-! ## Pending tasks -/

/-- What one call of `processPendingTasks` meets, turn by turn: whether the next
task can be fetched, and what its processing meets. -/
structure PendingAnswers where
  picks : Nat → Bool
  tasks : Nat → SyncTask → TaskAnswers

/-- The answers from the next turn on. -/
def PendingAnswers.later (answers : PendingAnswers) : PendingAnswers where
  picks turn := answers.picks (turn + 1)
  tasks turn := answers.tasks (turn + 1)

section Processing

variable [Rfc3339]

/-- Dequeue and process pending sync tasks, one in each turn. -/
def processTurns : Nat → PendingAnswers → Routine String World Unit
  | 0, _ => pure ()
  | turns + 1, answers => do
      match ← observe (onDb (nextPendingTask (answers.picks 0))) with
      | .ok (some task) => do
          processTask (answers.tasks 0 task) task
          processTurns turns answers.later
      | .ok none => pure ()
      | .error _ => pure ()

/-- Processes up to 10 tasks per invocation to keep the event loop responsive. -/
def processPendingTasks (answers : PendingAnswers) : Routine String World Unit :=
  processTurns 10 answers

/-! ## Polls and watcher tasks -/

/-- What one remote poll meets. -/
structure PollAnswers where
  listsAccounts : Bool
  hasClient : String → Bool
  changes : String → IncrementalSyncAnswers
  pending : PendingAnswers

/-- Poll one account.  Without a valid token it is skipped. -/
def pollAccount (answers : PollAnswers) (cfg : VfsPreferences) (accountId : String) :
    Routine String World Unit :=
  if answers.hasClient accountId then
    onDb (attempt
      (incrementalSync (answers.changes accountId) accountId cfg.syncMode cfg.mountPoint))
  else pure ()

/-- Poll every known account, and process the pending tasks. -/
def handleRemotePoll (answers : PollAnswers) (loop : SyncLoop) : SyncLoop :=
  if loop.course.state = .paused then loop
  else
    match outcome (onDb (listAccounts answers.listsAccounts)) loop.world with
    | .error _ => loop
    | .ok [] => loop
    | .ok (account :: rest) =>
        ((((loop.transitionTo .scanning).perform
            (forAccounts (pollAccount answers loop.cfg) (account :: rest))).transitionTo
              .syncing).perform (processPendingTasks answers.pending)).transitionTo .idle

/-- What the handling of one watcher task meets. -/
structure WatcherAnswers where
  enqueues : Bool
  pending : PendingAnswers

/-- Enqueue a task produced by the local filesystem watcher, and process it
immediately instead of waiting for the next poll. -/
def handleWatcherTask (answers : WatcherAnswers) (task : SyncTask) (loop : SyncLoop) : SyncLoop :=
  if loop.course.state = .paused then loop
  else
    match outcome (onDb (enqueue answers.enqueues task)) loop.world with
    | .error _ => loop
    | .ok _ =>
        ((loop.perform (onDb (enqueue answers.enqueues task))).transitionTo .syncing).perform
          (processPendingTasks answers.pending)

end Processing

end Sync
end GDriver
