import GDriver.Loop.Steps
import GDriver.Moves.Engine
import GDriver.Moves.Sync

namespace GDriver

open Library Routine Db Api Sync

/-!
# The moves of the engine loop

The handlers of the loop put the work of the syncs and the processing of tasks
together.  A relation that allows these parts allows every handler.
-/

/-- The relation between worlds allows the processing of every task, and the
changes that the relation between databases allows; and that one allows the work
of the syncs. -/
structure AllowsLoop (onDatabase : Database → Database → Prop) (allowed : World → World → Prop) :
    Prop where
  tasks : ∀ taskId, AllowsStoring taskId allowed
  lifts : ∀ (world : World) db, onDatabase world.db db → allowed world (world.withDb db)
  sync : AllowsSync onDatabase
  watched : ∀ db task, onDatabase db (db.putTask task)
  tokens : ∀ db table, onDatabase db { db with syncTokens := table }

section Databases

variable {onDatabase : Database → Database → Prop} [IsPreorder Database onDatabase]
  (sync : AllowsSync onDatabase)
include sync

theorem keeps_resetMirrorToStream (runs : Bool) (accountId : String) :
    Keeps onDatabase (resetMirrorToStream runs accountId) :=
  keeps_execute runs fun db => sync.rows db _

variable [Rfc3339]

theorem keeps_processChanges (accountId : String) (syncMode : SyncMode) (mountPoint : String)
    (answers : Nat → ProcessChangeAnswers) (changes : List Change) :
    Keeps onDatabase (processChanges accountId syncMode mountPoint answers changes) := by
  induction changes generalizing answers with
  | nil => exact keeps_pure ()
  | cons change rest inductionHypothesis =>
      exact keeps_bind (keeps_attempt (keeps_processChange sync _ _ _ _ _)) fun _ =>
        inductionHypothesis _

theorem keeps_pollPages (accountId : String) (syncMode : SyncMode) (mountPoint : String)
    (pages : List ChangePage) (currentToken : String) (latestToken : Option String)
    (totalChanges : Nat) :
    Keeps onDatabase
      (pollPages accountId syncMode mountPoint pages currentToken latestToken totalChanges) := by
  induction pages generalizing currentToken latestToken totalChanges with
  | nil => exact keeps_throw stopped
  | cons page rest inductionHypothesis =>
      refine keeps_bind (keeps_received _) fun response => ?_
      refine keeps_bind (keeps_processChanges sync _ _ _ _ _) fun _ => ?_
      split
      · exact inductionHypothesis _ _ _
      · exact keeps_pure _

theorem keeps_incrementalSync (tokens : ∀ db table, onDatabase db { db with syncTokens := table })
    (answers : IncrementalSyncAnswers) (accountId : String) (syncMode : SyncMode)
    (mountPoint : String) :
    Keeps onDatabase (incrementalSync answers accountId syncMode mountPoint) := by
  refine keeps_bind (keeps_select _ _) fun stored => ?_
  cases stored with
  | none => exact keeps_pure 0
  | some pageToken =>
      refine keeps_bind (keeps_pollPages sync _ _ _ _ _ _ _) fun polled => ?_
      rcases polled with ⟨latestToken, totalChanges⟩
      cases latestToken with
      | none => exact keeps_pure _
      | some token =>
          refine keeps_bind (fun db => ?_) fun _ => keeps_pure _
          rw [final_setToken]
          split
          · exact tokens db _
          · exact Std.Refl.refl db

end Databases

section Worlds

variable {allowed : World → World → Prop} [IsPreorder World allowed]

theorem keeps_forAccounts {routine : String → Routine String World Unit}
    (keeps : ∀ accountId, Keeps allowed (routine accountId)) (accounts : List Account) :
    Keeps allowed (forAccounts routine accounts) := by
  induction accounts with
  | nil => exact keeps_pure ()
  | cons account rest inductionHypothesis =>
      exact keeps_bind (keeps_attempt (keeps account.id)) fun _ => inductionHypothesis

theorem keeps_processTurns [Rfc3339] (stores : ∀ taskId, AllowsStoring taskId allowed) (turns : Nat)
    (answers : PendingAnswers) : Keeps allowed (processTurns turns answers) := by
  induction turns generalizing answers with
  | zero => exact keeps_pure ()
  | succ turns inductionHypothesis =>
      refine keeps_bind_of_answers (keeps_observe (keeps_onDb_select _ _)) fun world next answered => ?_
      rw [outcome_observe, outcome_onDb, nextPendingTask, outcome_select] at answered
      have same := Except.ok.inj answered
      cases next with
      | error failure => exact keeps_pure ()
      | ok picked =>
          cases picked with
          | none => exact keeps_pure ()
          | some task =>
              split at same
              · rcases Database.of_nextPending (Except.ok.inj same) with ⟨taskId, identified, _, _⟩
                exact keeps_bind (keeps_processTask identified (stores taskId) _) fun _ =>
                  inductionHypothesis _
              · cases same

variable {onDatabase : Database → Database → Prop} [IsPreorder Database onDatabase]
  (allows : AllowsLoop onDatabase allowed)
include allows

omit [IsPreorder World allowed] in
theorem keeps_migrateAccount (answers : SwitchAnswers) (newMode : SyncMode)
    (mountPoint accountId : String) :
    Keeps allowed (migrateAccount answers newMode mountPoint accountId) := by
  cases newMode with
  | mirror =>
      exact keeps_onDb allows.lifts (keeps_attempt (keeps_enqueueMirrorDownloads allows.sync _ _ _))
  | stream => exact keeps_onDb allows.lifts (keeps_resetMirrorToStream allows.sync _ _)

theorem allowed_handleModeSwitch (answers : SwitchAnswers) (newMode : SyncMode) (loop : SyncLoop) :
    allowed loop.world (handleModeSwitch answers newMode loop).world := by
  by_cases same : loop.cfg.syncMode = newMode
  · rw [handleModeSwitch_of_same same]
    exact Std.Refl.refl loop.world
  · simp only [handleModeSwitch, if_neg same]
    split
    · exact Std.Refl.refl loop.world
    · exact keeps_forAccounts (keeps_migrateAccount allows _ _ _) _ loop.world

/-- A command is allowed. -/
theorem allowed_handleCommand (answers : SwitchAnswers) (command : SyncCommand)
    (loop : SyncLoop) : allowed loop.world (handleCommand answers command loop).world := by
  cases command with
  | pause => exact Std.Refl.refl loop.world
  | resume =>
      simp only [handleCommand]
      split
      · exact Std.Refl.refl loop.world
      · exact Std.Refl.refl loop.world
  | switchMode newMode => exact allowed_handleModeSwitch allows answers newMode loop

variable [Rfc3339]

theorem keeps_pollAccount (answers : PollAnswers) (cfg : VfsPreferences) (accountId : String) :
    Keeps allowed (pollAccount answers cfg accountId) := by
  rw [pollAccount]
  split
  · exact keeps_onDb allows.lifts
      (keeps_attempt (keeps_incrementalSync allows.sync allows.tokens _ _ _ _))
  · exact keeps_pure ()

/-- A poll is allowed. -/
theorem allowed_handleRemotePoll (answers : PollAnswers) (loop : SyncLoop) :
    allowed loop.world (handleRemotePoll answers loop).world := by
  rw [handleRemotePoll]
  split
  · exact Std.Refl.refl loop.world
  · split
    · exact Std.Refl.refl loop.world
    · exact Std.Refl.refl loop.world
    · exact IsTrans.trans _ _ _
        (keeps_forAccounts (keeps_pollAccount allows answers loop.cfg) _ loop.world)
        (keeps_processTurns allows.tasks 10 answers.pending _)

/-- The handling of a watcher task is allowed. -/
theorem allowed_handleWatcherTask (answers : WatcherAnswers) (task : SyncTask) (loop : SyncLoop) :
    allowed loop.world (handleWatcherTask answers task loop).world := by
  rw [handleWatcherTask]
  split
  · exact Std.Refl.refl loop.world
  · split
    · exact Std.Refl.refl loop.world
    · exact IsTrans.trans _ _ _
        (keeps_onDb allows.lifts
          (keeps_statement _ _ _ fun db => allows.watched db task) loop.world)
        (keeps_processTurns allows.tasks 10 answers.pending _)

/-- Every step of the daemon is allowed, if the operations from elsewhere are. -/
theorem allowed_exec
    (elsewhere : ∀ (world : World) operation, Daemon.comesFromElsewhere operation = true →
      allowed world (System.exec ⟨world, .idle⟩ operation).world)
    (daemon : Daemon) (step : DaemonStep) :
    allowed daemon.loop.world (daemon.exec step).loop.world := by
  have stays {loop : SyncLoop} (same : loop = daemon.loop) :
      allowed daemon.loop.world loop.world := by
    rw [same]
    exact Std.Refl.refl daemon.loop.world
  cases step with
  | pause => exact stays (Daemon.loop_send _ daemon)
  | resume => exact stays (Daemon.loop_send _ daemon)
  | setSyncMode newMode => exact Std.Refl.refl daemon.loop.world
  | sendSwitch position => exact stays (Daemon.loop_sendSwitch _ daemon)
  | savePrefs saves prefs =>
      simp only [Daemon.exec, Daemon.handlePrefsSave]
      split
      · exact Std.Refl.refl daemon.loop.world
      · exact Std.Refl.refl daemon.loop.world
  | hear now kind paths => exact Std.Refl.refl daemon.loop.world
  | flush view entries => exact stays (Daemon.loop_flush _ _ daemon)
  | watchFolders folders => exact Std.Refl.refl daemon.loop.world
  | scan task => exact stays (Daemon.loop_scan _ daemon)
  | receiveCommand answers =>
      rw [Daemon.exec]
      cases waiting : daemon.commands with
      | nil => exact stays (congrArg Daemon.loop (Daemon.receiveCommand_of_nil waiting answers))
      | cons command rest =>
          rw [Daemon.receiveCommand_of_cons waiting]
          exact allowed_handleCommand allows answers command daemon.loop
  | tick answers => exact allowed_handleRemotePoll allows answers daemon.loop
  | receiveTask answers =>
      rw [Daemon.exec]
      cases waiting : daemon.watched with
      | nil => exact stays (congrArg Daemon.loop (Daemon.receiveTask_of_nil waiting answers))
      | cons task rest =>
          rw [Daemon.receiveTask_of_cons waiting]
          exact allowed_handleWatcherTask allows answers task daemon.loop
  | elsewhere operation =>
      rw [Daemon.exec, Daemon.elsewhere]
      split
      · next other => exact elsewhere daemon.loop.world operation other
      · exact Std.Refl.refl daemon.loop.world

end Worlds

end GDriver
