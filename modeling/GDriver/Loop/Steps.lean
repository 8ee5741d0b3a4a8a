import GDriver.Loop.Handlers

namespace GDriver

open Library Routine Db Api Sync Watcher

/-!
# What the steps of the daemon leave alone

Only the steps of the engine change its course, only commands migrate files, and
only requests write the preferences.
-/

namespace Daemon

@[simp] theorem loop_send (command : SyncCommand) (daemon : Daemon) :
    (daemon.send command).loop = daemon.loop := by
  rw [send]
  split
  · rfl
  · rfl

@[simp] theorem sending_send (command : SyncCommand) (daemon : Daemon) :
    (daemon.send command).sending = daemon.sending := by
  rw [send]
  split
  · rfl
  · rfl

@[simp] theorem loop_sendSwitch (position : Nat) (daemon : Daemon) :
    (daemon.sendSwitch position).loop = daemon.loop := by
  rw [sendSwitch]
  split
  · rfl
  · split
    · exact loop_send _ daemon
    · rfl

@[simp] theorem watched_send (command : SyncCommand) (daemon : Daemon) :
    (daemon.send command).watched = daemon.watched := by
  rw [send]
  split
  · rfl
  · rfl

@[simp] theorem watched_sendSwitch (position : Nat) (daemon : Daemon) :
    (daemon.sendSwitch position).watched = daemon.watched := by
  rw [sendSwitch]
  split
  · rfl
  · split
    · exact watched_send _ daemon
    · rfl

@[simp] theorem loop_hear (now : Nat) (kind : EventKind) (paths : List String) (daemon : Daemon) :
    (daemon.hear now kind paths).loop = daemon.loop := rfl

@[simp] theorem loop_flush (view : FlushView) (entries : List DebounceEntry) (daemon : Daemon) :
    (daemon.flush view entries).loop = daemon.loop := by
  rw [flush]
  split
  · rfl
  · rfl

@[simp] theorem loop_watchFolders (folders : List WatchedFolder) (daemon : Daemon) :
    (daemon.watchFolders folders).loop = daemon.loop := rfl

@[simp] theorem loop_scan (task : SyncTask) (daemon : Daemon) :
    (daemon.scan task).loop = daemon.loop := by
  rw [scan]
  split
  · rfl
  · rfl

theorem receiveCommand_of_cons {daemon : Daemon} {command : SyncCommand} {rest : List SyncCommand}
    (waiting : daemon.commands = command :: rest) (answers : SwitchAnswers) :
    daemon.receiveCommand answers =
      { daemon.withLoop (handleCommand answers command daemon.loop) with commands := rest } := by
  simp only [receiveCommand, waiting]

theorem receiveCommand_of_nil {daemon : Daemon} (empty : daemon.commands = [])
    (answers : SwitchAnswers) : daemon.receiveCommand answers = daemon := by
  simp only [receiveCommand, empty]

/-- Whether a step is one of the engine. -/
def isEngineStep : DaemonStep → Bool
  | .receiveCommand _ | .tick _ | .receiveTask _ => true
  | _ => false

/-- The command that the loop handles in a step. -/
def handled (daemon : Daemon) : DaemonStep → Option SyncCommand
  | .receiveCommand _ => daemon.commands.head?
  | _ => none

theorem handled_of_other {step : DaemonStep} (other : isEngineStep step = false)
    (daemon : Daemon) : daemon.handled step = none := by
  cases step with
  | receiveCommand answers => cases other
  | _ => rfl

section Execution

variable [Rfc3339]

theorem receiveTask_of_cons {daemon : Daemon} {task : SyncTask} {rest : List SyncTask}
    (waiting : daemon.watched = task :: rest) (answers : WatcherAnswers) :
    daemon.receiveTask answers =
      { daemon.withLoop (handleWatcherTask answers task daemon.loop) with watched := rest } := by
  simp only [receiveTask, waiting]

theorem receiveTask_of_nil {daemon : Daemon} (empty : daemon.watched = [])
    (answers : WatcherAnswers) : daemon.receiveTask answers = daemon := by
  simp only [receiveTask, empty]

/-- What happens elsewhere changes the world only. -/
theorem elsewhere_spec (operation : Operation) (daemon : Daemon) :
    ∃ world, daemon.elsewhere operation = daemon.withLoop { daemon.loop with world := world } := by
  rw [elsewhere]
  split
  · exact ⟨_, rfl⟩
  · exact ⟨daemon.loop.world, rfl⟩

theorem course_exec_of_other {step : DaemonStep} (other : isEngineStep step = false)
    (daemon : Daemon) : (daemon.exec step).loop.course = daemon.loop.course := by
  cases step with
  | pause => exact congrArg SyncLoop.course (loop_send _ daemon)
  | resume => exact congrArg SyncLoop.course (loop_send _ daemon)
  | setSyncMode newMode => rfl
  | sendSwitch position => exact congrArg SyncLoop.course (loop_sendSwitch _ daemon)
  | savePrefs saves prefs =>
      simp only [exec, handlePrefsSave]
      split
      · rfl
      · rfl
  | hear now kind paths => rfl
  | flush view entries => exact congrArg SyncLoop.course (loop_flush _ _ daemon)
  | watchFolders folders => rfl
  | scan task => exact congrArg SyncLoop.course (loop_scan _ daemon)
  | receiveCommand answers => cases other
  | tick answers => cases other
  | receiveTask answers => cases other
  | elsewhere operation =>
      rcases elsewhere_spec operation daemon with ⟨world, same⟩
      rw [exec, same]
      rfl

/-- What a step does to the course of the loop: a command or a task that waits is handled, or the remote is
polled, or it stays as it is. -/
inductive Courses (daemon : Daemon) : DaemonStep → Course → Prop where
  | stays {step : DaemonStep} (unhandled : daemon.handled step = none)
      (unwatched : ∀ answers, step = .receiveTask answers → daemon.watched = [])
      (unpolled : ∀ answers, step ≠ .tick answers) : Courses daemon step daemon.loop.course
  | command {answers : SwitchAnswers} {command : SyncCommand} {rest : List SyncCommand}
      (waiting : daemon.commands = command :: rest) :
      Courses daemon (.receiveCommand answers) (handleCommand answers command daemon.loop).course
  | poll (answers : PollAnswers) : Courses daemon (.tick answers) (handleRemotePoll answers daemon.loop).course
  | task {answers : WatcherAnswers} {task : SyncTask} {rest : List SyncTask}
      (waiting : daemon.watched = task :: rest) :
      Courses daemon (.receiveTask answers) (handleWatcherTask answers task daemon.loop).course

theorem courses_exec (daemon : Daemon) (step : DaemonStep) : Courses daemon step (daemon.exec step).loop.course := by
  cases engine : isEngineStep step with
  | false =>
      rw [course_exec_of_other engine]
      refine .stays (handled_of_other engine daemon) (fun answers same => ?_) fun answers same => ?_
      · rw [same] at engine
        cases engine
      · rw [same] at engine
        cases engine
  | true =>
      cases step with
      | receiveCommand answers =>
          cases waiting : daemon.commands with
          | nil =>
              rw [exec, receiveCommand_of_nil waiting]
              exact .stays (congrArg List.head? waiting) (fun _ same => nomatch same) fun _ same => nomatch same
          | cons command rest =>
              rw [exec, receiveCommand_of_cons waiting]
              exact .command waiting
      | tick answers => exact .poll answers
      | receiveTask answers =>
          cases waiting : daemon.watched with
          | nil =>
              rw [exec, receiveTask_of_nil waiting]
              exact .stays rfl (fun _ _ => waiting) fun _ same => nomatch same
          | cons task rest =>
              rw [exec, receiveTask_of_cons waiting]
              exact .task waiting
      | _ => cases engine

end Execution

end Daemon
end GDriver
