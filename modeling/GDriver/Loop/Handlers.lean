import GDriver.Daemon

namespace GDriver

open Library Routine Db Api Sync

/-!
# What the handlers of the loop do

One specification for each handler and for each part of the loop that it works
on: the course of the engine, the preferences, and the migrations.  What the
handlers do to the world is left to those who need it.
-/

namespace Sync

namespace Course

@[simp] theorem state_transitionTo (newState : SyncEngineState) (course : Course) :
    (course.transitionTo newState).state = newState := by
  rw [transitionTo]
  split
  · assumption
  · rfl

theorem transitionTo_of_same {newState : SyncEngineState} {course : Course}
    (same : course.state = newState) : course.transitionTo newState = course := by
  rw [transitionTo, if_pos same]

theorem transitionTo_of_other {newState : SyncEngineState} {course : Course}
    (other : course.state ≠ newState) :
    course.transitionTo newState =
      { state := newState
        pushed := course.pushed ++ [newState.toSyncStatus]
        changes := course.changes ++ [(course.state, newState)] } := by
  rw [transitionTo, if_neg other]

end Course

section Switches

variable (answers : SwitchAnswers) (newMode : SyncMode) (loop : SyncLoop)

theorem handleModeSwitch_of_same {answers : SwitchAnswers} {newMode : SyncMode} {loop : SyncLoop}
    (same : loop.cfg.syncMode = newMode) : handleModeSwitch answers newMode loop = loop := by
  rw [handleModeSwitch, if_pos same]

theorem course_handleModeSwitch {loop : SyncLoop} (other : loop.cfg.syncMode ≠ newMode) :
    (handleModeSwitch answers newMode loop).course =
      (loop.course.transitionTo .syncing).transitionTo .idle := by
  simp only [handleModeSwitch, if_neg other]
  split
  · rfl
  · rfl

/-- A switch to another mode migrates the files, if the accounts can be listed. -/
theorem migrations_handleModeSwitch {loop : SyncLoop} (other : loop.cfg.syncMode ≠ newMode) :
    (handleModeSwitch answers newMode loop).migrations =
      if answers.listsAccounts then loop.migrations ++ [newMode] else loop.migrations := by
  simp only [handleModeSwitch, if_neg other, outcome_onDb, listAccounts, outcome_select]
  cases answers.listsAccounts with
  | true => rfl
  | false => rfl

@[simp] theorem cfg_handleModeSwitch : (handleModeSwitch answers newMode loop).cfg = loop.cfg := by
  by_cases same : loop.cfg.syncMode = newMode
  · rw [handleModeSwitch_of_same same]
  · simp only [handleModeSwitch, if_neg same]
    split
    · rfl
    · rfl

@[simp] theorem cfg_handleCommand (command : SyncCommand) :
    (handleCommand answers command loop).cfg = loop.cfg := by
  cases command with
  | pause => rfl
  | resume =>
      simp only [handleCommand]
      split
      · rfl
      · rfl
  | switchMode newMode => exact cfg_handleModeSwitch answers newMode loop

end Switches

section Work

variable [Rfc3339]

theorem handleRemotePoll_of_paused {loop : SyncLoop} (paused : loop.course.state = .paused)
    (answers : PollAnswers) : handleRemotePoll answers loop = loop := by
  rw [handleRemotePoll, if_pos paused]

theorem handleWatcherTask_of_paused {loop : SyncLoop} (paused : loop.course.state = .paused)
    (answers : WatcherAnswers) (task : SyncTask) : handleWatcherTask answers task loop = loop := by
  rw [handleWatcherTask, if_pos paused]

/-- A poll goes through scanning and syncing to idle, unless it has nothing to
poll. -/
theorem course_handleRemotePoll {loop : SyncLoop} (running : loop.course.state ≠ .paused)
    (answers : PollAnswers) :
    (handleRemotePoll answers loop).course = loop.course ∨
      (handleRemotePoll answers loop).course =
        ((loop.course.transitionTo .scanning).transitionTo .syncing).transitionTo .idle := by
  simp only [handleRemotePoll, if_neg running]
  split
  · exact Or.inl rfl
  · exact Or.inl rfl
  · exact Or.inr rfl

/-- A watcher task that is stored leaves the engine syncing. -/
theorem course_handleWatcherTask {loop : SyncLoop} (running : loop.course.state ≠ .paused)
    (answers : WatcherAnswers) (task : SyncTask) :
    (handleWatcherTask answers task loop).course =
      if answers.enqueues then loop.course.transitionTo .syncing else loop.course := by
  simp only [handleWatcherTask, if_neg running, outcome_onDb, outcome_enqueue]
  cases answers.enqueues with
  | true => rfl
  | false => rfl

@[simp] theorem cfg_handleRemotePoll (answers : PollAnswers) (loop : SyncLoop) :
    (handleRemotePoll answers loop).cfg = loop.cfg := by
  rw [handleRemotePoll]
  split
  · rfl
  · split
    · rfl
    · rfl
    · rfl

@[simp] theorem migrations_handleRemotePoll (answers : PollAnswers) (loop : SyncLoop) :
    (handleRemotePoll answers loop).migrations = loop.migrations := by
  rw [handleRemotePoll]
  split
  · rfl
  · split
    · rfl
    · rfl
    · rfl

@[simp] theorem cfg_handleWatcherTask (answers : WatcherAnswers) (task : SyncTask)
    (loop : SyncLoop) : (handleWatcherTask answers task loop).cfg = loop.cfg := by
  rw [handleWatcherTask]
  split
  · rfl
  · split
    · rfl
    · rfl

@[simp] theorem migrations_handleWatcherTask (answers : WatcherAnswers) (task : SyncTask)
    (loop : SyncLoop) : (handleWatcherTask answers task loop).migrations = loop.migrations := by
  rw [handleWatcherTask]
  split
  · rfl
  · split
    · rfl
    · rfl

end Work

end Sync
end GDriver
