import GDriver.Library.Run
import GDriver.Loop.Steps

namespace GDriver
namespace Loop

open Library Routine Db Api Sync

/-!
# The engine at rest

Every handler ends with a transition to a state of rest, except the one for the
tasks of the watcher: it goes to syncing when it has stored the task, processes
what is pending, and returns.  The loop then waits in the state syncing, and
that is the status shown to the clients until something else happens.
-/

/-- The engine is idle or paused, and the status shown last is not that it is
syncing. -/
structure AtRest (course : Course) : Prop where
  state : course.state = .idle ∨ course.state = .paused
  shown : course.pushed.getLast? ≠ some .syncing

/-- The status shown last is that of the state. -/
def ShowsState (course : Course) : Prop :=
  course.pushed.getLast? = some course.state.toSyncStatus

/-- No task of the watcher is stored. -/
def StoresNoTask (daemon : Daemon) : DaemonStep → Prop
  | .receiveTask answers =>
      daemon.watched ≠ [] → daemon.loop.course.state ≠ .paused → answers.enqueues = false
  | _ => True

theorem showsState_start : ShowsState Course.start :=
  rfl

theorem showsState_transitionTo {course : Course} (shows : ShowsState course)
    (newState : SyncEngineState) : ShowsState (course.transitionTo newState) := by
  by_cases same : course.state = newState
  · rw [Course.transitionTo_of_same same]
    exact shows
  · rw [Course.transitionTo_of_other same]
    exact List.getLast?_concat

/-- What the clients see of an engine at rest. -/
theorem atRest_iff {course : Course} (shows : ShowsState course) :
    AtRest course ↔ course.state = .idle ∨ course.state = .paused := by
  refine ⟨AtRest.state, fun state => ⟨state, ?_⟩⟩
  rw [shows]
  rcases state with idle | paused
  · rw [idle]
    decide
  · rw [paused]
    decide

theorem atRest_transitionTo_idle {course : Course} (shows : ShowsState course) :
    AtRest (course.transitionTo .idle) :=
  (atRest_iff (showsState_transitionTo shows _)).mpr (Or.inl (Course.state_transitionTo _ _))

theorem not_atRest_syncing (course : Course) : ¬ AtRest (course.transitionTo .syncing) := by
  intro rests
  have state := rests.state
  rw [Course.state_transitionTo] at state
  rcases state with idle | paused
  · cases idle
  · cases paused

/-! ## The handlers -/

theorem showsState_handleCommand {loop : SyncLoop} (shows : ShowsState loop.course)
    (answers : SwitchAnswers) (command : SyncCommand) :
    ShowsState (handleCommand answers command loop).course := by
  cases command with
  | pause => exact showsState_transitionTo shows _
  | resume =>
      rw [handleCommand]
      split
      · exact showsState_transitionTo shows _
      · exact shows
  | switchMode newMode =>
      rw [handleCommand]
      by_cases same : loop.cfg.syncMode = newMode
      · rw [handleModeSwitch_of_same same]
        exact shows
      · rw [course_handleModeSwitch answers newMode same]
        exact showsState_transitionTo (showsState_transitionTo shows _) _

theorem atRest_handleCommand {loop : SyncLoop} (shows : ShowsState loop.course)
    (rests : AtRest loop.course) (answers : SwitchAnswers) (command : SyncCommand) :
    AtRest (handleCommand answers command loop).course := by
  cases command with
  | pause =>
      exact (atRest_iff (showsState_transitionTo shows _)).mpr
        (Or.inr (Course.state_transitionTo _ _))
  | resume =>
      rw [handleCommand]
      split
      · exact atRest_transitionTo_idle shows
      · exact rests
  | switchMode newMode =>
      rw [handleCommand]
      by_cases same : loop.cfg.syncMode = newMode
      · rw [handleModeSwitch_of_same same]
        exact rests
      · rw [course_handleModeSwitch answers newMode same]
        exact atRest_transitionTo_idle (showsState_transitionTo shows _)

section Steps

variable [Rfc3339]

theorem showsState_handleRemotePoll {loop : SyncLoop} (shows : ShowsState loop.course)
    (answers : PollAnswers) : ShowsState (handleRemotePoll answers loop).course := by
  by_cases paused : loop.course.state = .paused
  · rw [handleRemotePoll_of_paused paused]
    exact shows
  · rcases course_handleRemotePoll paused answers with same | through
    · rw [same]
      exact shows
    · rw [through]
      exact showsState_transitionTo (showsState_transitionTo (showsState_transitionTo shows _) _) _

theorem atRest_handleRemotePoll {loop : SyncLoop} (shows : ShowsState loop.course)
    (rests : AtRest loop.course) (answers : PollAnswers) :
    AtRest (handleRemotePoll answers loop).course := by
  by_cases paused : loop.course.state = .paused
  · rw [handleRemotePoll_of_paused paused]
    exact rests
  · rcases course_handleRemotePoll paused answers with same | through
    · rw [same]
      exact rests
    · rw [through]
      exact atRest_transitionTo_idle (showsState_transitionTo (showsState_transitionTo shows _) _)

theorem showsState_handleWatcherTask {loop : SyncLoop} (shows : ShowsState loop.course)
    (answers : WatcherAnswers) (task : SyncTask) :
    ShowsState (handleWatcherTask answers task loop).course := by
  by_cases paused : loop.course.state = .paused
  · rw [handleWatcherTask_of_paused paused]
    exact shows
  · rw [course_handleWatcherTask paused]
    split
    · exact showsState_transitionTo shows _
    · exact shows

/-- The handler of a watcher task comes to rest exactly when it is paused or the
task is not stored. -/
theorem atRest_handleWatcherTask_iff {loop : SyncLoop} (rests : AtRest loop.course)
    (answers : WatcherAnswers) (task : SyncTask) :
    AtRest (handleWatcherTask answers task loop).course ↔
      (loop.course.state ≠ .paused → answers.enqueues = false) := by
  by_cases paused : loop.course.state = .paused
  · rw [handleWatcherTask_of_paused paused]
    exact iff_of_true rests fun running => absurd paused running
  · rw [course_handleWatcherTask paused]
    cases answers.enqueues with
    | true =>
        refine iff_of_false (not_atRest_syncing _) fun fails => ?_
        cases fails paused
    | false => exact iff_of_true rests fun _ => rfl

/-! ## Every step -/

theorem showsState_exec {daemon : Daemon} (shows : ShowsState daemon.loop.course)
    (step : DaemonStep) : ShowsState (daemon.exec step).loop.course := by
  have courses := Daemon.courses_exec daemon step
  generalize (daemon.exec step).loop.course = course at courses ⊢
  cases courses with
  | stays _ _ _ => exact shows
  | command _ => exact showsState_handleCommand shows _ _
  | poll answers => exact showsState_handleRemotePoll shows answers
  | task _ => exact showsState_handleWatcherTask shows _ _

theorem atRest_exec_iff {daemon : Daemon} (shows : ShowsState daemon.loop.course)
    (rests : AtRest daemon.loop.course) (step : DaemonStep) :
    AtRest (daemon.exec step).loop.course ↔ StoresNoTask daemon step := by
  have courses := Daemon.courses_exec daemon step
  generalize (daemon.exec step).loop.course = course at courses ⊢
  cases courses with
  | stays _ unwatched _ =>
      refine iff_of_true rests ?_
      cases step with
      | receiveTask answers => exact fun some => absurd (unwatched answers rfl) some
      | _ => trivial
  | command _ => exact iff_of_true (atRest_handleCommand shows rests _ _) trivial
  | poll answers => exact iff_of_true (atRest_handleRemotePoll shows rests answers) trivial
  | @task answers task rest waiting =>
      refine (atRest_handleWatcherTask_iff rests answers task).trans ?_
      refine ⟨fun fails _ => fails, fun stores => stores ?_⟩
      rw [waiting]
      exact List.cons_ne_nil task rest

/-- In every run from the start: the loop is at rest whenever it waits exactly when
it never stores a task of the watcher. -/
theorem atRest_throughout_iff (world : World) (cfg : VfsPreferences) (steps : List DaemonStep) :
    Throughout Daemon.exec (fun daemon => AtRest daemon.loop.course) steps
        (Daemon.start world cfg) ↔
      Along Daemon.exec StoresNoTask steps (Daemon.start world cfg) :=
  @throughout_iff_along _ _ Daemon.exec StoresNoTask (fun daemon => ShowsState daemon.loop.course)
    (fun daemon => AtRest daemon.loop.course)
    (fun _ step shows => showsState_exec shows step)
    (fun _ step shows rests => atRest_exec_iff shows rests step) (Daemon.start world cfg)
    showsState_start ((atRest_iff showsState_start).mpr (Or.inl rfl)) steps

end Steps

/-- A file is created in a watched folder, and its task is handled. -/
theorem watcher_task_leaves_syncing :
    ¬ Throughout (@Daemon.exec untimed) (fun daemon => AtRest daemon.loop.course)
      [.watchFolders [⟨"/home/ann/Drive", "ann@example.com", "drive"⟩],
        .hear 0 .create ["/home/ann/Drive/notes.txt"],
        .flush ⟨300, fun _ => false, 20⟩ [⟨0, "/home/ann/Drive/notes.txt", .create⟩],
        .receiveTask ⟨true, ⟨fun _ => false, fun _ _ =>
          TaskAnswers.allRun ⟨none, .error "no upload", []⟩ ⟨[1], 10⟩ 20⟩⟩]
      (Daemon.start (World.around Database.fresh) ⟨.stream, "/mnt"⟩) := by
  rintro ⟨_, _, _, _, last⟩
  rcases last.state with idle | paused
  · revert idle
    decide
  · revert paused
    decide

end Loop
end GDriver
