import GDriver.Library.Run
import GDriver.Loop.Steps

namespace GDriver
namespace Loop

open Library Routine Db Api Sync

/-!
# Pausing the engine

A run of the daemon is followed together with what its user has last asked for.
The engine makes no forbidden transition and stays suspended while it should,
exactly when no command to switch to another mode is handled while it is paused:
that handler goes to syncing and then to idle without looking at the state.
-/

/-- Every state change was one that the state machine allows. -/
def AllowedChanges (course : Course) : Prop :=
  ∀ change ∈ course.changes, canTransition change.1 change.2 = true

/-- The engine is paused, and takes neither a poll nor a task. -/
def Suspended [Rfc3339] (loop : SyncLoop) : Prop :=
  loop.course.state = .paused ∧ (∀ answers, handleRemotePoll answers loop = loop) ∧
    ∀ answers task, handleWatcherTask answers task loop = loop

/-- The daemon, and whether a pause has been handled and no resume since. -/
structure Pausing where
  daemon : Daemon
  paused : Bool

def Pausing.start (world : World) (cfg : VfsPreferences) : Pausing where
  daemon := Daemon.start world cfg
  paused := false

/-- Whether the user wants the engine paused after a command. -/
def wantsPause (paused : Bool) : SyncCommand → Bool
  | .pause => true
  | .resume => false
  | .switchMode _ => paused

/-- Carry out a step, noting what the handled command asks for. -/
def Pausing.exec [Rfc3339] (state : Pausing) (step : DaemonStep) : Pausing where
  daemon := state.daemon.exec step
  paused := (state.daemon.handled step).elim state.paused (wantsPause state.paused)

/-- Every state change was allowed, and the engine is suspended while the user
has paused it. -/
structure ObeysPause [Rfc3339] (state : Pausing) : Prop where
  allowed : AllowedChanges state.daemon.loop.course
  suspended : state.paused = true → Suspended state.daemon.loop

/-- No command to switch to another mode is handled while the engine is paused. -/
def SwitchesUnpaused (state : Pausing) (step : DaemonStep) : Prop :=
  ∀ newMode, state.daemon.handled step = some (.switchMode newMode) →
    state.daemon.loop.course.state = .paused → newMode = state.daemon.loop.cfg.syncMode

/-! ## Transitions -/

theorem allowed_start : AllowedChanges Course.start := by
  intro change member
  cases member

/-- A transition is logged unless it leads to the same state. -/
theorem allowed_transitionTo_iff (newState : SyncEngineState) (course : Course) :
    AllowedChanges (course.transitionTo newState) ↔
      AllowedChanges course ∧
        (course.state ≠ newState → canTransition course.state newState = true) := by
  by_cases same : course.state = newState
  · rw [Course.transitionTo_of_same same]
    exact ⟨fun allowed => ⟨allowed, fun other => absurd same other⟩, And.left⟩
  · rw [Course.transitionTo_of_other same]
    constructor
    · intro allowed
      refine ⟨fun change member => allowed change (List.mem_append_left _ member), fun _ => ?_⟩
      exact allowed (course.state, newState) (List.mem_append_right _ (List.mem_singleton.mpr rfl))
    · rintro ⟨allowed, allows⟩ change member
      rcases List.mem_append.mp member with before | last
      · exact allowed change before
      · rw [List.mem_singleton.mp last]
        exact allows same

/-- A switch to another mode is allowed unless the engine is paused. -/
theorem allowed_switch_iff {course : Course} (rests : course.state ≠ .scanning) :
    AllowedChanges ((course.transitionTo .syncing).transitionTo .idle) ↔
      AllowedChanges course ∧ course.state ≠ .paused := by
  rw [allowed_transitionTo_iff, allowed_transitionTo_iff, Course.state_transitionTo]
  have back : SyncEngineState.syncing ≠ .idle → canTransition .syncing .idle = true := fun _ => rfl
  rw [and_iff_left back]
  refine and_congr_right fun _ => ?_
  cases state : course.state with
  | idle => decide
  | scanning => exact absurd state rests
  | syncing => decide
  | paused => decide

/-- A poll is allowed whenever it is made. -/
theorem allowed_poll {course : Course} (rests : course.state ≠ .scanning)
    (running : course.state ≠ .paused) :
    AllowedChanges (((course.transitionTo .scanning).transitionTo .syncing).transitionTo .idle) ↔
      AllowedChanges course := by
  rw [allowed_transitionTo_iff, allowed_transitionTo_iff, allowed_transitionTo_iff,
    Course.state_transitionTo, Course.state_transitionTo]
  have through : SyncEngineState.scanning ≠ .syncing → canTransition .scanning .syncing = true :=
    fun _ => rfl
  have back : SyncEngineState.syncing ≠ .idle → canTransition .syncing .idle = true := fun _ => rfl
  rw [and_iff_left back, and_iff_left through]
  refine and_iff_left ?_
  cases state : course.state with
  | idle => decide
  | scanning => exact absurd state rests
  | syncing => decide
  | paused => exact absurd state running

/-! ## One step -/

/-- Between two steps the engine is not scanning. -/
def Rested (daemon : Daemon) : Prop :=
  daemon.loop.course.state ≠ .scanning

theorem rested_transitionTo {newState : SyncEngineState} (other : newState ≠ .scanning)
    (course : Course) : (course.transitionTo newState).state ≠ .scanning := by
  rw [Course.state_transitionTo]
  exact other

theorem rested_handleCommand {loop : SyncLoop} (rests : loop.course.state ≠ .scanning)
    (answers : SwitchAnswers) (command : SyncCommand) :
    (handleCommand answers command loop).course.state ≠ .scanning := by
  cases command with
  | pause => exact rested_transitionTo (by decide) _
  | resume =>
      simp only [handleCommand]
      split
      · exact rested_transitionTo (by decide) _
      · exact rests
  | switchMode newMode =>
      by_cases same : loop.cfg.syncMode = newMode
      · rw [handleCommand, handleModeSwitch_of_same same]
        exact rests
      · rw [handleCommand, course_handleModeSwitch answers newMode same]
        exact rested_transitionTo (by decide) _

/-- A command is allowed unless it switches to another mode while paused. -/
theorem allowed_handleCommand_iff {loop : SyncLoop} (rests : loop.course.state ≠ .scanning)
    (answers : SwitchAnswers) (command : SyncCommand) :
    AllowedChanges (handleCommand answers command loop).course ↔
      AllowedChanges loop.course ∧
        ∀ newMode, command = .switchMode newMode → loop.course.state = .paused →
          newMode = loop.cfg.syncMode := by
  cases command with
  | pause =>
      have other : ∀ newMode, SyncCommand.pause = .switchMode newMode →
          loop.course.state = .paused → newMode = loop.cfg.syncMode := by
        intro newMode same
        cases same
      rw [and_iff_left other, handleCommand, SyncLoop.transitionTo, allowed_transitionTo_iff]
      refine and_iff_left ?_
      cases state : loop.course.state with
      | idle => decide
      | scanning => exact absurd state rests
      | syncing => decide
      | paused => decide
  | resume =>
      have other : ∀ newMode, SyncCommand.resume = .switchMode newMode →
          loop.course.state = .paused → newMode = loop.cfg.syncMode := by
        intro newMode same
        cases same
      rw [and_iff_left other, handleCommand]
      split
      · next paused =>
          rw [SyncLoop.transitionTo, allowed_transitionTo_iff, paused]
          exact and_iff_left fun _ => rfl
      · exact Iff.rfl
  | switchMode newMode =>
      rw [handleCommand]
      by_cases same : loop.cfg.syncMode = newMode
      · rw [handleModeSwitch_of_same same]
        refine (and_iff_left ?_).symm
        intro mode asked _
        cases asked
        exact same.symm
      · rw [course_handleModeSwitch answers newMode same, allowed_switch_iff rests]
        refine and_congr_right fun _ => ?_
        constructor
        · intro running mode _ paused
          exact absurd paused running
        · intro switches paused
          exact same (switches newMode rfl paused).symm

section Steps

variable [Rfc3339]

theorem rested_handleRemotePoll {loop : SyncLoop} (rests : loop.course.state ≠ .scanning) (answers : PollAnswers) :
    (handleRemotePoll answers loop).course.state ≠ .scanning := by
  by_cases paused : loop.course.state = .paused
  · rw [handleRemotePoll_of_paused paused]
    exact rests
  · rcases course_handleRemotePoll paused answers with same | through
    · rw [same]
      exact rests
    · rw [through]
      exact rested_transitionTo (by decide) _

theorem rested_handleWatcherTask {loop : SyncLoop} (rests : loop.course.state ≠ .scanning) (answers : WatcherAnswers)
    (task : SyncTask) : (handleWatcherTask answers task loop).course.state ≠ .scanning := by
  by_cases paused : loop.course.state = .paused
  · rw [handleWatcherTask_of_paused paused]
    exact rests
  · rw [course_handleWatcherTask paused]
    split
    · exact rested_transitionTo (by decide) _
    · exact rests

theorem rested_exec {daemon : Daemon} (rests : Rested daemon) (step : DaemonStep) :
    Rested (daemon.exec step) := by
  have courses := Daemon.courses_exec daemon step
  rw [Rested]
  generalize (daemon.exec step).loop.course = course at courses ⊢
  cases courses with
  | stays _ _ _ => exact rests
  | command _ => exact rested_handleCommand rests _ _
  | poll answers => exact rested_handleRemotePoll rests answers
  | task _ => exact rested_handleWatcherTask rests _ _

theorem allowed_handleWatcherTask_iff {loop : SyncLoop} (rests : loop.course.state ≠ .scanning)
    (answers : WatcherAnswers) (task : SyncTask) :
    AllowedChanges (handleWatcherTask answers task loop).course ↔ AllowedChanges loop.course := by
  by_cases paused : loop.course.state = .paused
  · rw [handleWatcherTask_of_paused paused]
  · rw [course_handleWatcherTask paused]
    split
    · rw [allowed_transitionTo_iff]
      refine and_iff_left ?_
      cases state : loop.course.state with
      | idle => decide
      | scanning => exact absurd state rests
      | syncing => decide
      | paused => exact absurd state paused
    · exact Iff.rfl

theorem allowed_handleRemotePoll_iff {loop : SyncLoop} (rests : loop.course.state ≠ .scanning)
    (answers : PollAnswers) :
    AllowedChanges (handleRemotePoll answers loop).course ↔ AllowedChanges loop.course := by
  by_cases paused : loop.course.state = .paused
  · rw [handleRemotePoll_of_paused paused]
  · rcases course_handleRemotePoll paused answers with same | through
    · rw [same]
    · rw [through]
      exact allowed_poll rests paused

theorem allowed_exec_iff {state : Pausing} (rests : Rested state.daemon) (step : DaemonStep) :
    AllowedChanges (state.exec step).daemon.loop.course ↔
      AllowedChanges state.daemon.loop.course ∧ SwitchesUnpaused state step := by
  have unhandled (none : state.daemon.handled step = none) : SwitchesUnpaused state step := by
    intro newMode some
    rw [none] at some
    cases some
  have courses := Daemon.courses_exec state.daemon step
  simp only [Pausing.exec]
  generalize (state.daemon.exec step).loop.course = course at courses ⊢
  cases courses with
  | stays unhandled_ _ _ => exact (and_iff_left (unhandled unhandled_)).symm
  | @command answers command rest waiting =>
      refine (allowed_handleCommand_iff rests answers command).trans ?_
      refine and_congr_right fun _ => ?_
      simp only [SwitchesUnpaused, Daemon.handled, waiting, List.head?_cons, Option.some.injEq]
  | poll answers =>
      rw [and_iff_left (unhandled rfl)]
      exact allowed_handleRemotePoll_iff rests answers
  | @task answers task rest _ =>
      rw [and_iff_left (unhandled rfl)]
      exact allowed_handleWatcherTask_iff rests answers task

theorem suspended_of_paused {loop : SyncLoop} (paused : loop.course.state = .paused) :
    Suspended loop :=
  ⟨paused, handleRemotePoll_of_paused paused, handleWatcherTask_of_paused paused⟩

/-- While no switch is handled in between, the engine stays paused until it is
resumed. -/
theorem paused_exec {state : Pausing} {step : DaemonStep} (switches : SwitchesUnpaused state step)
    (before : state.paused = true → state.daemon.loop.course.state = .paused)
    (after : (state.exec step).paused = true) :
    (state.exec step).daemon.loop.course.state = .paused := by
  have courses := Daemon.courses_exec state.daemon step
  simp only [Pausing.exec] at after ⊢
  generalize (state.daemon.exec step).loop.course = course at courses ⊢
  cases courses with
  | stays unhandled _ _ =>
      rw [unhandled] at after
      exact before after
  | @command answers command rest waiting =>
      have asked : state.daemon.handled (.receiveCommand answers) = some command :=
        congrArg List.head? waiting
      rw [asked] at after
      cases command with
      | pause => exact Course.state_transitionTo _ _
      | resume => cases after
      | switchMode newMode =>
          have paused := before after
          have same := switches newMode asked paused
          rw [handleCommand, handleModeSwitch_of_same same.symm]
          exact paused
  | poll answers =>
      have paused := before after
      rw [handleRemotePoll_of_paused paused]
      exact paused
  | @task answers task rest _ =>
      have paused := before after
      rw [handleWatcherTask_of_paused paused]
      exact paused

/-- In every run from the start: the engine has respected its state machine and
the pauses of its user exactly when no switch to another mode was handled while
it was paused. -/
theorem obeysPause_iff (world : World) (cfg : VfsPreferences) (steps : List DaemonStep) :
    ObeysPause (run Pausing.exec steps (Pausing.start world cfg)) ↔
      Along Pausing.exec SwitchesUnpaused steps (Pausing.start world cfg) := by
  have rests : Rested (Pausing.start world cfg).daemon := by
    change SyncEngineState.idle ≠ .scanning
    decide
  have changes := @run_iff_along _ _ Pausing.exec SwitchesUnpaused
    (fun state => Rested state.daemon) (fun state => AllowedChanges state.daemon.loop.course)
    (fun _ step before => rested_exec before step) (fun _ step before => allowed_exec_iff before step)
    _ rests steps
  constructor
  · exact fun obeys => (changes.mp obeys.allowed).2
  · intro along
    refine ⟨changes.mpr ⟨allowed_start, along⟩, fun paused => suspended_of_paused ?_⟩
    have stays := @run_of_along _ _ Pausing.exec SwitchesUnpaused
      (fun state => state.paused = true → state.daemon.loop.course.state = .paused)
      (fun _ _ switches before after => paused_exec switches before after) _ _ along
      Bool.noConfusion
    exact stays paused

end Steps

/-- The user pauses the engine and changes the mode to Mirror and back, before the
engine has handled the first of the two commands. -/
theorem switch_ends_pause :
    ¬ @ObeysPause untimed (run (@Pausing.exec untimed)
      [.pause, .receiveCommand SwitchAnswers.allRun, .setSyncMode .mirror, .sendSwitch 0,
        .setSyncMode .stream, .receiveCommand SwitchAnswers.allRun]
      (Pausing.start (World.around Database.fresh) ⟨.stream, "/mnt"⟩)) := by
  intro obeys
  have forbidden := @ObeysPause.allowed untimed _ obeys (.paused, .syncing) (by decide)
  cases forbidden

end Loop
end GDriver
