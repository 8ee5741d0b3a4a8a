import GDriver.Library.Run
import GDriver.Loop.Steps

namespace GDriver
namespace Loop

open Library Routine Db Api Sync

/-!
# Switching the mode

The request writes the new mode to the preferences before it sends its command,
and the handler of the command compares the new mode with the preferences.  It
migrates the files only when the preferences have been written again in between,
with another mode; and then they are migrated to a mode that is no longer the
configured one.
-/

/-- The switch has taken effect: with another mode than the first one files have
been migrated, and the last migration is the one to the configured mode. -/
structure TakesEffect (firstMode : SyncMode) (loop : SyncLoop) : Prop where
  migrated : loop.cfg.syncMode ≠ firstMode → loop.migrations ≠ []
  last : ∀ mode, loop.migrations.getLast? = some mode → mode = loop.cfg.syncMode

/-- The mode of a command to switch to another mode than the configured one, if the
accounts can be listed when it is handled. -/
def switchAway (answers : SwitchAnswers) (cfg : VfsPreferences) : SyncCommand → Option SyncMode
  | .switchMode newMode =>
      if cfg.syncMode ≠ newMode && answers.listsAccounts then some newMode else none
  | _ => none

/-- The mode that a step switches to, away from the configured one. -/
def switchesAway (daemon : Daemon) : DaemonStep → Option SyncMode
  | .receiveCommand answers => daemon.commands.head?.bind (switchAway answers daemon.loop.cfg)
  | _ => none

/-- The mode that the files are laid out for after the switches of a run: the first
one without any. -/
def laidOutFor (firstMode : SyncMode) (switches : List SyncMode) : SyncMode :=
  switches.getLast?.getD firstMode

theorem takesEffect_iff (firstMode : SyncMode) (loop : SyncLoop) :
    TakesEffect firstMode loop ↔ laidOutFor firstMode loop.migrations = loop.cfg.syncMode := by
  cases last : loop.migrations.getLast? with
  | none =>
      have none : loop.migrations = [] := List.getLast?_eq_none_iff.mp last
      rw [laidOutFor, last, Option.getD_none]
      constructor
      · intro effect
        by_contra other
        exact effect.migrated (Ne.symm other) none
      · intro same
        refine ⟨fun other => absurd same.symm other, fun mode some => ?_⟩
        rw [last] at some
        cases some
  | some mode =>
      rw [laidOutFor, last, Option.getD_some]
      constructor
      · exact fun effect => effect.last mode last
      · intro same
        refine ⟨fun _ none => ?_, fun other found => ?_⟩
        · rw [none] at last
          cases last
        · rw [last] at found
          exact (Option.some.inj found).symm.trans same

theorem migrations_handleCommand (answers : SwitchAnswers) (command : SyncCommand)
    (loop : SyncLoop) :
    (handleCommand answers command loop).migrations =
      loop.migrations ++ (switchAway answers loop.cfg command).toList := by
  cases command with
  | pause => exact (List.append_nil _).symm
  | resume =>
      simp only [handleCommand, switchAway, Option.toList, List.append_nil]
      split
      · rfl
      · rfl
  | switchMode newMode =>
      rw [handleCommand]
      by_cases same : loop.cfg.syncMode = newMode
      · have stays : switchAway answers loop.cfg (.switchMode newMode) = none := by
          simp only [switchAway, same, ne_eq, not_true, decide_false, Bool.false_and,
            Bool.false_eq_true, if_false]
        rw [handleModeSwitch_of_same same, stays]
        exact (List.append_nil _).symm
      · have leaves : switchAway answers loop.cfg (.switchMode newMode) =
            if answers.listsAccounts then some newMode else none := by
          simp only [switchAway, same, ne_eq, not_false_eq_true, decide_true, Bool.true_and]
        rw [migrations_handleModeSwitch answers newMode same, leaves]
        split
        · rfl
        · exact (List.append_nil _).symm

section Steps

variable [Rfc3339]

/-- A step migrates the files exactly when it switches away from the configured
mode. -/
theorem migrations_exec (daemon : Daemon) (step : DaemonStep) :
    (daemon.exec step).loop.migrations =
      daemon.loop.migrations ++ (switchesAway daemon step).toList := by
  have same {other : SyncLoop} (same : other = daemon.loop) :
      other.migrations = daemon.loop.migrations ++ (none : Option SyncMode).toList := by
    rw [same]
    exact (List.append_nil _).symm
  cases step with
  | pause => exact same (Daemon.loop_send _ daemon)
  | resume => exact same (Daemon.loop_send _ daemon)
  | setSyncMode newMode => exact (List.append_nil _).symm
  | sendSwitch position => exact same (Daemon.loop_sendSwitch _ daemon)
  | savePrefs saves prefs =>
      simp only [Daemon.exec, Daemon.handlePrefsSave]
      split
      · exact (List.append_nil _).symm
      · exact (List.append_nil _).symm
  | hear now kind paths => exact (List.append_nil _).symm
  | flush view entries => exact same (Daemon.loop_flush _ _ daemon)
  | watchFolders folders => exact (List.append_nil _).symm
  | scan task => exact same (Daemon.loop_scan _ daemon)
  | receiveCommand answers =>
      rw [switchesAway, Daemon.exec]
      cases waiting : daemon.commands with
      | nil =>
          rw [Daemon.receiveCommand_of_nil waiting]
          exact (List.append_nil _).symm
      | cons command rest =>
          rw [Daemon.receiveCommand_of_cons waiting]
          exact migrations_handleCommand answers command daemon.loop
  | tick answers =>
      refine (migrations_handleRemotePoll answers daemon.loop).trans ?_
      exact (List.append_nil _).symm
  | receiveTask answers =>
      cases waiting : daemon.watched with
      | nil =>
          rw [Daemon.exec, Daemon.receiveTask_of_nil waiting]
          exact (List.append_nil _).symm
      | cons task rest =>
          rw [Daemon.exec, Daemon.receiveTask_of_cons waiting]
          refine (migrations_handleWatcherTask answers task daemon.loop).trans ?_
          exact (List.append_nil _).symm
  | elsewhere operation =>
      rcases Daemon.elsewhere_spec operation daemon with ⟨world, same⟩
      rw [Daemon.exec, same]
      exact (List.append_nil _).symm

/-- The requests that write another mode than this one to the preferences. -/
def WritesOther (mode : SyncMode) : DaemonStep → Prop
  | .setSyncMode newMode => newMode ≠ mode
  | .savePrefs saves prefs => saves = true ∧ prefs.syncMode ≠ mode
  | _ => False

theorem cfg_exec_of_unwritten {mode : SyncMode} {daemon : Daemon} {step : DaemonStep}
    (unwritten : ¬ WritesOther mode step) (configured : daemon.loop.cfg.syncMode = mode) :
    (daemon.exec step).loop.cfg.syncMode = mode := by
  have same {other : SyncLoop} (same : other.cfg = daemon.loop.cfg) : other.cfg.syncMode = mode := by
    rw [same]
    exact configured
  cases step with
  | pause => exact same (congrArg SyncLoop.cfg (Daemon.loop_send _ daemon))
  | resume => exact same (congrArg SyncLoop.cfg (Daemon.loop_send _ daemon))
  | setSyncMode newMode => exact Decidable.not_not.mp unwritten
  | sendSwitch position => exact same (congrArg SyncLoop.cfg (Daemon.loop_sendSwitch _ daemon))
  | savePrefs saves prefs =>
      rw [Daemon.exec, Daemon.handlePrefsSave]
      split
      · next executes => exact Decidable.not_not.mp fun other => unwritten ⟨executes, other⟩
      · exact configured
  | hear now kind paths => exact same rfl
  | flush view entries => exact same (congrArg SyncLoop.cfg (Daemon.loop_flush _ _ daemon))
  | watchFolders folders => exact same rfl
  | scan task => exact same (congrArg SyncLoop.cfg (Daemon.loop_scan _ daemon))
  | receiveCommand answers =>
      cases waiting : daemon.commands with
      | nil =>
          rw [Daemon.exec, Daemon.receiveCommand_of_nil waiting]
          exact configured
      | cons command rest =>
          rw [Daemon.exec, Daemon.receiveCommand_of_cons waiting]
          exact same (cfg_handleCommand answers daemon.loop command)
  | tick answers => exact same (cfg_handleRemotePoll answers daemon.loop)
  | receiveTask answers =>
      cases waiting : daemon.watched with
      | nil =>
          rw [Daemon.exec, Daemon.receiveTask_of_nil waiting]
          exact configured
      | cons task rest =>
          rw [Daemon.exec, Daemon.receiveTask_of_cons waiting]
          exact same (cfg_handleWatcherTask answers task daemon.loop)
  | elsewhere operation =>
      rcases Daemon.elsewhere_spec operation daemon with ⟨world, moved⟩
      rw [Daemon.exec, moved]
      exact configured

/-- A command meets another mode than the one its request has written only if another request has
written in between. -/
theorem writes_between_of_switchesAway {mode : SyncMode} {daemon : Daemon} {steps : List DaemonStep}
    {answers : SwitchAnswers}
    (waits : (run Daemon.exec steps (daemon.exec (.setSyncMode mode))).commands.head? =
      some (.switchMode mode))
    (away : switchesAway (run Daemon.exec steps (daemon.exec (.setSyncMode mode)))
      (.receiveCommand answers) ≠ none) :
    ∃ step ∈ steps, WritesOther mode step := by
  by_contra unwritten
  have kept (step : DaemonStep) (member : step ∈ steps) : ¬ WritesOther mode step :=
    fun writes => unwritten ⟨step, member, writes⟩
  have configured : (run Daemon.exec steps (daemon.exec (.setSyncMode mode))).loop.cfg.syncMode =
      mode :=
    @run_of_along _ _ Daemon.exec _ (fun later => later.loop.cfg.syncMode = mode)
      (fun _ _ condition before => cfg_exec_of_unwritten condition.2 before) _ _
      (along_and_of_forall _ (along_true steps _) kept) rfl
  rw [switchesAway, waits, Option.bind_some, switchAway, configured] at away
  exact away (if_neg (by simp))

/-- In every run from the start: the switches of the mode have taken effect exactly
when the last command that was handled while another mode was configured asks for
the mode that is configured in the end; without such a command, when that is the
first mode. -/
theorem switches_take_effect_iff (world : World) (cfg : VfsPreferences)
    (steps : List DaemonStep) :
    TakesEffect cfg.syncMode (run Daemon.exec steps (Daemon.start world cfg)).loop ↔
      laidOutFor cfg.syncMode (notes Daemon.exec switchesAway steps (Daemon.start world cfg)) =
        (run Daemon.exec steps (Daemon.start world cfg)).loop.cfg.syncMode := by
  have migrations := @log_run _ _ Daemon.exec _ switchesAway
    (fun daemon => daemon.loop.migrations) migrations_exec steps (Daemon.start world cfg)
  rw [takesEffect_iff, migrations]
  rfl

end Steps

/-- The mode is switched from Stream to Mirror, and the command is handled. -/
theorem switch_to_mirror_migrates_nothing :
    (run (@Daemon.exec untimed)
        [.setSyncMode .mirror, .sendSwitch 0, .receiveCommand SwitchAnswers.allRun]
        (Daemon.start (World.around Database.fresh) ⟨.stream, "/mnt"⟩)).commands = [] ∧
      (run (@Daemon.exec untimed)
        [.setSyncMode .mirror, .sendSwitch 0, .receiveCommand SwitchAnswers.allRun]
        (Daemon.start (World.around Database.fresh) ⟨.stream, "/mnt"⟩)).sending = [] ∧
      ¬ TakesEffect .stream (run (@Daemon.exec untimed)
        [.setSyncMode .mirror, .sendSwitch 0, .receiveCommand SwitchAnswers.allRun]
        (Daemon.start (World.around Database.fresh) ⟨.stream, "/mnt"⟩)).loop := by
  refine ⟨rfl, rfl, fun effect => ?_⟩
  exact effect.migrated (by decide) rfl

end Loop
end GDriver
