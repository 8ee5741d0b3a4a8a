import GDriver.Ipc.Preferences
import GDriver.Library.Run

namespace GDriver
namespace Saves

open Library Routine Db Sync Ipc

/-!
# Preferences across restarts

The daemon loads the preferences when it starts, and writes the file when there is none.  It can be killed at
any moment.  A kill in the middle of a save leaves on disk what the save leaves whose next call fails, so it is
a save that fails, with a kill after it.
-/

/-- What a start meets: the errors of finding the path of the file and of reading it, and the calls of the save. -/
structure StartAnswers where
  configPath : Option String
  readFailure : Option String
  save : SaveAnswers

/-- Everything succeeds. -/
def StartAnswers.allRun : StartAnswers where
  configPath := none
  readFailure := none
  save := SaveAnswers.allRun

/-- The daemon on its disk, whether it runs or not. -/
structure Installation where
  running : Bool
  backend : Backend

inductive InstallationStep where
  | start (answers : StartAnswers)
  | prefsSave (answers : PrefsAnswers) (params : Except String Preferences)
  | setSyncMode (answers : PrefsAnswers) (mode : Except String SyncMode)
  | kill

section Restarts

variable (fromStr : String → Option Preferences)

/-- Load preferences.  A file that cannot be parsed is treated as if it were absent. -/
def loadFrom (readFailure : Option String) : Routine String ConfigFiles Preferences := fun files =>
  match files.file, readFailure with
  | none, _ => .ok Preferences.default files
  | some _, some failure => .error failure files
  | some content, none => .ok ((fromStr content).getD Preferences.default) files

variable [Toml]

/-- Write the preferences if there is no file. -/
def saveFirst (answers : SaveAnswers) (prefs : Preferences) : Routine String ConfigFiles Unit := fun files =>
  if files.file.isSome then .ok () files else saveTo answers prefs files

/-- What a start does with the preferences.  Any error ends it. -/
def startUp (answers : StartAnswers) : Routine String ConfigFiles Preferences := do
  orFailure answers.configPath
  let prefs ← loadFrom fromStr answers.readFailure
  saveFirst answers.save prefs
  pure prefs

namespace Installation

/-- A daemon that was never started. -/
def fresh : Installation where
  running := false
  backend := ⟨Database.fresh, Preferences.default, ⟨none, none⟩, []⟩

/-- Start the daemon, if it does not run. -/
def startUp (answers : StartAnswers) (installation : Installation) : Installation :=
  if installation.running then installation
  else
    match Saves.startUp fromStr answers installation.backend.files with
    | .error _ files => { installation with backend := { installation.backend with files := files } }
    | .ok prefs files => ⟨true, { installation.backend with config := prefs, files := files, commands := [] }⟩

/-- Let the daemon handle a request, if it runs. -/
def handle {α : Type} (request : Routine RpcError Backend α) (installation : Installation) : Installation :=
  if installation.running then { installation with backend := final request installation.backend } else installation

def exec (installation : Installation) : InstallationStep → Installation
  | .start answers => installation.startUp fromStr answers
  | .prefsSave answers params => installation.handle (handlePrefsSave answers params)
  | .setSyncMode answers mode => installation.handle (handleSetSyncMode answers mode)
  | .kill => { installation with running := false }

end Installation

/-- The daemon when it saves a mode that it has switched to. -/
def switchedTo (newMode : SyncMode) (backend : Backend) : Backend :=
  { backend with
    config := backend.config.withMode newMode
    commands := backend.commands ++ [.switchMode newMode] }

/-- The preferences that are handed to a save in a step, and whether they are saved. -/
def InstallationStep.saves (installation : Installation) : InstallationStep → Option (Preferences × Bool)
  | .start answers =>
      if installation.running || answers.configPath.isSome || installation.backend.files.file.isSome then none
      else
        some (Preferences.default,
          (outcome (saveTo answers.save Preferences.default) installation.backend.files).isOk)
  | .prefsSave answers params =>
      if installation.running then
        params.toOption.map fun prefs => (prefs, (outcome (save answers prefs) installation.backend).isOk)
      else none
  | .setSyncMode answers mode =>
      if installation.running && answers.engineReceives then
        mode.toOption.map fun newMode =>
          let switched := switchedTo newMode installation.backend
          (switched.config, (outcome (save answers switched.config) switched).isOk)
      else none
  | .kill => none

/-- The preferences that a step saves. -/
def InstallationStep.saved (installation : Installation) (step : InstallationStep) : Option Preferences :=
  (step.saves installation).bind fun handed => if handed.2 then some handed.1 else none

/-- What is saved in the step can be read again. -/
def ReadsBack (installation : Installation) (step : InstallationStep) : Prop :=
  ∀ prefs, step.saved installation = some prefs → ∀ text, Toml.toStringPretty prefs = .ok text →
    fromStr text = some prefs

/-- The file holds what was saved last, and is read as that. -/
def Holds (saved : List Preferences) (files : ConfigFiles) : Prop :=
  match saved.getLast? with
  | none => files.file = none
  | some prefs => ∃ text, files.file = some text ∧ Toml.toStringPretty prefs = .ok text ∧ fromStr text = some prefs

end Restarts

/-! ## One save -/

section Saving

variable [Toml] {prefs : Preferences}

/-- A save writes the file or leaves it alone. -/
theorem saveTo_cases (answers : SaveAnswers) (prefs : Preferences) (files : ConfigFiles) :
    ((∃ failure, outcome (saveTo answers prefs) files = .error failure) ∧
        (final (saveTo answers prefs) files).file = files.file) ∨
      outcome (saveTo answers prefs) files = .ok () ∧
        ∃ text, Toml.toStringPretty prefs = .ok text ∧ (final (saveTo answers prefs) files).file = some text := by
  rw [saveTo]
  cases printed : Toml.toStringPretty prefs with
  | error failure => exact Or.inl ⟨⟨_, rfl⟩, rfl⟩
  | ok text =>
      rcases answers with ⟨writes, left, renames⟩
      cases writes with
      | some failure => exact Or.inl ⟨⟨_, rfl⟩, rfl⟩
      | none =>
          cases renames with
          | some failure => exact Or.inl ⟨⟨_, rfl⟩, rfl⟩
          | none => exact Or.inr ⟨rfl, text, rfl, rfl⟩

/-- The same in the blocking task, which changes nothing else. -/
theorem save_cases (answers : PrefsAnswers) (prefs : Preferences) (backend : Backend) :
    ((∃ failure, outcome (save answers prefs) backend = .error failure) ∧
        (final (save answers prefs) backend).files.file = backend.files.file) ∨
      outcome (save answers prefs) backend = .ok () ∧
        ∃ text, Toml.toStringPretty prefs = .ok text ∧ (final (save answers prefs) backend).files.file = some text := by
  rcases answers with ⟨joins, configPath, calls, receives⟩
  cases joins with
  | some failure => exact Or.inl ⟨⟨failure, rfl⟩, rfl⟩
  | none =>
      cases configPath with
      | some failure => exact Or.inl ⟨⟨failure, rfl⟩, rfl⟩
      | none =>
          have whole : save ⟨none, none, calls, receives⟩ prefs =
            zoom Backend.files (fun files backend => { backend with files := files }) (saveTo calls prefs) := rfl
          rw [whole, outcome_zoom, final_zoom]
          exact saveTo_cases calls prefs backend.files

end Saving

/-! ## Steps -/

section Steps

variable [Toml] {fromStr : String → Option Preferences} {saved : List Preferences} {installation : Installation}

/-- What leaves the file alone saves nothing. -/
theorem Holds.unchanged {files later : ConfigFiles} (holds : Holds fromStr saved files)
    (same : later.file = files.file) :
    Holds fromStr (saved ++ (none : Option Preferences).toList) later := by
  rw [Option.toList_none, List.append_nil]
  rw [Holds] at holds ⊢
  cases last : saved.getLast? with
  | none =>
      rw [last] at holds
      exact same.trans holds
  | some prefs =>
      rw [last] at holds
      rcases holds with ⟨text, held, printed, read⟩
      exact ⟨text, same.trans held, printed, read⟩

theorem Holds.replaced {prefs : Preferences} {files : ConfigFiles} {text : String} (saved : List Preferences)
    (written : files.file = some text) (printed : Toml.toStringPretty prefs = .ok text)
    (read : fromStr text = some prefs) : Holds fromStr (saved ++ (some prefs).toList) files := by
  rw [Holds, Option.toList_some, List.getLast?_concat]
  exact ⟨text, written, printed, read⟩

/-- What a step hands to a save is saved, or nothing is. -/
theorem saved_of_saves {step : InstallationStep} {prefs : Preferences} {succeeds : Bool}
    (hands : step.saves installation = some (prefs, succeeds)) :
    step.saved installation = if succeeds then some prefs else none := by
  rw [InstallationStep.saved, hands]
  rfl

theorem saved_of_saves_none {step : InstallationStep} (hands : step.saves installation = none) :
    step.saved installation = none := by
  rw [InstallationStep.saved, hands]
  rfl

/-- A step that hands preferences to a save writes the file as the save does. -/
theorem holds_of_saves {step : InstallationStep} {prefs : Preferences} {answered : Except String Unit}
    {later : ConfigFiles}
    (holds : Holds fromStr saved installation.backend.files) (read : ReadsBack fromStr installation step)
    (hands : step.saves installation = some (prefs, answered.isOk))
    (does : ((∃ failure, answered = .error failure) ∧ later.file = installation.backend.files.file) ∨
      answered = .ok () ∧ ∃ text, Toml.toStringPretty prefs = .ok text ∧ later.file = some text) :
    Holds fromStr (saved ++ (step.saved installation).toList) later := by
  rcases does with ⟨⟨failure, failed⟩, same⟩ | ⟨succeeded, text, printed, written⟩
  · have notes : step.saved installation = none := by
      rw [saved_of_saves hands, failed]
      rfl
    rw [notes]
    exact holds.unchanged same
  · have notes : step.saved installation = some prefs := by
      rw [saved_of_saves hands, succeeded]
      rfl
    rw [notes]
    exact Holds.replaced saved written printed (read prefs notes text printed)

/-- The file after a save of preferences is what the save makes of it. -/
theorem files_handlePrefsSave (answers : PrefsAnswers) (prefs : Preferences) (backend : Backend) :
    (final (handlePrefsSave answers (.ok prefs)) backend).files = (final (save answers prefs) backend).files := by
  have first : outcome (mapError RpcError.invalidParams (received (Except.ok prefs : Except String Preferences)))
      backend =
      .ok prefs := rfl
  have still : final (mapError RpcError.invalidParams (received (Except.ok prefs : Except String Preferences)))
      backend =
      backend := rfl
  rw [handlePrefsSave, final_bind_of_ok first, still, final_bind, final_mapError, outcome_mapError]
  cases outcome (save answers prefs) backend with
  | ok value => rfl
  | error failure => rfl

/-- A switch of the mode saves what is in memory then, if the engine is told. -/
theorem files_handleSetSyncMode (answers : PrefsAnswers) (newMode : SyncMode) (backend : Backend) :
    (final (handleSetSyncMode answers (.ok newMode)) backend).files =
      if answers.engineReceives then
        (final (save answers (switchedTo newMode backend).config) (switchedTo newMode backend)).files
      else backend.files := by
  rcases answers with ⟨joins, configPath, calls, receives⟩
  cases receives with
  | false => rfl
  | true =>
      have whole : final (handleSetSyncMode ⟨joins, configPath, calls, true⟩ (.ok newMode)) backend =
          final (attempt (save ⟨joins, configPath, calls, true⟩ (switchedTo newMode backend).config) >>= fun _ =>
            (pure newMode : Routine RpcError Backend SyncMode)) (switchedTo newMode backend) := rfl
      rw [whole, final_bind_pure, final_attempt]
      rfl

/-- A start writes the file when there is none and its path is found. -/
theorem startUp_of_file {answers : StartAnswers} {files : ConfigFiles} (there : files.file.isSome = true) :
    final (startUp fromStr answers) files = files := by
  rcases files with ⟨file, tmp⟩
  cases file with
  | none => cases there
  | some content =>
      rcases answers with ⟨configPath, readFailure, calls⟩
      cases configPath with
      | some failure => rfl
      | none =>
          cases readFailure with
          | some failure => rfl
          | none => rfl

theorem startUp_of_no_path {answers : StartAnswers} {files : ConfigFiles} (lost : answers.configPath.isSome = true) :
    final (startUp fromStr answers) files = files := by
  rcases answers with ⟨configPath, readFailure, calls⟩
  cases configPath with
  | none => cases lost
  | some failure => rfl

theorem startUp_of_no_file {answers : StartAnswers} {files : ConfigFiles} (found : answers.configPath = none)
    (absent : files.file = none) :
    final (startUp fromStr answers) files = final (saveTo answers.save Preferences.default) files := by
  rcases answers with ⟨configPath, readFailure, calls⟩
  cases found
  rcases files with ⟨file, tmp⟩
  cases absent
  have whole : final (startUp fromStr ⟨none, readFailure, calls⟩) ⟨none, tmp⟩ =
      final (saveTo calls Preferences.default >>= fun _ =>
        (pure Preferences.default : Routine String ConfigFiles Preferences)) ⟨none, tmp⟩ := rfl
  rw [whole, final_bind_pure]

theorem files_startUp {answers : StartAnswers} (stopped : installation.running = false) :
    (installation.startUp fromStr answers).backend.files =
      final (startUp fromStr answers) installation.backend.files := by
  rw [Installation.startUp, stopped, final]
  cases startUp fromStr answers installation.backend.files with
  | ok prefs files => rfl
  | error failure files => rfl

theorem holds_start {answers : StartAnswers} (read : ReadsBack fromStr installation (.start answers))
    (holds : Holds fromStr saved installation.backend.files) :
    Holds fromStr (saved ++ ((InstallationStep.start answers).saved installation).toList)
      (installation.startUp fromStr answers).backend.files := by
  cases running : installation.running with
  | true =>
      have nothing : (InstallationStep.start answers).saves installation = none := by
        rw [InstallationStep.saves, running, Bool.true_or, Bool.true_or, if_pos rfl]
      rw [saved_of_saves_none nothing, Installation.startUp, if_pos running]
      exact holds.unchanged rfl
  | false =>
      rw [files_startUp running]
      cases lost : answers.configPath with
      | some failure =>
          have nothing : (InstallationStep.start answers).saves installation = none := by
            rw [InstallationStep.saves, lost, Option.isSome_some, Bool.or_true, Bool.true_or, if_pos rfl]
          rw [saved_of_saves_none nothing, startUp_of_no_path (Option.isSome_of_eq_some lost)]
          exact holds.unchanged rfl
      | none =>
          cases there : installation.backend.files.file with
          | some content =>
              have nothing : (InstallationStep.start answers).saves installation = none := by
                rw [InstallationStep.saves, there, Option.isSome_some, Bool.or_true, if_pos rfl]
              rw [saved_of_saves_none nothing, startUp_of_file (Option.isSome_of_eq_some there)]
              exact holds.unchanged rfl
          | none =>
              have hands : (InstallationStep.start answers).saves installation =
                  some (Preferences.default,
                    (outcome (saveTo answers.save Preferences.default) installation.backend.files).isOk) := by
                rw [InstallationStep.saves, running, lost, there]
                rfl
              rw [startUp_of_no_file lost there]
              exact holds_of_saves holds read hands (saveTo_cases _ _ _)

/-- A daemon that does not run saves nothing but at its start. -/
theorem saved_of_stopped {step : InstallationStep} (stopped : installation.running = false)
    (other : ∀ answers, step ≠ .start answers) : step.saved installation = none := by
  refine saved_of_saves_none ?_
  cases step with
  | start answers => exact absurd rfl (other answers)
  | prefsSave answers params => rw [InstallationStep.saves, stopped, if_neg Bool.false_ne_true]
  | setSyncMode answers mode => rw [InstallationStep.saves, stopped, Bool.false_and, if_neg Bool.false_ne_true]
  | kill => rfl

theorem holds_prefsSave {answers : PrefsAnswers} {params : Except String Preferences}
    (read : ReadsBack fromStr installation (.prefsSave answers params))
    (holds : Holds fromStr saved installation.backend.files) :
    Holds fromStr (saved ++ ((InstallationStep.prefsSave answers params).saved installation).toList)
      (installation.handle (handlePrefsSave answers params)).backend.files := by
  rw [Installation.handle]
  cases running : installation.running with
  | false =>
      rw [saved_of_stopped running fun _ impossible => by cases impossible]
      exact holds.unchanged rfl
  | true =>
      rw [if_pos rfl]
      cases params with
      | error failure =>
          have nothing : (InstallationStep.prefsSave answers (.error failure)).saves installation = none := by
            rw [InstallationStep.saves, running]
            rfl
          rw [saved_of_saves_none nothing]
          exact holds.unchanged rfl
      | ok prefs =>
          have hands : (InstallationStep.prefsSave answers (.ok prefs)).saves installation =
              some (prefs, (outcome (save answers prefs) installation.backend).isOk) := by
            rw [InstallationStep.saves, running]
            rfl
          refine holds_of_saves holds read hands ?_
          dsimp only
          rw [files_handlePrefsSave]
          exact save_cases answers prefs installation.backend

theorem holds_setSyncMode {answers : PrefsAnswers} {mode : Except String SyncMode}
    (read : ReadsBack fromStr installation (.setSyncMode answers mode))
    (holds : Holds fromStr saved installation.backend.files) :
    Holds fromStr (saved ++ ((InstallationStep.setSyncMode answers mode).saved installation).toList)
      (installation.handle (handleSetSyncMode answers mode)).backend.files := by
  rw [Installation.handle]
  cases running : installation.running with
  | false =>
      rw [saved_of_stopped running fun _ impossible => by cases impossible]
      exact holds.unchanged rfl
  | true =>
      rw [if_pos rfl]
      cases mode with
      | error failure =>
          have nothing : (InstallationStep.setSyncMode answers (.error failure)).saves installation = none := by
            rw [InstallationStep.saves]
            split
            · rfl
            · rfl
          rw [saved_of_saves_none nothing]
          exact holds.unchanged rfl
      | ok newMode =>
          dsimp only
          rw [files_handleSetSyncMode]
          cases receives : answers.engineReceives with
          | false =>
              have nothing : (InstallationStep.setSyncMode answers (.ok newMode)).saves installation = none := by
                rw [InstallationStep.saves, receives, Bool.and_false, if_neg Bool.false_ne_true]
              rw [saved_of_saves_none nothing]
              exact holds.unchanged rfl
          | true =>
              have hands : (InstallationStep.setSyncMode answers (.ok newMode)).saves installation =
                  some ((switchedTo newMode installation.backend).config,
                    (outcome (save answers (switchedTo newMode installation.backend).config)
                      (switchedTo newMode installation.backend)).isOk) := by
                rw [InstallationStep.saves, running, receives]
                rfl
              exact holds_of_saves holds read hands (save_cases _ _ (switchedTo newMode installation.backend))

/-- Every step keeps in the file what was saved last. -/
theorem holds_exec {step : InstallationStep} (read : ReadsBack fromStr installation step)
    (holds : Holds fromStr saved installation.backend.files) :
    Holds fromStr (saved ++ (step.saved installation).toList) (installation.exec fromStr step).backend.files := by
  cases step with
  | start answers => exact holds_start read holds
  | prefsSave answers params => exact holds_prefsSave read holds
  | setSyncMode answers mode => exact holds_setSyncMode read holds
  | kill => exact holds.unchanged rfl

/-- What is loaded from a file that holds what was saved last. -/
theorem loaded_of_holds {readFailure : Option String} {files : ConfigFiles} {prefs : Preferences}
    (holds : Holds fromStr saved files) (loads : outcome (loadFrom fromStr readFailure) files = .ok prefs) :
    prefs = saved.getLast?.getD Preferences.default := by
  rw [Holds] at holds
  cases last : saved.getLast? with
  | none =>
      rw [last] at holds
      rcases files with ⟨file, tmp⟩
      cases holds
      cases loads
      rfl
  | some kept =>
      rw [last] at holds
      rcases holds with ⟨text, held, printed, read⟩
      rcases files with ⟨file, tmp⟩
      cases held
      cases readFailure with
      | some failure => cases loads
      | none =>
          cases loads
          rw [read, Option.getD_some]

/-- A start that succeeds has loaded the preferences that it answers. -/
theorem loads_of_starts {answers : StartAnswers} {files : ConfigFiles} {prefs : Preferences}
    (starts : outcome (startUp fromStr answers) files = .ok prefs) :
    outcome (loadFrom fromStr answers.readFailure) files = .ok prefs := by
  rw [startUp, outcome_bind_eq_ok_iff] at starts
  rcases starts with ⟨_, _, starts⟩
  have still : final (orFailure answers.configPath : Routine String ConfigFiles Unit) files = files := by
    cases answers.configPath with
    | none => rfl
    | some failure => rfl
  rw [still, outcome_bind_eq_ok_iff] at starts
  rcases starts with ⟨loaded, loads, starts⟩
  rw [outcome_bind_eq_ok_iff] at starts
  rcases starts with ⟨_, _, same⟩
  cases same
  exact loads

/-- A daemon that a start gets to run has the preferences that the file holds, or the defaults. -/
theorem config_startUp {answers : StartAnswers} (holds : Holds fromStr saved installation.backend.files)
    (stopped : installation.running = false) (starts : (installation.startUp fromStr answers).running = true) :
    (installation.startUp fromStr answers).backend.config = saved.getLast?.getD Preferences.default := by
  rw [Installation.startUp, stopped, if_neg Bool.false_ne_true] at starts ⊢
  have loads (prefs : Preferences) (files : ConfigFiles)
      (started : Saves.startUp fromStr answers installation.backend.files = .ok prefs files) :
      prefs = saved.getLast?.getD Preferences.default := by
    refine loaded_of_holds holds (@loads_of_starts _ fromStr answers _ _ ?_)
    rw [outcome, started, answer]
  generalize Saves.startUp fromStr answers installation.backend.files = ended at starts loads ⊢
  cases ended with
  | ok prefs files => exact loads prefs files rfl
  | error failure files => cases starts

end Steps

section Runs

variable [Toml] {fromStr : String → Option Preferences}

end Runs

/-- The writing of preferences as plain text. -/
local instance writesPlain : Toml where
  toStringPretty prefs := .ok (plainToml prefs)

/-- Preferences of a user who mirrors her files. -/
def mirrors : Preferences :=
  { Preferences.default.withMode .mirror with general := ⟨false, .dark, "de", true⟩ }

/-- What reads these and the defaults. -/
def readsPlain (text : String) : Option Preferences :=
  if text = plainToml Preferences.default then some Preferences.default
  else if text = plainToml mirrors then some mirrors
  else none

/-- The first start writes the defaults.  Then preferences are saved, and the daemon is killed while it saves a
switch of the mode, of which half is written to the sibling. -/
def killedInSwitch : List InstallationStep :=
  [.start StartAnswers.allRun, .prefsSave PrefsAnswers.allRun (.ok mirrors),
    .setSyncMode ⟨none, none, ⟨some "killed", some "[general]\nlaunch_on", none⟩, true⟩ (.ok .stream), .kill]

end Saves
end GDriver
