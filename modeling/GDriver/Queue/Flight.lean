import GDriver.Queue.Status

namespace GDriver
namespace Queue

open Library Routine Db Api Sync

/-!
# The task that the engine is in the middle of

While the engine waits between the parts of a task, the task is in progress.  With that the status
in which each step of the engine leaves its task is known: it can be computed from what the step
meets.
-/

/-- The engine is in the middle of a task that is in progress. -/
def InFlightRuns (system : System) : Prop :=
  ∀ taskId, inFlight system.engine = some taskId → HasStatus taskId .inProgress system.world

section Running

variable {task : SyncTask} {taskId : Nat} {world : World} (identified : task.id = some taskId)
  (pending : HasStatus taskId .pending world)
include identified pending

/-- A task is marked before anything else is done with it. -/
theorem running_startDownload {answers : DownloadAnswers} {download : Download}
    (begun : outcome (startDownload answers task) world = .ok (some download)) :
    HasStatus download.taskId .inProgress (final (startDownload answers task) world) := by
  have started := startDownload_of_ok begun
  have same : download.taskId = taskId := Option.some.inj (started.identified.symm.trans identified)
  have marked := hasStatus_updateTaskStatus answers.marks answers.now .inProgress none pending
  rw [same]
  simp only [startDownload, identified, started.about, started.path] at begun ⊢
  rcases outcome_bind_eq_ok_iff.mp begun with ⟨_, marking, _⟩
  rw [final_bind_of_ok marking]
  rw [outcome_onDb, outcome_updateTaskStatus] at marking
  cases marks : answers.marks with
  | false =>
      rw [marks] at marking
      cases marking
  | true =>
      rw [marks] at marked
      refine HasStatus.of_sameQueue ?_ marked
      refine keeps_bind (keeps_onDb_select _ _) (fun _ => ?_) _
      split
      · exact keeps_throw _
      · exact keeps_pure _

theorem inFlight_beginDownload {answers : DownloadAnswers} {engine : EngineState} {other : Nat}
    (answered : outcome (beginDownload answers task) world = .ok engine) (within : inFlight engine = some other) :
    HasStatus other .inProgress (final (beginDownload answers task) world) := by
  rcases outcome_bind_eq_ok_iff.mp answered with ⟨started, begun, rest⟩
  rw [beginDownload, final_bind_of_ok begun]
  cases started with
  | none =>
      cases rest
      cases within
  | some download =>
      have running := running_startDownload identified pending begun
      have fetched := running.of_sameQueue (@fetchContent_spec answers download _).1
      dsimp only at rest ⊢
      rw [outcome_bind_of_ok (outcome_observe _ _)] at rest
      rw [final_bind_of_ok (outcome_observe _ _), final_observe]
      split at rest
      · rcases outcome_bind_eq_ok_iff.mp rest with ⟨_, _, idle⟩
        cases idle
        cases within
      · cases rest
        cases within
        exact fetched

theorem inFlight_beginDelete {answers : DeleteAnswers} {engine : EngineState} {other : Nat}
    (answered : outcome (beginDelete answers task) world = .ok engine) (within : inFlight engine = some other) :
    HasStatus other .inProgress (final (beginDelete answers task) world) := by
  cases about : task.fileId with
  | none =>
      simp only [beginDelete, identified, about] at answered
      rcases outcome_bind_eq_ok_iff.mp answered with ⟨_, _, idle⟩
      cases idle
      cases within
  | some fileId =>
      have marked := hasStatus_updateTaskStatus answers.marks answers.now .inProgress none pending
      simp only [beginDelete, identified, about] at answered ⊢
      rcases outcome_bind_eq_ok_iff.mp answered with ⟨_, marking, rest⟩
      rcases outcome_bind_eq_ok_iff.mp rest with ⟨delete, looked, removing⟩
      have same := taskId_of_lookUpRemoteDelete looked
      cases removing
      cases within
      rw [final_bind_of_ok marking, final_bind_of_ok looked, same]
      rw [outcome_onDb, outcome_updateTaskStatus] at marking
      cases marks : answers.marks with
      | false =>
          rw [marks] at marking
          cases marking
      | true =>
          rw [marks] at marked
          refine HasStatus.of_sameQueue ?_ marked
          exact keeps_bind (keeps_onDb_select _ _) (fun _ => keeps_pure _) _

/-- The engine waits in the middle of a task that it has marked. -/
theorem inFlight_beginTask [Rfc3339] {answers : TaskAnswers} {engine : EngineState} {other : Nat}
    (answered : outcome (beginTask answers task) world = .ok engine) (within : inFlight engine = some other) :
    HasStatus other .inProgress (final (beginTask answers task) world) := by
  rw [beginTask] at answered ⊢
  split at answered
  · next downloads =>
      rw [if_pos downloads]
      exact inFlight_beginDownload identified pending answered within
  · next other =>
      rw [if_neg other]
      split at answered
      · next deletes =>
          rw [if_pos deletes]
          exact inFlight_beginDelete identified pending answered within
      · rcases outcome_bind_eq_ok_iff.mp answered with ⟨_, _, idle⟩
        cases idle
        cases within

end Running

/-- The task that is begun is pending. -/
theorem hasStatus_of_next {world : World} {taskId : Nat} {task : SyncTask} (next : world.db.nextPending = some task)
    (identified : task.id = some taskId) : HasStatus taskId .pending world := by
  rcases Database.of_nextPending next with ⟨number, numbered, stored, pending⟩
  cases identified.symm.trans numbered
  rw [HasStatus, stored, Option.map_some, pending]

section Flight

variable [Rfc3339] {system : System}

theorem inFlightRuns_engine (runs : InFlightRuns system) (step : EngineStep) : InFlightRuns (step.exec system) := by
  have does := step.does system
  generalize step.exec system = later at does
  intro taskId within
  cases does with
  | nothing => exact runs taskId within
  | restart => cases within
  | begin picked idle next identified =>
      rcases answered_of_settle rfl within with ⟨engine, answered, inside⟩
      exact inFlight_beginTask identified (hasStatus_of_next next identified) answered inside
  | @land answers download engine =>
      rcases answered_of_settle rfl within with ⟨later, answered, inside⟩
      have running := runs download.taskId (by rw [engine]; rfl)
      rw [landFetched, outcome_bind_of_ok (outcome_observe _ _)] at answered
      change HasStatus taskId .inProgress (final (landFetched answers download) system.world)
      rw [landFetched, final_bind_of_ok (outcome_observe _ _), final_observe]
      split at answered
      · rcases outcome_bind_eq_ok_iff.mp answered with ⟨_, _, idle⟩
        cases idle
        cases inside
      · cases answered
        cases inside
        refine running.of_sameQueue ?_
        exact keeps_renameFile (fun _ _ => rfl) (fun _ _ => rfl) _ system.world
  | record engine => cases within
  | @removeCopy answers delete engine =>
      have running := runs taskId (by rw [engine]; exact within)
      exact running.of_sameQueue (@sameQueue_removeLocalCopy answers delete system.world)
  | recordDelete engine => cases within

omit [Rfc3339] in
/-- A task keeps its status through a step that is not one of the engine. -/
theorem InFlightRuns.of_kept {later : System} (runs : InFlightRuns system) (engine : later.engine = system.engine)
    (kept : ∀ taskId task, system.world.db.task taskId = some task → later.world.db.task taskId = some task) :
    InFlightRuns later := by
  intro taskId within
  rw [engine] at within
  rcases Option.map_eq_some_iff.mp (runs taskId within) with ⟨task, found, status⟩
  rw [HasStatus, kept taskId task found, Option.map_some, status]

theorem inFlightRuns_exec (runs : InFlightRuns system) (operation : Operation) :
    InFlightRuns (system.exec operation) := by
  have stays (rests : busyTask system operation = none) (taskId : Nat) (task : SyncTask)
      (found : system.world.db.task taskId = some task) :
      (system.exec operation).world.db.task taskId = some task := by
    rcases (proceeds_exec system operation).tasks.kept taskId task found with ⟨after, reached, _, same⟩
    rw [reached, same (by rw [rests]; exact fun impossible => by cases impossible)]
  cases operation with
  | engine step => exact inFlightRuns_engine runs step
  | sync work => exact runs.of_kept rfl (stays rfl)
  | rpc ctx answers request => exact runs.of_kept rfl (stays rfl)
  | vfs cacheDir answers callback => exact runs.of_kept rfl (stays rfl)
  | event path isDir kind folders now executes => exact runs.of_kept rfl (stays rfl)
  | user path file => exact runs.of_kept rfl (stays rfl)

omit [Rfc3339] in
theorem inFlightRuns_initial : InFlightRuns System.initial := by
  intro taskId within
  cases within

end Flight

/-! ## The status that a step leaves -/

/-- The status of a pending task after its download was begun. -/
def begunDownloadStatus (answers : DownloadAnswers) (task : SyncTask) : TaskStatus :=
  match task.fileId, task.localPath with
  | some _, some _ =>
      if !answers.marks then .pending
      else if !(answers.looksUp && answers.createDirFailure.isNone) then .inProgress
      else if answers.fetched.failure.isNone then .inProgress
      else retried answers.failure.setsStatus task .inProgress
  | _, _ => closed answers.completes .pending

/-- The status of a pending task after its deletion was begun. -/
def begunDeleteStatus (answers : DeleteAnswers) (task : SyncTask) (world : World) : TaskStatus :=
  match task.fileId with
  | some _ => if !answers.marks then .pending else .inProgress
  | none => deleteStatus answers task world

/-- The status of a pending task after its processing was begun. -/
def begunStatus [Rfc3339] (answers : TaskAnswers) (task : SyncTask) (world : World) : TaskStatus :=
  if answers.hasClient && task.operation = .download then begunDownloadStatus answers.download task
  else if answers.hasClient && task.operation = .delete then begunDeleteStatus answers.delete task world
  else taskStatus answers task world

/-- The status of a task after its content has been put in place, or not. -/
def landedStatus (answers : DownloadAnswers) (download : Download) (world : World) : TaskStatus :=
  if finds answers.renameFailure (tmpPath download.localPath) world then .inProgress
  else retried answers.failure.setsStatus download.task .inProgress

section After

variable [Rfc3339] {system : System} {taskId : Nat}

/-- What is seen of a task after the step of the engine that works on it. -/
def Marking.after {β : Type} (view : Marking β) (system : System) (step : EngineStep) (before : β) : β :=
  match step, system.engine with
  | .begin picks answers, .idle =>
      match if picks then system.world.db.nextPending else none with
      | some task => view.beginTask answers task system.world before
      | none => before
  | .land answers, .fetched download => view.landFetched answers download system.world before
  | .record answers, .landed _ => view.closed answers.completes before
  | .removeCopy _, .removing _ => before
  | .recordDelete answers, .removed _ => view.closed answers.completes before
  | _, _ => before

theorem hasView_exec {β : Type} {view : TaskView β} {before : β} {step : EngineStep}
    (has : HasView view taskId before system.world) (busy : busyTask system (.engine step) = some taskId) :
    HasView view taskId (view.after system step before) (step.exec system).world := by
  rcases system with ⟨world, engine⟩
  cases engine with
  | idle =>
      cases step with
      | begin picks answers =>
          rcases Option.bind_eq_some_iff.mp busy with ⟨task, next, identified⟩
          cases picks with
          | true =>
              simp only [Marking.after, next, EngineStep.exec]
              rw [settle_beginNext_of_next answers next]
              exact hasView_beginTask identified has answers
          | false =>
              rcases settle_beginNext false answers world with nothing | ⟨_, impossible, _⟩
              · simp only [Marking.after, EngineStep.exec]
                rw [nothing]
                exact has
              · cases impossible
      | _ => cases busy
  | fetched download =>
      cases step with
      | land answers =>
          cases busy
          exact hasView_landFetched answers has
      | _ => cases busy
  | landed download =>
      cases step with
      | record answers =>
          cases busy
          exact hasView_recordDownload has
      | _ => cases busy
  | removing delete =>
      cases step with
      | removeCopy answers =>
          cases busy
          exact has.of_sameQueue (sameQueue_removeLocalCopy delete _)
      | _ => cases busy
  | removed delete =>
      cases step with
      | recordDelete answers =>
          cases busy
          exact hasView_recordRemoteDelete delete has
      | _ => cases busy

/-- The status in which an operation leaves the task it works on. -/
def statusAfter (system : System) : Operation → TaskStatus
  | .engine step =>
      match step, system.engine with
      | .begin picks answers, .idle =>
          match if picks then system.world.db.nextPending else none with
          | some task => begunStatus answers task system.world
          | none => .pending
      | .land answers, .fetched download => landedStatus answers download system.world
      | .record answers, .landed _ => closed answers.completes .inProgress
      | .removeCopy _, .removing _ => .inProgress
      | .recordDelete answers, .removed _ => closed answers.completes .inProgress
      | _, _ => .pending
  | _ => .pending

/-- The status of the task that a step of the engine works on. -/
theorem hasStatus_exec {step : EngineStep} (runs : InFlightRuns system)
    (busy : busyTask system (.engine step) = some taskId) :
    HasStatus taskId (statusAfter system (.engine step)) (step.exec system).world := by
  rcases system with ⟨world, engine⟩
  cases engine with
  | idle =>
      cases step with
      | begin picks answers =>
          rcases Option.bind_eq_some_iff.mp busy with ⟨task, next, identified⟩
          exact @hasView_exec _ _ _ _ statusView _ _ (hasStatus_of_next next identified) busy
      | _ => cases busy
  | fetched download =>
      cases step with
      | land answers => exact @hasView_exec _ _ _ _ statusView _ _ (runs _ busy) busy
      | _ => cases busy
  | landed download =>
      cases step with
      | record answers => exact @hasView_exec _ _ _ _ statusView _ _ (runs _ busy) busy
      | _ => cases busy
  | removing delete =>
      cases step with
      | removeCopy answers => exact @hasView_exec _ _ _ _ statusView _ _ (runs _ busy) busy
      | _ => cases busy
  | removed delete =>
      cases step with
      | recordDelete answers => exact @hasView_exec _ _ _ _ statusView _ _ (runs _ busy) busy
      | _ => cases busy

end After

end Queue
end GDriver
