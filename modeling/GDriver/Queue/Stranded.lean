import GDriver.Conflict.Recovery
import GDriver.Library.Run
import GDriver.Queue.Status

namespace GDriver
namespace Queue

open Library Routine Db Api Sync Conflict

/-!
# Stranded tasks

A task in progress is picked up by nobody: only pending tasks are served, and the
daemon does not look for the others when it starts.  A processor leaves its task
in progress when the statement that would close it fails, and when it returns
early between marking the task and closing it.
-/

/-! ## When a processor closes its task -/

/-- Whether a plain upload closes its task, by whether there is a file at the path. -/
def closesUpload (answers : UploadAnswers) (found : Bool) : Bool :=
  !answers.marks ||
    if (answers.readFailure.isNone && found) && answers.server.reply.isOk then answers.completes
    else answers.failure.setsStatus

/-- A download returns early when its file cannot be looked up, and when the directory
cannot be created. -/
def closesDownload (answers : DownloadAnswers) (task : SyncTask) (world : World) : Bool :=
  match task.fileId, task.localPath with
  | some _, some localPath =>
      !answers.marks ||
        ((answers.looksUp && answers.createDirFailure.isNone) &&
          if lands answers localPath world then answers.completes else answers.failure.setsStatus)
  | _, _ => true

/-- A deletion returns early when its file cannot be looked up. -/
def closesDelete (answers : DeleteAnswers) (task : SyncTask) (world : World) : Bool :=
  !answers.marks ||
    match task.fileId, task.localPath with
    | some _, _ => answers.looksUp && answers.completes
    | none, some localPath =>
        answers.looksUp &&
          if (world.db.fileAtLocalPath localPath).isNone || answers.server.reply.isOk then
            answers.completes
          else answers.failure.setsStatus
    | none, none => answers.completes

def closesPhotos (answers : PhotosAnswers) (task : SyncTask) (world : World) : Bool :=
  match task.localPath with
  | none => true
  | some localPath =>
      !isSupportedPhotoFormat localPath ||
        (!answers.marks ||
          if (finds answers.readFailure localPath world && answers.uploadToken.isOk) &&
              created answers.batchCreate then answers.completes
          else answers.setsStatus)

/-- Whether a resolution comes to its end. -/
def resolves (answers : ResolveAnswers) : Bool :=
  (answers.renameFailure.isNone &&
    (answers.readFailure.isNone && (answers.fetched.failure.isNone && answers.landFailure.isNone))) &&
      (answers.upsertsRecord && answers.completes)

/-- An upload is closed by the resolution of a conflict, or by the plain upload of what
that has left at the path. -/
def closesUploadTask (answers : TaskAnswers) (task : SyncTask) (world : World) : Bool :=
  match task.localPath, task.fileId with
  | none, _ => true
  | some localPath, none => closesUpload answers.upload (world.disk localPath).isSome
  | some localPath, some fileId =>
      if (detected answers.conflict task fileId localPath world).isSome then
        resolves answers.conflict.resolve ||
          closesUpload answers.upload (staysInPlace answers.conflict.resolve)
      else closesUpload answers.upload (world.disk localPath).isSome

/-- Whether the processor of a pending task closes it if it marks it. -/
def closesTask (answers : TaskAnswers) (task : SyncTask) (world : World) : Bool :=
  match task.operation with
  | .upload => !answers.hasClient || closesUploadTask answers task world
  | .download => !answers.hasClient || closesDownload answers.download task world
  | .photosBackup => !answers.hasClient || closesPhotos answers.photos task world
  | .delete => !answers.hasClient || closesDelete answers.delete task world
  | .rename => true
  | .move => true

theorem pending_ne : TaskStatus.pending ≠ .inProgress := by
  decide

theorem completed_ne : TaskStatus.completed ≠ .inProgress := by
  decide

theorem closed_ne_inProgress (runs : Bool) :
    closed runs .inProgress ≠ .inProgress ↔ runs = true := by
  cases runs with
  | true => decide
  | false => decide

theorem closed_pending_ne (runs : Bool) : closed runs .pending ≠ .inProgress := by
  cases runs with
  | true => decide
  | false => decide

theorem retried_ne_inProgress (runs : Bool) (task : SyncTask) :
    retried runs task .inProgress ≠ .inProgress ↔ runs = true := by
  rw [retried]
  cases runs with
  | true =>
      refine iff_of_true ?_ rfl
      split
      · split
        · decide
        · decide
      · contradiction
  | false => exact iff_of_false (fun other => other rfl) Bool.false_ne_true

theorem retried_pending_ne (runs : Bool) (task : SyncTask) :
    retried runs task .pending ≠ .inProgress := by
  rw [retried]
  split
  · split
    · decide
    · decide
  · decide

/-- The two ways in which a marked task can be closed. -/
theorem closing_iff (succeeds completes records : Bool) (task : SyncTask) :
    (if succeeds then closed completes .inProgress else retried records task .inProgress) ≠
        .inProgress ↔
      (if succeeds then completes else records) = true := by
  cases succeeds with
  | true => exact closed_ne_inProgress completes
  | false => exact retried_ne_inProgress records task

theorem marking_iff {marks closes : Bool} {status : TaskStatus}
    (closing : status ≠ .inProgress ↔ closes = true) :
    (if !marks then TaskStatus.pending else status) ≠ .inProgress ↔ (!marks || closes) = true := by
  cases marks with
  | false => exact iff_of_true pending_ne rfl
  | true => exact closing

/-- The status after a plain upload, by whether there is a file at the path. -/
def plainUploadStatus (answers : UploadAnswers) (task : SyncTask) (found : Bool) : TaskStatus :=
  if !answers.marks then .pending
  else if (answers.readFailure.isNone && found) && answers.server.reply.isOk then
    closed answers.completes .inProgress
  else retried answers.failure.setsStatus task .inProgress

theorem uploadStatus_eq {answers : UploadAnswers} {task : SyncTask} {localPath : String}
    {world : World} {found : Bool} (path : task.localPath = some localPath)
    (there : (world.disk localPath).isSome = found) :
    uploadStatus answers task world = plainUploadStatus answers task found := by
  simp only [uploadStatus, plainUploadStatus, path, finds, there]

theorem plainUploadStatus_ne_iff (answers : UploadAnswers) (task : SyncTask) (found : Bool) :
    plainUploadStatus answers task found ≠ .inProgress ↔ closesUpload answers found = true :=
  marking_iff (closing_iff _ _ _ task)

theorem downloadStatus_ne_iff (answers : DownloadAnswers) (task : SyncTask) (world : World) :
    downloadStatus answers task world ≠ .inProgress ↔ closesDownload answers task world = true := by
  cases about : task.fileId with
  | none =>
      simp only [downloadStatus, closesDownload, about]
      exact iff_of_true (closed_pending_ne _) trivial
  | some fileId =>
      cases path : task.localPath with
      | none =>
          simp only [downloadStatus, closesDownload, about, path]
          exact iff_of_true (closed_pending_ne _) trivial
      | some localPath =>
          simp only [downloadStatus, closesDownload, about, path]
          refine marking_iff ?_
          cases answers.looksUp && answers.createDirFailure.isNone with
          | false => exact iff_of_false (fun other => other rfl) Bool.false_ne_true
          | true => exact closing_iff _ _ _ task

theorem deleteStatus_ne_iff (answers : DeleteAnswers) (task : SyncTask) (world : World) :
    deleteStatus answers task world ≠ .inProgress ↔ closesDelete answers task world = true := by
  rw [deleteStatus, closesDelete]
  refine marking_iff ?_
  cases task.fileId with
  | some fileId =>
      cases answers.looksUp with
      | true => exact closed_ne_inProgress _
      | false => exact iff_of_false (fun other => other rfl) Bool.false_ne_true
  | none =>
      cases task.localPath with
      | none => exact closed_ne_inProgress _
      | some localPath =>
          cases answers.looksUp with
          | true => exact closing_iff _ _ _ task
          | false => exact iff_of_false (fun other => other rfl) Bool.false_ne_true

theorem photosStatus_ne_iff (answers : PhotosAnswers) (task : SyncTask) (world : World) :
    photosStatus answers task world ≠ .inProgress ↔ closesPhotos answers task world = true := by
  cases path : task.localPath with
  | none =>
      simp only [photosStatus, closesPhotos, path]
      exact iff_of_true (closed_pending_ne _) trivial
  | some localPath =>
      simp only [photosStatus, closesPhotos, path]
      cases isSupportedPhotoFormat localPath with
      | false => exact iff_of_true (retried_pending_ne _ task) rfl
      | true => exact marking_iff (closing_iff _ _ _ task)

/-- A resolution that comes to its end, seen from the stage it reaches. -/
theorem resolves_iff {answers : ResolveAnswers} {localPath : String} {world : World}
    (there : (world.disk localPath).isSome = true) :
    (decide (stage answers localPath world = .landed) &&
      (answers.upsertsRecord && answers.completes)) = resolves answers := by
  rw [resolves, stage, finds, there]
  cases answers.renameFailure with
  | some failure => rfl
  | none =>
      cases answers.readFailure with
      | some failure => rfl
      | none =>
          cases answers.fetched.failure with
          | some failure => rfl
          | none =>
              cases answers.landFailure with
              | some failure => rfl
              | none => rfl

/-- A conflict check that resolves closes its task; any other leaves it to the upload. -/
theorem checkedStatus_map (result : Except String Unit) (uploaded : TaskStatus) :
    checkedStatus (result.map fun _ => true) uploaded = if result.isOk then .completed else uploaded := by
  cases result with
  | ok done => rfl
  | error failure => rfl

theorem checkedStatus_of_unresolved {checked : Except String Bool} (different : checked ≠ .ok true)
    (uploaded : TaskStatus) : checkedStatus checked uploaded = uploaded := by
  cases checked with
  | error failure => rfl
  | ok resolved =>
      cases resolved with
      | false => rfl
      | true => exact absurd rfl different

/-- What the resolution of a conflict leaves at the path. -/
theorem isSome_diskAt {answers : ResolveAnswers} {localPath : String} {world : World}
    (there : (world.disk localPath).isSome = true) :
    (diskAt answers localPath world.disk (stage answers localPath world) localPath).isSome =
      staysInPlace answers := by
  rw [diskAt_self]
  cases stays : staysInPlace answers with
  | true =>
      rcases (stage_iff there).mp stays with unmoved | landed
      · rw [unmoved, if_pos rfl]
        exact there
      · have succeeded := of_landed landed
        rw [landed, if_neg (by decide), if_pos rfl]
        exact answers.fetched.creates succeeded
  | false =>
      have neither : ¬ (stage answers localPath world = .unmoved ∨
          stage answers localPath world = .landed) := by
        rw [← stage_iff there, stays]
        exact Bool.false_ne_true
      rw [if_neg fun unmoved => neither (Or.inl unmoved), if_neg fun landed => neither (Or.inr landed)]
      rfl

section Tasks

variable [Rfc3339]

/-- The status in which an upload task is left: that of the plain upload, unless a conflict is
resolved. -/
def uploadedStatus (answers : TaskAnswers) (task : SyncTask) (world : World) : TaskStatus :=
  match task.localPath, task.fileId with
  | none, _ => closed answers.upload.completes .pending
  | some localPath, none => plainUploadStatus answers.upload task (world.disk localPath).isSome
  | some localPath, some fileId =>
      if (detected answers.conflict task fileId localPath world).isSome then
        if resolves answers.conflict.resolve then .completed
        else plainUploadStatus answers.upload task (staysInPlace answers.conflict.resolve)
      else plainUploadStatus answers.upload task (world.disk localPath).isSome

theorem uploadTaskStatus_eq (answers : TaskAnswers) (task : SyncTask) (world : World) :
    uploadTaskStatus answers task world = uploadedStatus answers task world := by
  cases path : task.localPath with
  | none =>
      cases about : task.fileId with
      | none => simp only [uploadTaskStatus, uploadStatus, uploadedStatus, about, path]
      | some fileId => simp only [uploadTaskStatus, uploadStatus, uploadedStatus, about, path]
  | some localPath =>
      cases about : task.fileId with
      | none =>
          simp only [uploadTaskStatus, uploadedStatus, about, path]
          exact uploadStatus_eq path rfl
      | some fileId =>
          simp only [uploadTaskStatus, uploadedStatus, about, path]
          have checks := checked answers.conflict task fileId localPath world
          cases found : detected answers.conflict task fileId localPath world with
          | some conflict =>
              have there := (of_detected found).2.1
              have uploads := @uploadStatus_eq answers.upload task localPath _ _ path
                ((congrArg (fun disk => (disk localPath).isSome) (disk_of_detected found)).trans
                  (isSome_diskAt there))
              have stored : ((world.send task.accountId (.get fileId)).db.file conflict.1.id
                  conflict.1.accountId).isSome = true := stored_of_detected found
              have sent : stage answers.conflict.resolve localPath
                  (world.send task.accountId (.get fileId)) =
                    stage answers.conflict.resolve localPath world := rfl
              rw [found] at checks
              rw [checks.1, checkedStatus_map, uploads,
                isOk_resolveConflict stored, sent, resolves_iff there,
                Option.isSome_some, if_pos rfl]
          | none =>
              rw [found] at checks
              rw [checkedStatus_of_unresolved checks.1]
              refine uploadStatus_eq path ?_
              rcases checks.2 with same | same
              · rw [same]
              · rw [same]
                rfl

theorem uploadTaskStatus_ne_iff (answers : TaskAnswers) (task : SyncTask) (world : World) :
    uploadTaskStatus answers task world ≠ .inProgress ↔
      closesUploadTask answers task world = true := by
  have plain := plainUploadStatus_ne_iff answers.upload task
  rw [uploadTaskStatus_eq]
  cases path : task.localPath with
  | none =>
      simp only [uploadedStatus, closesUploadTask, path]
      exact iff_of_true (closed_pending_ne _) trivial
  | some localPath =>
      cases about : task.fileId with
      | none =>
          simp only [uploadedStatus, closesUploadTask, path, about]
          exact plain _
      | some fileId =>
          simp only [uploadedStatus, closesUploadTask, path, about]
          cases (detected answers.conflict task fileId localPath world).isSome with
          | false => exact plain _
          | true =>
              cases resolves answers.conflict.resolve with
              | true => exact iff_of_true completed_ne rfl
              | false => exact plain _

/-- A task is not left in progress exactly when its processor closes it. -/
theorem taskStatus_ne_iff (answers : TaskAnswers) (task : SyncTask) (world : World) :
    taskStatus answers task world ≠ .inProgress ↔ closesTask answers task world = true := by
  have waits {status : TaskStatus} {closes : Bool}
      (closing : status ≠ .inProgress ↔ closes = true) :
      (if answers.hasClient then status else .pending) ≠ .inProgress ↔
        (!answers.hasClient || closes) = true := by
    cases answers.hasClient with
    | true => exact closing
    | false => exact iff_of_true pending_ne rfl
  rw [taskStatus, closesTask]
  cases task.operation with
  | upload => exact waits (uploadTaskStatus_ne_iff answers task world)
  | download => exact waits (downloadStatus_ne_iff _ task world)
  | photosBackup => exact waits (photosStatus_ne_iff _ task world)
  | delete => exact waits (deleteStatus_ne_iff _ task world)
  | rename => exact iff_of_true (closed_pending_ne _) rfl
  | move => exact iff_of_true (closed_pending_ne _) rfl

end Tasks

/-! ## The engine in the middle of a task -/

/-- The task is in the queue, and not in progress. -/
def Settled (taskId : Nat) (world : World) : Prop :=
  ∃ status, status ≠ .inProgress ∧ HasStatus taskId status world

/-- What the engine leaves of a task when it waits: it is in the middle of it, or the
task is settled. -/
def Left (taskId : Nat) : Except String EngineState → World → Prop
  | .ok engine, world =>
      (inFlight engine = some taskId ∧ HasStatus taskId .inProgress world) ∨
        (engine = .idle ∧ Settled taskId world)
  | .error _, world => Settled taskId world

/-- What the beginning of a download leaves of its task: it is running, and will be
closed if the transfer fails, or it is settled. -/
def LeftStarted (answers : DownloadAnswers) (taskId : Nat) :
    Except String (Option Download) → World → Prop
  | .ok (some download), world =>
      (download.taskId = taskId ∧ HasStatus taskId .inProgress world) ∧
        (answers.fetched.failure.isNone || answers.failure.setsStatus) = true
  | _, world => Settled taskId world

/-- Whether a download closes its task if it does not get as far as the rename. -/
def beginsDownload (answers : DownloadAnswers) (task : SyncTask) : Bool :=
  match task.fileId, task.localPath with
  | some _, some _ =>
      !answers.marks ||
        ((answers.looksUp && answers.createDirFailure.isNone) &&
          (answers.fetched.failure.isNone || answers.failure.setsStatus))
  | _, _ => true

/-- Whether a deletion closes its task if it does not get as far as the removal of
the local file. -/
def beginsDelete (answers : DeleteAnswers) (task : SyncTask) (world : World) : Bool :=
  match task.fileId with
  | some _ => !answers.marks || answers.looksUp
  | none => closesDelete answers task world

section Phases

variable {taskId : Nat} {world : World}

theorem settled_of_closed {runs : Bool} {before : TaskStatus}
    (closing : closed runs before ≠ .inProgress) (has : HasStatus taskId (closed runs before) world) :
    Settled taskId world :=
  ⟨_, closing, has⟩

/-- A routine that closes the task leaves the engine idle. -/
theorem left_idle {routine : Routine String World Unit}
    (settled : Settled taskId (final routine world)) :
    Left taskId (outcome (routine >>= fun _ => pure EngineState.idle) world)
      (final (routine >>= fun _ => pure EngineState.idle) world) := by
  rw [final_bind_pure]
  cases answered : outcome routine world with
  | error failure =>
      rw [outcome_bind_of_error answered]
      exact settled
  | ok done =>
      rw [outcome_bind_of_ok answered]
      exact Or.inr ⟨rfl, settled⟩

theorem meets_startDownload {answers : DownloadAnswers} {task : SyncTask}
    (identified : task.id = some taskId) (safe : beginsDownload answers task = true) :
    Meets (HasStatus taskId .pending) (startDownload answers task) (LeftStarted answers taskId) := by
  intro world pending
  have completes (errorMsg : String) : LeftStarted answers taskId
      (outcome (onDb (updateTaskStatus answers.completes answers.now taskId .completed
        (some errorMsg)) >>= fun _ => pure (none : Option Download)) world)
      (final (onDb (updateTaskStatus answers.completes answers.now taskId .completed
        (some errorMsg)) >>= fun _ => pure (none : Option Download)) world) := by
    have settled : Settled taskId (final (onDb (updateTaskStatus answers.completes answers.now
        taskId .completed (some errorMsg))) world) :=
      settled_of_closed (closed_pending_ne _) (hasStatus_complete _ _ _ pending)
    rw [final_bind_pure]
    cases answered : outcome (onDb (updateTaskStatus answers.completes answers.now taskId .completed
        (some errorMsg))) world with
    | error failure =>
        rw [outcome_bind_of_error answered]
        exact settled
    | ok done =>
        rw [outcome_bind_of_ok answered]
        exact settled
  cases about : task.fileId with
  | none =>
      simp only [startDownload, identified, about]
      exact completes _
  | some fileId =>
      cases path : task.localPath with
      | none =>
          simp only [startDownload, identified, about, path]
          exact completes _
      | some localPath =>
          simp only [startDownload, identified, about, path]
          simp only [beginsDownload, about, path] at safe
          have marked := hasStatus_updateTaskStatus answers.marks answers.now .inProgress none pending
          have marking := outcome_onDb_updateTaskStatus answers.marks answers.now taskId .inProgress none world
          cases marks : answers.marks with
          | false =>
              rw [marks] at marked marking
              rw [outcome_bind_of_error marking, final_bind_of_error marking]
              exact ⟨.pending, pending_ne, marked⟩
          | true =>
              rw [marks] at marked marking safe
              rw [outcome_bind_of_ok marking, final_bind_of_ok marking]
              generalize final (onDb (updateTaskStatus true answers.now taskId .inProgress none)) world =
                after at marked
              rw [Bool.not_true, Bool.false_or, Bool.and_eq_true, Bool.and_eq_true] at safe
              rcases safe with ⟨⟨looksUp, creates⟩, closes⟩
              have looked : outcome (onDb (getFileById answers.looksUp fileId task.accountId)) after =
                  .ok (after.db.file fileId task.accountId) := by
                rw [outcome_onDb_getFileById, if_pos looksUp]
              rw [outcome_bind_of_ok looked, final_bind_of_ok looked,
                Option.isNone_iff_eq_none.mp creates, final_onDb, final_getFileById]
              exact ⟨⟨rfl, marked⟩, closes⟩

theorem meets_beginDownload {answers : DownloadAnswers} {task : SyncTask}
    (identified : task.id = some taskId) (safe : beginsDownload answers task = true) :
    Meets (HasStatus taskId .pending) (beginDownload answers task) (Left taskId) := by
  refine meets_bind (meets_startDownload identified safe) (fun _ _ settled => settled) fun started => ?_
  cases started with
  | none => exact meets_pure fun _ settled => Or.inr ⟨rfl, settled⟩
  | some download =>
      rintro world ⟨⟨same, running⟩, closes⟩
      subst same
      have fetching := @isOk_fetchContent answers download world
      have fetched := running.of_sameQueue (@fetchContent_spec answers download world).1
      rw [outcome_bind_of_ok (outcome_observe _ _), final_bind_of_ok (outcome_observe _ _),
        final_observe]
      cases answered : outcome (fetchContent answers download) world with
      | ok done => exact Or.inl ⟨rfl, fetched⟩
      | error failure =>
          rw [answered] at fetching
          rw [← fetching] at closes
          exact left_idle ⟨_, (retried_ne_inProgress _ _).mpr closes,
            hasStatus_failDownload failure fetched⟩

theorem left_beginDelete {answers : DeleteAnswers} {task : SyncTask}
    (identified : task.id = some taskId) (pending : HasStatus taskId .pending world)
    (safe : beginsDelete answers task world = true) :
    Left taskId (outcome (beginDelete answers task) world)
      (final (beginDelete answers task) world) := by
  cases about : task.fileId with
  | none =>
      simp only [beginsDelete, about] at safe
      simp only [beginDelete, identified, about]
      exact left_idle ⟨_, (deleteStatus_ne_iff answers task world).mpr safe,
        hasStatus_deleteFile identified pending answers⟩
  | some fileId =>
      simp only [beginsDelete, about] at safe
      simp only [beginDelete, identified, about]
      have marked := hasStatus_updateTaskStatus answers.marks answers.now .inProgress none pending
      have marking := outcome_onDb_updateTaskStatus answers.marks answers.now taskId .inProgress none world
      cases marks : answers.marks with
      | false =>
          rw [marks] at marked marking
          rw [outcome_bind_of_error marking, final_bind_of_error marking]
          exact ⟨.pending, pending_ne, marked⟩
      | true =>
          rw [marks] at marked marking safe
          rw [outcome_bind_of_ok marking, final_bind_of_ok marking]
          generalize final (onDb (updateTaskStatus true answers.now taskId .inProgress none)) world =
            after at marked
          rw [Bool.not_true, Bool.false_or] at safe
          have looked : outcome (onDb (getFileById answers.looksUp fileId task.accountId)) after =
              .ok (after.db.file fileId task.accountId) := by
            rw [outcome_onDb_getFileById, if_pos safe]
          simp only [lookUpRemoteDelete, bind_assoc, pure_bind]
          rw [outcome_bind_of_ok looked, final_bind_of_ok looked, final_onDb, final_getFileById]
          exact Or.inl ⟨rfl, marked⟩

theorem left_landFetched {answers : DownloadAnswers} {download : Download}
    (running : HasStatus download.taskId .inProgress world)
    (safe : (finds answers.renameFailure (tmpPath download.localPath) world ||
      answers.failure.setsStatus) = true) :
    Left download.taskId (outcome (landFetched answers download) world)
      (final (landFetched answers download) world) := by
  have landing := @isOk_landDownload answers download world
  have kept : SameQueueIn world (final (landDownload answers download) world) :=
    keeps_renameFile (fun _ _ => rfl) (fun _ _ => rfl) _ world
  have moved := running.of_sameQueue kept
  rw [landFetched, outcome_bind_of_ok (outcome_observe _ _), final_bind_of_ok (outcome_observe _ _),
    final_observe]
  cases answered : outcome (landDownload answers download) world with
  | ok done => exact Or.inl ⟨rfl, moved⟩
  | error failure =>
      rw [answered] at landing
      rw [← landing] at safe
      exact left_idle ⟨_, (retried_ne_inProgress _ _).mpr safe, hasStatus_failDownload _ moved⟩

variable [Rfc3339]

/-- Whether the processing of a task begins without leaving it behind in progress. -/
def beginsTask (answers : TaskAnswers) (task : SyncTask) (world : World) : Bool :=
  if answers.hasClient && task.operation = .download then beginsDownload answers.download task
  else if answers.hasClient && task.operation = .delete then beginsDelete answers.delete task world
  else closesTask answers task world

theorem left_beginTask {answers : TaskAnswers} {task : SyncTask}
    (identified : task.id = some taskId) (pending : HasStatus taskId .pending world)
    (safe : beginsTask answers task world = true) :
    Left taskId (outcome (beginTask answers task) world) (final (beginTask answers task) world) := by
  rw [beginsTask] at safe
  rw [beginTask]
  split
  · next download =>
      rw [if_pos download] at safe
      exact meets_beginDownload identified safe world pending
  · next download =>
      rw [if_neg download] at safe
      split
      · next delete =>
          rw [if_pos delete] at safe
          exact left_beginDelete identified pending safe
      · next delete =>
          rw [if_neg delete] at safe
          exact left_idle ⟨_, (taskStatus_ne_iff answers task world).mpr safe,
            hasStatus_processTask identified pending answers⟩

end Phases

/-! ## Runs -/

/-- The tasks in progress are those the engine is in the middle of. -/
def Tracked (system : System) : Prop :=
  ∀ taskId, HasStatus taskId .inProgress system.world ↔ inFlight system.engine = some taskId

theorem tracked_initial : Tracked System.initial := by
  intro taskId
  refine iff_of_false ?_ ?_
  · intro has
    cases has
  · intro within
    cases within

section Tracking

variable {system : System} {taskId : Nat}

/-- A task that an operation is not busy with is in progress after it exactly if it
was before. -/
theorem inProgress_iff_of_proceeds {busy : Option Nat} {world later : World}
    (proceeds : Proceeds busy world later) (idle : busy ≠ some taskId) :
    HasStatus taskId .inProgress later ↔ HasStatus taskId .inProgress world := by
  constructor
  · intro has
    rcases Option.map_eq_some_iff.mp has with ⟨task, reached, running⟩
    cases there : world.db.task taskId with
    | none =>
        rw [proceeds.tasks.fresh taskId task idle reached there] at running
        cases running
    | some before =>
        rcases proceeds.tasks.kept taskId before there with ⟨after, same, _, stays⟩
        rw [reached, stays idle] at same
        rw [HasStatus, there, ← same, Option.map_some, running]
  · intro has
    rcases Option.map_eq_some_iff.mp has with ⟨task, there, running⟩
    rcases proceeds.tasks.kept taskId task there with ⟨after, reached, _, stays⟩
    rw [HasStatus, reached, stays idle, Option.map_some, running]

theorem not_inProgress_of_settled {world : World} (settled : Settled taskId world) :
    ¬ HasStatus taskId .inProgress world := by
  rcases settled with ⟨status, other, has⟩
  intro running
  rw [HasStatus, has] at running
  exact other (Option.some.inj running)

/-- When the task of a step is settled and the engine rests, nothing is in progress. -/
theorem tracked_idle {world later : World} (proceeds : Proceeds (some taskId) world later)
    (settled : Settled taskId later)
    (others : ∀ other, other ≠ taskId → ¬ HasStatus other .inProgress world) :
    Tracked ⟨later, .idle⟩ := by
  intro other
  refine iff_of_false ?_ (fun within => by cases within)
  by_cases same : other = taskId
  · rw [same]
    exact not_inProgress_of_settled settled
  · rw [inProgress_iff_of_proceeds proceeds fun about => same (Option.some.inj about).symm]
    exact others other same

/-- A routine that leaves its task to the engine, or settled, leaves the engine on
track. -/
theorem tracked_settle {routine : Routine String World EngineState} {world : World}
    (proceeds : Proceeds (some taskId) world (final routine world))
    (left : Left taskId (outcome routine world) (final routine world))
    (others : ∀ other, other ≠ taskId → ¬ HasStatus other .inProgress world) :
    Tracked (settle routine world) := by
  simp only [settle]
  cases answered : outcome routine world with
  | error failure =>
      rw [answered] at left
      exact tracked_idle proceeds left others
  | ok engine =>
      rw [answered] at left
      rcases left with ⟨within, running⟩ | ⟨rests, settled⟩
      · intro other
        by_cases same : other = taskId
        · rw [same]
          exact iff_of_true running within
        · rw [inProgress_iff_of_proceeds proceeds fun about => same (Option.some.inj about).symm]
          refine iff_of_false (others other same) fun about => same ?_
          rw [within] at about
          exact (Option.some.inj about).symm
      · rw [rests]
        exact tracked_idle proceeds settled others

end Tracking

/-- The steps of the engine that leave no task behind: what the engine does with a task
ends with the statement that closes it, and the daemon is stopped between tasks. -/
def ClosesTasks (system : System) : Operation → Prop
  | .engine step =>
      match step, system.engine with
      | .begin picks answers, .idle =>
          picks = true → ∀ task, system.world.db.nextPending = some task →
            beginsTask answers task system.world = true
      | .land answers, .fetched download =>
          (finds answers.renameFailure (tmpPath download.localPath) system.world ||
            answers.failure.setsStatus) = true
      | .record answers, .landed _ => answers.completes = true
      | .recordDelete answers, .removed _ => answers.completes = true
      | .restart, engine => engine = .idle
      | _, _ => True
  | _ => True

/-- Every task in the queue is pending, completed or failed. -/
def NoneStranded (world : World) : Prop :=
  ∀ taskId task, world.db.task taskId = some task → Settled taskId world

theorem Tracked.noneStranded {system : System} (tracked : Tracked system)
    (idle : system.engine = .idle) : NoneStranded system.world := by
  intro taskId task stored
  refine ⟨task.status, ?_, ?_⟩
  · intro running
    have within := (tracked taskId).mp (by rw [HasStatus, stored, Option.map_some, running])
    rw [idle] at within
    cases within
  · rw [HasStatus, stored, Option.map_some]

section Steps

variable [Rfc3339] {system : System}

omit [Rfc3339] in
/-- While the engine is in the middle of a task no other is in progress. -/
theorem Tracked.others {engine : EngineState} {taskId : Nat} (tracked : Tracked system)
    (at_ : system.engine = engine) (within : inFlight engine = some taskId) :
    HasStatus taskId .inProgress system.world ∧
      ∀ other, other ≠ taskId → ¬ HasStatus other .inProgress system.world := by
  subst at_
  refine ⟨(tracked taskId).mpr within, fun other different running => different ?_⟩
  have same := (tracked other).mp running
  rw [within] at same
  exact (Option.some.inj same).symm

theorem tracked_engine {step : EngineStep} (tracked : Tracked system)
    (closes : ClosesTasks system (.engine step)) : Tracked (step.exec system) := by
  have proceeds := proceeds_engine system step
  have does := step.does system
  generalize step.exec system = later at does proceeds
  cases does with
  | nothing => exact tracked
  | restart =>
      simp only [ClosesTasks] at closes
      rw [← closes]
      exact tracked
  | @begin picks answers task taskId picked idle next identified =>
      have nothing (other : Nat) : ¬ HasStatus other .inProgress system.world := by
        rw [tracked other, idle]
        intro within
        cases within
      rcases Database.of_nextPending next with ⟨found, same, stored, pending⟩
      rw [identified] at same
      cases same
      simp only [ClosesTasks, idle] at closes
      simp only [busyTask, idle, next, Option.bind_some, identified] at proceeds
      have waits : HasStatus taskId .pending system.world := by
        rw [HasStatus, stored, Option.map_some, pending]
      exact tracked_settle proceeds (left_beginTask identified waits (closes picked task next))
        fun other _ => nothing other
  | land engine =>
      rcases tracked.others engine rfl with ⟨running, others⟩
      simp only [ClosesTasks, engine] at closes
      simp only [busyTask, engine] at proceeds
      exact tracked_settle proceeds (left_landFetched running closes) others
  | record engine =>
      rcases tracked.others engine rfl with ⟨running, others⟩
      simp only [ClosesTasks, engine] at closes
      simp only [busyTask, engine] at proceeds
      exact tracked_idle proceeds ⟨_, (closed_ne_inProgress _).mpr closes,
        hasStatus_recordDownload running⟩ others
  | @removeCopy answers delete engine =>
      have same := @sameQueue_removeLocalCopy answers delete system.world
      intro taskId
      refine Iff.trans ⟨fun has => has.of_sameQueue same.symm, fun has => has.of_sameQueue same⟩ ?_
      rw [tracked taskId, engine]
      rfl
  | @recordDelete answers delete engine =>
      rcases tracked.others engine rfl with ⟨running, others⟩
      simp only [ClosesTasks, engine] at closes
      simp only [busyTask, engine] at proceeds
      exact tracked_idle proceeds ⟨_, (closed_ne_inProgress _).mpr closes,
        hasStatus_recordRemoteDelete delete running⟩ others

theorem tracked_exec {operation : Operation} (tracked : Tracked system)
    (closes : ClosesTasks system operation) : Tracked (system.exec operation) := by
  have proceeds := proceeds_exec system operation
  cases operation with
  | engine step => exact tracked_engine tracked closes
  | _ =>
      intro taskId
      rw [inProgress_iff_of_proceeds proceeds (fun busy => by cases busy)]
      exact tracked taskId

end Steps

/-- What a processor leaves of its task, and what runs leave of the queue: a task is
settled after its processing exactly when the processor closes it, and in a run whose
steps leave no task behind every task is pending, completed or failed whenever the
engine loop is about to begin. -/
theorem tasks_are_settled [Rfc3339] :
    (∀ answers task taskId world, task.id = some taskId → HasStatus taskId .pending world →
      (Settled taskId (final (processTask answers task) world) ↔
        closesTask answers task world = true)) ∧
    ∀ operations, Along System.exec ClosesTasks operations System.initial →
      (run System.exec operations System.initial).engine = .idle →
        NoneStranded (run System.exec operations System.initial).world := by
  constructor
  · intro answers task taskId world identified pending
    have left := hasStatus_processTask identified pending answers
    rw [← taskStatus_ne_iff]
    constructor
    · rintro ⟨status, other, has⟩ same
      rw [HasStatus, left, same] at has
      exact other (Option.some.inj has).symm
    · exact fun other => ⟨_, other, left⟩
  · intro operations closes idle
    have tracked : Tracked (run System.exec operations System.initial) :=
      run_of_along (fun _ _ condition before => tracked_exec before condition) closes tracked_initial
    exact tracked.noneStranded idle

/-- The recovery that the daemon has and does not call: after it every task is settled. -/
theorem noneStranded_reset (now : Int) (db : Database) :
    ∀ taskId task, (final (resetInProgressToPending true now) db).task taskId = some task →
      task.status ≠ .inProgress := by
  intro taskId task found
  have reset : (final (resetInProgressToPending true now) db).task taskId =
      (db.task taskId).map (SyncTask.reset now) := by
    rw [resetInProgressToPending, query, final_statement, if_pos rfl]
    have seen := Table.rowAt_update db.syncQueue.toTable (fun _ => true) (SyncTask.reset now) taskId
    simp only [Database.task, Option.map_map]
    refine (congrArg (Option.map Row.data) seen).trans ?_
    rw [Option.map_map]
    rfl
  rw [reset] at found
  rcases Option.map_eq_some_iff.mp found with ⟨before, _, same⟩
  rw [← same, SyncTask.reset]
  split
  · exact pending_ne
  · next other => exact other

/-- A file of ann@example.com is mirrored at `/mnt/notes.txt`. -/
def mirrorsNotes : List Operation := [
  .sync (.connect true ⟨"ann@example.com", "ann@example.com", 0⟩),
  .sync (.listed true "ann@example.com" (Api.DriveFile.named "notes" "notes.txt")),
  .sync (.mirror (MirrorAnswers.allRun 9 1) "ann@example.com" "/mnt")]

/-- The notes are downloaded, and the download meets this. -/
def downloadsNotes (answers : DownloadAnswers) : TaskAnswers :=
  { TaskAnswers.allRun ⟨none, .error "no upload", []⟩ ⟨[1], 10⟩ 5 with download := answers }

/-- The task of the download, as it is stored. -/
def notesTask : SyncTask where
  id := some 1
  accountId := "ann@example.com"
  fileId := some "notes"
  operation := .download
  localPath := some "/mnt/notes.txt"
  priority := 8
  status := .pending
  retryCount := 0
  errorMsg := none
  createdAt := 1
  updatedAt := 1

/-- A download that goes well is settled when it returns, and when the engine that has
done it in parts is idle again. -/
theorem tasks_are_settled_of_download :
    Settled 1 (final (@processTask untimed (downloadsNotes (DownloadAnswers.allRun ⟨[1], 10⟩ 5))
        notesTask) (run (@System.exec untimed) mirrorsNotes System.initial).world) ∧
      NoneStranded (run (@System.exec untimed) (mirrorsNotes ++ [
        .engine (.begin true (downloadsNotes (DownloadAnswers.allRun ⟨[1], 10⟩ 5))),
        .engine (.land (DownloadAnswers.allRun ⟨[1], 10⟩ 5)),
        .engine (.record (DownloadAnswers.allRun ⟨[1], 10⟩ 5))]) System.initial).world := by
  let mirrored := (run (@System.exec untimed) mirrorsNotes System.initial).world
  constructor
  · refine ((@tasks_are_settled untimed).1 _ notesTask 1 mirrored rfl ?_).mpr (by decide)
    rw [HasStatus]
    decide
  · refine (@tasks_are_settled untimed).2 _ ?_ rfl
    refine (along_append _ _ _ _).mpr ⟨⟨trivial, trivial, trivial, trivial⟩, ?_, rfl, rfl, trivial⟩
    have begins : mirrored.db.nextPending.map (fun task =>
        beginsTask (downloadsNotes (DownloadAnswers.allRun ⟨[1], 10⟩ 5)) task mirrored) =
          some true := by
      decide
    intro _ task (next : mirrored.db.nextPending = some task)
    rw [next] at begins
    exact Option.some.inj begins

theorem not_noneStranded {taskId : Nat} {world : World} (running : HasStatus taskId .inProgress world) :
    ¬ NoneStranded world := by
  rcases Option.map_eq_some_iff.mp running with ⟨task, stored, _⟩
  intro settled
  exact not_inProgress_of_settled (settled taskId task stored) running

/-- A download whose directory cannot be created stays in progress, and so does one in
whose middle the daemon is stopped. -/
theorem download_is_stranded :
    ¬ NoneStranded (run (@System.exec untimed) (mirrorsNotes ++ [
      .engine (.begin true (downloadsNotes
        { DownloadAnswers.allRun ⟨[1], 10⟩ 5 with createDirFailure := some "Permission denied" }))])
      System.initial).world ∧
    ¬ NoneStranded (run (@System.exec untimed) (mirrorsNotes ++ [
      .engine (.begin true (downloadsNotes (DownloadAnswers.allRun ⟨[1], 10⟩ 5))), .engine .restart])
      System.initial).world := by
  refine ⟨@not_noneStranded 1 _ ?_, @not_noneStranded 1 _ ?_⟩
  · rw [HasStatus]
    decide
  · rw [HasStatus]
    decide

end Queue
end GDriver
