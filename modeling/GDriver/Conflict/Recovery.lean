import GDriver.Conflict.Detection
import GDriver.Conflict.Versions
import GDriver.Sync.Engine

namespace GDriver
namespace Conflict

open Library Routine Db Api Sync

/-!
# Resolutions that fail

When a resolution fails the engine falls back to the plain upload of the path.  The
resolution has moved the local file away by then, unless that was what failed, and
brings nothing back.  The upload finds no file, and uses up a retry of the task.
-/

/-- The path holds the local version or the remote version. -/
def HoldsVersion (answers : ResolveAnswers) (localPath : String) (world later : World) : Prop :=
  ∃ file, later.disk localPath = some file ∧
    (world.disk localPath = some file ∨
      (answers.fetched.failure = none ∧ answers.fetched.written = some file))

/-- A task that has as many retries left as before. -/
def SameRetries (task later : SyncTask) : Prop :=
  later.retryCount = task.retryCount ∧ (later.status = .failed → task.status = .failed)

section Recovering

variable [Rfc3339]

/-- The plain upload of a path that does not exist uses up no retry. -/
def SparesRetries (answers : UploadAnswers) (task : SyncTask) (localPath : String) (world : World) :
    Prop :=
  world.disk localPath = none →
    ∀ taskId stored, task.id = some taskId → world.db.task taskId = some stored →
      ∃ later, (final (uploadFile answers task) world).db.task taskId = some later ∧
        SameRetries stored later

/-- After every failure of a resolution that has started, the path holds a version
again, and the fallback uses up no retry on a path that does not exist. -/
def Recovers (answers : TaskAnswers) (task : SyncTask) (fileId localPath : String) (world : World) :
    Prop :=
  ∀ conflict failure, detected answers.conflict task fileId localPath world = some conflict →
    outcome (checkAndResolve answers.conflict task fileId localPath) world = .error failure →
      HoldsVersion answers.conflict.resolve localPath world
          (final (checkAndResolve answers.conflict task fileId localPath) world) ∧
        SparesRetries answers.upload task localPath
          (final (checkAndResolve answers.conflict task fileId localPath) world)

end Recovering

/-- The local file cannot be moved away, or the remote version is put in its place: what
fails is the move itself, or a statement on the database. -/
def staysInPlace (answers : ResolveAnswers) : Bool :=
  answers.renameFailure.isSome ||
    (answers.readFailure.isNone && (answers.fetched.failure.isNone && answers.landFailure.isNone))

theorem between_setAside : ¬ (Stage.setAside = .unmoved ∨ Stage.setAside = .landed) := by
  decide

theorem between_transferred : ¬ (Stage.transferred = .unmoved ∨ Stage.transferred = .landed) := by
  decide

section Stages

variable {answers : ResolveAnswers} {localPath : String} {world : World}

theorem stage_iff (there : (world.disk localPath).isSome = true) :
    staysInPlace answers = true ↔
      stage answers localPath world = .unmoved ∨ stage answers localPath world = .landed := by
  rw [staysInPlace, stage, finds, there, Bool.and_true]
  cases answers.renameFailure with
  | some failure => exact iff_of_true rfl (Or.inl rfl)
  | none =>
      cases answers.readFailure with
      | some failure => exact iff_of_false Bool.false_ne_true between_setAside
      | none =>
          cases answers.fetched.failure with
          | some failure => exact iff_of_false Bool.false_ne_true between_transferred
          | none =>
              cases answers.landFailure with
              | some failure => exact iff_of_false Bool.false_ne_true between_transferred
              | none => exact iff_of_true rfl (Or.inr rfl)

theorem movedAside_self (disk : String → Option DiskFile) :
    movedAside answers localPath disk localPath = none := by
  rw [movedAside, putAt_of_apart (placeOf_conflictPath_ne _ _).symm, putAt_self]

theorem transferredTo_self (disk : String → Option DiskFile) :
    transferredTo answers localPath disk localPath = none := by
  cases written : answers.fetched.written with
  | none =>
      simp only [transferredTo, written]
      exact movedAside_self disk
  | some file =>
      rw [transferredTo_of_written written, putAt_of_apart (placeOf_tmpPath_ne localPath).symm]
      exact movedAside_self disk

/-- What stands at the path at each stage. -/
theorem diskAt_self (disk : String → Option DiskFile) (reached : Stage) :
    diskAt answers localPath disk reached localPath =
      if reached = .unmoved then disk localPath
      else if reached = .landed then answers.fetched.written
      else none := by
  cases reached with
  | unmoved => rfl
  | setAside => exact movedAside_self disk
  | transferred => exact transferredTo_self disk
  | landed => exact putAt_self

theorem of_landed (landed : stage answers localPath world = .landed) :
    answers.fetched.failure = none := by
  rw [stage] at landed
  split at landed
  · cases landed
  · split at landed
    · cases landed
    · split at landed
      · cases landed
      · next succeeds =>
          rw [Bool.or_eq_true, not_or] at succeeds
          exact Option.not_isSome_iff_eq_none.mp succeeds.1

/-- A path from which the file was not moved, or to which the remote version was, holds
a version; any other holds nothing. -/
theorem holdsVersion_iff {later : World} (there : (world.disk localPath).isSome = true)
    (disk : later.disk = diskAt answers localPath world.disk (stage answers localPath world)) :
    HoldsVersion answers localPath world later ↔ staysInPlace answers = true := by
  rw [stage_iff there, HoldsVersion, disk, diskAt_self]
  cases reached : stage answers localPath world with
  | unmoved =>
      rcases Option.isSome_iff_exists.mp there with ⟨file, found⟩
      exact iff_of_true ⟨file, found, Or.inl found⟩ (Or.inl rfl)
  | setAside =>
      refine iff_of_false ?_ between_setAside
      rintro ⟨file, nothing, _⟩
      cases nothing
  | transferred =>
      refine iff_of_false ?_ between_transferred
      rintro ⟨file, nothing, _⟩
      cases nothing
  | landed =>
      have succeeded := of_landed reached
      rcases Option.isSome_iff_exists.mp (answers.fetched.creates succeeded) with ⟨file, written⟩
      exact iff_of_true ⟨file, written, Or.inr ⟨succeeded, written⟩⟩ (Or.inr rfl)

end Stages

section Exact

variable [Rfc3339] {answers : TaskAnswers} {task : SyncTask} {fileId localPath : String}
  {world : World} {conflict : Db.DriveFile × Api.DriveFile}

/-- What a check that finds a conflict leaves on disk. -/
theorem disk_of_detected
    (found : detected answers.conflict task fileId localPath world = some conflict) :
    (final (checkAndResolve answers.conflict task fileId localPath) world).disk =
      diskAt answers.conflict.resolve localPath world.disk
        (stage answers.conflict.resolve localPath world) := by
  have checks := checked answers.conflict task fileId localPath world
  rw [found] at checks
  rw [checks.2, disk_resolveConflict]
  rfl

/-- A resolution that does not get as far as putting the remote version in place fails. -/
theorem fails_of_not_landed
    (found : detected answers.conflict task fileId localPath world = some conflict)
    (stops : stage answers.conflict.resolve localPath world ≠ .landed) :
    ∃ failure, outcome (checkAndResolve answers.conflict task fileId localPath) world =
      .error failure := by
  have checks := checked answers.conflict task fileId localPath world
  have placed := @placed_placeRemote _ answers.conflict.resolve task conflict.1 localPath
    (world.send task.accountId (.get fileId))
  have same : stage answers.conflict.resolve localPath (world.send task.accountId (.get fileId)) =
      stage answers.conflict.resolve localPath world := rfl
  rw [found] at checks
  have isOk := placed.isOk
  rw [same, decide_eq_false stops] at isOk
  rw [checks.1, resolveConflict_eq]
  cases answered : outcome (placeRemote answers.conflict.resolve task conflict.1 localPath)
      (world.send task.accountId (.get fileId)) with
  | ok done =>
      rw [answered] at isOk
      cases isOk
  | error failure =>
      rw [outcome_bind_of_error answered]
      exact ⟨failure, rfl⟩

/-- A resolution that has moved the file away and put nothing in its place does not
recover. -/
theorem not_recovers
    (found : detected answers.conflict task fileId localPath world = some conflict)
    (gone : staysInPlace answers.conflict.resolve ≠ true) :
    ¬ Recovers answers task fileId localPath world := by
  have there := (of_detected found).2.1
  intro recovers
  have stops : stage answers.conflict.resolve localPath world ≠ .landed :=
    fun landed => gone ((stage_iff there).mpr (Or.inr landed))
  rcases fails_of_not_landed found stops with ⟨failure, failed⟩
  exact gone ((holdsVersion_iff there (disk_of_detected found)).mp
    (recovers conflict failure found failed).1)

/-- A check recovers from every failure exactly when a conflict that is found is one
whose resolution leaves the path with a file. -/
theorem recovers_iff (answers : TaskAnswers) (task : SyncTask) (fileId localPath : String)
    (world : World) :
    Recovers answers task fileId localPath world ↔
      ((detected answers.conflict task fileId localPath world).isSome = true →
        staysInPlace answers.conflict.resolve = true) := by
  constructor
  · intro recovers conflicting
    rcases Option.isSome_iff_exists.mp conflicting with ⟨conflict, found⟩
    exact Decidable.byContradiction fun gone => not_recovers found gone recovers
  · intro stays conflict failure found _
    have there := (of_detected found).2.1
    have holds := (holdsVersion_iff there (disk_of_detected found)).mpr
      (stays (by rw [found]; rfl))
    refine ⟨holds, fun gone => ?_⟩
    rcases holds with ⟨file, standing, _⟩
    rw [gone] at standing
    cases standing

end Exact

/-- Where the path is left without a file, the fallback uses up a retry. -/
theorem retryCount_of_missing [Rfc3339] {answers : UploadAnswers} {task stored : SyncTask}
    {taskId : Nat} {localPath : String} {world : World} (identified : task.id = some taskId)
    (path : task.localPath = some localPath) (gone : world.disk localPath = none)
    (found : world.db.task taskId = some stored) (marks : answers.marks = true)
    (records : answers.failure.setsStatus = true) (left : task.retryCount + 1 ≤ maxRetries) :
    ((final (uploadFile answers task) world).db.task taskId).map SyncTask.retryCount =
      some (task.retryCount + 1) := by
  have marking : outcome (onDb (updateTaskStatus answers.marks answers.now taskId .inProgress none))
      world = .ok () := by
    rw [outcome_onDb, outcome_updateTaskStatus, if_pos marks]
  simp only [uploadFile, identified, path]
  rw [final_bind_of_ok marking, final_onDb, final_updateTaskStatus, if_pos marks,
    final_bind_of_ok (outcome_observe _ _), final_observe, final_readFile]
  generalize changed : world.db.updateTask taskId _ _ = db
  have missing : (world.withDb db).disk localPath = none := gone
  have lost : outcome (readFile answers.readFailure localPath) (world.withDb db) =
      .error (answers.readFailure.getD noSuchFile) := by
    simp only [outcome, readFile, onFile_of_missing missing, answer]
  have stays : (db.task taskId).isSome = true := by
    rw [← changed, Database.task_updateTask_self, found]
    rfl
  rcases Option.isSome_iff_exists.mp stays with ⟨marked, there⟩
  rw [lost]
  dsimp only
  rw [final_onDb, handleUploadFailure, handleFailure]
  simp only [if_neg (Int.not_lt.mpr left), updateTaskRetry, final_execute, records, if_true,
    World.withDb_db, Database.task_updateTask_self, there, Option.map_some]

/-- The remote version of the notes cannot be fetched. -/
def losesConnection : ResolveAnswers :=
  { fetchesNotes with
    fetched := ⟨none, some "connection reset", fun succeeded => by cases succeeded⟩ }

/-- Drive knows another etag for the notes than the row. -/
def tagsNotes (etag : String) : Api.DriveFile :=
  { Api.DriveFile.named "notes" "notes.txt" with etag := some etag }

/-- The notes were synced at 5, and have been changed on both sides since. -/
def changedNotes : World :=
  (World.around ((Database.fresh.putFile
    { @mapApiFileToDb untimed (tagsNotes "first") "ann@example.com" with
      localPath := some "/mnt/notes.txt"
      localMtime := some 5
      syncState := .cached }))).putOnDisk "/mnt/notes.txt" (some ⟨[1], 10⟩)

/-- When the connection breaks, the path is left without a file. -/
theorem broken_connection_leaves_nothing :
    ¬ @Recovers untimed
      { TaskAnswers.allRun ⟨none, .error "no upload", []⟩ ⟨[2], 20⟩ 20 with
        conflict := ⟨true, true, .ok (tagsNotes "second"), losesConnection⟩ }
      uploadsNotes "notes" "/mnt/notes.txt" changedNotes := by
  refine @not_recovers untimed _ _ _ _ _ _ (rfl : _ = some (_, tagsNotes "second")) ?_
  decide

end Conflict
end GDriver
