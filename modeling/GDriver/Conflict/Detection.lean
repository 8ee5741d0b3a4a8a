import GDriver.Conflict.Resolution

namespace GDriver
namespace Conflict

open Library Routine Db Api Sync

/-!
# When a conflict is detected

A conflict check looks up the row, stats the local file and asks Drive for the
metadata.  It finds a conflict when all of that gives an answer and both versions
have changed.
-/

/-- The row and the remote file of the conflict that a check finds. -/
def detected (answers : ConflictAnswers) (task : SyncTask) (fileId localPath : String)
    (world : World) : Option (Db.DriveFile × Api.DriveFile) :=
  match if answers.looksUp then world.db.file fileId task.accountId else none,
      mtimeOf answers.statsFile localPath world, answers.remote with
  | some dbRecord, some currentLocalMtime, .ok remoteFile =>
      if remoteFile.etag.any (detectConflict currentLocalMtime dbRecord) then
        some (dbRecord, remoteFile)
      else none
  | _, _, _ => none

/-- A conflict is about a stored row with an etag, and a file on disk. -/
theorem of_detected {answers : ConflictAnswers} {task : SyncTask} {fileId localPath : String}
    {world : World} {dbRecord : Db.DriveFile} {remoteFile : Api.DriveFile}
    (found : detected answers task fileId localPath world = some (dbRecord, remoteFile)) :
    world.db.file fileId task.accountId = some dbRecord ∧ (world.disk localPath).isSome = true ∧
      dbRecord.etag.isSome = true := by
  rw [detected] at found
  split at found
  · next row mtime remote looked stated _ =>
      split at found
      · next both =>
          cases found
          rcases (Option.any_eq_true _ _).mp both with ⟨tag, _, changed⟩
          rw [detectConflict, Bool.and_eq_true] at changed
          split at looked
          · refine ⟨looked, ?_, ?_⟩
            · rw [mtimeOf] at stated
              split at stated
              · rcases Option.filter_eq_some_iff.mp stated with ⟨read, _⟩
                rcases Option.map_eq_some_iff.mp read with ⟨file, there, _⟩
                rw [there]
                rfl
              · cases stated
            · cases stored : dbRecord.etag with
              | none =>
                  rw [stored] at changed
                  cases changed.2
              | some tag => rfl
          · cases looked
      · cases found
  · cases found

/-- The row of a conflict is stored under its own key. -/
theorem stored_of_detected {answers : ConflictAnswers} {task : SyncTask} {fileId localPath : String}
    {world : World} {conflict : Db.DriveFile × Api.DriveFile}
    (found : detected answers task fileId localPath world = some conflict) :
    (world.db.file conflict.1.id conflict.1.accountId).isSome = true := by
  have row := (of_detected found).1
  have key : conflict.1.key = (fileId, task.accountId) := KeyedTable.key_of_lookup row
  have names := Prod.mk.inj key
  rw [names.1, names.2, row]
  rfl

section Checking

variable [Rfc3339] {answers : ConflictAnswers} {task : SyncTask} {fileId localPath : String}
  {world : World} {dbRecord : Db.DriveFile} {remoteFile : Api.DriveFile}

/-- A check that finds a conflict resolves it. -/
def ResolvesOn (answers : ConflictAnswers) (task : SyncTask) (fileId localPath : String) (world : World)
    (conflict : Db.DriveFile × Api.DriveFile) : Prop :=
  outcome (checkAndResolve answers task fileId localPath) world =
    (outcome (resolveConflict answers.resolve task conflict.1 localPath conflict.2)
      (world.send task.accountId (.get fileId))).map (fun _ => true) ∧
  final (checkAndResolve answers task fileId localPath) world =
    final (resolveConflict answers.resolve task conflict.1 localPath conflict.2)
      (world.send task.accountId (.get fileId))

/-- Any other check says that there is no conflict, or fails, and only asks. -/
def PassesOn (answers : ConflictAnswers) (task : SyncTask) (fileId localPath : String) (world : World) :
    Prop :=
  outcome (checkAndResolve answers task fileId localPath) world ≠ .ok true ∧
  (final (checkAndResolve answers task fileId localPath) world = world ∨
    final (checkAndResolve answers task fileId localPath) world =
      world.send task.accountId (.get fileId))

/-- What a check comes to. -/
def Checked (answers : ConflictAnswers) (task : SyncTask) (fileId localPath : String) (world : World) :
    Option (Db.DriveFile × Api.DriveFile) → Prop
  | some conflict => ResolvesOn answers task fileId localPath world conflict
  | none => PassesOn answers task fileId localPath world

theorem checked (answers : ConflictAnswers) (task : SyncTask) (fileId localPath : String)
    (world : World) :
    Checked answers task fileId localPath world (detected answers task fileId localPath world) := by
  have different : (Except.ok false : Except String Bool) ≠ .ok true := by
    intro same
    cases same
  have looked := outcome_onDb_getFileById answers.looksUp fileId task.accountId world
  have stays : final (onDb (getFileById answers.looksUp fileId task.accountId)) world = world := by
    rw [final_onDb, final_getFileById]
    rfl
  cases looksUp : answers.looksUp with
  | false =>
      rw [looksUp] at looked stays
      simp only [detected, looksUp, Bool.false_eq_true, if_false]
      rw [Checked, PassesOn, checkAndResolve, looksUp, outcome_bind_of_error looked, final_bind_of_error looked]
      refine ⟨?_, Or.inl stays⟩
      intro same
      cases same
  | true =>
      rw [looksUp, if_pos rfl] at looked
      rw [looksUp] at stays
      cases row : world.db.file fileId task.accountId with
      | none =>
          rw [row] at looked
          simp only [detected, looksUp, row, if_true]
          rw [Checked, PassesOn, checkAndResolve, looksUp, outcome_bind_of_ok looked, final_bind_of_ok looked,
            stays]
          exact ⟨different, Or.inl rfl⟩
      | some dbRecord =>
          rw [row] at looked
          simp only [detected, looksUp, row, if_true]
          cases mtime : mtimeOf answers.statsFile localPath world with
          | none =>
              rw [Checked, PassesOn, checkAndResolve, looksUp, outcome_bind_of_ok looked, final_bind_of_ok looked,
                stays]
              simp only [outcome_bind_of_ok (outcome_inspect _ _),
                final_bind_of_ok (outcome_inspect _ _), final_inspect, mtime]
              exact ⟨different, Or.inl rfl⟩
          | some currentLocalMtime =>
              simp only [Checked, PassesOn, ResolvesOn, checkAndResolve, looksUp,
                outcome_bind_of_ok looked, final_bind_of_ok looked, stays,
                outcome_bind_of_ok (outcome_inspect _ _), final_bind_of_ok (outcome_inspect _ _),
                final_inspect, mtime, outcome_bind_of_ok (outcome_perform _ _),
                final_bind_of_ok (outcome_perform _ _), final_perform]
              cases answers.remote with
              | error failure => exact ⟨different, Or.inr rfl⟩
              | ok remoteFile =>
                  cases tag : remoteFile.etag with
                  | none =>
                      simp only [tag, Option.any_none, Bool.false_eq_true, if_false]
                      exact ⟨different, Or.inr rfl⟩
                  | some currentRemoteEtag =>
                      simp only [tag, Option.any_some]
                      cases detectConflict currentLocalMtime dbRecord currentRemoteEtag with
                      | false =>
                          simp only [Bool.false_eq_true, if_false]
                          exact ⟨different, Or.inr rfl⟩
                      | true =>
                          simp only [if_true, final_bind_pure, and_true]
                          rw [outcome_bind]
                          cases outcome (resolveConflict answers.resolve task dbRecord localPath
                              remoteFile) (world.send task.accountId (.get fileId)) with
                          | error failure => rfl
                          | ok done => rfl

end Checking

end Conflict
end GDriver
