import GDriver.Local.Storing
import GDriver.Lookup.Paths

namespace GDriver
namespace Lookup

open Library Routine Db Sync

/-!
# Whose file a deletion by path removes

The deletion of a local file looks its row up by the path alone and sends the id it finds
with the client of the task's account.  The first row at the path may belong to another
account, and it may be trashed.
-/

/-- A row of the account with this path that is not trashed. -/
structure OwnsAt (db : Database) (accountId path : String) (file : Db.DriveFile) : Prop where
  stored : db.file file.id file.accountId = some file
  owner : file.accountId = accountId
  there : file.localPath = some path
  kept : file.isTrashed = false

/-- What is deleted for the account is at the path: every request names such a row, and every row
that changes is one. -/
structure DeletesOwn (accountId path : String) (world later : World) : Prop where
  requests : ∀ request ∈ later.requests.drop world.requests.length,
    ∃ own, OwnsAt world.db accountId path own ∧ request = (accountId, .delete own.id)
  rows : ∀ fileId owner, later.db.file fileId owner = world.db.file fileId owner ∨
    ∃ own, OwnsAt world.db accountId path own ∧ own.key = (fileId, owner)

/-- The same requests were sent and the rows are the same. -/
structure SameTraces (world later : World) : Prop where
  requests : later.requests = world.requests
  rows : later.db.driveFiles = world.db.driveFiles

instance : IsPreorder World SameTraces where
  refl _ := ⟨rfl, rfl⟩
  trans _ _ _ one two := ⟨two.requests.trans one.requests, two.rows.trans one.rows⟩

theorem allowsMarking_sameTraces (taskId : Nat) : AllowsMarking taskId SameTraces where
  task _ _ _ _ := ⟨rfl, rfl⟩
  error _ _ := ⟨rfl, rfl⟩

theorem SameTraces.markTrashed {world later : World} (same : SameTraces world later) (runs : Bool)
    (fileId accountId : String) :
    SameTraces (world.withDb (final (markTrashed runs fileId accountId) world.db))
      (later.withDb (final (markTrashed runs fileId accountId) later.db)) := by
  rw [final_markTrashed, final_markTrashed]
  refine ⟨same.requests, ?_⟩
  split
  · simp only [Database.updateFileAt, World.withDb_db, same.rows]
  · exact same.rows

section Deletion

variable {answers : DeleteAnswers} {task : SyncTask} {taskId : Nat} {path : String}

/-- The requests and rows after the deletion of a row that was found. -/
def traced (answers : DeleteAnswers) (accountId : String) (file : Db.DriveFile) (world : World) : World :=
  let sent := world.send accountId (.delete file.id)
  if answers.server.reply.isOk then
    sent.withDb (final (markTrashed answers.marksTrashed file.id file.accountId) sent.db)
  else sent

/-- The row that a deletion by path finds. -/
def foundAt (answers : DeleteAnswers) (path : String) (db : Database) : Option Db.DriveFile :=
  if answers.looksUp then db.fileAtLocalPath path else none

theorem sameTraces_handleLocalDelete (world : World) :
    SameTraces ((foundAt answers path world.db).elim world fun file =>
        traced answers task.accountId file world)
      (final (handleLocalDelete answers task taskId path) world) := by
  have marks := keeps_updateTaskStatus (allowsMarking_sameTraces taskId)
  have looked : outcome (onDb (getFileByLocalPath answers.looksUp path)) world =
      if answers.looksUp then .ok (world.db.fileAtLocalPath path) else .error databaseError := by
    rw [outcome_onDb, outcome_getFileByLocalPath]
  have stays : final (onDb (getFileByLocalPath answers.looksUp path)) world = world := by
    rw [final_onDb, final_getFileByLocalPath]
    rfl
  rw [handleLocalDelete, final_bind, looked, stays]
  cases looksUp : answers.looksUp with
  | false =>
      simp only [foundAt, looksUp, Bool.false_eq_true, if_false, Option.elim_none]
      exact Std.Refl.refl world
  | true =>
      simp only [foundAt, looksUp, if_true]
      cases world.db.fileAtLocalPath path with
      | none => exact marks _ _ _ _ world
      | some file =>
          dsimp only [Option.elim_some]
          rw [final_bind_of_ok (outcome_observe _ _), final_observe, outcome_filesDelete,
            final_filesDelete]
          have removed : SameTraces (world.send task.accountId (.delete file.id))
              (answers.server.carryOut task.accountId file.id
                (world.send task.accountId (.delete file.id))) := by
            rw [DeleteReply.carryOut]
            split
            · exact ⟨rfl, rfl⟩
            · exact Std.Refl.refl _
          generalize answers.server.carryOut task.accountId file.id
            (world.send task.accountId (.delete file.id)) = gone at removed
          cases replied : answers.server.reply with
          | error failure =>
              simp only [traced, replied, Except.isOk, Except.toBool, Bool.false_eq_true, if_false]
              exact IsTrans.trans _ _ _ removed
                (keeps_handleFailure (allowsMarking_sameTraces taskId) _ _ _ _ gone)
          | ok done =>
              simp only [traced, replied, Except.isOk, Except.toBool, if_true]
              rw [final_bind_of_ok (outcome_onDb _ _)]
              refine IsTrans.trans _ _ _ ?_ (marks _ _ _ _ _)
              rw [final_onDb, final_attempt]
              exact removed.markTrashed _ _ _

end Deletion

/-! ## The row and the account of the task -/

theorem FirstAt.stored {db : Database} {path : String} {file : Db.DriveFile} (first : FirstAt db path file) :
    db.file file.id file.accountId = some file ∧ file.localPath = some path := by
  rcases first with ⟨there, before, after, records, _⟩
  have member : file ∈ db.driveFiles.records := by
    rw [records]
    exact List.mem_append_right _ List.mem_cons_self
  exact ⟨(db.driveFiles.lookup_eq_some_iff _ _).mpr ⟨member, rfl⟩, there⟩

/-- What the first row at a path must be for the account to delete its own file. -/
def FindsOwn (db : Database) (accountId path : String) : Prop :=
  ∀ file, FirstAt db path file →
    (∃ own, OwnsAt db accountId path own ∧ own.id = file.id) ∧
      (file.accountId = accountId ∨ file.isTrashed = true)

section Found

variable {accountId path : String} {world : World} {file : Db.DriveFile}

/-- A row of the account that shares its id with one of its rows is that row. -/
theorem OwnsAt.same_of_id {db : Database} {own : Db.DriveFile} (owns : OwnsAt db accountId path own)
    (sameId : own.id = file.id) (stored : db.file file.id file.accountId = some file)
    (owner : file.accountId = accountId) : own = file := by
  have found := owns.stored
  rw [sameId, owns.owner, ← owner, stored] at found
  exact (Option.some.inj found).symm

theorem requests_traced (answers : DeleteAnswers) :
    (traced answers accountId file world).requests = world.requests ++ [(accountId, .delete file.id)] := by
  simp only [traced]
  split
  · rfl
  · rfl

theorem rows_traced (answers : DeleteAnswers) (fileId owner : String) :
    (traced answers accountId file world).db.file fileId owner = world.db.file fileId owner ∨
      (fileId = file.id ∧ owner = file.accountId) ∧
        (traced answers accountId file world).db.file fileId owner =
          (world.db.file fileId owner).map DriveFile.trashed := by
  simp only [traced]
  split
  · rw [World.withDb_db, final_markTrashed]
    split
    · rw [Database.file_updateFileAt]
      by_cases here : fileId = file.id ∧ owner = file.accountId
      · rw [if_pos here]
        exact Or.inr ⟨here, rfl⟩
      · rw [if_neg here]
        exact Or.inl rfl
    · exact Or.inl rfl
  · exact Or.inl rfl

/-- A trashed row is trashed already. -/
theorem map_trashed_of_trashed (stored : world.db.file file.id file.accountId = some file)
    (trashed : file.isTrashed = true) :
    (world.db.file file.id file.accountId).map DriveFile.trashed =
      world.db.file file.id file.accountId := by
  rw [stored, Option.map_some, DriveFile.trashed, ← trashed]

theorem deletesOwn_traced (finds : FindsOwn world.db accountId path) (first : FirstAt world.db path file)
    (answers : DeleteAnswers) : DeletesOwn accountId path world (traced answers accountId file world) := by
  rcases finds file first with ⟨⟨own, owns, sameId⟩, mine⟩
  have stored := first.stored.1
  refine ⟨?_, ?_⟩
  · intro request sent
    rw [requests_traced, List.drop_left, List.mem_singleton] at sent
    exact ⟨own, owns, by rw [sent, sameId]⟩
  · intro fileId owner
    rcases rows_traced answers fileId owner with same | ⟨⟨sameFile, sameOwner⟩, marked⟩
    · exact Or.inl same
    · rcases mine with owned | trashed
      · refine Or.inr ⟨own, owns, ?_⟩
        rw [owns.same_of_id sameId stored owned, sameFile, sameOwner]
        rfl
      · rw [sameFile, sameOwner] at marked ⊢
        rw [map_trashed_of_trashed stored trashed] at marked
        exact Or.inl marked

/-- Conversely, the row that is found is the account's own. -/
theorem findsOwn_of_traced (first : FirstAt world.db path file)
    (deletes : DeletesOwn accountId path world
      (traced (DeleteAnswers.allRun 0) accountId file world)) :
    (∃ own, OwnsAt world.db accountId path own ∧ own.id = file.id) ∧
      (file.accountId = accountId ∨ file.isTrashed = true) := by
  constructor
  · have sent : (accountId, Request.delete file.id) ∈
        (traced (DeleteAnswers.allRun 0) accountId file world).requests.drop world.requests.length := by
      rw [requests_traced, List.drop_left]
      exact List.mem_singleton_self _
    rcases deletes.requests _ sent with ⟨own, owns, same⟩
    exact ⟨own, owns, (Request.delete.inj (Prod.mk.inj same).2).symm⟩
  · have marked : (traced (DeleteAnswers.allRun 0) accountId file world).db.file file.id file.accountId =
        some file.trashed := by
      have stored := first.stored.1
      change (world.db.updateFileAt _ _ _ _).file _ _ = _
      rw [Database.file_updateFileAt, if_pos ⟨rfl, rfl⟩, stored]
      rfl
    rcases deletes.rows file.id file.accountId with same | ⟨own, owns, key⟩
    · rw [marked, first.stored.1] at same
      refine Or.inr ?_
      rw [← Option.some.inj same]
      rfl
    · rw [← (Prod.mk.inj key).2]
      exact Or.inl owns.owner

end Found

/-- The deletion of a local file removes a file of its account at its path, exactly when the
first row at the path is one. -/
theorem handleLocalDelete_deletesOwn_iff (task : SyncTask) (taskId : Nat) (path : String) (world : World) :
    (∀ answers, DeletesOwn task.accountId path world
      (final (handleLocalDelete answers task taskId path) world)) ↔
      FindsOwn world.db task.accountId path := by
  have along {first second : World} (same : SameTraces first second) :
      DeletesOwn task.accountId path world second ↔ DeletesOwn task.accountId path world first := by
    have rows (fileId owner : String) : second.db.file fileId owner = first.db.file fileId owner := by
      rw [Database.file, same.rows]
      rfl
    constructor
    · rintro ⟨requests, changes⟩
      refine ⟨by rwa [same.requests] at requests, fun fileId owner => ?_⟩
      rw [← rows]
      exact changes fileId owner
    · rintro ⟨requests, changes⟩
      refine ⟨by rwa [same.requests], fun fileId owner => ?_⟩
      rw [rows]
      exact changes fileId owner
  constructor
  · intro deletes file first
    have traces := @sameTraces_handleLocalDelete (DeleteAnswers.allRun 0) task taskId path world
    have found : foundAt (DeleteAnswers.allRun 0) path world.db = some file :=
      fileAtLocalPath_eq_some_iff.mpr first
    rw [found] at traces
    exact findsOwn_of_traced first ((along traces).mp (deletes _))
  · intro finds answers
    refine (along (sameTraces_handleLocalDelete world)).mpr ?_
    cases found : foundAt answers path world.db with
    | none =>
        refine ⟨fun request sent => ?_, fun _ _ => Or.inl rfl⟩
        rw [Option.elim_none, List.drop_length] at sent
        cases sent
    | some file =>
        have first : FirstAt world.db path file := by
          rw [foundAt] at found
          split at found
          · exact fileAtLocalPath_eq_some_iff.mp found
          · cases found
        exact deletesOwn_traced finds first answers

/-! ## A file of another account -/

/-- The copies of two accounts at one path. -/
def withCopies : World :=
  let bobs := { copied "plans.txt" "/mnt/notes.txt" with accountId := "bob@example.com" }
  World.around ((Database.fresh.putFile bobs).putFile (copied "notes.txt" "/mnt/notes.txt"))

/-- The copy of a trashed file at a path where a new file has been copied to. -/
def withTrashedCopy : World :=
  World.around ((Database.fresh.putFile (copied "plans.txt" "/mnt/notes.txt").trashed).putFile
    (copied "notes.txt" "/mnt/notes.txt"))

def deletedNotes (world : World) : World :=
  final (handleLocalDelete (DeleteAnswers.allRun 1)
    (pendingTask 1 "ann@example.com" none .delete (some "/mnt/notes.txt") 5) 1 "/mnt/notes.txt") world

/-- The deletion of a local file sends the id of a file of another account, or of a file that is
trashed already. -/
theorem handleLocalDelete_deletes_other :
    ¬ DeletesOwn "ann@example.com" "/mnt/notes.txt" withCopies (deletedNotes withCopies) ∧
      ¬ DeletesOwn "ann@example.com" "/mnt/notes.txt" withTrashedCopy (deletedNotes withTrashedCopy) := by
  have plans (world : World) (sent : ("ann@example.com", Request.delete "plans.txt") ∈
        (deletedNotes world).requests.drop world.requests.length)
      (lost : ∀ own, world.db.file "plans.txt" "ann@example.com" = some own → own.isTrashed = true) :
      ¬ DeletesOwn "ann@example.com" "/mnt/notes.txt" world (deletedNotes world) := by
    rintro ⟨requests, _⟩
    rcases requests _ sent with ⟨own, owns, same⟩
    have stored := owns.stored
    rw [owns.owner, ← Request.delete.inj (Prod.mk.inj same).2] at stored
    exact Bool.false_ne_true (owns.kept.symm.trans (lost own stored))
  refine ⟨plans withCopies (by decide) ?_, plans withTrashedCopy (by decide) ?_⟩
  · intro own stored
    have unknown : withCopies.db.file "plans.txt" "ann@example.com" = none := by decide
    rw [unknown] at stored
    cases stored
  · intro own stored
    have known : withTrashedCopy.db.file "plans.txt" "ann@example.com" =
        some (copied "plans.txt" "/mnt/notes.txt").trashed := by decide
    rw [known] at stored
    rw [← Option.some.inj stored]
    rfl

end Lookup
end GDriver
