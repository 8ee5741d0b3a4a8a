import GDriver.Metadata.Writes

namespace GDriver
namespace Metadata

open Library Routine Db Api Sync

/-!
# Replaying and reordering changes

Seen from one file, a sequence of changes is a sequence of three kinds of
action: keep the row, trash it, or replace it by the row of a record.  The
first two are idempotent and commute, the third forgets what was there, so
any such sequence is idempotent.  Changes to different files meet different
rows.  Both facts come from the theory of keyed updates once the processing
of a list of changes is shown to be a fold of such updates.
-/

/-- No statement of the processing fails. -/
structure Executed (answers : ProcessChangeAnswers) : Prop where
  marks : answers.marks = true
  looksUp : answers.looksUp = true
  upserts : answers.upserts = true
  listsFolders : answers.listsFolders = true
  enqueues : answers.enqueues = true

theorem Executed.allRun (now : Int) : Executed (ProcessChangeAnswers.allRun now) :=
  ⟨rfl, rfl, rfl, rfl, rfl⟩

/-- Every record carries the id its change names. -/
def RecordsNamed (changes : List Change) : Prop :=
  ∀ change ∈ changes, ∀ apiFile ∈ change.file, apiFile.id = change.fileId

/-- The same changes in another order that keeps each file's own sequence. -/
structure Reordering (changes other : List Change) : Prop where
  perm : changes.Perm other
  keepsFileOrder : ∀ fileId,
    changes.filter (fun change => change.fileId = some fileId) =
      other.filter (fun change => change.fileId = some fileId)

/-- The two databases hold the same file rows, row numbers aside. -/
def SameFiles (db other : Database) : Prop :=
  db.driveFiles.records.Perm other.driveFiles.records

theorem SameFiles.of_cells {db other : Database} (agree : db.cells = other.cells) :
    SameFiles db other :=
  KeyedTable.records_perm_of_lookup fun key => congrFun agree key

section Changes

variable [Rfc3339]

/-- The database after a list of changes has been processed. -/
def afterChanges (answers : Nat → ProcessChangeAnswers) (accountId : String)
    (syncMode : SyncMode) (mountPoint : String) (changes : List Change) (db : Database) :
    Database :=
  final (processChanges accountId syncMode mountPoint answers changes) db

/-- The updates of the file cells that the changes of an account stand for. -/
def changeUpdates (accountId : String) :
    KeyedUpdates (String × String) (Option Db.DriveFile) Change where
  target := fun change => (changeWrite accountId change).map FileWrite.key
  act := fun change cell =>
    match changeWrite accountId change with
    | none => cell
    | some write => write.act cell

/-- A change keeps the row, trashes it, or replaces it. -/
theorem changeUpdates_act_cases (accountId : String) (change : Change) :
    (∀ cell, (changeUpdates accountId).act change cell = cell) ∨
      (∀ cell, (changeUpdates accountId).act change cell = cell.map Db.DriveFile.trashed) ∨
      (changeUpdates accountId).Overwrites change := by
  unfold changeUpdates KeyedUpdates.Overwrites
  dsimp only
  cases changeWrite accountId change with
  | none => exact Or.inl fun _ => rfl
  | some write =>
      cases write with
      | trash fileId owner => exact Or.inr (Or.inl fun _ => rfl)
      | store file => exact Or.inr (Or.inr fun _ _ => rfl)

theorem changeUpdates_replayable (accountId : String) : (changeUpdates accountId).Replayable where
  idempotent := by
    intro change keeps cell
    rcases changeUpdates_act_cases accountId change with same | trash | overwrites
    · rw [same, same]
    · rw [trash, trash, Option.map_map]
      rfl
    · exact absurd overwrites keeps
  commute := by
    intro first second firstKeeps secondKeeps cell
    rcases changeUpdates_act_cases accountId first with same | trash | overwrites
    · rw [same, same]
    · rcases changeUpdates_act_cases accountId second with same' | trash' | overwrites
      · rw [same', same']
      · rw [trash, trash', trash', trash]
      · exact absurd overwrites secondKeeps
    · exact absurd overwrites firstKeeps

/-- A change that names its record is about its own file of its own account. -/
theorem target_of_named {accountId : String} {change : Change} {key : String × String}
    (named : ∀ apiFile ∈ change.file, apiFile.id = change.fileId)
    (target : (changeUpdates accountId).target change = some key) :
    change.fileId = some key.1 ∧ key.2 = accountId := by
  unfold changeUpdates changeWrite at target
  dsimp only at target
  cases stored : change.fileId with
  | none =>
      rw [stored] at target
      cases target
  | some fileId =>
      rw [stored] at target
      dsimp only at target
      split at target
      · rw [← Option.some.inj target]
        exact ⟨rfl, rfl⟩
      · cases record : change.file with
        | none =>
            rw [record] at target
            cases target
        | some apiFile =>
            rw [record] at target
            rw [← Option.some.inj target]
            have id := (named apiFile record).trans stored
            simp only [FileWrite.key, Db.DriveFile.key, mapApiFileToDb_id, id, Option.getD_some]
            exact ⟨trivial, rfl⟩

/-! ## One change -/

/-- Every write of a change to an existing account is accepted. -/
theorem writeRuns_of_executed {answers : ProcessChangeAnswers} (executed : Executed answers)
    {accountId : String} {db : Database} (stored : db.hasAccount accountId = true)
    {change : Change} {write : FileWrite} (asked : changeWrite accountId change = some write) :
    writeRuns answers db write = true := by
  cases write with
  | trash fileId owner => exact executed.marks
  | store file =>
      have owner : file.accountId = accountId := by
        unfold changeWrite at asked
        split at asked
        · cases asked
        · split at asked
          · cases asked
          · rcases Option.map_eq_some_iff.mp asked with ⟨apiFile, _, same⟩
            rw [← FileWrite.store.inj same, mapApiFileToDb_accountId]
      rw [writeRuns_store, executed.looksUp, executed.upserts, Database.acceptsFile, owner, stored,
        Bool.or_true]
      rfl

variable {answers : ProcessChangeAnswers} {accountId : String} {db : Database}

theorem cells_processChange (executed : Executed answers)
    (stored : db.hasAccount accountId = true) (change : Change) (syncMode : SyncMode)
    (mountPoint : String) :
    (final (processChange answers accountId change syncMode mountPoint) db).cells =
      (changeUpdates accountId).apply change db.cells := by
  have written := (processChange_spec answers accountId change syncMode mountPoint db).writes
  unfold Database.cells
  rw [written.driveFiles]
  change (changeWritten answers accountId change db).cells = _
  unfold changeWritten KeyedUpdates.apply changeUpdates
  cases asked : changeWrite accountId change with
  | none =>
      simp only [asked, Option.map_none]
      rfl
  | some write =>
      simp only [asked, Option.map_some]
      rw [if_pos (writeRuns_of_executed executed stored asked), FileWrite.cells_apply]
      rfl

/-- Processing a change leaves the rows of other files and accounts alone. -/
theorem lookupRow_processChange {change : Change}
    (named : ∀ apiFile ∈ change.file, apiFile.id = change.fileId)
    {fileId owner : String} (elsewhere : owner ≠ accountId ∨ change.fileId ≠ some fileId)
    (syncMode : SyncMode) (mountPoint : String) :
    (final (processChange answers accountId change syncMode mountPoint) db).driveFiles.lookupRow
        (fileId, owner) = db.driveFiles.lookupRow (fileId, owner) := by
  have written := (processChange_spec answers accountId change syncMode mountPoint db).writes
  rw [written.driveFiles]
  unfold changeWritten
  cases asked : changeWrite accountId change with
  | none => rfl
  | some write =>
      dsimp only
      split
      · apply FileWrite.lookupRow_apply_of_ne
        intro same
        have target : (changeUpdates accountId).target change = some (fileId, owner) := by
          unfold changeUpdates
          simp only [asked, Option.map_some, same]
        have own := target_of_named named target
        rcases elsewhere with differentOwner | differentFile
        · exact differentOwner own.2
        · exact differentFile own.1
      · rfl

/-! ## Lists of changes -/

theorem afterChanges_cons (answers : Nat → ProcessChangeAnswers) (syncMode : SyncMode)
    (mountPoint : String) (change : Change) (rest : List Change) :
    afterChanges answers accountId syncMode mountPoint (change :: rest) db =
      afterChanges (fun index => answers (index + 1)) accountId syncMode mountPoint rest
        (final (processChange (answers 0) accountId change syncMode mountPoint) db) := rfl

/-- Processing changes is folding their updates over the file cells. -/
theorem cells_afterChanges {answers : Nat → ProcessChangeAnswers}
    (executed : ∀ index, Executed (answers index)) (stored : db.hasAccount accountId = true)
    (syncMode : SyncMode) (mountPoint : String) (changes : List Change) :
    (afterChanges answers accountId syncMode mountPoint changes db).cells =
      changes.foldl (fun cells change => (changeUpdates accountId).apply change cells)
        db.cells := by
  induction changes generalizing answers db with
  | nil => rfl
  | cons change rest inductionHypothesis =>
      rw [afterChanges_cons, List.foldl_cons,
        inductionHypothesis (fun index => executed (index + 1))
          ((hasAccount_processChange change syncMode mountPoint).trans stored),
        cells_processChange (executed 0) stored]

theorem hasAccount_afterChanges (answers : Nat → ProcessChangeAnswers) (syncMode : SyncMode)
    (mountPoint : String) (changes : List Change) :
    (afterChanges answers accountId syncMode mountPoint changes db).hasAccount accountId =
      db.hasAccount accountId := by
  induction changes generalizing answers db with
  | nil => rfl
  | cons change rest inductionHypothesis =>
      rw [afterChanges_cons, inductionHypothesis]
      exact hasAccount_processChange change syncMode mountPoint

/-- A list of changes leaves the rows of other files and accounts alone,
whatever fails on the way. -/
theorem lookupRow_afterChanges (answers : Nat → ProcessChangeAnswers) {changes : List Change}
    (named : RecordsNamed changes) {fileId owner : String}
    (elsewhere : owner ≠ accountId ∨ ∀ change ∈ changes, change.fileId ≠ some fileId)
    (syncMode : SyncMode) (mountPoint : String) :
    (afterChanges answers accountId syncMode mountPoint changes db).driveFiles.lookupRow
        (fileId, owner) = db.driveFiles.lookupRow (fileId, owner) := by
  induction changes generalizing answers db with
  | nil => rfl
  | cons change rest inductionHypothesis =>
      rw [afterChanges_cons,
        inductionHypothesis (fun index => answers (index + 1))
          (fun later member => named later (List.mem_cons_of_mem change member))
          (elsewhere.imp_right fun none later member =>
            none later (List.mem_cons_of_mem change member))]
      exact lookupRow_processChange (named change List.mem_cons_self)
        (elsewhere.imp_right fun none => none change List.mem_cons_self) syncMode mountPoint

/-- At each key a reordering has the same updates in the same order. -/
theorem addressed_reordering {changes other : List Change} (named : RecordsNamed changes)
    (reordering : Reordering changes other) (key : String × String) :
    (changeUpdates accountId).addressed key changes =
      (changeUpdates accountId).addressed key other := by
  have throughFile (list : List Change) (member : ∀ change ∈ list, change ∈ changes) :
      (changeUpdates accountId).addressed key list =
        (changeUpdates accountId).addressed key
          (list.filter fun change => change.fileId = some key.1) := by
    unfold KeyedUpdates.addressed
    rw [List.filter_filter]
    apply List.filter_congr
    intro change stored
    rw [Bool.eq_iff_iff, Bool.and_eq_true_iff]
    simp only [decide_eq_true_eq]
    constructor
    · intro target
      exact ⟨target, (target_of_named (named change (member change stored)) target).1⟩
    · exact And.left
  rw [throughFile changes fun _ stored => stored, reordering.keepsFileOrder key.1,
    ← throughFile other fun _ stored => reordering.perm.mem_iff.mpr stored]

/-- Replaying a prefix changes nothing, the order of changes to different
files does not matter, and only the files mentioned are touched. -/
theorem changes_replay_and_commute (stored : db.hasAccount accountId = true)
    {changes : List Change} (named : RecordsNamed changes)
    {answers : Nat → ProcessChangeAnswers} (executed : ∀ index, Executed (answers index))
    (syncMode : SyncMode) (mountPoint : String) :
    (∀ start, start <+: changes → ∀ before again : Nat → ProcessChangeAnswers,
      (∀ index, Executed (before index)) → (∀ index, Executed (again index)) →
        SameFiles
          (afterChanges again accountId syncMode mountPoint changes
            (afterChanges before accountId syncMode mountPoint start db))
          (afterChanges answers accountId syncMode mountPoint changes db)) ∧
    (∀ other, Reordering changes other → ∀ reordered : Nat → ProcessChangeAnswers,
      (∀ index, Executed (reordered index)) →
        SameFiles (afterChanges reordered accountId syncMode mountPoint other db)
          (afterChanges answers accountId syncMode mountPoint changes db)) ∧
    (∀ fileId owner, (owner ≠ accountId ∨ ∀ change ∈ changes, change.fileId ≠ some fileId) →
      (afterChanges answers accountId syncMode mountPoint changes db).driveFiles.lookupRow
          (fileId, owner) = db.driveFiles.lookupRow (fileId, owner)) := by
  refine ⟨?_, ?_, ?_⟩
  · intro start isPrefix before again beforeExecuted againExecuted
    apply SameFiles.of_cells
    have stillStored := (hasAccount_afterChanges before syncMode mountPoint start).trans stored
    rw [cells_afterChanges againExecuted stillStored, cells_afterChanges beforeExecuted stored,
      cells_afterChanges executed stored, ← List.foldl_append]
    exact KeyedUpdates.foldl_replay (changeUpdates_replayable accountId) isPrefix db.cells
  · intro other reordering reordered reorderedExecuted
    apply SameFiles.of_cells
    rw [cells_afterChanges reorderedExecuted stored, cells_afterChanges executed stored]
    exact (KeyedUpdates.foldl_congr_addressed (addressed_reordering named reordering) db.cells).symm
  · intro fileId owner elsewhere
    exact lookupRow_afterChanges answers named elsewhere syncMode mountPoint

end Changes

/-- A new file is renamed, with the removal of another file in between: a
replay of the first two changes and the removal moved to the front. -/
theorem changes_replay_and_commute_of_rename :
    let account : Account := ⟨"ann@example.com", "ann@example.com", 0⟩
    let stored (name : String) : Change :=
      ⟨some "notes", some false, some (Api.DriveFile.named "notes" name)⟩
    let removed : Change := ⟨some "draft", some true, none⟩
    let after (changes : List Change) (db : Database) : Database :=
      @afterChanges untimed (fun _ => ProcessChangeAnswers.allRun 0) account.id .mirror "/mnt"
        changes db
    let db := Database.connected account
    SameFiles (after [stored "a", removed, stored "b"] (after [stored "a", removed] db))
        (after [stored "a", removed, stored "b"] db) ∧
      SameFiles (after [removed, stored "a", stored "b"] db)
        (after [stored "a", removed, stored "b"] db) := by
  intro account stored removed after db
  have executed (index : Nat) : Executed ((fun _ => ProcessChangeAnswers.allRun 0) index) :=
    Executed.allRun 0
  have named : RecordsNamed [stored "a", removed, stored "b"] := by
    unfold RecordsNamed
    decide
  have laws := @changes_replay_and_commute untimed account.id db (by decide) _ named _ executed
    .mirror "/mnt"
  refine ⟨laws.1 _ (by decide) _ _ executed executed, laws.2.1 _ ⟨by decide, ?_⟩ _ executed⟩
  intro fileId
  by_cases notes : some "notes" = some fileId
  · rw [← notes]
    decide
  · have others (name : String) : ¬ (stored name).fileId = some fileId := notes
    simp only [List.filter_cons, others, decide_false, Bool.false_eq_true, if_false, List.filter_nil]

end Metadata
end GDriver
