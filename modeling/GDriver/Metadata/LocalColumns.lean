import GDriver.Metadata.Writes

namespace GDriver
namespace Metadata

open Library Routine Db Api Sync

/-!
# What a metadata refresh does to the local columns

A file resource says nothing about the local copy, and `mapApiFileToDb` fills
the local columns in as for a file that has none.  The upsert then takes every
column from the mapped row.  A refresh of a known file therefore keeps the
local path, the local modification time and an offline pin exactly when there
was none of them to lose, or when the row was not written at all.
-/

/-- The local columns of a row are as before. -/
structure LocalColumnsKept (before after : Db.DriveFile) : Prop where
  localPath : after.localPath = before.localPath
  localMtime : after.localMtime = before.localMtime
  pinned : before.syncState = .offline → after.syncState = .offline

/-- The row records something about a local copy. -/
def hasLocalRecord (file : Db.DriveFile) : Bool :=
  file.localPath.isSome || file.localMtime.isSome || file.syncState == .offline

/-- The row under a key is still there, with its local columns as before. -/
def RowKeepsLocalColumns (before : Db.DriveFile) (later : Database) : Prop :=
  ∃ after, later.file before.id before.accountId = some after ∧ LocalColumnsKept before after

section Refresh

variable [Rfc3339]

/-- A row mapped from a file resource keeps the local columns of a row that
has nothing in them, and of no other. -/
theorem localColumnsKept_mapApiFileToDb (before : Db.DriveFile) (apiFile : Api.DriveFile)
    (accountId : String) :
    LocalColumnsKept before (mapApiFileToDb apiFile accountId) ↔ hasLocalRecord before = false := by
  unfold hasLocalRecord
  simp only [Bool.or_eq_false_iff, Option.isSome_eq_false_iff, Option.isNone_iff_eq_none,
    beq_eq_false_iff_ne]
  constructor
  · intro kept
    refine ⟨⟨kept.localPath.symm, kept.localMtime.symm⟩, ?_⟩
    intro pinned
    cases kept.pinned pinned
  · rintro ⟨⟨noPath, noTime⟩, notPinned⟩
    exact ⟨noPath.symm, noTime.symm, fun pinned => absurd pinned notPinned⟩

/-- The upsert of one listed file, seen at a row that was there before. -/
theorem rowKeepsLocalColumns_upsertFile {db : Database} {before : Db.DriveFile}
    (known : db.file before.id before.accountId = some before) (runs : Bool)
    (apiFile : Api.DriveFile) (sameFile : apiFile.id.getD "" = before.id) :
    RowKeepsLocalColumns before
        (final (upsertFile runs (mapApiFileToDb apiFile before.accountId)) db) ↔
      runs = false ∨ hasLocalRecord before = false := by
  have accepted : db.acceptsFile (mapApiFileToDb apiFile before.accountId) = true := by
    unfold Database.acceptsFile
    rw [mapApiFileToDb_id, mapApiFileToDb_accountId, sameFile, known]
    rfl
  unfold RowKeepsLocalColumns
  rw [final_upsertFile, accepted, Bool.and_true]
  cases runs with
  | false =>
      simp only [Bool.false_eq_true, if_false, known, true_or, iff_true]
      exact ⟨before, rfl, rfl, rfl, id⟩
  | true =>
      rw [if_pos rfl, Database.file_putFile, if_pos ⟨sameFile.symm, rfl⟩]
      simp only [Option.some.injEq, exists_eq_left', Bool.true_eq_false, false_or]
      exact localColumnsKept_mapApiFileToDb before apiFile before.accountId

/-- The change makes the daemon rewrite the row under this id: it carries a
record with this id, and the lookup and the upsert are executed. -/
def rewritesRow (answers : ProcessChangeAnswers) (change : Change) (fileId : String) : Bool :=
  (change.file.any fun apiFile => apiFile.id.getD "" = fileId) &&
    (answers.looksUp && answers.upserts)

/-- A change of a surviving file, seen at the row of that file. -/
theorem rowKeepsLocalColumns_processChange {db : Database} {before : Db.DriveFile}
    (known : db.file before.id before.accountId = some before)
    (answers : ProcessChangeAnswers) {change : Change} (about : change.fileId = some before.id)
    (survives : change.removed.getD false = false) (syncMode : SyncMode) (mountPoint : String) :
    RowKeepsLocalColumns before
        (final (processChange answers before.accountId change syncMode mountPoint) db) ↔
      rewritesRow answers change before.id = false ∨ hasLocalRecord before = false := by
  have written := (processChange_spec answers before.accountId change syncMode mountPoint db).writes
  unfold RowKeepsLocalColumns Database.file
  rw [written.driveFiles]
  change (∃ after, (changeWritten answers before.accountId change db).file before.id
    before.accountId = some after ∧ LocalColumnsKept before after) ↔ _
  unfold rewritesRow
  cases record : change.file with
  | none =>
      rw [changeWritten_of_not_asked (changeWrite_of_no_record about survives record _)]
      simp only [Option.any_none, Bool.false_and, true_or, iff_true]
      exact ⟨before, known, rfl, rfl, id⟩
  | some apiFile =>
      rw [changeWritten_of_asked (changeWrite_of_record about survives record _), writeRuns_store,
        Option.any_some]
      by_cases sameFile : apiFile.id.getD "" = before.id
      · have upserted := rowKeepsLocalColumns_upsertFile known (answers.looksUp && answers.upserts)
          apiFile sameFile
        unfold RowKeepsLocalColumns at upserted
        rw [final_upsertFile, Bool.and_assoc] at upserted
        rw [decide_eq_true sameFile, Bool.true_and]
        exact upserted
      · rw [decide_eq_false sameFile, Bool.false_and]
        simp only [true_or, iff_true]
        refine ⟨before, ?_, rfl, rfl, id⟩
        cases answers.looksUp && (answers.upserts &&
            db.acceptsFile (mapApiFileToDb apiFile before.accountId)) with
        | false => exact known
        | true =>
            exact (Database.file_putFile db _ _ _).trans
              ((if_neg fun same => sameFile same.1.symm).trans known)

/-- A refresh of a known file, by a change or by the listing, keeps the local
columns exactly when the row is not rewritten or has nothing in them. -/
theorem refresh_keeps_local_columns_iff {db : Database} {before : Db.DriveFile}
    (known : db.file before.id before.accountId = some before) :
    (∀ answers change syncMode mountPoint, change.fileId = some before.id →
      change.removed.getD false = false →
      (RowKeepsLocalColumns before
          (final (processChange answers before.accountId change syncMode mountPoint) db) ↔
        rewritesRow answers change before.id = false ∨ hasLocalRecord before = false)) ∧
    (∀ runs (apiFile : Api.DriveFile), apiFile.id.getD "" = before.id →
      (RowKeepsLocalColumns before
          (final (upsertFile runs (mapApiFileToDb apiFile before.accountId)) db) ↔
        runs = false ∨ hasLocalRecord before = false)) := by
  refine ⟨?_, ?_⟩
  · intro answers change syncMode mountPoint about survives
    exact rowKeepsLocalColumns_processChange known answers about survives syncMode mountPoint
  · intro runs apiFile sameFile
    exact rowKeepsLocalColumns_upsertFile known runs apiFile sameFile

end Refresh

/-- A downloaded file, as `downloadFile` leaves its row. -/
def downloadedNotes : Db.DriveFile where
  id := "notes"
  accountId := "ann@example.com"
  name := "notes.txt"
  mimeType := "text/plain"
  parentId := none
  size := some 5
  etag := none
  version := some 1
  modifiedTime := some 0
  isTrashed := false
  isShared := false
  localPath := some "/mnt/notes.txt"
  syncState := .cached
  localMtime := some 10

/-- A database in which one account has one downloaded file. -/
def withDownloadedNotes : Database :=
  (Database.connected ⟨"ann@example.com", "ann@example.com", 0⟩).putFile downloadedNotes

/-- On the downloaded file the two refreshes are decided by the row alone. -/
theorem refresh_keeps_local_columns_iff_of_notes :
    (¬ RowKeepsLocalColumns downloadedNotes
      (final (upsertFile true
        (@mapApiFileToDb untimed (Api.DriveFile.named "notes" "notes.txt") "ann@example.com"))
        withDownloadedNotes)) := by
  intro kept
  have known : withDownloadedNotes.file downloadedNotes.id downloadedNotes.accountId =
      some downloadedNotes := by decide
  have decided := ((@refresh_keeps_local_columns_iff untimed _ _ known).2 true
    (Api.DriveFile.named "notes" "notes.txt") rfl).mp kept
  revert decided
  decide

/-- A change of the downloaded file makes its row forget the local copy. -/
theorem processChange_loses_local_columns :
    ¬ RowKeepsLocalColumns downloadedNotes
      (final (@processChange untimed (ProcessChangeAnswers.allRun 0) "ann@example.com"
        ⟨some "notes", some false, some (Api.DriveFile.named "notes" "notes.txt")⟩ .mirror "/mnt")
        withDownloadedNotes) := by
  rintro ⟨after, found, kept⟩
  have forgotten : ((final (@processChange untimed (ProcessChangeAnswers.allRun 0) "ann@example.com"
        ⟨some "notes", some false, some (Api.DriveFile.named "notes" "notes.txt")⟩ .mirror "/mnt")
        withDownloadedNotes).file downloadedNotes.id downloadedNotes.accountId).bind
          Db.DriveFile.localPath = none := by
    decide
  rw [found] at forgotten
  have path : after.localPath = some "/mnt/notes.txt" := kept.localPath
  exact Option.some_ne_none _ (path.symm.trans forgotten)

end Metadata
end GDriver
