import GDriver.Local.Owners
import GDriver.Local.Restores

namespace GDriver
namespace Local

open Library Routine Db Api Sync

/-!
# Content that is here already

A change is meant to ask for a download when the content is another one than the row recorded.
The row that the change is compared with is the one it has just been mapped to, and that one is
always remote; so a download is asked for whenever the path is covered.

What tells two contents of a file apart is a tag that the file resource carries and the row
records.  Which one it is does not matter here: the code looks at none.
-/

/-- The content of the file is present locally, as it was downloaded or as it has been edited: there
is a file at the path of the row, and the row does not say that it is yet to come. -/
structure HasContent (disk : String → Option DiskFile) (row : Db.DriveFile) : Prop where
  placed : (row.localPath.bind disk).isSome = true
  state : row.syncState ≠ .cloudOnly ∧ row.syncState ≠ .downloading

section Tags

variable [Rfc3339]

/-- A tag of the content of a file, as it is reported and as it is recorded from a report. -/
structure ContentTag where
  Tag : Type
  same : DecidableEq Tag
  reported : Api.DriveFile → Tag
  recorded : Db.DriveFile → Tag
  records : ∀ apiFile accountId, recorded (mapApiFileToDb apiFile accountId) = reported apiFile

instance (tag : ContentTag) : DecidableEq tag.Tag :=
  tag.same

/-- Contents are told apart by the etag. -/
def ContentTag.etag : ContentTag where
  Tag := Option String
  same := inferInstance
  reported := Api.DriveFile.etag
  recorded := DriveFile.etag
  records _ _ := rfl

/-- The change reports other content than the row recorded. -/
def contentDiffers (tag : ContentTag) (row : Db.DriveFile) (reported : Change) : Bool :=
  reported.file.any fun apiFile => tag.reported apiFile ≠ tag.recorded row

end Tags

/-- A download that was not there before. -/
def AsksDownload (before after : Database) : Prop :=
  ∃ taskId task, before.task taskId = none ∧ after.task taskId = some task ∧ task.operation = .download

/-- When content is present locally, a download is asked for exactly if the content is another
one. -/
def AsksForContent [Rfc3339] (tag : ContentTag) (disk : String → Option DiskFile) (before after : Database)
    (fileId accountId : String) (reported : Change) : Prop :=
  ∀ row, before.file fileId accountId = some row → row.isFolder = false → HasContent disk row →
    (AsksDownload before after ↔ contentDiffers tag row reported = true)

theorem asksDownload_putTask {before after : Database} {task : SyncTask} (download : task.operation = .download)
    (absent : before.task after.nextTaskId = none) : AsksDownload before (after.putTask task) :=
  ⟨after.nextTaskId, _, absent, Database.task_putTask_next after task, download⟩

theorem not_asksDownload {before after : Database} (same : ∀ taskId, after.task taskId = before.task taskId) :
    ¬ AsksDownload before after := by
  rintro ⟨taskId, task, absent, found, _⟩
  rw [same, absent] at found
  cases found

section Changes

variable [Rfc3339]

/-- The statements run, the file is not a folder, and the path it would get is covered. -/
def isFetched (answers : ProcessChangeAnswers) (accountId : String) (reported : Change) (syncMode : SyncMode)
    (mountPoint : String) (db : Database) : Bool :=
  reported.file.any fun apiFile =>
    let file := mapApiFileToDb apiFile accountId
    !file.isFolder && Metadata.writeRuns answers db (.store file) && answers.enqueues &&
      isCovered answers accountId syncMode (mirrorPath mountPoint file.name) db

/-- What is recorded of the file plays no part in whether a change asks for a download. -/
theorem asksDownload_iff {answers : ProcessChangeAnswers} {accountId : String} {reported : Change}
    {fileId : String} (about : reported.fileId = some fileId) (survives : reported.removed.getD false = false)
    (untrashed : ∀ apiFile, reported.file = some apiFile → apiFile.trashed ≠ some true) (syncMode : SyncMode)
    (mountPoint : String) (db : Database) :
    AsksDownload db (final (processChange answers accountId reported syncMode mountPoint) db) ↔
      isFetched answers accountId reported syncMode mountPoint db = true := by
  cases record : reported.file with
  | none =>
      have nothing : final (processChange answers accountId reported syncMode mountPoint) db = db := by
        simp only [processChange, about, survives, record, Bool.false_eq_true, if_false, final_pure]
      rw [nothing, isFetched, record]
      exact iff_of_false (not_asksDownload fun _ => rfl) Bool.false_ne_true
  | some apiFile =>
      have kept := untrashed apiFile record
      have fetched : isFetched answers accountId reported syncMode mountPoint db =
          (!(mapApiFileToDb apiFile accountId).isFolder &&
            Metadata.writeRuns answers db (.store (mapApiFileToDb apiFile accountId)) && answers.enqueues &&
              isCovered answers accountId syncMode
                (mirrorPath mountPoint (mapApiFileToDb apiFile accountId).name) db) := by
        rw [isFetched, record]
        rfl
      rw [fetched]
      by_cases folder : (mapApiFileToDb apiFile accountId).isFolder = true
      · have stored := @final_processChange_of_record _ answers accountId _ _ about survives _ record kept syncMode
          mountPoint db
        rw [folder]
        refine iff_of_false (not_asksDownload fun taskId => ?_) Bool.false_ne_true
        simp only [stored, enqueueDownloadForChange, folder, if_true, final_pure]
        split
        · exact Database.task_putFile db _ taskId
        · rfl
      · have regular := Bool.eq_false_iff.mpr folder
        rw [final_processChange_of_kept about survives record kept regular, regular, Bool.not_false, Bool.true_and]
        dsimp only
        split
        · next runs =>
            rw [runs, Bool.true_and, Bool.and_comm]
            split
            · next asks =>
                exact iff_of_true (asksDownload_putTask rfl (Database.task_nextTaskId db)) asks
            · next refused =>
                exact iff_of_false (not_asksDownload fun taskId => Database.task_putFile db _ taskId) refused
        · next fails =>
            rw [Bool.eq_false_iff.mpr fails]
            exact iff_of_false (not_asksDownload fun _ => rfl) Bool.false_ne_true

/-- Only other content is downloaded just when the content is another one exactly for what is
fetched on every change. -/
theorem asksForContent_iff (tag : ContentTag) (disk : String → Option DiskFile) {answers : ProcessChangeAnswers}
    {accountId : String} {reported : Change} {fileId : String} (about : reported.fileId = some fileId)
    (survives : reported.removed.getD false = false)
    (untrashed : ∀ apiFile, reported.file = some apiFile → apiFile.trashed ≠ some true) (syncMode : SyncMode)
    (mountPoint : String) (db : Database) :
    AsksForContent tag disk db (final (processChange answers accountId reported syncMode mountPoint) db)
        fileId accountId reported ↔
      ∀ row, db.file fileId accountId = some row → row.isFolder = false → HasContent disk row →
        contentDiffers tag row reported = isFetched answers accountId reported syncMode mountPoint db := by
  rw [AsksForContent]
  refine forall_congr' fun row => imp_congr_right fun _ => imp_congr_right fun _ => imp_congr_right fun _ => ?_
  rw [asksDownload_iff about survives untrashed syncMode mountPoint db]
  exact Iff.comm.trans Bool.eq_iff_iff.symm

end Changes

/-- Drive reports the notes with this name and etag. -/
def notesReported (name : String) (etag : Option String) : Change where
  fileId := some "notes"
  removed := some false
  file := some { Api.DriveFile.named "notes" name with etag := etag }

theorem untrashed_notesReported {name : String} {etag : Option String} (apiFile : Api.DriveFile)
    (record : (notesReported name etag).file = some apiFile) : apiFile.trashed ≠ some true := by
  rw [← Option.some.inj record]
  exact nofun

/-- The state in which the mirrored notes have been downloaded. -/
def notesHere : World :=
  (run (@System.exec untimed) mirroredNotes System.initial).world

theorem file_notesHere : notesHere.db.file "notes" "ann@example.com" = some notesRow := by decide

theorem hasContent_notesHere : HasContent notesHere.disk notesRow :=
  ⟨by decide, by decide, by decide⟩

/-- What the change of the notes leaves in this mode. -/
def afterReport (name : String) (etag : Option String) (syncMode : SyncMode) : Database :=
  final (@processChange untimed (ProcessChangeAnswers.allRun 15) "ann@example.com" (notesReported name etag) syncMode
    "/mnt") notesHere.db

/-- In mirror mode other content is fetched as it should be, and a rename in stream mode fetches
nothing, as it should not. -/
theorem asksForContent_of_reported_notes :
    @AsksForContent untimed (@ContentTag.etag untimed) notesHere.disk notesHere.db
        (afterReport "notes.txt" (some "second") .mirror) "notes" "ann@example.com"
        (notesReported "notes.txt" (some "second")) ∧
      AsksDownload notesHere.db (afterReport "notes.txt" (some "second") .mirror) ∧
      @AsksForContent untimed (@ContentTag.etag untimed) notesHere.disk notesHere.db
        (afterReport "plans.txt" none .stream) "notes" "ann@example.com" (notesReported "plans.txt" none) := by
  refine ⟨?_, ?_, ?_⟩
  · refine (@asksForContent_iff untimed (@ContentTag.etag untimed) notesHere.disk (ProcessChangeAnswers.allRun 15)
      "ann@example.com" (notesReported "notes.txt" (some "second")) "notes" rfl rfl untrashed_notesReported .mirror
      "/mnt" notesHere.db).mpr ?_
    rintro row found _ _
    cases found.symm.trans file_notesHere
    decide
  · exact (@asksDownload_iff untimed (ProcessChangeAnswers.allRun 15) "ann@example.com"
      (notesReported "notes.txt" (some "second")) "notes" rfl rfl untrashed_notesReported .mirror "/mnt"
      notesHere.db).mpr (by decide)
  · refine (@asksForContent_iff untimed (@ContentTag.etag untimed) notesHere.disk (ProcessChangeAnswers.allRun 15)
      "ann@example.com" (notesReported "plans.txt" none) "notes" rfl rfl untrashed_notesReported .stream "/mnt"
      notesHere.db).mpr ?_
    rintro row found _ _
    cases found.symm.trans file_notesHere
    decide

/-- The same content is downloaded once more, after a replay and after a rename. -/
theorem replayed_notes_fetched_again :
    ¬ @AsksForContent untimed (@ContentTag.etag untimed) notesHere.disk notesHere.db
        (afterReport "notes.txt" none .mirror) "notes" "ann@example.com" (notesReported "notes.txt" none) ∧
      ¬ @AsksForContent untimed (@ContentTag.etag untimed) notesHere.disk notesHere.db
        (afterReport "plans.txt" none .mirror) "notes" "ann@example.com" (notesReported "plans.txt" none) := by
  have again (name : String) (fetched : @isFetched untimed (ProcessChangeAnswers.allRun 15) "ann@example.com"
      (notesReported name none) .mirror "/mnt" notesHere.db = true) :
      ¬ @AsksForContent untimed (@ContentTag.etag untimed) notesHere.disk notesHere.db
        (afterReport name none .mirror) "notes" "ann@example.com" (notesReported name none) := by
    intro only
    have asks := (@asksDownload_iff untimed (ProcessChangeAnswers.allRun 15) "ann@example.com" (notesReported name none)
      "notes" rfl rfl untrashed_notesReported .mirror "/mnt" notesHere.db).mpr fetched
    have differs := (only notesRow file_notesHere rfl hasContent_notesHere).mp asks
    cases differs
  exact ⟨again "notes.txt" (by decide), again "plans.txt" (by decide)⟩

end Local
end GDriver
