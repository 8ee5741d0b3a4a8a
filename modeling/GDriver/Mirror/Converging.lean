import GDriver.Mirror.Eligible
import GDriver.World

namespace GDriver
namespace Mirror

open Library Routine Db Api Sync

/-!
# Rows that stay without their content

A row gets its path before there is anything at the path, and a path counts as proof of the
content from then on, as does the state of a row.  A download that was not enqueued, or that
failed for good, is therefore not made up for by a later call: the call passes the row over,
also when what is at its path is another file of the same name.

Which bytes are the content of a file is left open: those that Drive has of it, or also what
its user has made of them since.
-/

/-- The content of the row's file is stored at its path. -/
def OnDisk (isContent : Db.DriveFile → List UInt8 → Prop) (disk : String → Option DiskFile)
    (file : Db.DriveFile) : Prop :=
  ∃ stored ∈ file.localPath.bind disk, isContent file stored.bytes

/-- These are the bytes that Drive has of the file. -/
def DriveHas (drive : String → Option RemoteFile) (file : Db.DriveFile) (bytes : List UInt8) : Prop :=
  (drive file.id).map RemoteFile.bytes = some bytes

instance (drive : String → Option RemoteFile) (file : Db.DriveFile) (bytes : List UInt8) :
    Decidable (DriveHas drive file bytes) :=
  inferInstanceAs (Decidable (_ = _))

section Content

variable (isContent : Db.DriveFile → List UInt8 → Prop)

instance [∀ file bytes, Decidable (isContent file bytes)] (disk : String → Option DiskFile) (file : Db.DriveFile) :
    Decidable (OnDisk isContent disk file) :=
  inferInstanceAs (Decidable (∃ stored ∈ file.localPath.bind disk, isContent file stored.bytes))

/-- The task is to download the file, and neither done nor given up. -/
def IsOpenDownload (file : Db.DriveFile) (task : SyncTask) : Prop :=
  task.operation = .download ∧ task.accountId = file.accountId ∧ task.fileId = some file.id ∧
    (task.status = .pending ∨ task.status = .inProgress)

instance (file : Db.DriveFile) (task : SyncTask) : Decidable (IsOpenDownload file task) :=
  inferInstanceAs (Decidable (_ ∧ _))

/-- Some task is an open download of the file. -/
def Awaited (db : Database) (file : Db.DriveFile) : Prop :=
  ∃ task ∈ db.syncQueue.records, IsOpenDownload file task

instance (db : Database) (file : Db.DriveFile) : Decidable (Awaited db file) :=
  inferInstanceAs (Decidable (∃ task ∈ db.syncQueue.records, IsOpenDownload file task))

/-- Every file of the account whose content is not on disk is awaited. -/
def Converged (accountId : String) (disk : String → Option DiskFile) (db : Database) : Prop :=
  ∀ file ∈ Database.filesOfAccount db accountId, file.isFolder = false → OnDisk isContent disk file ∨ Awaited db file

instance [∀ file bytes, Decidable (isContent file bytes)] (accountId : String) (disk : String → Option DiskFile)
    (db : Database) : Decidable (Converged isContent accountId disk db) :=
  inferInstanceAs (Decidable (∀ file ∈ Database.filesOfAccount db accountId,
    file.isFolder = false → OnDisk isContent disk file ∨ Awaited db file))

end Content

section Tasks

variable {answers : MirrorAnswers} {accountId : String} {file : Db.DriveFile}

theorem records_putTask (db : Database) (task : SyncTask) :
    (db.putTask task).syncQueue.records = db.syncQueue.records ++ [{ task with id := some db.nextTaskId }] :=
  List.map_append

theorem awaited_putTask_iff {db : Database} {task : SyncTask} :
    Awaited (db.putTask task) file ↔ Awaited db file ∨ IsOpenDownload file task := by
  rw [Awaited, records_putTask]
  constructor
  · rintro ⟨found, member, asks⟩
    rcases List.mem_append.mp member with before | last
    · exact Or.inl ⟨found, before, asks⟩
    · rw [List.mem_singleton.mp last] at asks
      exact Or.inr asks
  · rintro (⟨found, member, asks⟩ | asks)
    · exact ⟨found, List.mem_append_left _ member, asks⟩
    · exact ⟨_, List.mem_append_right _ List.mem_cons_self, asks⟩

theorem isOpenDownload_placement {placement : Placement} {now : Int} (owned : file.accountId = accountId) :
    IsOpenDownload file (placement.download now accountId) ↔ placement.file.id = file.id := by
  constructor
  · rintro ⟨_, _, about, _⟩
    exact Option.some.inj about
  · intro same
    exact ⟨rfl, owned.symm, congrArg some same, Or.inl rfl⟩

/-- After the placements a file is awaited if it was, or if a placement of it was enqueued. -/
theorem awaited_foldl_place (owned : file.accountId = accountId) (placements : List Placement) (db : Database) :
    Awaited (placements.foldl (place answers accountId) db) file ↔
      Awaited db file ∨
        ∃ placement ∈ placements, placement.file.id = file.id ∧ answers.enqueues placement.turn = true := by
  induction placements generalizing db with
  | nil => simp
  | cons placement rest inductionHypothesis =>
      have here : Awaited (place answers accountId db placement) file ↔
          Awaited db file ∨ (placement.file.id = file.id ∧ answers.enqueues placement.turn = true) := by
        rw [place]
        cases taken : answers.enqueues placement.turn with
        | false =>
            simp only [Bool.false_eq_true, if_false, and_false, or_false]
            rfl
        | true =>
            simp only [if_true, and_true]
            rw [awaited_putTask_iff, isOpenDownload_placement owned]
            rfl
      rw [List.foldl_cons, inductionHypothesis, here, or_assoc]
      simp only [List.mem_cons, exists_eq_or_imp]

end Tasks

section Converging

variable {answers : MirrorAnswers} {accountId mountPoint : String} {db : Database}

/-- The placements are those of the listed files that need one, each in its turn. -/
theorem exists_placementFrom_iff {folders : List String} {nameMap : String → Option (String × Option String)}
    {turn : Nat} {files : List Db.DriveFile}
    (finished : mirrorFailure answers folders nameMap turn files = none) {condition : Nat → Db.DriveFile → Prop} :
    (∃ placement ∈ placementsFrom answers mountPoint folders nameMap turn files,
        condition placement.turn placement.file) ↔
      ∃ index file, files[index]? = some file ∧ needsMirroring folders file = true ∧
        condition (turn + index) file := by
  induction files generalizing turn with
  | nil => simp [placementsFrom]
  | cons first rest inductionHypothesis =>
      have shift : (∃ index file, (first :: rest)[index]? = some file ∧ needsMirroring folders file = true ∧
            condition (turn + index) file) ↔
          (needsMirroring folders first = true ∧ condition turn first) ∨
            ∃ index file, rest[index]? = some file ∧ needsMirroring folders file = true ∧
              condition (turn + 1 + index) file := by
        constructor
        · rintro ⟨index, file, at_, needed, holds⟩
          cases index with
          | zero =>
              rw [List.getElem?_cons_zero] at at_
              rw [Option.some.inj at_]
              exact Or.inl ⟨needed, holds⟩
          | succ index =>
              rw [List.getElem?_cons_succ] at at_
              rw [Nat.add_comm index 1, ← Nat.add_assoc] at holds
              exact Or.inr ⟨index, file, at_, needed, holds⟩
        · rintro (⟨needed, holds⟩ | ⟨index, file, at_, needed, holds⟩)
          · exact ⟨0, first, List.getElem?_cons_zero, needed, holds⟩
          · refine ⟨index + 1, file, ?_, needed, ?_⟩
            · rw [List.getElem?_cons_succ]
              exact at_
            · rw [Nat.add_comm index 1, ← Nat.add_assoc]
              exact holds
      rw [shift, placementsFrom]
      rw [mirrorFailure] at finished
      split
      · next needed =>
          rw [if_pos needed] at finished
          cases resolved : resolveRelativePath answers.steps first.id nameMap with
          | none =>
              rw [resolved] at finished
              cases finished
          | some relativePath =>
              rw [resolved, Option.isNone_some, if_neg Bool.false_ne_true] at finished
              dsimp only
              split
              · next stores =>
                  rw [if_pos stores] at finished
                  simp only [List.mem_cons, exists_eq_or_imp, needed, true_and]
                  rw [inductionHypothesis finished]
              · next refused =>
                  rw [if_neg refused] at finished
                  cases finished
      · next spared =>
          rw [if_neg spared] at finished
          rw [inductionHypothesis finished]
          exact (or_iff_right fun here => spared here.1).symm

theorem nodup_filesOfAccount (db : Database) (accountId : String) : (Database.filesOfAccount db accountId).Nodup := by
  have keyed : (db.driveFiles.records.map DriveFile.key).Nodup := by
    rw [Table.records, List.map_map]
    exact db.driveFiles.unique
  exact (keyed.of_map).sublist List.filter_sublist

/-- Listed rows of one id are one row. -/
theorem eq_of_listed {file other : Db.DriveFile} (listed : file ∈ Database.filesOfAccount db accountId)
    (there : other ∈ Database.filesOfAccount db accountId) (same : other.id = file.id) : other = file := by
  have found := (mem_filesOfAccount.mp there).1
  rw [same, (mem_filesOfAccount.mp listed).1] at found
  exact (Option.some.inj found).symm

section Finished

variable (lists : answers.listsFiles = true)
  (finished : mirrorFailure answers (listedFolders db accountId)
    (nameMapOf (Database.filesOfAccount db accountId)) 0 (Database.filesOfAccount db accountId) = none)
include lists finished

/-- A listed file is enqueued when it is eligible and the queue takes the task of its turn. -/
theorem exists_enqueued_iff {turn : Nat} {file : Db.DriveFile}
    (at_ : (Database.filesOfAccount db accountId)[turn]? = some file) :
    (∃ placement ∈ placements answers accountId mountPoint db,
        placement.file.id = file.id ∧ answers.enqueues placement.turn = true) ↔
      isEligible accountId file = true ∧ answers.enqueues turn = true := by
  have listed := List.mem_of_getElem? at_
  rw [placements_of_lists lists,
    @exists_placementFrom_iff answers mountPoint _ _ 0 _ finished fun turn other =>
      other.id = file.id ∧ answers.enqueues turn = true]
  constructor
  · rintro ⟨index, other, there, needed, same, takes⟩
    have itself := eq_of_listed listed (List.mem_of_getElem? there) same
    rw [itself] at there needed
    rw [needsMirroring_eq listed] at needed
    have within : index < (Database.filesOfAccount db accountId).length := (List.getElem?_eq_some_iff.mp there).1
    have turns := (List.getElem?_inj within (nodup_filesOfAccount db accountId)).mp (there.trans at_.symm)
    rw [Nat.zero_add, turns] at takes
    exact ⟨needed, takes⟩
  · rintro ⟨eligible, takes⟩
    rw [← needsMirroring_eq listed] at eligible
    refine ⟨turn, file, at_, eligible, rfl, ?_⟩
    rw [Nat.zero_add]
    exact takes

/-- After a call that got to its end, each listed row is there as before or with its path. -/
theorem filesOfAccount_final :
    Database.filesOfAccount (final (enqueueMirrorDownloads answers accountId mountPoint) db) accountId =
      (Database.filesOfAccount db accountId).map fun file =>
        if isEligible accountId file then
          mirrored mountPoint (Database.filesOfAccount db accountId) file
        else file := by
  rw [Database.filesOfAccount, driveFiles_of_finished finished lists]
  have records : (db.driveFiles.update (fun row => isEligible accountId row.data)
        (mirrored mountPoint (Database.filesOfAccount db accountId)) (key_mirrored mountPoint _)).records =
      db.driveFiles.records.map fun file =>
        if isEligible accountId file then
          mirrored mountPoint (Database.filesOfAccount db accountId) file
        else file := by
    rw [Table.records, Table.records]
    change (List.map _ _).map _ = _
    rw [List.map_map, List.map_map]
    apply List.map_congr_left
    intro row _
    simp only [Function.comp_apply]
    split
    · rfl
    · rfl
  rw [records, List.filter_map, Database.filesOfAccount]
  congr 1
  apply List.filter_congr
  intro file _
  simp only [Function.comp_apply]
  split
  · rfl
  · rfl

end Finished

/-- What has to hold of rows and queue for one call to make up for everything. -/
structure NothingPassedOver (isContent : Db.DriveFile → List UInt8 → Prop) (answers : MirrorAnswers)
    (accountId mountPoint : String) (disk : String → Option DiskFile) (db : Database) : Prop where
  /-- The files that are passed over are on disk or awaited already. -/
  passed : ∀ file ∈ Database.filesOfAccount db accountId, file.isFolder = false →
    isEligible accountId file = false → OnDisk isContent disk file ∨ Awaited db file
  /-- The queue takes the task of each eligible row, unless its content is there anyway. -/
  placed : ∀ turn file, (Database.filesOfAccount db accountId)[turn]? = some file →
    isEligible accountId file = true → answers.enqueues turn = true ∨
      OnDisk isContent disk (mirrored mountPoint (Database.filesOfAccount db accountId) file) ∨ Awaited db file

theorem not_isFolder_of_isEligible {file : Db.DriveFile} (eligible : isEligible accountId file = true) :
    file.isFolder = false := by
  simp only [isEligible, Bool.and_eq_true, Bool.not_eq_true'] at eligible
  exact eligible.1.1.2

/-- A call that answers has met no failure before. -/
theorem finished_of_ok {count : Nat}
    (done : outcome (enqueueMirrorDownloads answers accountId mountPoint) db = .ok count) :
    answers.listsFiles = true ∧ mirrorFailure answers (listedFolders db accountId)
      (nameMapOf (Database.filesOfAccount db accountId)) 0 (Database.filesOfAccount db accountId) = none := by
  cases lists : answers.listsFiles with
  | false =>
      rw [outcome_of_not_listed lists] at done
      cases done
  | true =>
      rw [outcome_enqueueMirrorDownloads lists] at done
      cases failed : mirrorFailure answers (listedFolders db accountId)
          (nameMapOf (Database.filesOfAccount db accountId)) 0 (Database.filesOfAccount db accountId) with
      | none => exact ⟨rfl, rfl⟩
      | some failure =>
          rw [failed] at done
          cases done

/-- Once a call has answered, every file whose content is not on disk is awaited exactly when the
contents of the rows it passed over were on disk or awaited before, and the queue took the task of
every other row. -/
theorem converged_iff_nothing_passed_over (isContent : Db.DriveFile → List UInt8 → Prop)
    (disk : String → Option DiskFile) {count : Nat}
    (done : outcome (enqueueMirrorDownloads answers accountId mountPoint) db = .ok count) :
    Converged isContent accountId disk (final (enqueueMirrorDownloads answers accountId mountPoint) db) ↔
      NothingPassedOver isContent answers accountId mountPoint disk db := by
  rcases finished_of_ok done with ⟨lists, finished⟩
  have awaited {turn : Nat} {file : Db.DriveFile} (at_ : (Database.filesOfAccount db accountId)[turn]? = some file) :
      Awaited (final (enqueueMirrorDownloads answers accountId mountPoint) db) file ↔
        Awaited db file ∨ (isEligible accountId file = true ∧ answers.enqueues turn = true) := by
    have owned := (mem_filesOfAccount.mp (List.mem_of_getElem? at_)).2.1
    rw [final_enqueueMirrorDownloads, awaited_foldl_place owned, exists_enqueued_iff lists finished at_]
  rw [Converged, filesOfAccount_final lists finished, List.forall_mem_map]
  constructor
  · intro converged
    constructor
    · intro file listed regular spared
      rcases List.mem_iff_getElem?.mp listed with ⟨turn, at_⟩
      have settled := converged file listed
      rw [spared, if_neg Bool.false_ne_true, awaited at_] at settled
      refine (settled regular).imp_right fun asked => ?_
      rcases asked with before | ⟨eligible, _⟩
      · exact before
      · rw [eligible] at spared
        cases spared
    · intro turn file at_ eligible
      have settled := converged file (List.mem_of_getElem? at_)
      rw [if_pos eligible] at settled
      have regular : file.isFolder = false := not_isFolder_of_isEligible eligible
      rcases settled regular with stored | asked
      · exact Or.inr (Or.inl stored)
      · rcases (awaited at_).mp asked with before | ⟨_, takes⟩
        · exact Or.inr (Or.inr before)
        · exact Or.inl takes
  · intro nothing file listed
    rcases List.mem_iff_getElem?.mp listed with ⟨turn, at_⟩
    cases eligible : isEligible accountId file with
    | false =>
        rw [if_neg Bool.false_ne_true, awaited at_]
        intro regular
        exact (nothing.passed file listed regular eligible).imp_right Or.inl
    | true =>
        rw [if_pos rfl]
        intro _
        rcases nothing.placed turn file at_ eligible with takes | stored | before
        · exact Or.inr ((awaited at_).mpr (Or.inr ⟨eligible, takes⟩))
        · exact Or.inl stored
        · exact Or.inr ((awaited at_).mpr (Or.inl before))

end Converging

/-- The notes are listed and mirrored, but the queue does not take the download. -/
def mirrorsUnasked : List Operation :=
  foldersChangePlaces.take 4 ++
    [.sync (.mirror { MirrorAnswers.allRun 4 7 with enqueues := fun _ => false } "ann@example.com" "/mnt")]

/-- The state in which the notes have a path and no download. -/
def unaskedWorld : World :=
  (run (@System.exec untimed) mirrorsUnasked System.initial).world

/-- Two files of these names are listed, and mirrored as far as the queue takes their downloads.
That of the first is carried out. -/
def mirrorsBoth (first second : String) (enqueues : Nat → Bool) : List Operation := [
  .sync (.connect true ⟨"ann@example.com", "ann@example.com", 0⟩),
  .sync (.listed true "ann@example.com" (Api.DriveFile.named "one" first)),
  .sync (.listed true "ann@example.com" (Api.DriveFile.named "two" second)),
  .sync (.mirror { MirrorAnswers.allRun 4 7 with enqueues := enqueues } "ann@example.com" "/mnt"),
  .engine (.begin true (TaskAnswers.allRun ⟨none, .error "no upload", []⟩ ⟨[1], 10⟩ 5)),
  .engine (.land (DownloadAnswers.allRun ⟨[1], 10⟩ 5)),
  .engine (.record (DownloadAnswers.allRun ⟨[1], 10⟩ 5))]

def mirroredBoth (first second : String) (enqueues : Nat → Bool) : World :=
  (run (@System.exec untimed) (mirrorsBoth first second enqueues) System.initial).world

/-- What Drive has of both files. -/
def driveOfBoth (fileId : String) : Option RemoteFile :=
  if fileId = "one" then some ⟨"one", "text/plain", ["root"], [1]⟩
  else if fileId = "two" then some ⟨"two", "text/plain", ["root"], [2]⟩
  else none

/-- The first file is on disk, the second is awaited: the later call has nothing to make up for. -/
theorem converged_after_download :
    (Database.filesOfAccount (mirroredBoth "notes.txt" "plans.txt" fun _ => true).db "ann@example.com").map (fun file =>
        (file.id, decide (OnDisk (DriveHas driveOfBoth) (mirroredBoth "notes.txt" "plans.txt" fun _ => true).disk file),
          decide (Awaited (mirroredBoth "notes.txt" "plans.txt" fun _ => true).db file))) =
        [("one", true, false), ("two", false, true)] ∧
      NothingPassedOver (DriveHas driveOfBoth) (MirrorAnswers.allRun 4 9) "ann@example.com" "/mnt"
        (mirroredBoth "notes.txt" "plans.txt" fun _ => true).disk
        (mirroredBoth "notes.txt" "plans.txt" fun _ => true).db :=
  ⟨by decide, (@converged_iff_nothing_passed_over _ _ _ _ (DriveHas driveOfBoth) _ 0 (by decide)).mp (by decide)⟩

/-- A later call answers that there is nothing to do, though the notes are neither on disk nor
awaited; and so it does when another file is at the path of a row that was never downloaded. -/
theorem later_call_passes_notes_over :
    (outcome (enqueueMirrorDownloads (MirrorAnswers.allRun 4 9) "ann@example.com" "/mnt") unaskedWorld.db = .ok 0 ∧
      ¬ Converged (DriveHas driveOfBoth) "ann@example.com" unaskedWorld.disk
        (final (enqueueMirrorDownloads (MirrorAnswers.allRun 4 9) "ann@example.com" "/mnt") unaskedWorld.db)) ∧
    (outcome (enqueueMirrorDownloads (MirrorAnswers.allRun 4 9) "ann@example.com" "/mnt")
        (mirroredBoth "notes.txt" "notes.txt" fun turn => turn = 0).db = .ok 0 ∧
      ¬ Converged (DriveHas driveOfBoth) "ann@example.com"
        (mirroredBoth "notes.txt" "notes.txt" fun turn => turn = 0).disk
        (final (enqueueMirrorDownloads (MirrorAnswers.allRun 4 9) "ann@example.com" "/mnt")
          (mirroredBoth "notes.txt" "notes.txt" fun turn => turn = 0).db)) := by
  decide

end Mirror
end GDriver
