import GDriver.System
import Mathlib.Order.Defs.Unbundled

namespace GDriver

open Library Routine Db Api Sync

/-!
# The moves of both syncs

The writes of the syncs change rows and enqueue tasks.  A relation between
databases that allows this allows every run of them.
-/

section Each

variable {allowed : Database → Database → Prop} [IsPreorder Database allowed]

theorem keeps_enqueue_of (runs : Bool) {task : SyncTask}
    (asks : ∀ db : Database, allowed db (db.putTask task)) : Keeps allowed (enqueue runs task) := by
  intro db
  rw [final_enqueue]
  split
  · exact asks db
  · exact Std.Refl.refl db

theorem keeps_upsertFile_of (runs : Bool) {file : Db.DriveFile}
    (stores : ∀ db : Database, allowed db (db.putFile file)) : Keeps allowed (upsertFile runs file) := by
  intro db
  rw [final_upsertFile]
  split
  · exact stores db
  · exact Std.Refl.refl db

/-- The download that a changed file may ask for. -/
def changeDownload (answers : ProcessChangeAnswers) (accountId mountPoint : String)
    (dbFile : Db.DriveFile) : SyncTask :=
  pendingTask answers.now accountId (some dbFile.id) .download
    (some (dbFile.localPath.getD (mirrorPath mountPoint dbFile.name))) 5

/-- A change asks for a download of the file at a path when the account mirrors its files, or
a sync folder covers the path. -/
def isCovered (answers : ProcessChangeAnswers) (accountId : String) (syncMode : SyncMode) (path : String)
    (db : Database) : Bool :=
  syncMode = .mirror || answers.listsFolders &&
    (db.syncFolders.records.filter fun folder => folder.accountId = accountId).any fun folder =>
      folder.isEnabled && startsWith path folder.localPath

/-- A regular file that is not there yet is downloaded when it is covered. -/
theorem final_enqueueDownloadForChange (answers : ProcessChangeAnswers) (accountId : String)
    {dbFile : Db.DriveFile} (regular : dbFile.isFolder = false) (remote : dbFile.syncState = .cloudOnly)
    (syncMode : SyncMode) (mountPoint : String) (db : Database) :
    final (enqueueDownloadForChange answers accountId dbFile syncMode mountPoint) db =
      if isCovered answers accountId syncMode (dbFile.localPath.getD (mirrorPath mountPoint dbFile.name)) db &&
          answers.enqueues then
        db.putTask (changeDownload answers accountId mountPoint dbFile)
      else db := by
  rw [enqueueDownloadForChange, regular, remote, if_neg Bool.false_ne_true]
  cases syncMode with
  | mirror =>
      dsimp only
      rw [final_attempt, final_enqueue]
      rfl
  | stream =>
      dsimp only
      have listed : outcome (listByAccount answers.listsFolders accountId) db =
          if answers.listsFolders then
            .ok (db.syncFolders.records.filter fun folder => folder.accountId = accountId)
          else .error databaseError := outcome_select _ _ _
      have reads : final (listByAccount answers.listsFolders accountId) db = db := final_select _ _ _
      rw [final_bind_of_ok (outcome_observe _ _), final_observe, reads, listed, isCovered]
      cases answers.listsFolders with
      | false => rfl
      | true =>
          simp only [if_true, Bool.true_and, reduceCtorEq, decide_false, Bool.false_or]
          cases ((db.syncFolders.records.filter fun folder => folder.accountId = accountId).any
              fun folder => folder.isEnabled &&
                startsWith (dbFile.localPath.getD (mirrorPath mountPoint dbFile.name)) folder.localPath) with
          | false => rfl
          | true =>
              rw [if_pos rfl, final_attempt, final_enqueue, Bool.true_and]
              rfl

theorem keeps_enqueueDownloadForChange_of {answers : ProcessChangeAnswers} {accountId : String}
    {dbFile : Db.DriveFile} {syncMode : SyncMode} {mountPoint : String}
    (downloads : dbFile.isFolder = false →
      ∀ db : Database, allowed db (db.putTask (changeDownload answers accountId mountPoint dbFile))) :
    Keeps allowed (enqueueDownloadForChange answers accountId dbFile syncMode mountPoint) := by
  rw [enqueueDownloadForChange]
  split
  · exact keeps_pure ()
  · next file =>
      have asks := downloads (Bool.eq_false_iff.mpr file)
      split
      · exact keeps_pure ()
      · exact keeps_pure ()
      · exact keeps_pure ()
      · exact keeps_pure ()
      · cases syncMode with
        | mirror => exact keeps_attempt (keeps_enqueue_of _ asks)
        | stream =>
            refine keeps_bind (keeps_observe (keeps_select _ _)) fun listed => ?_
            cases listed with
            | error failure => exact keeps_pure ()
            | ok folders =>
                dsimp only
                split
                · exact keeps_attempt (keeps_enqueue_of _ asks)
                · exact keeps_pure ()

/-- A change trashes a row and asks for a deletion, or stores the row of its record and
asks for a download. -/
theorem keeps_processChange_of [Rfc3339] {answers : ProcessChangeAnswers} {accountId : String}
    {change : Change} {syncMode : SyncMode} {mountPoint : String}
    (trashes : ∀ fileId, change.fileId = some fileId → change.removed.getD false = true →
      ∀ db : Database, allowed db
        (db.updateFileAt fileId accountId Db.DriveFile.trashed Db.DriveFile.key_trashed))
    (deletes : ∀ fileId localPath, change.fileId = some fileId → ∀ db : Database, allowed db
      (db.putTask (pendingTask answers.now accountId (some fileId) .delete localPath 5)))
    (stores : ∀ apiFile, change.file = some apiFile → change.removed.getD false = false →
      ∀ db : Database, allowed db (db.putFile (mapApiFileToDb apiFile accountId)))
    (downloads : ∀ apiFile, change.file = some apiFile → change.removed.getD false = false →
      apiFile.trashed ≠ some true → (mapApiFileToDb apiFile accountId).isFolder = false →
      ∀ db : Database, allowed db (db.putTask
        (changeDownload answers accountId mountPoint (mapApiFileToDb apiFile accountId)))) :
    Keeps allowed (processChange answers accountId change syncMode mountPoint) := by
  cases about : change.fileId with
  | none =>
      simp only [processChange, about]
      exact keeps_pure ()
  | some fileId =>
      have tasks (file : Db.DriveFile) :
          Keeps allowed (enqueueTask answers accountId fileId .delete file) :=
        keeps_attempt (keeps_enqueue_of _ (deletes fileId _ about))
      simp only [processChange, about]
      split
      · next removed =>
          refine keeps_bind (keeps_execute _ (trashes fileId about removed)) fun _ => ?_
          refine keeps_bind (keeps_select _ _) fun known => ?_
          cases known with
          | none => exact keeps_pure ()
          | some existing =>
              dsimp only
              split
              · exact tasks _
              · exact keeps_pure ()
      · next remains =>
          have present := Bool.eq_false_iff.mpr remains
          cases record : change.file with
          | none => exact keeps_pure ()
          | some apiFile =>
              refine keeps_bind (keeps_select _ _) fun known => ?_
              refine keeps_bind (keeps_upsertFile_of _ (stores apiFile record present)) fun _ => ?_
              split
              · split
                · exact tasks _
                · exact keeps_pure ()
              · next kept =>
                  have asks := @keeps_enqueueDownloadForChange_of _ _ _ _ _ syncMode _
                    (downloads apiFile record present kept)
                  split
                  · exact asks
                  · exact asks

/-- A file that Mirror mode gives a path, and its turn. -/
structure Placement where
  turn : Nat
  file : Db.DriveFile
  path : String

/-- The row of a placed file. -/
def Placement.row (placement : Placement) : Db.DriveFile :=
  { placement.file with localPath := some placement.path }

/-- The download of a placed file. -/
def Placement.download (placement : Placement) (now : Int) (accountId : String) : SyncTask :=
  pendingTask now accountId (some placement.file.id) .download (some placement.path) 5

/-- The files of a list that get a path, up to the first row that is not stored. -/
def placementsFrom (answers : MirrorAnswers) (mountPoint : String) (folders : List String)
    (nameMap : String → Option (String × Option String)) : Nat → List Db.DriveFile → List Placement
  | _, [] => []
  | turn, file :: rest =>
      if needsMirroring folders file then
        match resolveRelativePath answers.steps file.id nameMap with
        | none => []
        | some relativePath =>
            if answers.upserts turn then
              ⟨turn, file, mirrorPath mountPoint relativePath⟩ ::
                placementsFrom answers mountPoint folders nameMap (turn + 1) rest
            else []
      else placementsFrom answers mountPoint folders nameMap (turn + 1) rest

theorem of_mem_placementsFrom {answers : MirrorAnswers} {mountPoint : String} {folders : List String}
    {nameMap : String → Option (String × Option String)} {turn : Nat} {files : List Db.DriveFile}
    {placement : Placement} (placed : placement ∈ placementsFrom answers mountPoint folders nameMap turn files) :
    placement.file ∈ files ∧ needsMirroring folders placement.file = true ∧
      ∃ relativePath, resolveRelativePath answers.steps placement.file.id nameMap = some relativePath ∧
        placement.path = mirrorPath mountPoint relativePath := by
  induction files generalizing turn with
  | nil => cases placed
  | cons file rest inductionHypothesis =>
      have later {turn : Nat} (member : placement ∈ placementsFrom answers mountPoint folders nameMap turn rest) :=
        (inductionHypothesis member).imp_left (List.mem_cons_of_mem file)
      rw [placementsFrom] at placed
      split at placed
      · next needed =>
          split at placed
          · cases placed
          · next relativePath resolved =>
              split at placed
              · rcases List.mem_cons.mp placed with here | member
                · rw [here]
                  exact ⟨List.mem_cons_self, needed, relativePath, resolved, rfl⟩
                · exact later member
              · cases placed
      · exact later placed

/-- Files are mirrored by placing them, one after the other. -/
theorem keeps_mirrorFiles_of_placements {answers : MirrorAnswers} {accountId mountPoint : String}
    {folders : List String} {nameMap : String → Option (String × Option String)} {turn : Nat}
    {files : List Db.DriveFile}
    (places : ∀ placement ∈ placementsFrom answers mountPoint folders nameMap turn files,
      ∀ db : Database, allowed db (db.putFile placement.row))
    (asks : ∀ placement ∈ placementsFrom answers mountPoint folders nameMap turn files,
      answers.enqueues placement.turn = true →
        ∀ db : Database, allowed db (db.putTask (placement.download answers.now accountId))) :
    Keeps allowed (mirrorFiles answers accountId mountPoint folders nameMap turn files) := by
  induction files generalizing turn with
  | nil => exact keeps_pure 0
  | cons file rest inductionHypothesis =>
      rw [placementsFrom] at places asks
      rw [mirrorFiles]
      split
      · next needed =>
          rw [if_pos needed] at places asks
          split
          · exact keeps_throw stopped
          · next relativePath resolved =>
              rw [resolved] at places asks
              cases stores : answers.upserts turn with
              | false =>
                  refine keeps_bind_of_answers (fun db => ?_) fun db done answered => ?_
                  · rw [final_upsertFile, Bool.false_and, if_neg Bool.false_ne_true]
                    exact Std.Refl.refl db
                  · rw [outcome_upsertFile, Bool.false_and, if_neg Bool.false_ne_true] at answered
                    cases answered
              | true =>
                  dsimp only at places asks
                  rw [if_pos stores] at places asks
                  have here := List.mem_cons_self
                    (a := (⟨turn, file, mirrorPath mountPoint relativePath⟩ : Placement))
                    (l := placementsFrom answers mountPoint folders nameMap (turn + 1) rest)
                  refine keeps_bind (keeps_upsertFile_of _ (places _ here)) fun _ => ?_
                  refine keeps_bind (keeps_observe fun db => ?_) fun enqueued => ?_
                  · rw [final_enqueue]
                    split
                    · next enqueues => exact asks _ here enqueues db
                    · exact Std.Refl.refl db
                  refine keeps_bind (inductionHypothesis
                    (fun placement member => places placement (List.mem_cons_of_mem _ member))
                    fun placement member => asks placement (List.mem_cons_of_mem _ member)) fun count => ?_
                  cases enqueued with
                  | ok task => exact keeps_pure _
                  | error failure => exact keeps_pure _
      · next spared =>
          rw [if_neg spared] at places asks
          exact inductionHypothesis places asks

/-- A file that is mirrored gets its path and a download task. -/
theorem keeps_mirrorFiles_of {answers : MirrorAnswers} {accountId mountPoint : String}
    {folders : List String} {nameMap : String → Option (String × Option String)}
    {files : List Db.DriveFile}
    (places : ∀ file ∈ files, needsMirroring folders file = true → ∀ relativePath,
      resolveRelativePath answers.steps file.id nameMap = some relativePath → ∀ db : Database,
        allowed db (db.putFile { file with localPath := some (mirrorPath mountPoint relativePath) }))
    (asks : ∀ file ∈ files, needsMirroring folders file = true → ∀ relativePath,
      resolveRelativePath answers.steps file.id nameMap = some relativePath → ∀ db : Database,
        allowed db (db.putTask (pendingTask answers.now accountId (some file.id) .download
          (some (mirrorPath mountPoint relativePath)) 5))) (index : Nat) :
    Keeps allowed (mirrorFiles answers accountId mountPoint folders nameMap index files) := by
  refine keeps_mirrorFiles_of_placements (fun placement member db => ?_) fun placement member _ db => ?_
  · rcases of_mem_placementsFrom member with ⟨listed, needed, relativePath, resolved, path⟩
    rw [Placement.row, path]
    exact places placement.file listed needed relativePath resolved db
  · rcases of_mem_placementsFrom member with ⟨listed, needed, relativePath, resolved, path⟩
    rw [Placement.download, path]
    exact asks placement.file listed needed relativePath resolved db

/-- The files that Mirror mode places for an account. -/
def placements (answers : MirrorAnswers) (accountId mountPoint : String) (db : Database) :
    List Placement :=
  let allFiles := Database.filesOfAccount db accountId
  if answers.listsFiles then
    placementsFrom answers mountPoint ((allFiles.filter Db.DriveFile.isFolder).map Db.DriveFile.id)
      (nameMapOf allFiles) 0 allFiles
  else []

/-- A file that Mirror mode places is stored for the account. -/
theorem stored_of_mem_placements {answers : MirrorAnswers} {accountId mountPoint : String} {db : Database}
    {placement : Placement} (placed : placement ∈ placements answers accountId mountPoint db) :
    db.file placement.file.id accountId = some placement.file := by
  rw [placements] at placed
  split at placed
  · have listed := (of_mem_placementsFrom placed).1
    rw [Database.filesOfAccount, List.mem_filter, Bool.and_eq_true] at listed
    have owned := of_decide_eq_true listed.2.1
    have stored := (db.driveFiles.mem_records_iff placement.file).mp listed.1
    rw [DriveFile.key, owned] at stored
    exact stored
  · cases placed

theorem moves_enqueueMirrorDownloads {answers : MirrorAnswers} {accountId mountPoint : String}
    {db : Database}
    (places : ∀ placement ∈ placements answers accountId mountPoint db,
      ∀ db : Database, allowed db (db.putFile placement.row))
    (asks : ∀ placement ∈ placements answers accountId mountPoint db,
      answers.enqueues placement.turn = true →
        ∀ db : Database, allowed db (db.putTask (placement.download answers.now accountId))) :
    allowed db (final (enqueueMirrorDownloads answers accountId mountPoint) db) := by
  have listed : outcome (select answers.listsFiles fun db => Database.filesOfAccount db accountId) db =
      if answers.listsFiles then .ok (Database.filesOfAccount db accountId) else .error databaseError :=
    outcome_select _ _ _
  rw [enqueueMirrorDownloads, final_bind, listed, final_select]
  rw [placements] at places asks
  cases lists : answers.listsFiles with
  | false => exact Std.Refl.refl db
  | true =>
      rw [if_pos lists] at places asks
      exact keeps_mirrorFiles_of_placements places asks db

end Each

/-- The relation allows to change file rows and to enqueue new tasks. -/
structure AllowsSync (allowed : Database → Database → Prop) : Prop where
  rows : ∀ db table, allowed db { db with driveFiles := table }
  enqueue : ∀ db task, task.IsNew → allowed db (db.putTask task)

variable {allowed : Database → Database → Prop} [IsPreorder Database allowed]
  (allows : AllowsSync allowed)
include allows

theorem keeps_enqueue_of_allows (runs : Bool) {task : SyncTask} (new : task.IsNew) :
    Keeps allowed (enqueue runs task) :=
  keeps_enqueue_of runs fun db => allows.enqueue db task new

theorem keeps_upsertFile (runs : Bool) (file : Db.DriveFile) :
    Keeps allowed (upsertFile runs file) :=
  keeps_upsertFile_of runs fun db => allows.rows db _

theorem keeps_processChange [Rfc3339] (answers : ProcessChangeAnswers) (accountId : String)
    (change : Change) (syncMode : SyncMode) (mountPoint : String) :
    Keeps allowed (processChange answers accountId change syncMode mountPoint) :=
  keeps_processChange_of (fun _ _ _ db => allows.rows db _) (fun _ _ _ db => allows.enqueue db _ ⟨rfl, rfl⟩)
    (fun _ _ _ db => allows.rows db _) fun _ _ _ _ _ db => allows.enqueue db _ ⟨rfl, rfl⟩

theorem keeps_mirrorFiles (answers : MirrorAnswers) (accountId mountPoint : String)
    (folders : List String) (nameMap : String → Option (String × Option String)) (index : Nat)
    (files : List Db.DriveFile) :
    Keeps allowed (mirrorFiles answers accountId mountPoint folders nameMap index files) :=
  keeps_mirrorFiles_of (fun _ _ _ _ _ db => allows.rows db _)
    (fun _ _ _ _ _ db => allows.enqueue db _ ⟨rfl, rfl⟩) index

theorem keeps_enqueueMirrorDownloads (answers : MirrorAnswers) (accountId mountPoint : String) :
    Keeps allowed (enqueueMirrorDownloads answers accountId mountPoint) :=
  keeps_bind (keeps_select _ _) fun _ => keeps_mirrorFiles allows _ _ _ _ _ _ _

end GDriver
