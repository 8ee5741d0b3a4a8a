import GDriver.Mirror.Chains

namespace GDriver
namespace Mirror

open Library Routine Db Api Sync

/-!
# What mirroring touches

A call that is not disturbed gives every eligible row its path, in place, and appends one
download for each, in the order of the scan.  Then no row is eligible any more.
-/

/-- Whether a row of the table is one that a call for the account gives a path. -/
def isEligible (accountId : String) (file : Db.DriveFile) : Bool :=
  file.accountId = accountId && !file.isTrashed && !file.isFolder && file.localPath.isNone &&
    !([SyncState.cached, .synced, .offline, .downloading].contains file.syncState)

/-- The eligible rows, in scan order. -/
def eligibleFiles (accountId : String) (db : Database) : List Db.DriveFile :=
  db.driveFiles.records.filter (isEligible accountId)

/-- The path of a listed file below the mount point. -/
def pathBelow (files : List Db.DriveFile) (fileId : String) : String :=
  (resolveRelativePath (files.length + 1) fileId (nameMapOf files)).getD ""

/-- The row with its path under the mount point. -/
def mirrored (mountPoint : String) (files : List Db.DriveFile) (file : Db.DriveFile) : Db.DriveFile :=
  { file with localPath := some (mirrorPath mountPoint (pathBelow files file.id)) }

@[simp] theorem key_mirrored (mountPoint : String) (files : List Db.DriveFile) (file : Db.DriveFile) :
    (mirrored mountPoint files file).key = file.key := rfl

/-- The download of a file at the path of its row. -/
def downloadOf (now : Int) (file : Db.DriveFile) : SyncTask :=
  pendingTask now file.accountId (some file.id) .download file.localPath 5

/-- The database with every eligible row at its path, and a download for each. -/
def mirroredDatabase (now : Int) (accountId mountPoint : String) (db : Database) : Database :=
  ((eligibleFiles accountId db).map fun file =>
      downloadOf now (mirrored mountPoint (Database.filesOfAccount db accountId) file)).foldl Database.putTask
    (db.updateFiles (fun row => isEligible accountId row.data)
      (mirrored mountPoint (Database.filesOfAccount db accountId)) (key_mirrored mountPoint _))

/-- No statement fails. -/
structure RunsAll (answers : MirrorAnswers) : Prop where
  lists : answers.listsFiles = true
  stores : ∀ turn, answers.upserts turn = true
  enqueues : ∀ turn, answers.enqueues turn = true

section Eligible

variable {accountId mountPoint : String} {db : Database}

theorem mem_listedFolders_iff {file : Db.DriveFile} (listed : file ∈ Database.filesOfAccount db accountId) :
    file.id ∈ listedFolders db accountId ↔ file.isFolder = true := by
  rw [listedFolders, List.mem_map]
  constructor
  · rintro ⟨folder, member, same⟩
    rcases List.mem_filter.mp member with ⟨inside, itself⟩
    have first := (mem_filesOfAccount.mp inside).1
    rw [same, (mem_filesOfAccount.mp listed).1] at first
    rw [Option.some.inj first]
    exact itself
  · intro itself
    exact ⟨file, List.mem_filter.mpr ⟨listed, itself⟩, rfl⟩

/-- The call selects the eligible rows. -/
theorem needsMirroring_eq {file : Db.DriveFile} (listed : file ∈ Database.filesOfAccount db accountId) :
    needsMirroring (listedFolders db accountId) file = isEligible accountId file := by
  have folder : (listedFolders db accountId).contains file.id = file.isFolder := by
    rw [Bool.eq_iff_iff, List.contains_iff_mem]
    exact mem_listedFolders_iff listed
  rcases mem_filesOfAccount.mp listed with ⟨_, owned, kept⟩
  rw [needsMirroring, isEligible, folder, kept, decide_eq_true owned]
  cases file.isFolder
  · cases file.localPath
    · cases file.syncState <;> rfl
    · cases file.syncState <;> rfl
  · rfl

theorem filter_needsMirroring :
    (Database.filesOfAccount db accountId).filter (needsMirroring (listedFolders db accountId)) =
      eligibleFiles accountId db := by
  have same := List.filter_congr fun file listed => @needsMirroring_eq accountId db file listed
  rw [same, Database.filesOfAccount, List.filter_filter, eligibleFiles]
  apply List.filter_congr
  intro file _
  rw [isEligible]
  cases decide (file.accountId = accountId)
  · simp
  · cases file.isTrashed
    · simp
    · simp

theorem nodup_eligible : ((eligibleFiles accountId db).map DriveFile.key).Nodup := by
  have distinct : (db.driveFiles.records.map DriveFile.key).Nodup := by
    rw [Table.records, List.map_map]
    exact db.driveFiles.unique
  exact distinct.sublist (List.filter_sublist.map _)

end Eligible

/-! ## One undisturbed call -/

theorem foldl_putFile (files : List Db.DriveFile) (db : Database) :
    files.foldl Database.putFile db = { db with driveFiles := files.foldl KeyedTable.upsert db.driveFiles } := by
  induction files generalizing db with
  | nil => rfl
  | cons file rest inductionHypothesis => exact inductionHypothesis (db.putFile file)

/-- Rows and tasks are stored independently of each other. -/
theorem foldl_putFile_putTask (files : List Db.DriveFile) (task : SyncTask) (db : Database) :
    files.foldl Database.putFile (db.putTask task) = (files.foldl Database.putFile db).putTask task := by
  rw [foldl_putFile, foldl_putFile]
  rfl

section Undisturbed

variable {answers : MirrorAnswers} {accountId mountPoint : String} {db : Database}

/-- With every task taken, the placements store their rows and then their downloads. -/
theorem foldl_place (enqueues : ∀ turn, answers.enqueues turn = true) (placements : List Placement) (db : Database) :
    placements.foldl (place answers accountId) db =
      (placements.map fun placement => placement.download answers.now accountId).foldl Database.putTask
        ((placements.map Placement.row).foldl Database.putFile db) := by
  induction placements generalizing db with
  | nil => rfl
  | cons placement rest inductionHypothesis =>
      rw [List.foldl_cons, inductionHypothesis, place, if_pos (enqueues placement.turn), foldl_putFile_putTask]
      rfl

/-- The placements store their rows, whether or not the queue takes the tasks. -/
theorem driveFiles_foldl_place (placements : List Placement) (db : Database) :
    (placements.foldl (place answers accountId) db).driveFiles =
      (placements.map Placement.row).foldl KeyedTable.upsert db.driveFiles := by
  induction placements generalizing db with
  | nil => rfl
  | cons placement rest inductionHypothesis =>
      rw [List.foldl_cons, inductionHypothesis, place]
      split
      · rfl
      · rfl

theorem enqueuedCount_of_all (enqueues : ∀ turn, answers.enqueues turn = true) (placements : List Placement) :
    enqueuedCount answers placements = placements.length :=
  List.countP_eq_length.mpr fun placement _ => enqueues placement.turn

/-- A path that is found at all is the path below the mount point. -/
theorem pathBelow_of_resolved {files : List Db.DriveFile} {fileId relativePath : String} {steps : Nat}
    (resolved : resolveRelativePath steps fileId (nameMapOf files) = some relativePath) :
    pathBelow files fileId = relativePath := by
  have ends : Resolves files fileId := ⟨steps, Option.isSome_of_mem resolved⟩
  rcases Option.isSome_iff_exists.mp (isSome_of_resolves ends (Nat.lt_succ_self _)) with ⟨other, found⟩
  rcases chain_of_resolveRelativePath resolved with ⟨names, chain, same⟩
  rcases chain_of_resolveRelativePath found with ⟨others, again, alike⟩
  rw [pathBelow, found, Option.getD_some, alike, same, chain.unique again]

theorem resolves_of_acyclic {files : List Db.DriveFile} (acyclic : Acyclic (parentIn (nameMapOf files)))
    (fileId : String) : Resolves files fileId :=
  resolves_iff.mpr (acyclic_iff_forall.mp acyclic fileId)

/-- An undisturbed call gets to the end of the list. -/
theorem finished_of_runsAll (runs : RunsAll answers)
    (acyclic : Acyclic (parentIn (nameMapOf (Database.filesOfAccount db accountId))))
    (enough : (Database.filesOfAccount db accountId).length < answers.steps) :
    mirrorFailure answers (listedFolders db accountId) (nameMapOf (Database.filesOfAccount db accountId)) 0
      (Database.filesOfAccount db accountId) = none :=
  mirrorFailure_eq_none runs.stores fun file _ _ => isSome_of_resolves (resolves_of_acyclic acyclic file.id) enough

variable (finished : mirrorFailure answers (listedFolders db accountId)
    (nameMapOf (Database.filesOfAccount db accountId)) 0 (Database.filesOfAccount db accountId) = none)
include finished

theorem map_file_placements (lists : answers.listsFiles = true) :
    (placements answers accountId mountPoint db).map Placement.file = eligibleFiles accountId db := by
  rw [placements_of_lists lists, map_file_placementsFrom finished, filter_needsMirroring]

/-- What is made of a placement is made of its file. -/
theorem map_placements {α : Type} (lists : answers.listsFiles = true) {ofPlacement : Placement → α}
    {ofFile : Db.DriveFile → α}
    (same : ∀ placement ∈ placements answers accountId mountPoint db,
      placement.path = mirrorPath mountPoint (pathBelow (Database.filesOfAccount db accountId) placement.file.id) →
      placement.file.accountId = accountId → ofPlacement placement = ofFile placement.file) :
    (placements answers accountId mountPoint db).map ofPlacement = (eligibleFiles accountId db).map ofFile := by
  rw [← map_file_placements finished lists, List.map_map]
  apply List.map_congr_left
  intro placement member
  have placed := member
  rw [placements_of_lists lists] at placed
  rcases of_mem_placementsFrom placed with ⟨listed, _, relativePath, resolved, path⟩
  rw [← pathBelow_of_resolved resolved] at path
  exact same placement member path (mem_filesOfAccount.mp listed).2.1

/-- A call that gets to its end has changed exactly the eligible rows. -/
theorem driveFiles_of_finished (lists : answers.listsFiles = true) :
    (final (enqueueMirrorDownloads answers accountId mountPoint) db).driveFiles =
      db.driveFiles.update (fun row => isEligible accountId row.data)
        (mirrored mountPoint (Database.filesOfAccount db accountId)) (key_mirrored mountPoint _) := by
  have rows := @map_placements answers accountId mountPoint db finished _ lists Placement.row
    (mirrored mountPoint (Database.filesOfAccount db accountId)) fun placement _ path _ => by
      rw [Placement.row, mirrored, path]
  rw [final_enqueueMirrorDownloads, driveFiles_foldl_place, rows,
    KeyedTable.foldl_upsert_map (key_mirrored mountPoint _) nodup_eligible fun file member =>
      (List.mem_filter.mp member).1]
  apply KeyedTable.ext_rows
  apply List.map_congr_left
  intro row member
  have stored : row.data ∈ db.driveFiles.records := List.mem_map_of_mem member
  simp only [eligibleFiles, List.mem_filter, stored, true_and, Bool.decide_eq_true]

end Undisturbed

section Undisturbed

variable {answers : MirrorAnswers} {accountId mountPoint : String} {db : Database}

/-- An undisturbed call leaves the mirrored database and counts its downloads. -/
theorem of_undisturbed (runs : RunsAll answers)
    (finished : mirrorFailure answers (listedFolders db accountId)
      (nameMapOf (Database.filesOfAccount db accountId)) 0 (Database.filesOfAccount db accountId) = none) :
    outcome (enqueueMirrorDownloads answers accountId mountPoint) db = .ok (eligibleFiles accountId db).length ∧
      final (enqueueMirrorDownloads answers accountId mountPoint) db =
        mirroredDatabase answers.now accountId mountPoint db := by
  have rows := @map_placements answers accountId mountPoint db finished _ runs.lists Placement.row
    (mirrored mountPoint (Database.filesOfAccount db accountId)) fun placement _ path _ => by
      rw [Placement.row, mirrored, path]
  have downloads := @map_placements answers accountId mountPoint db finished _ runs.lists
    (fun placement => placement.download answers.now accountId)
    (fun file => downloadOf answers.now (mirrored mountPoint (Database.filesOfAccount db accountId) file))
    fun placement _ path owned => by
      rw [Placement.download, downloadOf, mirrored, path, owned]
  constructor
  · rw [outcome_enqueueMirrorDownloads runs.lists, finished, enqueuedCount_of_all runs.enqueues,
      ← map_file_placements finished runs.lists, List.length_map]
    rfl
  · have driveFiles := @driveFiles_of_finished answers accountId mountPoint db finished runs.lists
    rw [final_enqueueMirrorDownloads, driveFiles_foldl_place, rows] at driveFiles
    rw [final_enqueueMirrorDownloads, foldl_place runs.enqueues, rows, downloads, foldl_putFile, driveFiles,
      mirroredDatabase]
    rfl

/-- After an undisturbed call no row is eligible. -/
theorem eligibleFiles_mirroredDatabase (now : Int) :
    eligibleFiles accountId (mirroredDatabase now accountId mountPoint db) = [] := by
  have driveFiles (tasks : List SyncTask) (db : Database) :
      (tasks.foldl Database.putTask db).driveFiles = db.driveFiles := by
    induction tasks generalizing db with
    | nil => rfl
    | cons task rest inductionHypothesis => exact inductionHypothesis (db.putTask task)
  apply List.filter_eq_nil_iff.mpr
  intro file member
  rw [mirroredDatabase, driveFiles] at member
  rcases List.mem_map.mp member with ⟨row, inside, same⟩
  rcases List.mem_map.mp inside with ⟨before, _, changed⟩
  rw [← same, ← changed]
  split
  · simp [mirrored, isEligible]
  · next spared => exact spared

/-- A call that finds no eligible row does nothing. -/
theorem of_none_eligible (lists : answers.listsFiles = true) (none_ : eligibleFiles accountId db = []) :
    outcome (enqueueMirrorDownloads answers accountId mountPoint) db = .ok 0 ∧
      final (enqueueMirrorDownloads answers accountId mountPoint) db = db := by
  have finished : mirrorFailure answers (listedFolders db accountId)
      (nameMapOf (Database.filesOfAccount db accountId)) 0 (Database.filesOfAccount db accountId) = none := by
    apply mirrorFailure_of_spared
    rw [← filter_needsMirroring] at none_
    exact List.filter_eq_nil_iff.mp none_
  have nothing : placements answers accountId mountPoint db = [] := by
    rw [← List.map_eq_nil_iff, map_file_placements finished lists, none_]
  rw [outcome_enqueueMirrorDownloads lists, finished, final_enqueueMirrorDownloads, nothing]
  exact ⟨rfl, rfl⟩

/-- When no statement fails and no row is above itself, a call gives exactly the eligible rows
their paths, appends a download for each and returns their number; another call does nothing. -/
theorem mirroring_touches_eligible (runs : RunsAll answers)
    (acyclic : Acyclic (parentIn (nameMapOf (Database.filesOfAccount db accountId))))
    (enough : (Database.filesOfAccount db accountId).length < answers.steps) :
    (outcome (enqueueMirrorDownloads answers accountId mountPoint) db = .ok (eligibleFiles accountId db).length ∧
      final (enqueueMirrorDownloads answers accountId mountPoint) db =
        mirroredDatabase answers.now accountId mountPoint db) ∧
    ∀ again : MirrorAnswers, RunsAll again →
      outcome (enqueueMirrorDownloads again accountId mountPoint)
          (final (enqueueMirrorDownloads answers accountId mountPoint) db) = .ok 0 ∧
        final (enqueueMirrorDownloads again accountId mountPoint)
          (final (enqueueMirrorDownloads answers accountId mountPoint) db) =
            final (enqueueMirrorDownloads answers accountId mountPoint) db := by
  have first := @of_undisturbed answers accountId mountPoint db runs (finished_of_runsAll runs acyclic enough)
  refine ⟨first, fun again runsAgain => ?_⟩
  rw [first.2]
  exact of_none_eligible runsAgain.lists (eligibleFiles_mirroredDatabase answers.now)

end Undisturbed

/-- A folder, a folder in it, and the notes in that one are listed. -/
def nestedRows : Database :=
  (run (@System.exec untimed) (foldersChangePlaces.take 4) System.initial).world.db

/-- The notes are given their path and a download. -/
theorem mirroring_touches_notes :
    (outcome (enqueueMirrorDownloads (MirrorAnswers.allRun 4 7) "ann@example.com" "/mnt") nestedRows =
        .ok (eligibleFiles "ann@example.com" nestedRows).length ∧
      final (enqueueMirrorDownloads (MirrorAnswers.allRun 4 7) "ann@example.com" "/mnt") nestedRows =
        mirroredDatabase 7 "ann@example.com" "/mnt" nestedRows) ∧
    ∀ again : MirrorAnswers, RunsAll again →
      outcome (enqueueMirrorDownloads again "ann@example.com" "/mnt")
          (final (enqueueMirrorDownloads (MirrorAnswers.allRun 4 7) "ann@example.com" "/mnt") nestedRows) = .ok 0 ∧
        final (enqueueMirrorDownloads again "ann@example.com" "/mnt")
          (final (enqueueMirrorDownloads (MirrorAnswers.allRun 4 7) "ann@example.com" "/mnt") nestedRows) =
            final (enqueueMirrorDownloads (MirrorAnswers.allRun 4 7) "ann@example.com" "/mnt") nestedRows :=
  mirroring_touches_eligible ⟨rfl, fun _ => rfl, fun _ => rfl⟩
    (@acyclic_of_ends _ _ _ mem_of_parentIn 4 (by decide)) (by decide)

example : (mirroredDatabase 7 "ann@example.com" "/mnt" nestedRows).driveFiles.records.map Db.DriveFile.localPath =
    [none, none, some "/mnt/docs/drafts/notes.txt"] := by decide

end Mirror
end GDriver
