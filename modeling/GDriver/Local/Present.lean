import GDriver.Local.Disk
import GDriver.Local.Edits
import GDriver.Moves.Rows

namespace GDriver
namespace Local

open Library Routine Db Api Sync Vfs

/-!
# Rows that say there is a local copy

A row that is cached, synced or offline says that there is a copy of its file on disk, and the
skip rules of the syncs and the reads of the mounted file system take its word for it.  Rows and
files are changed by separate statements.  The rows are right as long as no step marks a row
without a copy, and no step takes a file away from a row that goes on saying it has one.
-/

/-- The row says that there is a local copy. -/
def ClaimsCopy (file : Db.DriveFile) : Prop :=
  file.isTrashed = false ∧
    (file.syncState = .cached ∨ file.syncState = .synced ∨ file.syncState = .offline)

instance (file : Db.DriveFile) : Decidable (ClaimsCopy file) :=
  inferInstanceAs (Decidable (_ ∧ _))

/-- The row has a path, and there is a file at it. -/
def CopyThere (disk : String → Option DiskFile) (file : Db.DriveFile) : Prop :=
  ∃ path, file.localPath = some path ∧ (disk path).isSome = true

/-- Every row that says so has a local copy. -/
def StatesTrue (world : World) : Prop :=
  ∀ file, world.db.Holds file → ClaimsCopy file → CopyThere world.disk file

section Condition

variable [Rfc3339] (system : System)

/-- The rows that a step marks as having a copy without looking for it. -/
def Marks : Operation → Db.DriveFile → Prop
  | .rpc ctx answers (.setOffline path enabled), file =>
      Stores system (.rpc ctx answers (.setOffline path enabled)) file
  | .engine (.record answers), file => Stores system (.engine (.record answers)) file
  | _, _ => False

/-- The rows that a step takes the copy of, and changes to say so. -/
def Releases : Operation → Db.DriveFile → Prop
  | .vfs _ answers (.unlink parent name), file =>
      answers.runs 3 = true ∧ ∃ row, unlinkedRow answers parent name system.world.db = some row ∧ row.data = file
  | .vfs _ answers (.rename parent name newParent newName), file =>
      ∃ row, renamedRow answers parent name newParent newName system.world = some row ∧ row.data = file
  | _, _ => False

/-- The step marks only rows that have a copy, and takes no copy of another row, however the path of
the row is written. -/
structure SpeaksTruly (operation : Operation) : Prop where
  marks : ∀ file, Marks system operation file → file.isTrashed = false → CopyThere system.world.disk file
  takes : ∀ file, system.world.db.Holds file → ClaimsCopy file → ∀ path, file.localPath = some path →
    Takes system operation (placeOf path) → Releases system operation file

end Condition

section Speaking

variable [Rfc3339] {system : System} {operation : Operation}

theorem speaksTruly_of_untaken
    (marks : ∀ file, Marks system operation file → file.isTrashed = false → CopyThere system.world.disk file)
    (untaken : ∀ place, ¬ Takes system operation place) : SpeaksTruly system operation where
  marks := marks
  takes _ _ _ path _ taken := (untaken (placeOf path) taken).elim

theorem speaksTruly_of_quiet (unmarked : ∀ file, ¬ Marks system operation file)
    (untaken : ∀ place, ¬ Takes system operation place) : SpeaksTruly system operation :=
  speaksTruly_of_untaken (fun file marked => (unmarked file marked).elim) untaken

end Speaking

/-! ## Rows that are released -/

section Released

variable {answers : CallbackAnswers} {world : World} {row : Row Db.DriveFile}

/-- What is announced enqueues a task and works on files. -/
theorem sameRows_announce (ino : Nat) {operation : TaskOperation} (other : operation ≠ .download)
    {andThen : Db.DriveFile → Routine Errno World Unit} (goesOn : ∀ details, Keeps SameRows (andThen details)) :
    Keeps SameRows (announce answers ino operation andThen) := by
  refine keeps_announce (fun _ task _ _ world => ?_) ino other goesOn
  rw [final_onDb, final_enqueue]
  split
  · exact Database.driveFiles_putTask world.db task
  · rfl

/-- A change of the row with a number is seen under the key of the row. -/
theorem file_updateInode {runs : Bool} {change : Db.DriveFile → Db.DriveFile}
    {keeps : ∀ file, (change file).key = file.key} (executes : runs = true)
    (member : row ∈ world.db.driveFiles.rows) :
    (final (orEio (updateInode runs row.rowid change keeps)) world).db.file row.data.id row.data.accountId =
      some (change row.data) := by
  have found : world.db.driveFiles.lookupRow (row.data.id, row.data.accountId) = some row :=
    (KeyedTable.lookupRow_eq_some_iff _ _ _).mpr ⟨member, rfl⟩
  have ends : final (updateInode runs row.rowid change keeps) world.db =
      if runs then world.db.updateFiles (fun other => other.rowid = row.rowid) change keeps else world.db :=
    final_execute _ _ _
  rw [orEio, final_mapError, final_onDb, World.withDb_db, ends, if_pos executes, Database.file_updateFiles,
    found, Option.map_some, decide_eq_true rfl, if_pos rfl]

theorem file_unlink {parent : Nat} {name : Option String} (executes : answers.runs 3 = true)
    (found : unlinkedRow answers parent name world.db = some row) :
    (final (unlink answers parent name) world).db.file row.data.id row.data.accountId =
      some row.data.trashed := by
  have member := (of_namedRow (Option.filter_eq_some_iff.mp found).1).1
  have same : SameRows world (final (announce answers row.rowid .delete
      (removeCacheFile (answers.failures 0))) world) := by
    refine sameRows_announce row.rowid (by decide) (fun details => ?_) world
    rw [removeCacheFile]
    cases details.localPath with
    | none => exact keeps_pure ()
    | some path => exact keeps_attempt (keeps_removeFile (fun _ _ => rfl) _)
  rw [final_unlink_of_some found, final_bind_of_ok (outcome_announce fun details world =>
    outcome_removeCacheFile _ details)]
  refine file_updateInode executes ?_
  rw [same]
  exact member

/-- After its row was renamed, a file is only announced and its copy moved. -/
theorem sameRows_rename {parent : Nat} {name : Option String} {newParent : Nat} {newName : Option String}
    (found : renamedRow answers parent name newParent newName world = some row) :
    ∃ wanted newParentId, newName = some wanted ∧ newDirectory (answers.runs 4) newParent world = some newParentId ∧
      SameRows (final (orEio (renameRow (answers.runs 5) answers.now row.rowid wanted newParentId)) world)
        (final (Vfs.rename answers parent name newParent newName) world) := by
  rcases final_rename_of_some found with ⟨wanted, newParentId, given, directory, ends⟩
  refine ⟨wanted, newParentId, given, directory, ?_⟩
  rw [ends]
  refine moves_bind _ (fun _ => sameRows_announce row.rowid (by decide) fun details => ?_) world
  rw [renameCacheFile]
  split
  · exact keeps_pure ()
  · split
    · exact keeps_pure ()
    · exact keeps_attempt (keeps_renameFile (fun _ _ => rfl) (fun _ _ => rfl) _)

theorem file_rename {parent : Nat} {name : Option String} {newParent : Nat} {newName : Option String}
    (found : renamedRow answers parent name newParent newName world = some row) :
    ∃ wanted newParentId,
      (final (Vfs.rename answers parent name newParent newName) world).db.file row.data.id row.data.accountId =
        some (Vfs.moved answers.now wanted newParentId row.data) := by
  rcases of_renamedRow found with ⟨executes, member, _⟩
  rcases sameRows_rename found with ⟨wanted, newParentId, _, _, same⟩
  refine ⟨wanted, newParentId, ?_⟩
  have renames := @file_updateInode world row (answers.runs 5) (Vfs.moved answers.now wanted newParentId)
    (fun _ => rfl) executes member
  rw [Database.file, same]
  exact renames

end Released

/-! ## Rows that are stored -/

section Stored

variable {file : Db.DriveFile}

theorem not_claimsCopy_of_state (state : file.syncState = .cloudOnly ∨ file.syncState = .modified) :
    ¬ ClaimsCopy file := by
  rintro ⟨_, cached | synced | offline⟩
  · rw [cached] at state
    exact absurd state (by decide)
  · rw [synced] at state
    exact absurd state (by decide)
  · rw [offline] at state
    exact absurd state (by decide)

theorem not_claimsCopy_of_trashed (trashed : file.isTrashed = true) : ¬ ClaimsCopy file :=
  fun claims => Bool.false_ne_true (claims.1.symm.trans trashed)

theorem not_claimsCopy_of_needsMirroring {folders : List String} (needed : needsMirroring folders file = true) :
    ¬ ClaimsCopy file := by
  rintro ⟨_, cached | synced | offline⟩
  · simp [needsMirroring, cached] at needed
  · simp [needsMirroring, synced] at needed
  · simp [needsMirroring, offline] at needed

variable [Rfc3339] {system : System}

/-- The syncs store no row that says it has a copy. -/
theorem not_claimsCopy_sync {work : SyncWork} (stores : Stores system (.sync work) file) : ¬ ClaimsCopy file := by
  cases work with
  | connect runs account => cases stores
  | disconnect runs accountId => cases stores
  | storeToken runs now accountId token => cases stores
  | listed runs accountId apiFile =>
      rw [stores.2]
      exact not_claimsCopy_of_state (Or.inl rfl)
  | change answers accountId reported syncMode mountPoint =>
      rcases stored_of_change syncMode mountPoint stores with trashed | ⟨cloudOnly, _⟩
      · exact not_claimsCopy_of_trashed trashed
      · exact not_claimsCopy_of_state (Or.inl cloudOnly)
  | mirror answers accountId mountPoint =>
      rcases stores with ⟨placement, placed, same⟩
      rw [placements] at placed
      split at placed
      · rw [same]
        exact fun claims => not_claimsCopy_of_needsMirroring (of_mem_placementsFrom placed).2.1 claims
      · cases placed
  | resetMirror runs accountId =>
      rcases stores.2 with ⟨row, _, same⟩
      rw [same]
      exact not_claimsCopy_of_state (Or.inl rfl)

/-- A request stores a row that says it has a copy only for one that did, or marks it. -/
theorem copyThere_rpc {ctx : Ipc.RouterContext} {answers : Ipc.RpcAnswers} {request : Rpc}
    (states : StatesTrue system.world)
    (marks : Marks system (.rpc ctx answers request) file → CopyThere system.world.disk file)
    (stores : Stores system (.rpc ctx answers request) file) (claims : ClaimsCopy file) :
    CopyThere system.world.disk file := by
  cases request with
  | setOffline about enabled => exact marks stores
  | clearCache =>
      rcases stores.2 with ⟨row, held, offline, live, same⟩
      rw [same]
      exact states row held ⟨live, Or.inr (Or.inr offline)⟩
  | fetchContents about => cases stores
  | createItem name isFolder localPath =>
      rcases stores with ⟨accountId, newName, _, _, _, same⟩
      refine (not_claimsCopy_of_state ?_ claims).elim
      split at same
      · rw [same]
        exact Or.inl rfl
      · rw [same]
        exact Or.inr rfl
  | modifyItem about newName localPath =>
      rcases stores with ⟨row, found, ⟨_, same⟩ | ⟨target, _, _, _, same⟩⟩
      · have before : ClaimsCopy row → CopyThere system.world.disk row := states row (of_requestedRow found).1
        rw [same] at claims ⊢
        cases newName with
        | none => exact before claims
        | some newName => exact before claims
      · rw [same] at claims
        exact (not_claimsCopy_of_state (Or.inr rfl) claims).elim
  | deleteItem about =>
      rcases stores with ⟨row, _, same⟩
      rw [same] at claims
      exact (not_claimsCopy_of_trashed rfl claims).elim

/-- The mounted file system stores no row that says it has a copy. -/
theorem not_claimsCopy_vfs {cacheDir : String} {answers : CallbackAnswers} {callback : Callback}
    (stores : Stores system (.vfs cacheDir answers callback) file) : ¬ ClaimsCopy file := by
  cases callback with
  | create parent name =>
      rcases stores with ⟨owner, newName, _, _, _, same⟩
      rw [same]
      exact not_claimsCopy_of_state (Or.inr rfl)
  | mkdir parent name =>
      rcases stores with ⟨owner, newName, _, _, _, same⟩
      rw [same]
      exact not_claimsCopy_of_state (Or.inl rfl)
  | write ino fh offset data written =>
      rcases stores with ⟨row, _, size, modifiedTime, same⟩
      rw [same]
      exact not_claimsCopy_of_state (Or.inr rfl)
  | unlink parent name =>
      rcases stores with ⟨row, _, same⟩
      rw [same]
      exact not_claimsCopy_of_trashed rfl
  | rmdir parent name =>
      rcases stores with ⟨row, _, same⟩
      rw [same]
      exact not_claimsCopy_of_trashed rfl
  | rename parent name newParent newName =>
      rcases stores with ⟨row, _, now, toName, newParentId, same⟩
      rw [same]
      exact not_claimsCopy_of_state (Or.inr rfl)
  | openFile ino => cases stores
  | read ino fh => cases stores
  | flush ino fh => cases stores
  | fsync ino fh => cases stores
  | release fh => cases stores

/-- The row of a resolved conflict has its copy: the remote version is in place. -/
theorem copyThere_begin {picks : Bool} {answers : TaskAnswers}
    (stores : Stores system (.engine (.begin picks answers)) file) (claims : ClaimsCopy file) :
    CopyThere (system.exec (.engine (.begin picks answers))).world.disk file := by
  rcases stores with ⟨picked, idle, task, next, client, uploads | deletes⟩
  · rcases uploads with ⟨operation, ⟨apiFile, _, same⟩ | conflicts⟩
    · rw [same] at claims
      exact (not_claimsCopy_of_state (Or.inl rfl) claims).elim
    · rcases conflicts with ⟨fileId, localPath, conflict, about, target, found,
        ⟨apiFile, _, same⟩ | ⟨landed, _, content, same⟩⟩
      · rw [same] at claims
        exact (not_claimsCopy_of_state (Or.inl rfl) claims).elim
      · have there := (Conflict.of_detected found).2.1
        refine ⟨localPath, by rw [same]; rfl, ?_⟩
        rcases (diskFrom_exec system (.engine (.begin picks answers))).stays localPath there with stays | taken
        · exact stays
        · rcases taken with ⟨_, _, other, alike, _, ⟨fetches, _⟩ | ⟨_, disk, path, left, same, _, gone⟩⟩
          · cases next.symm.trans alike
            rw [operation] at fetches
            cases fetches
          · cases next.symm.trans alike
            have arrives := answers.conflict.resolve.fetched.creates (Conflict.of_landed landed)
            simp only [conflictDisk, about, target, found, Option.map_some, Option.some.injEq] at left
            rw [← left, landed, Conflict.diskAt, putAt_of_same same] at gone
            rw [gone] at arrives
            cases arrives
  · rcases deletes.2 with ⟨row, _, same⟩
    rw [same] at claims
    exact (not_claimsCopy_of_trashed rfl claims).elim

/-- A file is still there after a step that takes it from nobody. -/
theorem CopyThere.stays {operation : Operation} (there : CopyThere system.world.disk file)
    (spared : ∀ path, file.localPath = some path → ¬ Takes system operation (placeOf path)) :
    CopyThere (system.exec operation).world.disk file := by
  rcases there with ⟨path, target, present⟩
  rcases (diskFrom_exec system operation).stays path present with stays | taken
  · exact ⟨path, target, stays⟩
  · exact (spared path target taken).elim

/-- A row that a step stores has a copy if it says so. -/
theorem copyThere_of_stores {operation : Operation} (states : StatesTrue system.world)
    (truly : SpeaksTruly system operation) (stores : Stores system operation file) (claims : ClaimsCopy file) :
    CopyThere (system.exec operation).world.disk file := by
  cases operation with
  | sync work => exact (not_claimsCopy_sync stores claims).elim
  | rpc ctx answers request =>
      have there : CopyThere system.world.disk file :=
        copyThere_rpc states (fun marked => truly.marks file marked claims.1) stores claims
      exact there
  | vfs cacheDir answers callback => exact (not_claimsCopy_vfs stores claims).elim
  | event about isDir kind folders now runs => cases stores
  | engine step =>
      cases step with
      | begin picks answers => exact copyThere_begin stores claims
      | land answers => cases stores
      | record answers => exact (truly.marks file stores claims.1).stays fun _ _ taken => taken
      | removeCopy answers => cases stores
      | recordDelete answers =>
          rcases stores with ⟨delete, row, _, _, _, same⟩
          rw [same] at claims
          exact (not_claimsCopy_of_state (Or.inl rfl) claims).elim
      | restart => cases stores
  | user about content => cases stores

/-- A row that is released does not stay as it is. -/
theorem not_holds_of_releases {operation : Operation} (releases : Releases system operation file)
    (claims : ClaimsCopy file) : ¬ (system.exec operation).world.db.Holds file := by
  intro held
  cases operation with
  | vfs cacheDir answers callback =>
      cases callback with
      | unlink parent name =>
          rcases releases with ⟨executes, row, found, same⟩
          have trashed := file_unlink executes found
          rw [same] at trashed
          have changed : file = file.trashed := Option.some.inj (held.symm.trans trashed)
          rw [changed] at claims
          exact not_claimsCopy_of_trashed rfl claims
      | rename parent name newParent newName =>
          rcases releases with ⟨row, found, same⟩
          rcases file_rename found with ⟨wanted, newParentId, renamed⟩
          rw [same] at renamed
          have changed : file = Vfs.moved answers.now wanted newParentId file :=
            Option.some.inj (held.symm.trans renamed)
          rw [changed] at claims
          exact not_claimsCopy_of_state (Or.inr rfl) claims
      | _ => exact releases.elim
  | _ => exact releases.elim

/-- A step that speaks truly keeps the rows right. -/
theorem statesTrue_exec {operation : Operation} (states : StatesTrue system.world)
    (truly : SpeaksTruly system operation) : StatesTrue (system.exec operation).world := by
  intro file held claims
  rcases rowsFrom_exec system operation file.id file.accountId file held with before | stores
  · refine (states file before claims).stays fun path target taken => ?_
    exact not_holds_of_releases (truly.takes file before claims path target taken) claims held
  · exact copyThere_of_stores states truly stores claims

end Stored

/-- The user puts a file of his own in place, and sets it offline. -/
def setsOwnOffline : List Operation := [
  .sync (.connect true ⟨"ann@example.com", "ann@example.com", 0⟩),
  .user "/mnt/notes.txt" (some ⟨[1], 5⟩),
  .rpc ⟨"/mnt", none, "/cache"⟩ (Ipc.RpcAnswers.allRun 6 1)
    (.createItem (some "notes.txt") none (some "/mnt/notes.txt")),
  .rpc ⟨"/mnt", none, "/cache"⟩ (Ipc.RpcAnswers.allRun 7 2) (.setOffline (some "/mnt/notes.txt") (some true))]

/-- Mirror mode has placed a file, and before it is downloaded the user sets it offline. -/
def setsPlacedOffline : List Operation := [
  .sync (.connect true ⟨"ann@example.com", "ann@example.com", 0⟩),
  .sync (.listed true "ann@example.com" (Api.DriveFile.named "notes" "notes.txt")),
  .sync (.mirror (MirrorAnswers.allRun 9 1) "ann@example.com" "/mnt"),
  .rpc ⟨"/mnt", none, "/cache"⟩ (Ipc.RpcAnswers.allRun 7 2) (.setOffline (some "/mnt/notes.txt") (some true))]

end Local
end GDriver
