import GDriver.Library.Run
import GDriver.Metadata.Writes
import GDriver.Moves.Engine
import GDriver.Moves.Targets

namespace GDriver
namespace Local

open Library Routine Db Api Sync Metadata

/-!
# Local edits that await upload

A row in state `modified` that is not in the trash is a local edit that has
not been uploaded.  Only its upload or its deletion may settle it.  The other
writers of `drive_files` do not look at the state they replace: a remote
change, a listed file and a finished download store whole rows, the switch to
Stream mode resets every row with a path, and pinning sets the state of any
row.

For each of these operations a condition on the state before it says whether
it hits an edit.  Along every run, the edits are spared exactly when each
operation meets its condition.
-/

/-- The row is a local edit that has not been uploaded. -/
def isUnsavedEdit (file : Db.DriveFile) : Bool :=
  file.syncState = .modified && !file.isTrashed

/-- There is such an edit under this key. -/
def hasEditAt (db : Database) (fileId accountId : String) : Bool :=
  (db.file fileId accountId).any isUnsavedEdit

theorem exists_of_hasEditAt {db : Database} {fileId accountId : String}
    (edited : hasEditAt db fileId accountId ≠ false) :
    ∃ file, db.file fileId accountId = some file ∧ isUnsavedEdit file = true := by
  rw [hasEditAt] at edited
  cases found : db.file fileId accountId with
  | none =>
      rw [found] at edited
      exact absurd rfl edited
  | some file =>
      rw [found] at edited
      exact ⟨file, rfl, Bool.of_not_eq_false edited⟩

theorem hasEditAt_of_edit {db : Database} {fileId accountId : String} {file : Db.DriveFile}
    (found : db.file fileId accountId = some file) (edit : isUnsavedEdit file = true) :
    hasEditAt db fileId accountId = true := by
  rw [hasEditAt, found]
  exact edit

theorem modified_of_edit {file : Db.DriveFile} (edit : isUnsavedEdit file = true) :
    file.syncState = .modified :=
  of_decide_eq_true (Bool.and_eq_true_iff.mp edit).1

/-- Every edit is still marked as modified, and still at its path. -/
def KeepsEdits (db later : Database) : Prop :=
  ∀ fileId accountId file, db.file fileId accountId = some file → isUnsavedEdit file = true →
    ∃ after, later.file fileId accountId = some after ∧ after.syncState = .modified ∧
      after.localPath = file.localPath

section Statements

variable {db : Database}

theorem KeepsEdits.of_same {later : Database} (same : later.driveFiles = db.driveFiles) :
    KeepsEdits db later := by
  intro fileId accountId file found edit
  refine ⟨file, ?_, modified_of_edit edit, rfl⟩
  simp only [Database.file, same] at found ⊢
  exact found

/-- Only the file rows matter. -/
theorem keepsEdits_congr {later other : Database} (same : later.driveFiles = other.driveFiles) :
    KeepsEdits db later ↔ KeepsEdits db other := by
  simp only [KeepsEdits, Database.file, same]

/-- Storing a row that is not modified keeps the edits exactly when there is
none under its key. -/
theorem keepsEdits_putFile {file : Db.DriveFile} (settled : file.syncState ≠ .modified) :
    KeepsEdits db (db.putFile file) ↔ hasEditAt db file.id file.accountId = false := by
  constructor
  · intro keeps
    by_contra edited
    rcases exists_of_hasEditAt edited with ⟨row, found, edit⟩
    rcases keeps _ _ row found edit with ⟨after, stored, modified, _⟩
    rw [Database.file_putFile_self] at stored
    rw [← Option.some.inj stored] at modified
    exact settled modified
  · intro free fileId accountId row found edit
    rw [Database.file_putFile]
    split
    · next same =>
        rw [← same.1, ← same.2, hasEditAt_of_edit found edit] at free
        cases free
    · exact ⟨row, found, modified_of_edit edit, rfl⟩

/-- Marking a row as trashed keeps its state and its path. -/
theorem keepsEdits_markTrashed (fileId accountId : String) :
    KeepsEdits db (db.updateFileAt fileId accountId DriveFile.trashed DriveFile.key_trashed) := by
  intro id owner file found edit
  have modified := modified_of_edit edit
  rw [Database.file_updateFileAt, found]
  split
  · exact ⟨file.trashed, rfl, modified, rfl⟩
  · exact ⟨file, rfl, modified, rfl⟩

/-- Setting another state keeps the edits exactly when there is none under
the key. -/
theorem keepsEdits_setSyncState {state : SyncState} (other : state ≠ .modified)
    (fileId accountId : String) :
    KeepsEdits db (db.updateFileAt fileId accountId (DriveFile.inState state)
        (DriveFile.key_inState state)) ↔ hasEditAt db fileId accountId = false := by
  constructor
  · intro keeps
    by_contra edited
    rcases exists_of_hasEditAt edited with ⟨row, found, edit⟩
    rcases keeps _ _ row found edit with ⟨after, stored, modified, _⟩
    rw [Database.file_updateFileAt, if_pos ⟨rfl, rfl⟩, found] at stored
    rw [← Option.some.inj stored] at modified
    exact other modified
  · intro free id owner row found edit
    rw [Database.file_updateFileAt]
    split
    · next same =>
        rw [← same.1, ← same.2, hasEditAt_of_edit found edit] at free
        cases free
    · exact ⟨row, found, modified_of_edit edit, rfl⟩

/-- Changing the selected rows keeps the edits when no edit is selected. -/
theorem keepsEdits_updateFiles {selected : Db.DriveFile → Bool}
    {change : Db.DriveFile → Db.DriveFile} (keeps : ∀ file, (change file).key = file.key)
    (free : ∀ fileId accountId file, db.file fileId accountId = some file →
      isUnsavedEdit file = true → selected file = false) :
    KeepsEdits db (db.updateFiles (fun row => selected row.data) change keeps) := by
  intro fileId accountId file found edit
  have spared := free fileId accountId file found edit
  rcases Option.map_eq_some_iff.mp found with ⟨row, stored, same⟩
  refine ⟨file, ?_, modified_of_edit edit, rfl⟩
  rw [Database.file_updateFiles, stored, Option.map_some, same, spared, if_neg Bool.false_ne_true]

/-- The switch to Stream mode keeps the edits exactly when it resets none. -/
theorem keepsEdits_resetMirror (accountId : String) :
    KeepsEdits db (db.updateFiles (fun row => leavesMirror accountId row.data) unmirrored
        key_unmirrored) ↔
      ∀ fileId owner file, db.file fileId owner = some file → isUnsavedEdit file = true →
        leavesMirror accountId file = false := by
  refine ⟨?_, keepsEdits_updateFiles key_unmirrored⟩
  intro keeps fileId owner file found edit
  by_contra reset
  rcases keeps fileId owner file found edit with ⟨after, stored, modified, _⟩
  rcases Option.map_eq_some_iff.mp found with ⟨row, there, same⟩
  rw [Database.file_updateFiles, there, Option.map_some, same, Bool.of_not_eq_false reset,
    if_pos rfl] at stored
  rw [← Option.some.inj stored] at modified
  cases modified

end Statements

/-! ## Tasks that store no row -/

/-- The rows of both worlds are the same. -/
def SameRows (world later : World) : Prop :=
  Database.SameFiles world.db later.db

instance : IsPreorder World SameRows where
  refl _ := rfl
  trans _ _ _ one two := Eq.trans two one

/-- A task that stores no row keeps them all. -/
theorem allowsProcessing_sameRows (taskId : Nat) : AllowsProcessing taskId SameRows where
  disk _ _ _ := rfl
  send _ _ _ := rfl
  task _ _ _ _ := rfl
  error _ _ := rfl

/-! ## What pinning and a finished download write -/

/-- The file a request to pin or unpin is about. -/
def pinned (ctx : Ipc.RouterContext) (answers : Ipc.RpcAnswers) (path : Option String)
    (enabled : Option Bool) (db : Database) : Option Db.DriveFile :=
  enabled.bind fun _ => requestedFile ctx answers path db

/-- Pinning sets the state of the file it is about, and changes nothing else. -/
theorem final_handleFsSetOffline (ctx : Ipc.RouterContext) (answers : Ipc.RpcAnswers)
    (path : Option String) (enabled : Option Bool) (db : Database) :
    (pinned ctx answers path enabled db = none ∧
        final (Ipc.handleFsSetOffline ctx answers path enabled) db = db) ∨
      ∃ file enable, pinned ctx answers path enabled db = some file ∧
        final (Ipc.handleFsSetOffline ctx answers path enabled) db =
          final (setSyncState (answers.runs 2) file.id file.accountId (Ipc.offlineState enable))
            db := by
  cases path with
  | none =>
      refine Or.inl ⟨?_, rfl⟩
      cases enabled <;> rfl
  | some path =>
      cases enabled with
      | none => exact Or.inl ⟨rfl, rfl⟩
      | some enable =>
          have asks : Ipc.handleFsSetOffline ctx answers (some path) (some enable) =
              Ipc.resolveFileForPath ctx answers path >>= fun file =>
                Ipc.orInternal (setSyncState (answers.runs 2) file.id file.accountId
                  (Ipc.offlineState enable)) >>= fun _ => pure (Ipc.offlineState enable) := rfl
          rw [asks]
          cases resolved : outcome (Ipc.resolveFileForPath ctx answers path) db with
          | error failure =>
              rw [final_bind_of_error resolved, final_resolveFileForPath]
              exact Or.inl ⟨by simp only [pinned, requestedFile, Option.bind_some, resolved, Except.toOption], rfl⟩
          | ok file =>
              rw [final_bind_of_ok resolved, final_resolveFileForPath]
              refine Or.inr ⟨file, enable, by simp only [pinned, requestedFile, Option.bind_some, resolved,
                Except.toOption], ?_⟩
              rw [final_bind]
              split
              · rw [final_pure, Ipc.orInternal, final_mapError]
              · rw [Ipc.orInternal, final_mapError]

/-- Storing a finished download spares the edits exactly when there is none under
its key. -/
theorem keepsEdits_storeDownloaded {answers : DownloadAnswers} {download : Download}
    {file : Db.DriveFile} (found : download.driveFile = some file) (world : World) :
    KeepsEdits world.db (final (storeDownloaded answers download) world).db ↔
      ((answers.upserts && world.db.acceptsFile file) = true →
        hasEditAt world.db file.id file.accountId = false) := by
  simp only [storeDownloaded, found]
  rw [final_bind_of_ok (outcome_inspect _ world), final_inspect, final_attempt, final_onDb,
    final_upsertFile, World.withDb_db]
  generalize mtimeOf answers.statsFile download.localPath world = mtime
  have settled : (downloadedFile file download.localPath mtime).syncState ≠ .modified := by
    change SyncState.cached ≠ .modified
    decide
  have accepts : world.db.acceptsFile (downloadedFile file download.localPath mtime) =
      world.db.acceptsFile file := rfl
  rw [accepts]
  by_cases stores : (answers.upserts && world.db.acceptsFile file) = true
  · rw [if_pos stores, keepsEdits_putFile settled]
    exact ⟨fun free _ => free, fun leaves => leaves stores⟩
  · rw [if_neg stores]
    exact iff_of_true (KeepsEdits.of_same rfl) fun again => absurd again stores

/-- The rows after a finished download are those after it was stored. -/
theorem driveFiles_recordDownload (answers : DownloadAnswers) (download : Download)
    (world : World) :
    (final (recordDownload answers download) world).db.driveFiles =
      (final (storeDownloaded answers download) world).db.driveFiles := by
  rw [recordDownload, final_bind]
  split
  · exact keeps_updateTaskStatus (allowsProcessing_sameRows download.taskId).toAllowsMarking _ _ _ _ _
  · rfl

/-! ## One operation -/

section Operations

variable [Rfc3339]

/-- Whether an operation has no business with local edits: the work of both
syncs, the switch to Stream mode, pinning, clearing the cache, and the parts of
a download. -/
def hasToSpare (system : System) : Operation → Bool
  | .sync (.listed ..) => true
  | .sync (.change ..) => true
  | .sync (.resetMirror ..) => true
  | .rpc _ _ (.setOffline ..) => true
  | .rpc _ _ .clearCache => true
  | .engine (.begin ..) => system.world.db.nextPending.any fun task => task.operation = .download
  | .engine (.land _) => true
  | .engine (.record _) => true
  | _ => false

/-- The operation keeps every edit, if it has to. -/
def SparesEdits (system : System) (operation : Operation) : Prop :=
  hasToSpare system operation = true →
    KeepsEdits system.world.db (system.exec operation).world.db

/-- There is no edit where the operation is about to write. -/
def LeavesEdits (system : System) : Operation → Prop
  | .sync (.listed runs accountId apiFile) =>
      (runs && system.world.db.acceptsFile (mapApiFileToDb apiFile accountId)) = true →
        hasEditAt system.world.db (mapApiFileToDb apiFile accountId).id
          (mapApiFileToDb apiFile accountId).accountId = false
  | .sync (.change answers accountId reported _ _) =>
      ∀ file, changeWrite accountId reported = some (.store file) →
        writeRuns answers system.world.db (.store file) = true →
          hasEditAt system.world.db file.id file.accountId = false
  | .sync (.resetMirror runs accountId) =>
      runs = true → ∀ fileId owner file, system.world.db.file fileId owner = some file →
        isUnsavedEdit file = true → leavesMirror accountId file = false
  | .rpc ctx answers (.setOffline path enabled) =>
      ∀ file, pinned ctx answers path enabled system.world.db = some file →
        answers.runs 2 = true → hasEditAt system.world.db file.id file.accountId = false
  | .engine (.record answers) =>
      ∀ download file, system.engine = .landed download → download.driveFile = some file →
        (answers.upserts && system.world.db.acceptsFile file) = true →
          hasEditAt system.world.db file.id file.accountId = false
  | _ => True

theorem sparesEdits_listed (system : System) (runs : Bool) (accountId : String)
    (apiFile : Api.DriveFile) :
    SparesEdits system (.sync (.listed runs accountId apiFile)) ↔
      LeavesEdits system (.sync (.listed runs accountId apiFile)) := by
  have settled : (mapApiFileToDb apiFile accountId).syncState ≠ .modified := by
    rw [mapApiFileToDb_syncState]
    decide
  simp only [SparesEdits, hasToSpare, LeavesEdits, forall_const]
  have wrote : (system.exec (.sync (.listed runs accountId apiFile))).world.db =
      final (upsertFile runs (mapApiFileToDb apiFile accountId)) system.world.db := rfl
  rw [wrote, final_upsertFile]
  by_cases stores : (runs && system.world.db.acceptsFile (mapApiFileToDb apiFile accountId)) = true
  · rw [if_pos stores, keepsEdits_putFile settled]
    exact ⟨fun free _ => free, fun leaves => leaves stores⟩
  · rw [if_neg stores]
    exact iff_of_true (KeepsEdits.of_same rfl) fun stored => absurd stored stores

/-- A row that a change stores is not an edit. -/
theorem settled_of_changeWrite {accountId : String} {reported : Change} {file : Db.DriveFile}
    (asked : changeWrite accountId reported = some (.store file)) : file.syncState ≠ .modified := by
  rw [changeWrite] at asked
  split at asked
  · cases asked
  · split at asked
    · cases asked
    · rcases Option.map_eq_some_iff.mp asked with ⟨apiFile, _, same⟩
      cases same
      rw [mapApiFileToDb_syncState]
      decide

theorem sparesEdits_change (system : System) (answers : ProcessChangeAnswers) (accountId : String)
    (reported : Change) (syncMode : SyncMode) (mountPoint : String) :
    SparesEdits system (.sync (.change answers accountId reported syncMode mountPoint)) ↔
      LeavesEdits system (.sync (.change answers accountId reported syncMode mountPoint)) := by
  have spec := processChange_spec answers accountId reported syncMode mountPoint system.world.db
  have wrote : (system.exec (.sync (.change answers accountId reported syncMode mountPoint))).world.db =
      final (processChange answers accountId reported syncMode mountPoint) system.world.db := rfl
  simp only [SparesEdits, hasToSpare, LeavesEdits, forall_const]
  rw [wrote, keepsEdits_congr spec.writes.driveFiles]
  cases asked : changeWrite accountId reported with
  | none =>
      rw [changeWritten_of_not_asked asked]
      exact iff_of_true (KeepsEdits.of_same rfl) fun file stored => nomatch stored
  | some write =>
      rw [changeWritten_of_asked asked]
      cases write with
      | trash fileId owner =>
          refine iff_of_true ?_ fun file stored => nomatch stored
          split
          · exact keepsEdits_markTrashed fileId owner
          · exact KeepsEdits.of_same rfl
      | store file =>
          have settled := settled_of_changeWrite asked
          by_cases stores : writeRuns answers system.world.db (.store file) = true
          · rw [if_pos stores, FileWrite.apply, keepsEdits_putFile settled]
            constructor
            · intro free other same _
              cases same
              exact free
            · exact fun leaves => leaves file rfl stores
          · rw [if_neg stores]
            refine iff_of_true (KeepsEdits.of_same rfl) fun other same stored => ?_
            cases same
            exact absurd stored stores

theorem sparesEdits_resetMirror (system : System) (runs : Bool) (accountId : String) :
    SparesEdits system (.sync (.resetMirror runs accountId)) ↔
      LeavesEdits system (.sync (.resetMirror runs accountId)) := by
  have wrote : (system.exec (.sync (.resetMirror runs accountId))).world.db =
      final (resetMirrorToStream runs accountId) system.world.db := rfl
  simp only [SparesEdits, hasToSpare, LeavesEdits, forall_const]
  rw [wrote, resetMirrorToStream, final_execute]
  cases runs with
  | true =>
      rw [if_pos rfl, keepsEdits_resetMirror]
      exact ⟨fun free _ => free, fun leaves => leaves rfl⟩
  | false =>
      rw [if_neg Bool.false_ne_true]
      exact iff_of_true (KeepsEdits.of_same rfl) fun runs => absurd runs Bool.false_ne_true

theorem sparesEdits_setOffline (system : System) (ctx : Ipc.RouterContext)
    (answers : Ipc.RpcAnswers) (path : Option String) (enabled : Option Bool) :
    SparesEdits system (.rpc ctx answers (.setOffline path enabled)) ↔
      LeavesEdits system (.rpc ctx answers (.setOffline path enabled)) := by
  have wrote : (system.exec (.rpc ctx answers (.setOffline path enabled))).world.db =
      final (Ipc.handleFsSetOffline ctx answers path enabled) system.world.db := rfl
  simp only [SparesEdits, hasToSpare, LeavesEdits, forall_const]
  rw [wrote]
  rcases final_handleFsSetOffline ctx answers path enabled system.world.db with
    ⟨nothing, unchanged⟩ | ⟨file, enable, found, changed⟩
  · rw [unchanged]
    refine iff_of_true (KeepsEdits.of_same rfl) fun file same => ?_
    rw [nothing] at same
    cases same
  · have other : Ipc.offlineState enable ≠ .modified := by
      cases enable with
      | true => decide
      | false => decide
    rw [changed, setSyncState, final_execute]
    by_cases sets : answers.runs 2 = true
    · rw [if_pos sets, keepsEdits_setSyncState other]
      constructor
      · intro free same again _
        rw [found] at again
        cases again
        exact free
      · exact fun leaves => leaves file found sets
    · rw [if_neg sets]
      exact iff_of_true (KeepsEdits.of_same rfl) fun _ _ again => absurd again sets

theorem sparesEdits_clearCache (system : System) (ctx : Ipc.RouterContext)
    (answers : Ipc.RpcAnswers) : SparesEdits system (.rpc ctx answers .clearCache) := by
  intro _
  have wrote : (system.exec (.rpc ctx answers .clearCache)).world.db =
      final (Ipc.handleOfflineClearCache (answers.runs 0)) system.world.db := rfl
  rw [wrote, Ipc.handleOfflineClearCache, Ipc.orInternal, final_mapError, final_execute]
  split
  · have unpinned (file : Db.DriveFile) (edit : isUnsavedEdit file = true) :
        (decide (file.syncState = .offline) && !file.isTrashed) = false := by
      simp only [modified_of_edit edit, reduceCtorEq, decide_false, Bool.false_and]
    exact @keepsEdits_updateFiles _ (fun file => decide (file.syncState = .offline) && !file.isTrashed)
      _ (DriveFile.key_inState .cached) fun _ _ file _ edit => unpinned file edit
  · exact KeepsEdits.of_same rfl

/-! ## The parts of a download -/

theorem sparesEdits_begin (system : System) (picks : Bool) (answers : TaskAnswers) :
    SparesEdits system (.engine (.begin picks answers)) := by
  intro downloads
  refine KeepsEdits.of_same ?_
  have same : SameRows system.world ((EngineStep.begin picks answers).exec system).world := by
    simp only [EngineStep.exec]
    split
    · rcases settle_beginNext picks answers system.world with nothing | ⟨task, _, next, begun⟩
      · rw [nothing]
        rfl
      · rw [hasToSpare, next] at downloads
        have operation : task.operation = .download := of_decide_eq_true downloads
        rcases Database.of_nextPending next with ⟨taskId, identified, _, _⟩
        rw [begun]
        cases client : answers.hasClient with
        | true =>
            have allows := allowsProcessing_sameRows taskId
            rw [beginTask_download client operation]
            exact keeps_beginDownload identified allows.toAllowsMarking allows.send
              (fun path _ => allows.disk (tmpPath path)) answers.download system.world
        | false =>
            rw [settle_beginTask_of_no_client client (Or.inl operation)]
            rfl
    · rfl
  exact same

theorem sparesEdits_land (system : System) (answers : DownloadAnswers) :
    SparesEdits system (.engine (.land answers)) := by
  intro _
  refine KeepsEdits.of_same ?_
  have same : SameRows system.world ((EngineStep.land answers).exec system).world := by
    simp only [EngineStep.exec]
    split
    · next download _ =>
        exact keeps_landFetched (allowsProcessing_sameRows download.taskId) system.world
    · rfl
  exact same

theorem sparesEdits_record (system : System) (answers : DownloadAnswers) :
    SparesEdits system (.engine (.record answers)) ↔
      LeavesEdits system (.engine (.record answers)) := by
  simp only [SparesEdits, hasToSpare, LeavesEdits, forall_const]
  cases engine : system.engine with
  | landed download =>
      have wrote : (system.exec (.engine (.record answers))).world =
          final (recordDownload answers download) system.world := by
        simp only [System.exec, EngineStep.exec, engine]
      rw [wrote, keepsEdits_congr (driveFiles_recordDownload answers download system.world)]
      cases found : download.driveFile with
      | none =>
          have nothing : storeDownloaded answers download = pure () := by
            simp only [storeDownloaded, found]
          rw [nothing, final_pure]
          refine iff_of_true (KeepsEdits.of_same rfl) fun other file same again => ?_
          cases same
          rw [found] at again
          cases again
      | some file =>
          rw [keepsEdits_storeDownloaded found]
          constructor
          · intro free other again same stored
            cases same
            rw [found] at stored
            cases stored
            exact free
          · exact fun leaves => leaves download file rfl found
  | _ =>
      simp only [System.exec, EngineStep.exec, engine]
      refine iff_of_true (KeepsEdits.of_same rfl) fun _ _ other => ?_
      cases other

/-- An operation that does not have to spare the edits does so. -/
theorem sparesEdits_of_other {system : System} {operation : Operation}
    (other : hasToSpare system operation = false) : SparesEdits system operation := by
  intro has
  rw [other] at has
  cases has

/-- One operation spares the edits exactly when it leaves them alone. -/
theorem sparesEdits_iff (system : System) (operation : Operation) :
    SparesEdits system operation ↔ LeavesEdits system operation := by
  cases operation with
  | sync work =>
      cases work with
      | listed runs accountId apiFile => exact sparesEdits_listed system runs accountId apiFile
      | change answers accountId reported syncMode mountPoint =>
          exact sparesEdits_change system answers accountId reported syncMode mountPoint
      | resetMirror runs accountId => exact sparesEdits_resetMirror system runs accountId
      | connect runs account => exact iff_of_true (sparesEdits_of_other rfl) trivial
      | disconnect runs accountId => exact iff_of_true (sparesEdits_of_other rfl) trivial
      | storeToken runs now accountId token => exact iff_of_true (sparesEdits_of_other rfl) trivial
      | mirror answers accountId mountPoint => exact iff_of_true (sparesEdits_of_other rfl) trivial
  | rpc ctx answers request =>
      cases request with
      | setOffline path enabled => exact sparesEdits_setOffline system ctx answers path enabled
      | clearCache => exact iff_of_true (sparesEdits_clearCache system ctx answers) trivial
      | fetchContents path => exact iff_of_true (sparesEdits_of_other rfl) trivial
      | createItem name isFolder path => exact iff_of_true (sparesEdits_of_other rfl) trivial
      | modifyItem path newName localPath => exact iff_of_true (sparesEdits_of_other rfl) trivial
      | deleteItem path => exact iff_of_true (sparesEdits_of_other rfl) trivial
  | vfs cacheDir answers callback => exact iff_of_true (sparesEdits_of_other rfl) trivial
  | event path isDir kind folders now runs =>
      exact iff_of_true (sparesEdits_of_other rfl) trivial
  | engine step =>
      cases step with
      | begin picks answers => exact iff_of_true (sparesEdits_begin system picks answers) trivial
      | land answers => exact iff_of_true (sparesEdits_land system answers) trivial
      | record answers => exact sparesEdits_record system answers
      | removeCopy answers => exact iff_of_true (sparesEdits_of_other rfl) trivial
      | recordDelete answers => exact iff_of_true (sparesEdits_of_other rfl) trivial
      | restart => exact iff_of_true (sparesEdits_of_other rfl) trivial
  | user path file => exact iff_of_true (sparesEdits_of_other rfl) trivial

/-- Along every run from any state: the edits are spared exactly when every
operation leaves them alone. -/
theorem edits_spared_iff (operations : List Operation) (system : System) :
    Along System.exec SparesEdits operations system ↔
      Along System.exec LeavesEdits operations system :=
  along_congr System.exec sparesEdits_iff operations system

end Operations

/-- One account is connected, and its user has created a file in the mounted
file system. -/
def createdNotes : List Operation := [
  .sync (.connect true ⟨"ann@example.com", "ann@example.com", 0⟩),
  .vfs "/cache" (Vfs.CallbackAnswers.allRun 5 1) (.create 0 (some "notes.txt"))]

/-- The switch to Stream mode forgets the file that was just created. -/
theorem resetMirror_forgets_edit :
    ¬ Along (@System.exec untimed) (@SparesEdits untimed)
      (createdNotes ++ [.sync (.resetMirror true "ann@example.com")]) System.initial := by
  intro spared
  have last := ((along_append _ _ _ _).mp spared).2.1
  have free := (@sparesEdits_resetMirror untimed _ true "ann@example.com").mp last rfl
  have edited : ((run (@System.exec untimed) createdNotes System.initial).world.db.file "local-1"
      "ann@example.com").any (fun file =>
        isUnsavedEdit file && leavesMirror "ann@example.com" file) = true := by
    decide
  rcases (Option.any_eq_true _ _).mp edited with ⟨file, found, both⟩
  rcases Bool.and_eq_true_iff.mp both with ⟨edit, reset⟩
  rw [free "local-1" "ann@example.com" file found edit] at reset
  cases reset

end Local
end GDriver
