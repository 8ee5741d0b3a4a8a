import GDriver.Watcher.Folders
import GDriver.Ipc.Handlers
import GDriver.Library.Run

namespace GDriver
namespace Watcher

open Library Routine Db Ipc

/-!
# Configured folders and watched folders

Folders are configured and removed by requests, and go with their account.  A request signals
the watcher, which then reads the table again.  The table and the map agree after that unless
the map holds a folder that is no longer configured as it was, or two accounts configure one
root, or a directory cannot be watched.
-/

/-- The database with the counter behind the ids of `sync_folders`, the watcher's map, the
reload signals that wait for it, and the directories that exist. -/
structure WatcherState where
  db : Database
  /-- The largest id that was ever given to a folder. -/
  lastFolderId : Nat
  folders : FolderMap
  signals : Nat
  isDir : PathKey → Bool
  /-- Whether the last step was a reload. -/
  reloaded : Bool

/-- The state right after the first start. -/
def WatcherState.initial (isDir : PathKey → Bool) : WatcherState where
  db := Database.fresh
  lastFolderId := 0
  folders := FolderMap.empty
  signals := 0
  isDir := isDir
  reloaded := false

def onDatabase {α : Type} (routine : Routine String Database α) : Routine RpcError WatcherState α :=
  mapError .internalError (zoom WatcherState.db (fun db state => { state with db := db }) routine)

/-- Capacity of the channel for reload signals. -/
def reloadCapacity : Nat := 4

/-- Signal the watcher to reload its watched folders, unless enough signals wait for it. -/
def signalReload : Routine RpcError WatcherState Unit :=
  modify fun state => { state with signals := if state.signals < reloadCapacity then state.signals +
    1 else state.signals }

/-! ## The functions of the `sync_folders` module -/

/-- Return all sync folders that are currently enabled. -/
def listEnabled (runs : Bool) : Routine String Database (List SyncFolder) :=
  select runs fun db => db.syncFolders.records.filter fun folder => folder.isEnabled

/-- Add a new sync folder and answer its id.  The account must exist, and may not have
configured the path before. -/
def addFolder (runs : Bool) (folder : SyncFolder) : Routine String WatcherState Nat := fun state =>
  if absent : ∀ row ∈ state.db.syncFolders.rows, row.data.key ≠ folder.key then
    if runs && state.db.hasAccount folder.accountId then
      let id := max (state.lastFolderId + 1) state.db.syncFolders.nextRowid
      .ok id
        { state with
          db := { state.db with
            syncFolders := state.db.syncFolders.insertNumbered (state.lastFolderId + 1) folder absent }
          lastFolderId := id }
    else .error databaseError state
  else .error databaseError state

/-- Delete a sync folder by id. -/
def deleteFolder (runs : Bool) (id : Int) : Routine String Database Unit :=
  execute runs fun db =>
    { db with
      syncFolders :=
        { rows := db.syncFolders.rows.filter fun row => (row.rowid : Int) ≠ id
          ascending := db.syncFolders.ascending.filter _
          unique := (List.filter_sublist.map _).nodup db.syncFolders.unique } }

/-! ## Requests -/

structure FolderParams where
  path : Option String
  folderType : Option String

/-- The answer of `folder.add`. -/
structure FolderAdded where
  id : String
  name : String
  path : String
  folderType : String
  deriving DecidableEq, Repr

/-- Add a new sync folder. -/
def handleFolderAdd (runs : Nat → Bool) (params : Option FolderParams) :
    Routine RpcError WatcherState FolderAdded :=
  match params with
  | none => throw (.invalidParams "expected object")
  | some params =>
      match params.path with
      | none => throw (.invalidParams "path is required")
      | some localPath => do
          let folderType := params.folderType.getD "drive"
          -- Use the first available account.
          match ← onDatabase (getFirstAccountId (runs 0)) with
          | none => throw (.internalError "no account connected")
          | some accountId =>
              let id ← mapError .internalError (addFolder (runs 1) ⟨accountId, localPath, folderType, true⟩)
              signalReload
              pure ⟨toString id, (fileName localPath).getD localPath, localPath, folderType⟩

/-- Remove a sync folder by id. -/
def handleFolderRemove (runs : Bool) (id : Option String) : Routine RpcError WatcherState Int :=
  match id with
  | none => throw (.invalidParams "id is required")
  | some text =>
      match parseI64 text with
      | none => throw (.invalidParams "id must be a numeric string")
      | some id => do
          onDatabase (deleteFolder runs id)
          signalReload
          pure id

/-! ## Steps -/

inductive FolderStep where
  | folderAdd (runs : Nat → Bool) (params : Option FolderParams)
  | folderRemove (runs : Bool) (id : Option String)
  | connect (runs : Bool) (account : Account)
  | disconnect (runs : Bool) (accountId : String)
  /-- Directories appear and vanish. -/
  | directories (isDir : PathKey → Bool)
  /-- The watcher takes a signal; at its start it reads the folders without one. -/
  | reload (runs : Bool) (watches : SyncFolder → Bool)

def WatcherState.reload (state : WatcherState) (runs : Bool) (watches : SyncFolder → Bool) : WatcherState :=
  { state with
    folders := (reloadFolders ⟨state.isDir, watches⟩ (outcome (listEnabled runs) state.db) state.folders).1
    signals := state.signals - 1
    reloaded := true }

/-- One step that is no reload. -/
def WatcherState.configure {α : Type} (state : WatcherState) (routine : Routine RpcError WatcherState α) :
    WatcherState :=
  { final routine state with reloaded := false }

def FolderStep.exec (state : WatcherState) : FolderStep → WatcherState
  | .folderAdd runs params => state.configure (handleFolderAdd runs params)
  | .folderRemove runs id => state.configure (handleFolderRemove runs id)
  | .connect runs account => state.configure (onDatabase (insertAccount runs account))
  | .disconnect runs accountId => state.configure (onDatabase (deleteAccount runs accountId))
  | .directories isDir => { state with isDir := isDir, reloaded := false }
  | .reload runs watches => state.reload runs watches

/-! ## Agreement -/

/-- The enabled folders of the table whose directory exists. -/
def WatcherState.configured (state : WatcherState) : List SyncFolder :=
  (state.db.syncFolders.records.filter fun folder => folder.isEnabled).filter fun folder =>
    state.isDir (pathKey folder.localPath)

/-- The entry of the map is the one for the configured folder. -/
structure IsEntryOf (row : SyncFolder) (folder : WatchedFolder) : Prop where
  root : folder.key = pathKey row.localPath
  account : folder.accountId = row.accountId
  type : folder.folderType = row.folderType

theorem isEntryOf_watchedFolder (row : SyncFolder) : IsEntryOf row (watchedFolder row) :=
  ⟨rfl, rfl, rfl⟩

/-- The map holds exactly the configured folders, each with its account and type. -/
structure Mirrors (state : WatcherState) : Prop where
  configured : ∀ folder ∈ state.folders.folders, ∃ row ∈ state.configured, IsEntryOf row folder
  watched : ∀ row ∈ state.configured, ∃ folder ∈ state.folders.folders, IsEntryOf row folder

/-- No event outside every configured folder gives a task. -/
def NothingElse (state : WatcherState) : Prop :=
  ∀ path isDir kind now, (∀ row ∈ state.configured, isInside row.localPath path = false) →
    eventToTask path isDir kind state.folders.folders now = none

/-- What a reload has to bring about. -/
def UpToDate (state : WatcherState) : Prop :=
  state.reloaded = true → Mirrors state ∧ NothingElse state

theorem Mirrors.nothingElse {state : WatcherState} (mirrors : Mirrors state) : NothingElse state := by
  intro path isDir kind now outside
  rw [eventToTask]
  split
  · rfl
  · split
    · rfl
    · next folder owning =>
        rcases of_findOwningFolder owning with ⟨member, inside⟩
        rcases mirrors.configured folder member with ⟨row, there, entry⟩
        have same := isInside_congr entry.root path
        rw [inside, outside row there] at same
        cases same

/-- The table read anew: every watched folder is still configured as it is watched, folders of
one root agree, and every new root can be watched for one of its folders. -/
structure Reloadable (state : WatcherState) (watches : SyncFolder → Bool) : Prop where
  kept : ∀ folder ∈ state.folders.folders, ∃ row ∈ state.configured, IsEntryOf row folder
  agree : ∀ row ∈ state.configured, ∀ other ∈ state.configured,
    pathKey row.localPath = pathKey other.localPath →
      row.accountId = other.accountId ∧ row.folderType = other.folderType
  watchable : ∀ row ∈ state.configured, state.folders.containsKey (pathKey row.localPath) = false →
    ∃ other ∈ state.configured, pathKey other.localPath = pathKey row.localPath ∧ watches other = true

/-- When the folders cannot be read, the map must be right already. -/
def ReloadsWell (state : WatcherState) : FolderStep → Prop
  | .reload true watches => Reloadable state watches
  | .reload false _ => Mirrors state
  | _ => True

theorem mem_configured {state : WatcherState} {row : SyncFolder} :
    row ∈ state.configured ↔
      row ∈ (state.db.syncFolders.records.filter fun folder => folder.isEnabled) ∧
        state.isDir (pathKey row.localPath) = true :=
  List.mem_filter

/-- A reload that reads the table walks its enabled folders. -/
theorem extends_reload (state : WatcherState) (watches : SyncFolder → Bool) :
    Extends ⟨state.isDir, watches⟩ (state.db.syncFolders.records.filter fun folder => folder.isEnabled)
      state.folders (state.reload true watches).folders := by
  have listed : outcome (listEnabled true) state.db =
      .ok (state.db.syncFolders.records.filter fun folder => folder.isEnabled) := by
    rw [listEnabled, outcome_select, if_pos rfl]
  have walked : (state.reload true watches).folders =
      ((state.db.syncFolders.records.filter fun folder => folder.isEnabled).foldl
        (watchFolder ⟨state.isDir, watches⟩) (state.folders, [])).1 := by
    rw [WatcherState.reload, listed, reloadFolders]
  rw [walked]
  exact extends_foldl _ (state.folders, [])

/-- The map agrees with the table after a reload exactly when nothing in the way of it was
there before. -/
theorem mirrors_reload_iff (state : WatcherState) (watches : SyncFolder → Bool) :
    Mirrors (state.reload true watches) ↔ Reloadable state watches := by
  have walked := extends_reload state watches
  constructor
  · intro mirrors
    refine ⟨?_, ?_, ?_⟩
    · intro folder member
      exact mirrors.configured folder (walked.kept folder member)
    · intro row member other there same
      rcases mirrors.watched row member with ⟨folder, watched, entry⟩
      rcases mirrors.watched other there with ⟨twin, known, its⟩
      have one : folder = twin := FolderMap.eq_of_key watched known (by rw [entry.root, its.root, same])
      rw [← one] at its
      exact ⟨entry.account.symm.trans its.account, entry.type.symm.trans its.type⟩
    · intro row member fresh
      rcases mirrors.watched row member with ⟨folder, watched, entry⟩
      rcases walked.added folder watched with before | ⟨other, listed, watchable, same⟩
      · have known := FolderMap.containsKey_iff.mpr ⟨folder, before, entry.root⟩
        rw [fresh] at known
        cases known
      · refine ⟨other, mem_configured.mpr ⟨listed, watchable.1⟩, ?_, watchable.2⟩
        rw [← entry.root, same]
        rfl
  · intro reloadable
    have configured (folder : WatchedFolder) (member : folder ∈ (state.reload true watches).folders.folders) :
        ∃ row ∈ state.configured, IsEntryOf row folder := by
      rcases walked.added folder member with before | ⟨row, listed, watchable, same⟩
      · exact reloadable.kept folder before
      · rw [same]
        exact ⟨row, mem_configured.mpr ⟨listed, watchable.1⟩, isEntryOf_watchedFolder row⟩
    refine ⟨configured, ?_⟩
    intro row member
    have known : (state.reload true watches).folders.containsKey (pathKey row.localPath) = true := by
      cases before : state.folders.containsKey (pathKey row.localPath) with
      | true =>
          rcases FolderMap.containsKey_iff.mp before with ⟨folder, there, its⟩
          exact FolderMap.containsKey_iff.mpr ⟨folder, walked.kept folder there, its⟩
      | false =>
          rcases reloadable.watchable row member before with ⟨other, there, same, watched⟩
          rcases mem_configured.mp there with ⟨listed, present⟩
          rw [← same]
          exact walked.known other listed ⟨present, watched⟩
    rcases FolderMap.containsKey_iff.mp known with ⟨folder, there, its⟩
    rcases configured folder there with ⟨other, inside, entry⟩
    have agree := reloadable.agree row member other inside (its.symm.trans entry.root)
    exact ⟨folder, there, its, entry.account.trans agree.1.symm, entry.type.trans agree.2.symm⟩

/-- A reload that cannot read the table leaves the map as it is. -/
theorem mirrors_reload_failed (state : WatcherState) (watches : SyncFolder → Bool) :
    Mirrors (state.reload false watches) ↔ Mirrors state := by
  have unread : outcome (listEnabled false) state.db = .error databaseError := by
    rw [listEnabled, outcome_select]
    rfl
  have same : (state.reload false watches).folders = state.folders := by
    rw [WatcherState.reload, unread, reloadFolders]
  constructor
  · intro mirrors
    exact ⟨fun folder member => mirrors.configured folder (same ▸ member),
      fun row member => same ▸ mirrors.watched row member⟩
  · intro mirrors
    exact ⟨fun folder member => mirrors.configured folder (same ▸ member),
      fun row member => same ▸ mirrors.watched row member⟩

theorem upToDate_exec_iff (state : WatcherState) (step : FolderStep) :
    UpToDate (step.exec state) ↔ ReloadsWell state step := by
  cases step with
  | reload runs watches =>
      have both : UpToDate (state.reload runs watches) ↔ Mirrors (state.reload runs watches) := by
        constructor
        · intro upToDate
          exact (upToDate rfl).1
        · intro mirrors _
          exact ⟨mirrors, mirrors.nothingElse⟩
      cases runs with
      | true => exact both.trans (mirrors_reload_iff state watches)
      | false => exact both.trans (mirrors_reload_failed state watches)
  | folderAdd runs params => exact iff_of_true (fun reloaded => by cases reloaded) trivial
  | folderRemove runs id => exact iff_of_true (fun reloaded => by cases reloaded) trivial
  | connect runs account => exact iff_of_true (fun reloaded => by cases reloaded) trivial
  | disconnect runs accountId => exact iff_of_true (fun reloaded => by cases reloaded) trivial
  | directories isDir => exact iff_of_true (fun reloaded => by cases reloaded) trivial

/-- After every reload of a run the map holds what is configured, and events elsewhere give no
task, exactly when each reload of the run finds nothing in its way. -/
theorem reloads_upToDate_iff (isDir : PathKey → Bool) (steps : List FolderStep) :
    Throughout FolderStep.exec UpToDate steps (WatcherState.initial isDir) ↔
      Along FolderStep.exec ReloadsWell steps (WatcherState.initial isDir) := by
  refine @throughout_iff_along _ _ FolderStep.exec ReloadsWell (fun _ => True) UpToDate
    (fun _ _ => id) ?_ _ trivial ?_ steps
  · intro state step _ _
    exact upToDate_exec_iff state step
  · intro reloaded
    cases reloaded

/-- A folder is added and watched, and then removed. -/
def addThenRemove : List FolderStep := [
  .connect true ⟨"ann", "ann@example.com", 1⟩,
  .folderAdd (fun _ => true) (some ⟨some "/home/ann/Docs", none⟩),
  .reload true fun _ => true,
  .folderRemove true (some "1"),
  .reload true fun _ => true]

/-- The watcher goes on watching a folder that is removed, and its events still give tasks. -/
theorem reload_keeps_removed :
    ¬ Throughout FolderStep.exec UpToDate addThenRemove (WatcherState.initial fun _ => true) := by
  intro throughout
  have last := throughout.last
  have stray := (last rfl).2 "/home/ann/Docs/a.txt" false .create 0
  have none : eventToTask "/home/ann/Docs/a.txt" false .create
      (run FolderStep.exec addThenRemove (WatcherState.initial fun _ => true)).folders.folders 0 = none := by
    apply stray
    decide
  exact absurd none (by decide)

end Watcher
end GDriver
