import GDriver.Conflict.Resolution
import GDriver.Moves.Rows

namespace GDriver

open Library Routine Db Api Sync Conflict

/-!
# Rows that stay

Files are deleted by marking their rows.  A row leaves the database only with the
account it belongs to.
-/

/-- The row under the key is there if it was. -/
def KeepsRow (fileId accountId : String) (db later : Database) : Prop :=
  (db.file fileId accountId).isSome = true → (later.file fileId accountId).isSome = true

section Writes

variable {fileId accountId : String}

instance : IsPreorder Database (KeepsRow fileId accountId) where
  refl _ stored := stored
  trans _ _ _ one two stored := two (one stored)

theorem KeepsRow.of_same {db later : Database} (same : later.driveFiles = db.driveFiles) :
    KeepsRow fileId accountId db later := by
  intro stored
  rw [Database.file, same]
  exact stored

theorem keepsRow_putFile (db : Database) (file : Db.DriveFile) :
    KeepsRow fileId accountId db (db.putFile file) := by
  intro stored
  rw [Database.file_putFile]
  split
  · rfl
  · exact stored

theorem keepsRow_updateFiles (db : Database) (selected : Row Db.DriveFile → Bool)
    (change : Db.DriveFile → Db.DriveFile) (keeps : ∀ file, (change file).key = file.key) :
    KeepsRow fileId accountId db (db.updateFiles selected change keeps) := by
  intro stored
  rw [Database.file_updateFiles, Option.isSome_map]
  rw [Database.file, KeyedTable.lookup, Option.isSome_map] at stored
  exact stored

theorem keepsRow_putTask (db : Database) (task : SyncTask) : KeepsRow fileId accountId db (db.putTask task) :=
  KeepsRow.of_same (Database.driveFiles_putTask db task)

/-- The rows of other accounts stay when an account is disconnected. -/
theorem keepsRow_deleteAccount (runs : Bool) {other : String} (different : runs = true → other ≠ accountId) :
    Keeps (KeepsRow fileId accountId) (deleteAccount runs other) := by
  intro db stored
  cases runs with
  | false => exact stored
  | true =>
      rcases Option.isSome_iff_exists.mp stored with ⟨file, found⟩
      rcases Option.map_eq_some_iff.mp found with ⟨row, there, same⟩
      have owner : row.data.accountId = accountId := by
        rw [same]
        exact (Database.holds_of_file found).2.2
      have left : (db.driveFiles.delete fun file => file.accountId = other).lookupRow (fileId, accountId) =
          some row := by
        rw [KeyedTable.lookupRow_delete, there]
        exact Option.filter_eq_some_iff.mpr ⟨rfl, by simp [owner, (different rfl).symm]⟩
      have kept : (final (deleteAccount true other) db).file fileId accountId = some row.data :=
        congrArg (Option.map Row.data) left
      rw [kept]
      rfl

end Writes

/-! ## Requests, callbacks and syncs -/

section Operations

variable {fileId accountId : String}

theorem allowsEdits_keepsRow : AllowsEdits (KeepsRow fileId accountId) where
  enqueues db task _ := keepsRow_putTask db task
  inserts db _ _ _ _ _ _ _ _ := keepsRow_putFile db _
  updates db selected change keeps _ := keepsRow_updateFiles db selected change keeps

theorem allowsCallbacks_staysStored :
    AllowsCallbacks (KeepsRow fileId accountId) (StaysStored fileId accountId) where
  lifts _ _ keeps := keeps
  disk _ _ _ stored := stored
  opens _ _ stored := stored
  releases _ _ stored := stored

variable [Rfc3339]

theorem keepsRow_sync {work : SyncWork} (stays : work ≠ .disconnect true accountId) :
    Keeps (KeepsRow fileId accountId) work.run := by
  cases work with
  | connect runs account =>
      intro db
      rw [SyncWork.run, final_insertAccount]
      split
      · exact KeepsRow.of_same rfl
      · exact Std.Refl.refl db
  | disconnect runs other =>
      refine keepsRow_deleteAccount runs fun executed same => stays ?_
      rw [executed, same]
  | storeToken runs now other token =>
      intro db
      rw [SyncWork.run, final_setToken]
      split
      · exact KeepsRow.of_same rfl
      · exact Std.Refl.refl db
  | listed runs other apiFile => exact keeps_upsertFile_of runs fun db => keepsRow_putFile db _
  | change answers other reported syncMode mountPoint =>
      exact keeps_processChange_of (fun _ _ _ db => keepsRow_updateFiles db _ _ _)
        (fun _ _ _ db => keepsRow_putTask db _) (fun _ _ _ db => keepsRow_putFile db _)
        fun _ _ _ _ _ db => keepsRow_putTask db _
  | mirror answers other mountPoint =>
      intro db
      rw [SyncWork.run, final_attempt]
      exact moves_enqueueMirrorDownloads (fun _ _ db => keepsRow_putFile db _) fun _ _ _ db => keepsRow_putTask db _
  | resetMirror runs other => exact keeps_execute runs fun db => keepsRow_updateFiles db _ _ _

end Operations

/-! ## The engine -/

section Engine

variable [Rfc3339] {fileId accountId : String}

omit [Rfc3339] in
theorem allowsProcessing_staysStored (taskId : Nat) : AllowsProcessing taskId (StaysStored fileId accountId) where
  disk _ _ _ stored := stored
  send _ _ _ stored := stored
  task _ _ _ _ stored := stored
  error _ _ stored := stored

theorem staysStored_processUpload {answers : TaskAnswers} {task : SyncTask} {taskId : Nat}
    (identified : task.id = some taskId) : Keeps (StaysStored fileId accountId) (processUpload answers task) := by
  refine keeps_processUpload_of identified (allowsProcessing_staysStored taskId)
    (fun world _ _ => keepsRow_putFile world.db _) fun server metadata content world => ?_
  rw [store_eq]
  exact fun stored => stored

theorem staysStored_engine (system : System) (step : EngineStep) :
    StaysStored fileId accountId system.world (step.exec system).world := by
  refine keeps_engine (fun picks answers task taskId _ _ _ identified => ?_) allowsProcessing_staysStored
    (fun world _ _ _ _ _ => keepsRow_putFile world.db _) fun world _ _ _ => keepsRow_putFile world.db _
  exact keeps_beginTask_of_uploads identified (allowsProcessing_staysStored taskId) (fun _ _ _ stored => stored)
    (fun _ world _ _ => keepsRow_updateFiles world.db _ _ _) (fun _ => staysStored_processUpload identified)
    system.world

/-- A row stays through every operation but the disconnection of its account. -/
theorem keepsRow_exec {system : System} {operation : Operation}
    (stays : operation ≠ .sync (.disconnect true accountId)) :
    KeepsRow fileId accountId system.world.db (system.exec operation).world.db := by
  cases operation with
  | sync work =>
      refine keepsRow_sync (fun same => stays ?_) system.world.db
      rw [same]
  | rpc ctx answers request => exact keeps_request allowsEdits_keepsRow ctx answers request system.world.db
  | vfs cacheDir answers callback =>
      exact keeps_callback allowsEdits_keepsRow allowsCallbacks_staysStored cacheDir answers callback system.world
  | event path isDir kind folders now runs =>
      refine KeepsRow.of_same ?_
      simp only [System.exec, watch]
      split
      · rfl
      · exact sameFiles_enqueue runs _ system.world.db
  | engine step => exact staysStored_engine system step
  | user path file => exact fun stored => stored

end Engine

end GDriver
