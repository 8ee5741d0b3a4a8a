import GDriver.Library.Run
import GDriver.Local.Writes
import GDriver.Moves.Rows
import GDriver.Moves.Tasks
import GDriver.Queue.Status
import Mathlib.Logic.Relator

namespace GDriver
namespace Local

open Library Routine Db Api Sync

/-!
# Which file a local path belongs to

Rows and downloads name a local path, and nothing in the database keeps two of them from
naming the same.  A path belongs to one file as long as every path that a step gives is free:
no other file has it, and the step gives it to no other file.
-/

/-- The row of the file is not trashed, and has this path. -/
def Owns (db : Database) (key : String × String) (path : String) : Prop :=
  ∃ file, db.file key.1 key.2 = some file ∧ file.isTrashed = false ∧ file.localPath = some path

/-- The task downloads the file to this path. -/
structure DownloadsTo (key : String × String) (path : String) (task : SyncTask) : Prop where
  operation : task.operation = .download
  fileId : task.fileId = some key.1
  accountId : task.accountId = key.2
  localPath : task.localPath = some path

/-- A download of the file to this path is pending. -/
def Awaits (db : Database) (key : String × String) (path : String) : Prop :=
  ∃ taskId task, db.task taskId = some task ∧ task.status = .pending ∧ DownloadsTo key path task

/-- A path belongs to one file. -/
structure PathsBelong (db : Database) : Prop where
  rows : Relator.LeftUnique (Owns db)
  downloads : Relator.LeftUnique (Awaits db)

/-! ## Paths that a step gives -/

section Given

variable [Rfc3339] (system : System)

/-- The paths that a step gives to the rows of files. -/
def Gives : Operation → String × String → String → Prop
  | .sync (.mirror answers accountId mountPoint), key, path =>
      ∃ placement ∈ placements answers accountId mountPoint system.world.db,
        placement.file.key = key ∧ placement.path = path
  | .rpc _ answers (.createItem name isFolder localPath), key, path =>
      createdItemFor answers name system.world.db = some key.2 ∧ isFolder.getD false = false ∧
        key.1 = "local-" ++ toString answers.nanos ∧ system.world.db.file key.1 key.2 = none ∧
        localPath = some path
  | .rpc ctx answers (.modifyItem about newName localPath), key, path =>
      ∃ row, requestedRow ctx answers system.world.db about = some row ∧ row.key = key ∧
        row.isTrashed = false ∧ goesOnToContent answers newName = true ∧ answers.runs 4 = true ∧
        localPath = some path
  | .vfs cacheDir answers (.create parent name), key, path =>
      ∃ owner, createdFor answers parent name system.world = some owner ∧
        key = ("local-" ++ toString answers.nanos, owner.1) ∧ system.world.db.file key.1 key.2 = none ∧
        path = Vfs.cachePath cacheDir key.2 key.1
  | .engine (.record answers), key, path =>
      ∃ download row, system.engine = .landed download ∧ download.driveFile = some row ∧
        row.key = key ∧ row.isTrashed = false ∧ answers.upserts = true ∧ download.localPath = path
  | .engine (.begin picks answers), key, path =>
      picks = true ∧ system.engine = .idle ∧ answers.hasClient = true ∧
        ∃ task fileId conflict, system.world.db.nextPending = some task ∧ task.operation = .upload ∧
          task.fileId = some fileId ∧ task.localPath = some path ∧
          Conflict.detected answers.conflict task fileId path system.world = some conflict ∧
          Conflict.stage answers.conflict.resolve path system.world = .landed ∧
          answers.conflict.resolve.upsertsRecord = true ∧ conflict.1.key = key ∧
          conflict.1.isTrashed = false
  | _, _, _ => False

/-- The paths that a step asks for downloads to.  A download that cannot be put in place is
pending again. -/
def AsksFor : Operation → String × String → String → Prop
  | .sync (.mirror answers accountId mountPoint), key, path =>
      ∃ placement ∈ placements answers accountId mountPoint system.world.db,
        answers.enqueues placement.turn = true ∧ (placement.file.id, accountId) = key ∧
        placement.path = path
  | .sync (.change answers accountId reported syncMode mountPoint), key, path =>
      ∃ apiFile, Metadata.changeWrite accountId reported = some (.store (mapApiFileToDb apiFile accountId)) ∧
        Metadata.writeRuns answers system.world.db (.store (mapApiFileToDb apiFile accountId)) = true ∧
        apiFile.trashed ≠ some true ∧ (mapApiFileToDb apiFile accountId).isFolder = false ∧
        path = mirrorPath mountPoint (mapApiFileToDb apiFile accountId).name ∧
        isCovered answers accountId syncMode path system.world.db = true ∧ answers.enqueues = true ∧
        (mapApiFileToDb apiFile accountId).key = key
  | .rpc ctx answers (.fetchContents about), key, path =>
      ∃ file, requestedFile ctx answers about system.world.db = some file ∧ file.key = key ∧
        answers.runs 2 = true ∧
        file.localPath.getD (ctx.cacheDir ++ "/" ++ file.accountId ++ "/" ++ file.id) = path
  | .vfs cacheDir answers (.read ino fh), key, path =>
      ∃ handle row, HasHandle ino fh handle system.world ∧ answers.runs 0 = true ∧
        Vfs.Database.rowAtInode system.world.db ino = some row ∧ row.data.key = key ∧
        contentPath cacheDir row.data = path ∧
        (row.data.syncState = .cloudOnly ∨ system.world.disk path = none) ∧
        answers.failures 0 = none ∧ answers.runs 1 = true
  | .engine (.land answers), key, path =>
      ∃ download task, system.engine = .fetched download ∧
        finds answers.renameFailure (tmpPath download.localPath) system.world = false ∧
        ¬ maxRetries < download.task.retryCount + 1 ∧ answers.failure.setsStatus = true ∧
        system.world.db.task download.taskId = some task ∧ DownloadsTo key path task
  | _, _, _ => False

/-- Every path that the step gives to a file is free for it. -/
structure GivesFreely (operation : Operation) : Prop where
  rows : ∀ key path, Gives system operation key path →
    ∀ other, Owns system.world.db other path ∨ Gives system operation other path → other = key
  downloads : ∀ key path, AsksFor system operation key path →
    ∀ other, Awaits system.world.db other path ∨ AsksFor system operation other path → other = key

end Given

/-! ## Rows -/

section Rows

theorem owns_of_changed {db : Database} {row file : Db.DriveFile} {path : String} (held : db.Holds row)
    (key : file.key = row.key) (trash : file.isTrashed = row.isTrashed)
    (same : file.localPath = row.localPath) (live : file.isTrashed = false)
    (there : file.localPath = some path) : Owns db file.key path := by
  rw [trash] at live
  rw [same] at there
  rw [key]
  exact ⟨row, held, live, there⟩

variable [Rfc3339] {system : System} {file : Db.DriveFile} {path : String}

theorem owns_or_gives_sync {work : SyncWork} (stores : Stores system (.sync work) file)
    (live : file.isTrashed = false) (there : file.localPath = some path) :
    Owns system.world.db file.key path ∨ Gives system (.sync work) file.key path := by
  cases work with
  | connect runs account => cases stores
  | disconnect runs accountId => cases stores
  | storeToken runs now accountId token => cases stores
  | listed runs accountId apiFile =>
      rw [stores.2] at there
      cases there
  | change answers accountId reported syncMode mountPoint =>
      rcases stored_of_change syncMode mountPoint stores with trashed | ⟨_, bare⟩
      · rw [live] at trashed
        cases trashed
      · rw [bare] at there
        cases there
  | mirror answers accountId mountPoint =>
      rcases stores with ⟨placement, placed, same⟩
      rw [same] at there
      refine Or.inr ⟨placement, placed, ?_, Option.some.inj there⟩
      rw [same]
      rfl
  | resetMirror runs accountId =>
      rcases stores.2 with ⟨row, _, same⟩
      rw [same] at there
      cases there

theorem owns_or_gives_rpc {ctx : Ipc.RouterContext} {answers : Ipc.RpcAnswers} {request : Rpc}
    (stores : Stores system (.rpc ctx answers request) file) (live : file.isTrashed = false)
    (there : file.localPath = some path) :
    Owns system.world.db file.key path ∨ Gives system (.rpc ctx answers request) file.key path := by
  cases request with
  | setOffline about enabled =>
      rcases stores.2 with ⟨row, enable, found, _, same⟩
      subst same
      exact Or.inl (owns_of_changed (of_requestedRow found).1 rfl rfl rfl live there)
  | clearCache =>
      rcases stores.2 with ⟨row, held, _, _, same⟩
      subst same
      exact Or.inl (owns_of_changed held rfl rfl rfl live there)
  | fetchContents about => cases stores
  | createItem name isFolder localPath =>
      rcases stores with ⟨accountId, newName, created, _, absent, same⟩
      split at same
      · rw [same] at there
        cases there
      · next regular =>
          rw [same] at there ⊢
          exact Or.inr ⟨created, Bool.eq_false_iff.mpr regular, rfl, absent, there⟩
  | modifyItem about newName localPath =>
      rcases stores with ⟨row, found, ⟨_, same⟩ | ⟨target, carries, executed, goesOn, same⟩⟩
      · subst same
        refine Or.inl (owns_of_changed (of_requestedRow found).1 ?_ ?_ ?_ live there)
        all_goals cases newName <;> rfl
      · have trash : file.isTrashed = row.isTrashed := by
          rw [same]
          cases newName <;> rfl
        have named : row.key = file.key := by
          rw [same]
          cases newName <;> rfl
        rw [same] at there
        rw [trash] at live
        exact Or.inr ⟨row, found, named, live, goesOn, executed, carries.trans there⟩
  | deleteItem about =>
      rcases stores with ⟨row, _, same⟩
      rw [same] at live
      cases live

theorem owns_or_gives_vfs {cacheDir : String} {answers : Vfs.CallbackAnswers} {callback : Callback}
    (stores : Stores system (.vfs cacheDir answers callback) file) (live : file.isTrashed = false)
    (there : file.localPath = some path) :
    Owns system.world.db file.key path ∨ Gives system (.vfs cacheDir answers callback) file.key path := by
  cases callback with
  | create parent name =>
      rcases stores with ⟨owner, newName, created, _, absent, same⟩
      rw [same] at absent there ⊢
      exact Or.inr ⟨owner, created, rfl, absent, (Option.some.inj there).symm⟩
  | mkdir parent name =>
      rcases stores with ⟨owner, newName, _, _, _, same⟩
      rw [same] at there
      cases there
  | write ino fh offset data written =>
      rcases stores with ⟨row, held, size, modifiedTime, same⟩
      subst same
      exact Or.inl (owns_of_changed held rfl rfl rfl live there)
  | unlink parent name =>
      rcases stores with ⟨row, _, same⟩
      rw [same] at live
      cases live
  | rmdir parent name =>
      rcases stores with ⟨row, _, same⟩
      rw [same] at live
      cases live
  | rename parent name newParent newName =>
      rcases stores with ⟨row, held, now, toName, newParentId, same⟩
      subst same
      exact Or.inl (owns_of_changed held rfl rfl rfl live there)
  | openFile ino => cases stores
  | read ino fh => cases stores
  | flush ino fh => cases stores
  | fsync ino fh => cases stores
  | release fh => cases stores

theorem owns_or_gives_engine {step : EngineStep} (stores : Stores system (.engine step) file)
    (live : file.isTrashed = false) (there : file.localPath = some path) :
    Owns system.world.db file.key path ∨ Gives system (.engine step) file.key path := by
  cases step with
  | begin picks answers =>
      rcases stores with ⟨picked, idle, task, next, client, uploads | deletes⟩
      · rcases uploads with ⟨operation, ⟨apiFile, _, same⟩ | conflicts⟩
        · rw [same] at there
          cases there
        · rcases conflicts with ⟨fileId, localPath, conflict, about, target, found,
            ⟨apiFile, _, same⟩ | ⟨landed, executed, content, same⟩⟩
          · rw [same] at there
            cases there
          · rw [same] at live there ⊢
            rw [Option.some.inj there] at target found landed
            exact Or.inr ⟨picked, idle, client, task, fileId, conflict, next, operation, about, target,
              found, landed, executed, rfl, live⟩
      · rcases deletes.2 with ⟨row, _, same⟩
        rw [same] at live
        cases live
  | land answers => cases stores
  | record answers =>
      rcases stores with ⟨download, row, engine, held, executed, same⟩
      rw [same] at live there ⊢
      exact Or.inr ⟨download, row, engine, held, rfl, live, executed, Option.some.inj there⟩
  | removeCopy answers => cases stores
  | recordDelete answers =>
      rcases stores with ⟨delete, row, _, _, _, same⟩
      rw [same] at there
      cases there
  | restart => cases stores

/-- A path that a file owns after a step is one that it owned before, or is given. -/
theorem of_owns_exec {operation : Operation} {key : String × String}
    (owns : Owns (system.exec operation).world.db key path) :
    Owns system.world.db key path ∨ Gives system operation key path := by
  rcases owns with ⟨file, found, live, there⟩
  rcases rowsFrom_exec system operation key.1 key.2 file found with same | stores
  · exact Or.inl ⟨file, same, live, there⟩
  · have named : file.key = key := KeyedTable.key_of_lookup found
    rw [← named]
    cases operation with
    | sync work => exact owns_or_gives_sync stores live there
    | rpc ctx answers request => exact owns_or_gives_rpc stores live there
    | vfs cacheDir answers callback => exact owns_or_gives_vfs stores live there
    | event about isDir kind folders now runs => cases stores
    | engine step => exact owns_or_gives_engine stores live there
    | user about content => cases stores

end Rows

/-! ## Downloads -/

theorem downloadsTo_of_asksSame {task later : SyncTask} {key : String × String} {path : String}
    (asks : task.AsksSame later) (downloads : DownloadsTo key path later) : DownloadsTo key path task where
  operation := asks.operation.symm.trans downloads.operation
  fileId := asks.fileId.symm.trans downloads.fileId
  accountId := asks.accountId.symm.trans downloads.accountId
  localPath := asks.localPath.symm.trans downloads.localPath

/-- Every pending download was pending before, or is asked for. -/
def AwaitsFrom (asked : String × String → String → Prop) (db later : Database) : Prop :=
  ∀ key path, Awaits later key path → Awaits db key path ∨ asked key path

section Enqueueing

variable {asked : String × String → String → Prop} {db later : Database}

instance : IsPreorder Database (AwaitsFrom asked) where
  refl _ _ _ awaits := Or.inl awaits
  trans _ _ _ one two key path awaits := (two key path awaits).elim (one key path) Or.inr

theorem AwaitsFrom.of_same (same : SameQueue db later) : AwaitsFrom asked db later := by
  rintro key path ⟨taskId, task, found, waits⟩
  rw [Database.task, same] at found
  exact Or.inl ⟨taskId, task, found, waits⟩

theorem awaitsFrom_putFile (file : Db.DriveFile) (db : Database) : AwaitsFrom asked db (db.putFile file) :=
  .of_same rfl

/-- A statement on another table brings no download. -/
theorem awaitsFrom_execute {write : Database → Database} (same : ∀ db, SameQueue db (write db)) (runs : Bool) :
    Keeps (AwaitsFrom asked) (execute runs write) :=
  keeps_execute runs fun db => AwaitsFrom.of_same (same db)

theorem awaitsFrom_putTask {task : SyncTask}
    (asks : ∀ key path, DownloadsTo key path task → asked key path) (db : Database) :
    AwaitsFrom asked db (db.putTask task) := by
  rintro key path ⟨taskId, stored, found, pending, downloads⟩
  rcases Database.task_putTask_cases found with same | before
  · rw [same] at downloads
    exact Or.inr (asks key path ⟨downloads.operation, downloads.fileId, downloads.accountId, downloads.localPath⟩)
  · exact Or.inl ⟨taskId, stored, before, pending, downloads⟩

theorem awaitsFrom_putTask_of_other {task : SyncTask} (other : task.operation ≠ .download) (db : Database) :
    AwaitsFrom asked db (db.putTask task) :=
  awaitsFrom_putTask (fun _ _ downloads => absurd downloads.operation other) db

/-- A task of another kind may be enqueued. -/
theorem awaitsFrom_enqueue {task : SyncTask} (other : task.operation ≠ .download) (runs : Bool) :
    Keeps (AwaitsFrom asked) (enqueue runs task) :=
  keeps_enqueue_of runs (awaitsFrom_putTask_of_other other)

end Enqueueing

section Syncs

variable [Rfc3339] {system : System}

/-- A change with a record that is not in the trash stores its row, and then looks whether to ask for a
download. -/
theorem final_processChange_of_record {answers : ProcessChangeAnswers} {accountId : String}
    {reported : Change} {fileId : String} (about : reported.fileId = some fileId)
    (survives : reported.removed.getD false = false) {apiFile : Api.DriveFile}
    (record : reported.file = some apiFile) (kept : apiFile.trashed ≠ some true) (syncMode : SyncMode)
    (mountPoint : String) (db : Database) :
    final (processChange answers accountId reported syncMode mountPoint) db =
      let file := mapApiFileToDb apiFile accountId
      if Metadata.writeRuns answers db (.store file) then
        final (enqueueDownloadForChange answers accountId file syncMode mountPoint) (db.putFile file)
      else db := by
  have looking := outcome_getFileById answers.looksUp db fileId accountId
  have storing := outcome_upsertFile answers.upserts db (mapApiFileToDb apiFile accountId)
  have stored := final_upsertFile answers.upserts db (mapApiFileToDb apiFile accountId)
  simp only [processChange, about, survives, record, if_neg kept, ite_self, Bool.false_eq_true,
    if_false]
  by_cases looks : answers.looksUp = true
  · rw [if_pos looks] at looking
    rw [final_bind_of_ok looking, final_getFileById]
    by_cases stores : (answers.upserts && db.acceptsFile (mapApiFileToDb apiFile accountId)) = true
    · have runs : Metadata.writeRuns answers db (.store (mapApiFileToDb apiFile accountId)) = true := by
        rw [Metadata.writeRuns_store, looks, stores]
        rfl
      rw [if_pos stores] at storing stored
      rw [final_bind_of_ok storing, stored, if_pos runs]
    · have fails : ¬ Metadata.writeRuns answers db (.store (mapApiFileToDb apiFile accountId)) = true := by
        rw [Metadata.writeRuns_store, looks, Bool.true_and]
        exact stores
      rw [if_neg stores] at storing stored
      rw [final_bind_of_error storing, stored, if_neg fails]
  · have fails : ¬ Metadata.writeRuns answers db (.store (mapApiFileToDb apiFile accountId)) = true := by
      rw [Metadata.writeRuns_store, Bool.and_eq_true_iff]
      exact fun both => looks both.1
    rw [if_neg looks] at looking
    rw [final_bind_of_error looking, final_getFileById, if_neg fails]

/-- A change to a regular file that is kept stores its row, and then asks for a download. -/
theorem final_processChange_of_kept {answers : ProcessChangeAnswers} {accountId : String}
    {reported : Change} {fileId : String} (about : reported.fileId = some fileId)
    (survives : reported.removed.getD false = false) {apiFile : Api.DriveFile}
    (record : reported.file = some apiFile) (kept : apiFile.trashed ≠ some true)
    (regular : (mapApiFileToDb apiFile accountId).isFolder = false) (syncMode : SyncMode)
    (mountPoint : String) (db : Database) :
    final (processChange answers accountId reported syncMode mountPoint) db =
      let file := mapApiFileToDb apiFile accountId
      if Metadata.writeRuns answers db (.store file) then
        if isCovered answers accountId syncMode (mirrorPath mountPoint file.name) db && answers.enqueues then
          (db.putFile file).putTask (changeDownload answers accountId mountPoint file)
        else db.putFile file
      else db := by
  have asking := final_enqueueDownloadForChange answers accountId regular rfl syncMode mountPoint
    (db.putFile (mapApiFileToDb apiFile accountId))
  rw [final_processChange_of_record about survives record kept]
  dsimp only
  rw [asking]
  rfl

theorem awaitsFrom_change (answers : ProcessChangeAnswers) (accountId : String) (reported : Change)
    (syncMode : SyncMode) (mountPoint : String) :
    AwaitsFrom (AsksFor system (.sync (.change answers accountId reported syncMode mountPoint)))
      system.world.db (final (processChange answers accountId reported syncMode mountPoint) system.world.db) := by
  cases about : reported.fileId with
  | none =>
      simp only [processChange, about]
      exact Std.Refl.refl _
  | some fileId =>
      by_cases asks : ∃ apiFile, reported.removed.getD false = false ∧ reported.file = some apiFile ∧
          apiFile.trashed ≠ some true ∧ (mapApiFileToDb apiFile accountId).isFolder = false
      · rcases asks with ⟨apiFile, survives, record, kept, regular⟩
        rw [final_processChange_of_kept about survives record kept regular]
        dsimp only
        split
        · next runs =>
            refine IsTrans.trans _ (system.world.db.putFile (mapApiFileToDb apiFile accountId)) _
              (AwaitsFrom.of_same rfl) ?_
            split
            · next both =>
                rcases Bool.and_eq_true_iff.mp both with ⟨covered, enqueues⟩
                refine awaitsFrom_putTask (fun key path downloads => ?_) _
                have target := Option.some.inj downloads.localPath
                refine ⟨apiFile, Metadata.changeWrite_of_record about survives record accountId, runs, kept,
                  regular, target.symm, ?_, enqueues, ?_⟩
                · rw [← target]
                  exact covered
                · exact Prod.ext (Option.some.inj downloads.fileId) downloads.accountId
            · exact Std.Refl.refl _
        · exact Std.Refl.refl _
      · exact keeps_processChange_of (fun _ _ _ _ => AwaitsFrom.of_same rfl)
          (fun _ _ _ => awaitsFrom_putTask_of_other (by decide : TaskOperation.delete ≠ .download))
          (fun _ _ _ _ => AwaitsFrom.of_same rfl)
          (fun apiFile record survives kept regular =>
            (asks ⟨apiFile, survives, record, kept, regular⟩).elim) _

theorem awaitsFrom_mirror (answers : MirrorAnswers) (accountId mountPoint : String) :
    AwaitsFrom (AsksFor system (.sync (.mirror answers accountId mountPoint))) system.world.db
      (final (enqueueMirrorDownloads answers accountId mountPoint) system.world.db) := by
  refine moves_enqueueMirrorDownloads (fun _ _ => awaitsFrom_putFile _)
    fun placement placed enqueues => awaitsFrom_putTask fun key path downloads => ?_
  refine ⟨placement, placed, enqueues, ?_, Option.some.inj downloads.localPath⟩
  exact Prod.ext (Option.some.inj downloads.fileId) downloads.accountId

theorem awaitsFrom_sync (work : SyncWork) :
    AwaitsFrom (AsksFor system (.sync work)) system.world.db (final work.run system.world.db) := by
  cases work with
  | connect runs account =>
      rw [SyncWork.run, final_insertAccount]
      split
      · exact AwaitsFrom.of_same rfl
      · exact Std.Refl.refl _
  | disconnect runs accountId => exact awaitsFrom_execute (fun _ => by rfl) runs _
  | storeToken runs now accountId token =>
      rw [SyncWork.run, final_setToken]
      split
      · exact AwaitsFrom.of_same rfl
      · exact Std.Refl.refl _
  | listed runs accountId apiFile => exact keeps_upsertFile_of runs (awaitsFrom_putFile _) _
  | change answers accountId reported syncMode mountPoint => exact awaitsFrom_change _ _ _ _ _
  | mirror answers accountId mountPoint =>
      rw [SyncWork.run, final_attempt]
      exact awaitsFrom_mirror answers accountId mountPoint
  | resetMirror runs accountId => exact awaitsFrom_execute (fun _ => by rfl) runs _

end Syncs

section Requests

open Ipc

variable [Rfc3339] {system : System}

theorem awaitsFrom_fetchContents (ctx : RouterContext) (answers : RpcAnswers) (about : Option String) :
    AwaitsFrom (AsksFor system (.rpc ctx answers (.fetchContents about))) system.world.db
      (final (handleFpFetchContents ctx answers about) system.world.db) := by
  simp only [handleFpFetchContents, requiredParam, final_bind_orRpcError, final_bind_resolveFileForPath]
  cases about with
  | none => exact Std.Refl.refl _
  | some about =>
      rw [Option.elim_some]
      cases found : (outcome (resolveFileForPath ctx answers about) system.world.db).toOption with
      | none => exact Std.Refl.refl _
      | some file =>
          rw [Option.elim_some, final_bind_pure, orInternal, final_mapError]
          rw [Vfs.enqueueDownloadTask, Vfs.enqueueTask, final_enqueue]
          split
          · next runs =>
              refine awaitsFrom_putTask (fun key path downloads => ?_) _
              refine ⟨file, found, ?_, runs, Option.some.inj downloads.localPath⟩
              exact Prod.ext (Option.some.inj downloads.fileId) downloads.accountId
          · exact Std.Refl.refl _

theorem awaitsFrom_request (ctx : RouterContext) (answers : RpcAnswers) (request : Rpc) :
    AwaitsFrom (AsksFor system (.rpc ctx answers request)) system.world.db
      (final (request.run ctx answers) system.world.db) := by
  have inserts {runs : Bool} {file : Db.DriveFile} :
      Keeps (AwaitsFrom (AsksFor system (.rpc ctx answers request))) (Vfs.insertFile runs file) :=
    keeps_insertFile (awaitsFrom_putFile file) runs
  have uploads (runs : Bool) (now : Int) (accountId fileId localPath : String) :
      Keeps (AwaitsFrom (AsksFor system (.rpc ctx answers request)))
        (Vfs.enqueueUploadTask runs now accountId fileId localPath) :=
    awaitsFrom_enqueue (by decide : TaskOperation.upload ≠ .download) runs
  cases request with
  | setOffline path enabled =>
      rw [Rpc.run, final_attempt]
      exact keeps_handleFsSetOffline (fun _ _ _ _ => awaitsFrom_execute (fun _ => by rfl) _) ctx answers path enabled _
  | clearCache =>
      rw [Rpc.run, handleOfflineClearCache, orInternal, final_mapError]
      exact awaitsFrom_execute (fun _ => by rfl) (answers.runs 0) _
  | fetchContents about =>
      rw [Rpc.run, final_attempt]
      exact awaitsFrom_fetchContents ctx answers about
  | createItem name isFolder localPath =>
      rw [Rpc.run, final_attempt]
      exact keeps_handleFpCreateItem (fun _ _ _ _ _ _ _ => inserts) uploads name isFolder localPath _
  | modifyItem about newName localPath =>
      exact keeps_handleFpModifyItem (fun _ _ _ _ => awaitsFrom_execute (fun _ => by rfl) _)
        (fun _ _ _ other => awaitsFrom_enqueue other _)
        (fun _ _ _ _ _ => awaitsFrom_execute (fun _ => by rfl) _) uploads
        ctx about localPath _
  | deleteItem about =>
      exact keeps_handleFpDeleteItem (fun _ _ => awaitsFrom_execute (fun _ => by rfl) _)
        (fun _ _ other => awaitsFrom_enqueue other _) ctx about _

end Requests

section Callbacks

open Vfs

variable [Rfc3339] {system : System}

/-- A read asks for a download of content that is not there. -/
theorem awaitsFrom_read (cacheDir : String) (answers : CallbackAnswers) (ino fh : Nat) :
    AwaitsFrom (AsksFor system (.vfs cacheDir answers (.read ino fh))) system.world.db
      (final (requestContent answers cacheDir ino fh) system.world).db := by
  rw [requestContent, final_bind_of_reads final_validHandle]
  cases valid : outcome (validHandle ino fh) system.world with
  | error errno => exact Std.Refl.refl _
  | ok handle =>
      have has := outcome_validHandle_eq_ok_iff.mp valid
      simp only [Except.toOption, Option.elim_some, getFileDetailsByInode, final_bind_orEio_select,
        final_bind_orErrno]
      split
      · next looksUp =>
          cases found : Vfs.Database.rowAtInode system.world.db ino with
          | none => exact Std.Refl.refl _
          | some row =>
              rw [Option.map_some, Option.elim_some, final_bind_of_ok (outcome_inspect _ _), final_inspect]
              split
              · next missing =>
                  rw [final_bind_callOrEio]
                  cases opens : answers.failures 0 with
                  | some failure => exact Std.Refl.refl _
                  | none =>
                      rw [Option.isSome_none, if_neg Bool.false_ne_true, final_bind_pure, orEio, final_mapError,
                        final_onDb, World.withDb_db, Vfs.enqueueDownloadTask, Vfs.enqueueTask, final_enqueue]
                      split
                      · next runs =>
                          rw [Bool.or_eq_true, decide_eq_true_eq, Bool.not_eq_true',
                            Option.isSome_eq_false_iff, Option.isNone_iff_eq_none] at missing
                          refine awaitsFrom_putTask (fun key path downloads => ?_) _
                          have target := Option.some.inj downloads.localPath
                          refine ⟨handle, row, has, looksUp, found, ?_, target, ?_, opens, runs⟩
                          · exact Prod.ext (Option.some.inj downloads.fileId) downloads.accountId
                          · rw [← target]
                            exact missing
                      · exact Std.Refl.refl _
              · exact Std.Refl.refl _
      · exact Std.Refl.refl _

/-- Every pending download of the world was pending before, or is asked for. -/
def AwaitsFromIn (asked : String × String → String → Prop) (world later : World) : Prop :=
  AwaitsFrom asked world.db later.db

instance (asked : String × String → String → Prop) : IsPreorder World (AwaitsFromIn asked) where
  refl world := Std.Refl.refl world.db
  trans _ _ _ one two := IsTrans.trans (r := AwaitsFrom asked) _ _ _ one two

theorem awaitsFrom_callback (cacheDir : String) (answers : CallbackAnswers) (callback : Callback) :
    AwaitsFromIn (AsksFor system (.vfs cacheDir answers callback)) system.world
      (final (callback.run cacheDir answers) system.world) := by
  have updates {runs : Bool} {ino : Nat} {change : Db.DriveFile → Db.DriveFile}
      {keeps : ∀ file, (change file).key = file.key} :
      Keeps (AwaitsFromIn (AsksFor system (.vfs cacheDir answers callback)))
        (onDb (updateInode runs ino change keeps)) :=
    keeps_onDb (fun _ _ keeps => keeps) (awaitsFrom_execute (fun _ => by rfl) runs)
  have inserts {runs : Bool} {file : Db.DriveFile} :
      Keeps (AwaitsFromIn (AsksFor system (.vfs cacheDir answers callback))) (onDb (insertFile runs file)) :=
    keeps_onDb (fun _ _ keeps => keeps) (keeps_insertFile (awaitsFrom_putFile file) runs)
  have tasks (runs : Bool) {task : SyncTask} (other : task.operation ≠ .download) :
      Keeps (AwaitsFromIn (AsksFor system (.vfs cacheDir answers callback))) (onDb (enqueue runs task)) :=
    keeps_onDb (fun _ _ keeps => keeps) (awaitsFrom_enqueue other runs)
  have uploads (runs : Bool) (now : Int) (accountId fileId localPath : String) :
      Keeps (AwaitsFromIn (AsksFor system (.vfs cacheDir answers callback)))
        (onDb (enqueueUploadTask runs now accountId fileId localPath)) :=
    tasks runs (by decide : TaskOperation.upload ≠ .download)
  have disk (world : World) (path : String) (file : Option DiskFile) :
      AwaitsFromIn (AsksFor system (.vfs cacheDir answers callback)) world (world.putOnDisk path file) :=
    AwaitsFrom.of_same rfl
  cases callback with
  | openFile ino => exact keeps_openFile (fun _ _ => AwaitsFrom.of_same rfl) answers cacheDir ino _
  | read ino fh => exact awaitsFrom_read cacheDir answers ino fh
  | create parent name =>
      rw [Callback.run, final_attempt]
      exact keeps_create disk (fun _ _ => AwaitsFrom.of_same rfl) (fun _ _ _ _ _ _ => inserts) cacheDir parent
        name _
  | write ino fh offset data written =>
      rw [Callback.run, final_attempt]
      exact keeps_write disk (fun _ _ _ _ => updates) answers ino fh offset data written _
  | flush ino fh => exact keeps_uploadIfModified uploads answers ino fh _
  | fsync ino fh => exact keeps_uploadIfModified uploads answers ino fh _
  | unlink parent name =>
      exact keeps_unlink (fun _ _ _ other => tasks _ other)
        (fun failure path => keeps_removeFile (fun world => disk world path) failure) (fun _ => updates)
        parent name _
  | rename parent name newParent newName =>
      exact keeps_rename (fun _ _ _ other => tasks _ other) (fun _ _ _ _ => updates)
        (fun failure source target =>
          keeps_renameFile (fun world => disk world source) (fun world => disk world target) failure)
        parent name newParent newName _
  | mkdir parent name =>
      rw [Callback.run, final_attempt]
      exact keeps_mkdir (fun _ _ _ _ _ _ => inserts) parent name _
  | rmdir parent name =>
      exact keeps_rmdir (fun _ _ _ other => tasks _ other) (fun _ => updates) parent name _
  | release fh => exact AwaitsFrom.of_same rfl

end Callbacks

/-! ## Tasks that are pending again -/

/-- Every task was there before, and only the one that is worked on may have another status. -/
def RetriesFrom (taskId : Nat) (world later : World) : Prop :=
  ∀ id task, later.db.task id = some task →
    ∃ before, world.db.task id = some before ∧ before.AsksSame task ∧ (id = taskId ∨ before = task)

section Retries

variable {taskId : Nat} {world later : World}

theorem RetriesFrom.of_same (same : SameQueue world.db later.db) : RetriesFrom taskId world later := by
  intro id task found
  rw [Database.task, same] at found
  exact ⟨task, found, SyncTask.AsksSame.refl task, Or.inr rfl⟩

instance (taskId : Nat) : IsPreorder World (RetriesFrom taskId) where
  refl _ := RetriesFrom.of_same rfl
  trans _ _ _ one two id task found := by
    rcases two id task found with ⟨between, there, asksOn, ours⟩
    rcases one id between there with ⟨before, first, asks, earlier⟩
    refine ⟨before, first, asks.trans asksOn, ?_⟩
    rcases ours with same | same
    · exact Or.inl same
    · rw [← same]
      exact earlier

theorem allowsStoring_retries (taskId : Nat) : AllowsStoring taskId (RetriesFrom taskId) where
  disk _ _ _ := RetriesFrom.of_same rfl
  send _ _ _ := RetriesFrom.of_same rfl
  error _ _ := RetriesFrom.of_same rfl
  rows _ _ := RetriesFrom.of_same rfl
  drive _ _ := RetriesFrom.of_same rfl
  task world change keeps asks := by
    intro id task found
    by_cases same : id = taskId
    · subst same
      rw [World.withDb_db, Database.task_updateTask_self] at found
      rcases Option.map_eq_some_iff.mp found with ⟨before, there, changed⟩
      rw [← changed]
      exact ⟨before, there, asks before, Or.inl rfl⟩
    · rw [World.withDb_db, Database.task_updateTask_of_ne _ same] at found
      exact ⟨task, found, SyncTask.AsksSame.refl task, Or.inr rfl⟩

/-- A download that is pending again is that of the task that is worked on. -/
theorem RetriesFrom.awaits {asked : String × String → String → Prop}
    (retries : RetriesFrom taskId world later)
    (ours : ∀ task key path, world.db.task taskId = some task → DownloadsTo key path task → asked key path) :
    AwaitsFromIn asked world later := by
  rintro key path ⟨id, task, found, pending, downloads⟩
  rcases retries id task found with ⟨before, there, asks, same | same⟩
  · rw [same] at there
    exact Or.inr (ours before key path there (downloadsTo_of_asksSame asks downloads))
  · rw [same] at there
    exact Or.inl ⟨id, task, there, pending, downloads⟩

end Retries

section Engine

variable {system : System} {asked : String × String → String → Prop}

/-- A task that is not pending any more awaits nothing. -/
theorem awaitsFrom_updateTask {taskId : Nat} {change : SyncTask → SyncTask}
    {keeps : ∀ task, (change task).id = task.id} (done : ∀ task, (change task).status ≠ .pending)
    (db : Database) : AwaitsFrom asked db (db.updateTask taskId change keeps) := by
  rintro key path ⟨id, task, found, pending, downloads⟩
  by_cases same : id = taskId
  · subst same
    rw [Database.task_updateTask_self] at found
    rcases Option.map_eq_some_iff.mp found with ⟨before, _, changed⟩
    rw [← changed] at pending
    exact (done before pending).elim
  · rw [Database.task_updateTask_of_ne _ same] at found
    exact Or.inl ⟨id, task, found, pending, downloads⟩

theorem awaitsFrom_updateTaskStatus {status : TaskStatus} (done : status ≠ .pending) (runs : Bool)
    (now : Int) (taskId : Nat) (errorMsg : Option String) :
    Keeps (AwaitsFrom asked) (updateTaskStatus runs now taskId status errorMsg) :=
  keeps_execute runs (awaitsFrom_updateTask fun _ => done)

/-- A failure for good awaits nothing. -/
theorem awaitsFrom_handleDownloadFailure {answers : FailureAnswers} {task : SyncTask} {taskId : Nat}
    (past : maxRetries < task.retryCount + 1 ∨ answers.setsStatus = false) (errorMsg : String) :
    Keeps (AwaitsFrom asked) (handleDownloadFailure answers task taskId errorMsg) := by
  rw [handleDownloadFailure, handleFailure]
  split
  · refine keeps_bind (awaitsFrom_updateTaskStatus (by decide) _ _ _ _) fun _ => ?_
    exact keeps_attempt (awaitsFrom_execute (fun _ => by rfl) _)
  · next again =>
      rcases past with last | fails
      · exact (again last).elim
      · intro db
        rw [updateTaskRetry, final_execute, fails, if_neg Bool.false_ne_true]
        exact Std.Refl.refl db

/-- A download that cannot be put in place is pending again, as long as it has retries. -/
theorem awaitsFrom_landFetched [Rfc3339] {download : Download} (engine : system.engine = .fetched download)
    (answers : DownloadAnswers) :
    AwaitsFromIn (AsksFor system (.engine (.land answers))) system.world
      (final (landFetched answers download) system.world) := by
  have disk (world : World) (path : String) (file : Option DiskFile) :
      AwaitsFromIn (AsksFor system (.engine (.land answers))) world (world.putOnDisk path file) :=
    AwaitsFrom.of_same rfl
  have moves : Keeps (AwaitsFromIn (AsksFor system (.engine (.land answers))))
      (observe (δ := String) (landDownload answers download)) :=
    keeps_observe (keeps_renameFile (fun world => disk world _) (fun world => disk world _) _)
  cases there : finds answers.renameFailure (tmpPath download.localPath) system.world with
  | true =>
      have landing := @Queue.isOk_landDownload answers download system.world
      rw [there] at landing
      have moved := moves system.world
      rw [landFetched, AwaitsFromIn, final_bind_of_ok (outcome_observe _ _)]
      cases landed : outcome (landDownload answers download) system.world with
      | ok done => exact moved
      | error failure =>
          rw [landed] at landing
          cases landing
  | false =>
      by_cases again : ¬ maxRetries < download.task.retryCount + 1 ∧ answers.failure.setsStatus = true
      · have retries : RetriesFrom download.taskId system.world (final (landFetched answers download) system.world) :=
          keeps_landFetched (allowsStoring_retries download.taskId).toAllowsProcessing system.world
        exact retries.awaits fun task key path found downloads =>
          ⟨download, task, engine, there, again.1, again.2, found, downloads⟩
      · have past : maxRetries < download.task.retryCount + 1 ∨ answers.failure.setsStatus = false := by
          by_cases last : maxRetries < download.task.retryCount + 1
          · exact Or.inl last
          · exact Or.inr (Bool.eq_false_iff.mpr fun sets => again ⟨last, sets⟩)
        refine keeps_bind moves (fun result => ?_) system.world
        cases result with
        | ok done => exact keeps_pure _
        | error failure =>
            refine keeps_bind (keeps_bind (keeps_attempt ?_) fun _ => ?_) fun _ => keeps_pure _
            · exact keeps_removeFile (fun world => disk world _) _
            · exact keeps_onDb (fun _ _ keeps => keeps) (awaitsFrom_handleDownloadFailure past _)

/-- What a step of the engine leaves pending. -/
theorem awaitsFrom_engine [Rfc3339] (step : EngineStep) :
    AwaitsFromIn (AsksFor system (.engine step)) system.world (step.exec system).world := by
  have completes {runs : Bool} {now : Int} {taskId : Nat} :
      Keeps (AwaitsFromIn (AsksFor system (.engine step)))
        (onDb (updateTaskStatus runs now taskId .completed none)) :=
    keeps_onDb (fun _ _ keeps => keeps) (awaitsFrom_updateTaskStatus (by decide) _ _ _ _)
  have does := step.does system
  generalize step.exec system = later at does
  cases does with
  | nothing => exact Std.Refl.refl system.world
  | restart => exact Std.Refl.refl system.world
  | @begin picks answers task taskId picked idle next identified =>
      -- The task that is begun was pending before.
      have retries : RetriesFrom taskId system.world (settle (beginTask answers task) system.world).world :=
        keeps_beginTask identified (allowsStoring_retries taskId) answers system.world
      rcases Database.of_nextPending next with ⟨_, known, stored, pending⟩
      cases known.symm.trans identified
      have awaited : AwaitsFromIn (Awaits system.world.db) system.world
          (settle (beginTask answers task) system.world).world := by
        refine retries.awaits fun held key path found downloads => ?_
        cases stored.symm.trans found
        exact ⟨taskId, task, stored, pending, downloads⟩
      exact fun key path awaits => Or.inl ((awaited key path awaits).elim id id)
  | @land answers download engine => exact awaitsFrom_landFetched engine answers
  | @record answers download engine =>
      exact keeps_bind (keeps_storeDownloaded (fun _ _ _ _ _ => AwaitsFrom.of_same rfl) answers)
        (fun _ => completes) system.world
  | @removeCopy answers delete engine =>
      exact keeps_removeLocalCopy (fun _ _ _ => AwaitsFrom.of_same rfl) answers delete system.world
  | @recordDelete answers delete engine =>
      exact keeps_bind (keeps_storeEvicted (fun _ _ _ _ => AwaitsFrom.of_same rfl) answers)
        (fun _ => completes) system.world

end Engine

/-- A download that is pending after a step was pending before, or the step asks for it. -/
theorem awaitsFrom_exec [Rfc3339] (system : System) (operation : Operation) :
    AwaitsFrom (AsksFor system operation) system.world.db (system.exec operation).world.db := by
  cases operation with
  | sync work => exact awaitsFrom_sync work
  | rpc ctx answers request => exact awaitsFrom_request ctx answers request
  | vfs cacheDir answers callback => exact awaitsFrom_callback cacheDir answers callback
  | event about isDir kind folders now runs =>
      change AwaitsFrom _ _ (final (watch about isDir kind folders now runs) system.world.db)
      rw [watch]
      split
      · exact Std.Refl.refl _
      · next task watched =>
          -- The task of an event names no file.
          refine keeps_enqueue_of runs (awaitsFrom_putTask fun key path downloads => ?_) _
          cases (Watcher.of_eventToTask watched).1.symm.trans downloads.fileId
  | engine step => exact awaitsFrom_engine step
  | user about content => exact AwaitsFrom.of_same rfl

/-! ## A path belongs to one file -/

/-- A relation stays left unique when everything new is free. -/
theorem leftUnique_of_free {α β : Type} {before later given : α → β → Prop}
    (unique : Relator.LeftUnique before) (from_ : ∀ a b, later a b → before a b ∨ given a b)
    (free : ∀ a b, given a b → ∀ other, before other b ∨ given other b → other = a) :
    Relator.LeftUnique later := by
  intro first second path one two
  rcases from_ first path one with held | given
  · rcases from_ second path two with other | new
    · exact unique held other
    · exact free second path new first (Or.inl held)
  · exact (free first path given second (from_ second path two)).symm

section Runs

variable [Rfc3339]

theorem pathsBelong_exec {system : System} {operation : Operation} (belong : PathsBelong system.world.db)
    (freely : GivesFreely system operation) : PathsBelong (system.exec operation).world.db where
  rows := leftUnique_of_free belong.rows (fun _ _ owns => of_owns_exec owns) freely.rows
  downloads := leftUnique_of_free belong.downloads (awaitsFrom_exec system operation) freely.downloads

theorem givesFreely_connect (system : System) (runs : Bool) (account : Account) :
    GivesFreely system (.sync (.connect runs account)) where
  rows _ _ given := given.elim
  downloads _ _ asked := asked.elim

theorem givesFreely_listed (system : System) (runs : Bool) (accountId : String) (apiFile : Api.DriveFile) :
    GivesFreely system (.sync (.listed runs accountId apiFile)) where
  rows _ _ given := given.elim
  downloads _ _ asked := asked.elim

/-- As long as no file has a path, and no download is pending, the first placement gives free ones, if
it gives no two files the same. -/
theorem givesFreely_mirror {system : System} {answers : MirrorAnswers} {accountId mountPoint : String}
    (unowned : ∀ owner path, ¬ Owns system.world.db owner path)
    (unawaited : ∀ owner path, ¬ Awaits system.world.db owner path)
    (apart : ∀ first ∈ placements answers accountId mountPoint system.world.db,
      ∀ second ∈ placements answers accountId mountPoint system.world.db, first.path = second.path →
        second.file.key = first.file.key) : GivesFreely system (.sync (.mirror answers accountId mountPoint)) where
  rows := by
    rintro key path ⟨first, placed, named, target⟩ other (owns | ⟨second, there, same, again⟩)
    · exact (unowned other path owns).elim
    · rw [← named, ← same]
      exact apart first placed second there (target.trans again.symm)
  downloads := by
    rintro key path ⟨first, placed, _, named, target⟩ other (awaits | ⟨second, there, _, same, again⟩)
    · exact (unawaited other path awaits).elim
    · have ids := congrArg Prod.fst (apart first placed second there (target.trans again.symm))
      have alike : second.file.id = first.file.id := ids
      rw [← named, ← same, alike]

/-- A download that is begun gives no path. -/
theorem givesFreely_beginDownload {system : System} {picks : Bool} {answers : TaskAnswers}
    (next : system.world.db.nextPending.map SyncTask.operation = some .download) :
    GivesFreely system (.engine (.begin picks answers)) where
  rows := by
    rintro key path ⟨_, _, _, task, _, _, pending, uploads, _⟩
    rw [pending, Option.map_some, uploads] at next
    cases next
  downloads _ _ asked := asked.elim

/-- A download that is put in place is not asked for again. -/
theorem givesFreely_land {system : System} {answers : DownloadAnswers}
    (lands : ∀ download, system.engine = .fetched download →
      finds answers.renameFailure (tmpPath download.localPath) system.world = true) :
    GivesFreely system (.engine (.land answers)) where
  rows _ _ given := given.elim
  downloads := by
    rintro key path ⟨download, _, engine, lost, _⟩
    rw [lands download engine] at lost
    cases lost

/-- A finished download gives its path to its file, to which it must belong. -/
theorem givesFreely_record {system : System} {answers : DownloadAnswers}
    (owned : ∀ download row, system.engine = .landed download → download.driveFile = some row →
      ∀ other, Owns system.world.db other download.localPath → other = row.key) :
    GivesFreely system (.engine (.record answers)) where
  rows := by
    rintro key path ⟨download, row, engine, looked, named, _, _, target⟩ other
      (owns | ⟨again, rowAgain, sameEngine, sameLooked, same, _⟩)
    · rw [← target] at owns
      rw [← named]
      exact owned download row engine looked other owns
    · cases engine.symm.trans sameEngine
      cases looked.symm.trans sameLooked
      rw [← named, ← same]
  downloads _ _ asked := asked.elim

end Runs

theorem pathsBelong_initial : PathsBelong System.initial.world.db := by
  constructor
  · rintro first second path ⟨file, found, _⟩ _
    cases found
  · rintro first second path ⟨taskId, task, found, _⟩ _
    cases found

/-- In a run whose steps give every path freely, a path belongs to one file all along. -/
theorem pathsBelong_of_givesFreely [Rfc3339] (operations : List Operation)
    (freely : Along System.exec GivesFreely operations System.initial) :
    Throughout System.exec (fun system => PathsBelong system.world.db) operations System.initial := by
  have keeps (system : System) (operation : Operation) (gives : GivesFreely system operation)
      (belong : PathsBelong system.world.db) : PathsBelong (system.exec operation).world.db :=
    pathsBelong_exec belong gives
  exact @throughout_of_along _ _ System.exec _ _ keeps _ _ freely pathsBelong_initial

/-! ## Two files of one name -/

/-- A listing finds two files of different names, Mirror mode places both, and the first is
downloaded. -/
def mirrorsTwo : List Operation := [
  .sync (.connect true ⟨"ann@example.com", "ann@example.com", 0⟩),
  .sync (.listed true "ann@example.com" (Api.DriveFile.named "notes" "notes.txt")),
  .sync (.listed true "ann@example.com" (Api.DriveFile.named "plans" "plans.txt")),
  .sync (.mirror (MirrorAnswers.allRun 9 1) "ann@example.com" "/mnt"),
  .engine (.begin true (TaskAnswers.allRun ⟨none, .error "no upload", []⟩ ⟨[1], 10⟩ 5)),
  .engine (.land (DownloadAnswers.allRun ⟨[1], 10⟩ 5)),
  .engine (.record (DownloadAnswers.allRun ⟨[1], 10⟩ 5))]

/-- The state after the first steps of that. -/
def mirroringTwo (steps : Nat) : System :=
  run (@System.exec untimed) (mirrorsTwo.take steps) System.initial

theorem not_owns_of_bare {db : Database} (bare : ∀ file ∈ db.driveFiles.records, file.localPath = none)
    (owner : String × String) (path : String) : ¬ Owns db owner path := by
  rintro ⟨file, found, _, there⟩
  rw [bare file ((db.driveFiles.lookup_eq_some_iff _ _).mp found).1] at there
  cases there

theorem givesFreely_mirroringTwo :
    Along (@System.exec untimed) (@GivesFreely untimed) mirrorsTwo System.initial := by
  refine ⟨@givesFreely_connect untimed _ _ _, @givesFreely_listed untimed _ _ _ _,
    @givesFreely_listed untimed _ _ _ _, ?_, @givesFreely_beginDownload untimed _ _ _ (by decide), ?_, ?_, trivial⟩
  · refine @givesFreely_mirror untimed _ _ _ _ (not_owns_of_bare ?_) ?_ ?_
    · change ∀ file ∈ (mirroringTwo 3).world.db.driveFiles.records, file.localPath = none
      decide
    · rintro owner path ⟨taskId, task, found, _⟩
      cases found
    · change ∀ first ∈ placements _ _ _ (mirroringTwo 3).world.db, ∀ second ∈ placements _ _ _
        (mirroringTwo 3).world.db, first.path = second.path → second.file.key = first.file.key
      decide
  · refine @givesFreely_land untimed _ _ fun download engine => ?_
    cases engine
    rfl
  · refine @givesFreely_record untimed _ _ fun download row engine looked other owns => ?_
    cases engine
    cases looked
    have alone : ∀ file ∈ (mirroringTwo 6).world.db.driveFiles.records,
        file.localPath = some "/mnt/notes.txt" → file.key = ("notes", "ann@example.com") := by
      decide
    rcases owns with ⟨file, found, _, there⟩
    rcases ((mirroringTwo 6).world.db.driveFiles.lookup_eq_some_iff _ _).mp found with ⟨member, named⟩
    exact named.symm.trans (alone file member there)

/-- Both files have their own path, and so had both downloads. -/
theorem pathsBelong_of_mirrorsTwo :
    Throughout (@System.exec untimed) (fun system => PathsBelong system.world.db) mirrorsTwo System.initial ∧
      Awaits (mirroringTwo 4).world.db ("notes", "ann@example.com") "/mnt/notes.txt" ∧
      Awaits (mirroringTwo 4).world.db ("plans", "ann@example.com") "/mnt/plans.txt" ∧
      Owns (mirroringTwo 7).world.db ("notes", "ann@example.com") "/mnt/notes.txt" ∧
      Owns (mirroringTwo 7).world.db ("plans", "ann@example.com") "/mnt/plans.txt" := by
  refine ⟨@pathsBelong_of_givesFreely untimed mirrorsTwo givesFreely_mirroringTwo, ⟨1, _, rfl, rfl, ?_⟩,
    ⟨2, _, rfl, rfl, ?_⟩, ⟨_, rfl, rfl, ?_⟩, ⟨_, rfl, rfl, ?_⟩⟩
  · exact ⟨rfl, rfl, rfl, by decide⟩
  · exact ⟨rfl, rfl, rfl, by decide⟩
  · decide
  · decide

/-- A listing finds two files of one name in one folder, and Mirror mode places both. -/
def listsTwice : List Operation := [
  .sync (.connect true ⟨"ann@example.com", "ann@example.com", 0⟩),
  .sync (.listed true "ann@example.com" (Api.DriveFile.named "one" "notes.txt")),
  .sync (.listed true "ann@example.com" (Api.DriveFile.named "two" "notes.txt")),
  .sync (.mirror (MirrorAnswers.allRun 9 1) "ann@example.com" "/mnt")]

/-- The path of both files and of both downloads is the same. -/
theorem paths_shared_of_listsTwice :
    ¬ Relator.LeftUnique (Owns (run (@System.exec untimed) listsTwice System.initial).world.db) ∧
      ¬ Relator.LeftUnique (Awaits (run (@System.exec untimed) listsTwice System.initial).world.db) := by
  have different : ("one", "ann@example.com") ≠ ("two", "ann@example.com") := by decide
  constructor
  · intro unique
    refine different (@unique _ _ "/mnt/notes.txt" ⟨_, rfl, rfl, ?_⟩ ⟨_, rfl, rfl, ?_⟩)
    · decide
    · decide
  · intro unique
    refine different (@unique _ _ "/mnt/notes.txt" ⟨1, _, rfl, rfl, ?_⟩ ⟨2, _, rfl, rfl, ?_⟩)
    · exact ⟨rfl, rfl, rfl, by decide⟩
    · exact ⟨rfl, rfl, rfl, by decide⟩

end Local
end GDriver
