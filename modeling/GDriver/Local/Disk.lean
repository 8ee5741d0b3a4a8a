import GDriver.Conflict.Recovery
import GDriver.Library.Presence
import GDriver.Local.Writes
import GDriver.Moves.Targets
import GDriver.Queue.Status

namespace GDriver
namespace Local

open Library Routine Db Api Sync Vfs

/-!
# Where files come and go

Few operations work on local files: the mounted file system creates, writes, removes and
renames its cache files, the engine works on temporary files, moves them into place and removes
local copies, and the user does as he likes.  For each operation the places it takes a file from,
and the places it puts one at, are said here by the state before it.
-/

/-- Only these places lose a file, and only these get one. -/
def DiskFrom (taken put : Place → Prop) (world later : World) : Prop :=
  PresentFrom (fun path => taken (placeOf path)) (fun path => put (placeOf path)) world.disk later.disk

section Relation

variable {taken put : Place → Prop} {world later : World}

instance : IsPreorder World (DiskFrom taken put) where
  refl world := Std.Refl.refl world.disk
  trans world between later one two := IsTrans.trans world.disk between.disk later.disk one two

theorem DiskFrom.of_same (same : later.disk = world.disk) : DiskFrom taken put world later := by
  rw [DiskFrom, same]
  exact Std.Refl.refl _

theorem allowsAsking_diskFrom (taskId : Nat) : AllowsAsking taskId (DiskFrom taken put) where
  send _ _ _ := DiskFrom.of_same rfl
  task _ _ _ _ := DiskFrom.of_same rfl
  error _ _ := DiskFrom.of_same rfl

/-- A statement works on no file. -/
theorem diskFrom_onDb {α : Type} (routine : Routine String Database α) :
    Keeps (DiskFrom taken put) (onDb routine) := by
  intro world
  rw [final_onDb]
  exact DiskFrom.of_same rfl

/-- Only the place that a path leads to changes. -/
theorem diskFrom_putOnDisk {path : String} {file : Option DiskFile} (takes : file = none → taken (placeOf path))
    (puts : file.isSome = true → put (placeOf path)) (world : World) :
    DiskFrom taken put world (world.putOnDisk path file) := by
  rw [DiskFrom, World.disk_putOnDisk]
  refine @presentFrom_of_changed _ _ _ _ _ _ (fun other => placeOf other = placeOf path) file
    (fun _ => putAt_of_same) (fun _ => putAt_of_apart) (fun gone other same => ?_) fun there other same => ?_
  · rw [same]
    exact takes gone
  · rw [same]
    exact puts there

theorem diskFrom_put {path : String} {file : DiskFile} (puts : put (placeOf path)) (world : World) :
    DiskFrom taken put world (world.putOnDisk path (some file)) :=
  diskFrom_putOnDisk (fun impossible => by cases impossible) (fun _ => puts) world

theorem diskFrom_remove {path : String} (takes : taken (placeOf path)) (world : World) :
    DiskFrom taken put world (world.putOnDisk path none) :=
  diskFrom_putOnDisk (fun _ => takes) (fun impossible => by cases impossible) world

theorem diskFrom_removeFile {failure : Option String} {path : String}
    (gone : failure = none → taken (placeOf path)) : Keeps (DiskFrom taken put) (removeFile failure path) := by
  cases failure with
  | some message => exact fun world => Std.Refl.refl world
  | none => exact keeps_onFile none path fun _ world _ => diskFrom_remove (gone rfl) world

/-- A file that is moved is taken from one place and put at another. -/
theorem diskFrom_renameFile {failure : Option String} {source target : String}
    (gone : failure = none → placeOf source ≠ placeOf target → taken (placeOf source))
    (there : failure = none → (world.disk source).isSome = true → put (placeOf target)) :
    DiskFrom taken put world (final (renameFile failure source target) world) := by
  cases found : finds failure source world with
  | false =>
      rw [renameFile, final_onFile_of_lost found]
      exact Std.Refl.refl world
  | true =>
      rw [final_renameFile_of_finds found]
      rw [finds, Bool.and_eq_true, Option.isNone_iff_eq_none] at found
      rcases Option.isSome_iff_exists.mp found.2 with ⟨file, held⟩
      rw [held]
      by_cases same : placeOf source = placeOf target
      · have onto : (world.putOnDisk source none).putOnDisk target (some file) =
            world.putOnDisk target (some file) := by
          simp only [World.putOnDisk, same, Function.update_idem]
        rw [onto]
        exact diskFrom_put (there found.1 found.2) world
      · refine IsTrans.trans _ (world.putOnDisk source none) _ ?_ ?_
        · exact diskFrom_remove (gone found.1 same) world
        · exact diskFrom_put (there found.1 found.2) _

end Relation

/-! ## Callbacks -/

section Callbacks

variable (cacheDir : String) (answers : CallbackAnswers) (world : World)

/-- The places that a callback takes a file from. -/
def CallbackTakes : Callback → Place → Prop
  | .unlink parent name, place =>
      ∃ row path, unlinkedRow answers parent name world.db = some row ∧ answers.runs 1 = true ∧
        row.data.localPath = some path ∧ placeOf path = place ∧ answers.failures 0 = none
  | .rename parent name newParent newName, place =>
      ∃ row source directory, renamedRow answers parent name newParent newName world = some row ∧
        answers.runs 1 = true ∧ row.data.localPath = some source ∧ placeOf source = place ∧
        parentPath source = some directory ∧
        newName.map (fun newName => placeOf (joinPath directory newName)) ≠ some place ∧ answers.failures 0 = none
  | _, _ => False

/-- The places that a callback puts a file at. -/
def CallbackPuts : Callback → Place → Prop
  | .create parent name, place =>
      ∃ owner, createdFor answers parent name world = some owner ∧ answers.failures 1 = none ∧
        place = placeOf (cachePath cacheDir owner.1 ("local-" ++ toString answers.nanos))
  | .write ino fh _ _ _, place =>
      ∃ handle, HasHandle ino fh handle world ∧ answers.failures 0 = none ∧ placeOf handle.localPath = place
  | .rename parent name newParent newName, place =>
      ∃ row source directory, renamedRow answers parent name newParent newName world = some row ∧
        answers.runs 1 = true ∧ row.data.localPath = some source ∧ parentPath source = some directory ∧
        newName.map (fun newName => placeOf (joinPath directory newName)) = some place ∧
        answers.failures 0 = none ∧ (world.disk source).isSome = true
  | _, _ => False

variable {cacheDir answers world}

theorem diskFrom_unlink (parent : Nat) (name : Option String) :
    DiskFrom (CallbackTakes answers world (.unlink parent name))
      (CallbackPuts cacheDir answers world (.unlink parent name)) world
      (final (unlink answers parent name) world) := by
  cases found : unlinkedRow answers parent name world.db with
  | none =>
      rw [final_unlink_of_none found]
      exact Std.Refl.refl world
  | some row =>
      have known := of_namedRow (Option.filter_eq_some_iff.mp found).1
      rw [final_unlink_of_some found]
      refine IsTrans.trans _ _ _ ?_ (moves_bind _ (fun _ => keeps_mapError (diskFrom_onDb _)) world)
      refine moves_announce fun details looksUp looked db => ?_
      rw [rowAtInode_of_mem known.1 known.2] at looked
      cases looked
      rw [removeCacheFile]
      cases path : row.data.localPath with
      | none => exact DiskFrom.of_same rfl
      | some localPath =>
          refine IsTrans.trans _ (world.withDb db) _ (DiskFrom.of_same rfl) ?_
          exact keeps_attempt (diskFrom_removeFile fun works => ⟨row, localPath, found, looksUp, path, rfl, works⟩) _

theorem of_renamedRow {parent : Nat} {name : Option String} {newParent : Nat} {newName : Option String}
    {row : Row Db.DriveFile} (found : renamedRow answers parent name newParent newName world = some row) :
    answers.runs 5 = true ∧ row ∈ world.db.driveFiles.rows ∧ row.data.isTrashed = false := by
  rw [renamedRow] at found
  split at found
  · next free =>
      rw [Bool.and_eq_true, Bool.and_eq_true] at free
      exact ⟨free.1.1, of_namedRow found⟩
  · cases found

/-- The cache file of a row that was renamed is moved along with it. -/
theorem diskFrom_rename (parent : Nat) (name : Option String) (newParent : Nat) (newName : Option String) :
    DiskFrom (CallbackTakes answers world (.rename parent name newParent newName))
      (CallbackPuts cacheDir answers world (.rename parent name newParent newName)) world
      (final (Vfs.rename answers parent name newParent newName) world) := by
  cases found : renamedRow answers parent name newParent newName world with
  | none =>
      rw [final_rename_of_none found]
      exact Std.Refl.refl world
  | some row =>
      rcases of_renamedRow found with ⟨runs, member, live⟩
      rcases final_rename_of_some found with ⟨wanted, newParentId, given, _, ends⟩
      let change := Vfs.moved answers.now wanted newParentId
      have keeps (file : Db.DriveFile) : (change file).key = file.key := rfl
      let later := world.db.updateFiles (fun other => other.rowid = row.rowid) change keeps
      have executed : final (renameRow (answers.runs 5) answers.now row.rowid wanted newParentId) world.db =
          if answers.runs 5 then later else world.db := final_execute _ _ _
      have answered : outcome (renameRow (answers.runs 5) answers.now row.rowid wanted newParentId) world.db =
          if answers.runs 5 then .ok () else .error databaseError := outcome_execute _ _ _
      have shown : (Vfs.Database.rowAtInode later row.rowid).map Row.data = some (change row.data) := by
        have there := @rowAtInode_updateFiles row.rowid change keeps (fun _ => rfl) world.db
        rw [rowAtInode_of_mem member live] at there
        exact congrArg (Option.map Row.data) there
      rw [if_pos runs] at executed answered
      have succeeds : outcome (orEio (renameRow (answers.runs 5) answers.now row.rowid wanted newParentId)) world =
          .ok () := by
        rw [orEio, outcome_mapError, outcome_onDb, answered]
        rfl
      rw [ends, final_bind_of_ok succeeds, orEio, final_mapError, final_onDb, executed]
      refine IsTrans.trans _ (world.withDb later) _ (DiskFrom.of_same rfl)
        (moves_announce fun details looksUp looked db => ?_)
      rw [World.withDb_db, shown] at looked
      cases looked
      rw [renameCacheFile]
      refine IsTrans.trans _ ((world.withDb later).withDb db) _ (DiskFrom.of_same rfl) ?_
      split
      · exact Std.Refl.refl _
      · next source path =>
          split
          · exact Std.Refl.refl _
          · next directory inside =>
              rw [final_attempt]
              have target : newName.map (fun newName => placeOf (joinPath directory newName)) =
                  some (placeOf (joinPath directory wanted)) := by
                rw [given, Option.map_some]
              refine diskFrom_renameFile (fun works other => ?_) fun works there => ?_
              · refine ⟨row, source, directory, found, looksUp, path, rfl, inside, ?_, works⟩
                rw [target]
                exact fun same => other (Option.some.inj same).symm
              · exact ⟨row, source, directory, found, looksUp, path, inside, target, works, there⟩

theorem diskFrom_create (parent : Nat) (name : Option String) :
    DiskFrom (CallbackTakes answers world (.create parent name))
      (CallbackPuts cacheDir answers world (.create parent name)) world
      (final (Vfs.create answers cacheDir parent name) world) := by
  cases created : createdFor answers parent name world with
  | none =>
      rw [final_create_of_none created]
      exact Std.Refl.refl world
  | some owner =>
      rcases @final_create_of_some _ _ _ _ cacheDir _ created with ⟨newName, _, _, opens⟩
      rw [opens]
      refine keeps_bind (keeps_mapError (diskFrom_onDb _)) (fun ino => ?_) world
      rw [openCreated]
      cases creates : answers.failures 1 with
      | some failure => exact keeps_throw _
      | none =>
          refine keeps_bind (keeps_pure ()) fun _ => ?_
          refine keeps_bind (keeps_perform fun other => ?_) fun _ => ?_
          · exact diskFrom_put ⟨owner, created, creates, rfl⟩ other
          refine keeps_bind (keeps_inspect _) fun fh => ?_
          exact keeps_bind (keeps_perform fun _ => DiskFrom.of_same rfl) fun _ => keeps_pure fh

/-- A write puts a file where the handle says, even before it fails. -/
theorem diskFrom_write (ino fh offset : Nat) (data : List UInt8) (written : Nat) :
    DiskFrom (CallbackTakes answers world (.write ino fh offset data written))
      (CallbackPuts cacheDir answers world (.write ino fh offset data written)) world
      (final (Vfs.write answers ino fh offset data written) world) := by
  rw [Vfs.write, final_bind_of_reads final_validHandle]
  cases valid : outcome (validHandle ino fh) world with
  | error errno => exact Std.Refl.refl world
  | ok handle =>
      have has := outcome_validHandle_eq_ok_iff.mp valid
      simp only [Except.toOption, Option.elim_some]
      cases opens : answers.failures 0 with
      | some failure => exact Std.Refl.refl world
      | none =>
          have puts (file : DiskFile) : Keeps (DiskFrom
              (CallbackTakes answers world (.write ino fh offset data written))
              (CallbackPuts cacheDir answers world (.write ino fh offset data written)))
                (perform (World.putOnDisk handle.localPath (some file)) : Routine Errno World Unit) :=
            keeps_perform (diskFrom_put ⟨handle, has, opens, rfl⟩)
          refine keeps_bind (keeps_pure ()) (fun _ => ?_) world
          refine keeps_bind (puts _) fun _ => ?_
          refine keeps_bind (keeps_callOrEio _) fun _ => keeps_bind (keeps_callOrEio _) fun _ => ?_
          refine keeps_bind (puts _) fun _ => ?_
          exact keeps_bind (keeps_attempt (diskFrom_onDb _)) fun _ => keeps_pure _

theorem diskFrom_callback (cacheDir : String) (answers : CallbackAnswers) (callback : Callback)
    (world : World) :
    DiskFrom (CallbackTakes answers world callback) (CallbackPuts cacheDir answers world callback) world
      (final (callback.run cacheDir answers) world) := by
  cases callback with
  | openFile ino => exact keeps_openFile (fun _ _ => DiskFrom.of_same rfl) answers cacheDir ino world
  | read ino fh => exact keeps_requestContent (fun _ _ _ _ _ => diskFrom_onDb _) answers cacheDir ino fh world
  | create parent name =>
      rw [Callback.run, final_attempt]
      exact diskFrom_create parent name
  | write ino fh offset data written =>
      rw [Callback.run, final_attempt]
      exact diskFrom_write ino fh offset data written
  | flush ino fh => exact keeps_uploadIfModified (fun _ _ _ _ _ => diskFrom_onDb _) answers ino fh world
  | fsync ino fh => exact keeps_uploadIfModified (fun _ _ _ _ _ => diskFrom_onDb _) answers ino fh world
  | unlink parent name => exact diskFrom_unlink parent name
  | rename parent name newParent newName => exact diskFrom_rename parent name newParent newName
  | mkdir parent name =>
      rw [Callback.run, final_attempt]
      exact keeps_mkdir (fun _ _ _ _ _ _ => diskFrom_onDb _) parent name world
  | rmdir parent name =>
      exact keeps_rmdir (fun _ _ _ _ => diskFrom_onDb _) (fun _ => diskFrom_onDb _) parent name world
  | release fh => exact DiskFrom.of_same rfl

end Callbacks

/-! ## The engine -/

section Engine

open Conflict

/-- What a conflict leaves on disk, when the check of an upload task finds one. -/
def conflictDisk (answers : TaskAnswers) (task : SyncTask) (world : World) : Option (String → Option DiskFile) :=
  match task.fileId, task.localPath with
  | some fileId, some localPath =>
      (detected answers.conflict task fileId localPath world).map fun _ =>
        diskAt answers.conflict.resolve localPath world.disk (stage answers.conflict.resolve localPath world)
  | _, _ => none

/-- The place of the temporary file of a download task. -/
def temporaryPlace (task : SyncTask) : Option Place :=
  task.localPath.map fun localPath => placeOf (tmpPath localPath)

/-- The places that a task takes a file from when it is begun. -/
def TaskTakes (answers : TaskAnswers) (task : SyncTask) (world : World) (place : Place) : Prop :=
  answers.hasClient = true ∧
    (task.operation = .download ∧ answers.download.fetched.failure.isSome = true ∧
        answers.download.removeTempFailure = none ∧ temporaryPlace task = some place ∨
      task.operation = .upload ∧ ∃ disk path, conflictDisk answers task world = some disk ∧ placeOf path = place ∧
        (world.disk path).isSome = true ∧ disk path = none)

/-- The places that a task puts a file at when it is begun. -/
def TaskPuts (answers : TaskAnswers) (task : SyncTask) (world : World) (place : Place) : Prop :=
  answers.hasClient = true ∧
    (task.operation = .download ∧ answers.download.fetched.written.isSome = true ∧
        temporaryPlace task = some place ∨
      task.operation = .upload ∧ ∃ disk path, conflictDisk answers task world = some disk ∧ placeOf path = place ∧
        (disk path).isSome = true ∧ world.disk path = none)

section Tasks

variable [Rfc3339] {answers : TaskAnswers} {task : SyncTask} {taskId : Nat} {world : World}

theorem diskFrom_uploadFile {taken put : Place → Prop} (identified : task.id = some taskId) :
    Keeps (DiskFrom taken put) (attempt (uploadFile answers.upload task) : Routine String World Unit) :=
  keeps_attempt (keeps_uploadFile identified (allowsAsking_diskFrom taskId)
    (fun world metadata content => by
      rw [store_eq]
      exact DiskFrom.of_same rfl) fun _ _ _ _ => DiskFrom.of_same rfl)

/-- An upload works on local files only when its check finds a conflict. -/
theorem diskFrom_processUpload (identified : task.id = some taskId) (client : answers.hasClient = true)
    (uploads : task.operation = .upload) :
    DiskFrom (TaskTakes answers task world) (TaskPuts answers task world) world
      (final (processUpload answers task) world) := by
  cases about : task.fileId with
  | none =>
      simp only [processUpload, about]
      exact diskFrom_uploadFile identified world
  | some fileId =>
      cases path : task.localPath with
      | none =>
          simp only [processUpload, about, path]
          exact diskFrom_uploadFile identified world
      | some localPath =>
          simp only [processUpload, about, path]
          refine IsTrans.trans _ (final (checkAndResolve answers.conflict task fileId localPath) world) _ ?_ ?_
          · cases found : detected answers.conflict task fileId localPath world with
            | none =>
                have passes := checked answers.conflict task fileId localPath world
                rw [found] at passes
                rcases passes.2 with same | same
                · rw [same]
                  exact Std.Refl.refl world
                · rw [same]
                  exact DiskFrom.of_same rfl
            | some conflict =>
                have left : conflictDisk answers task world = some (diskAt answers.conflict.resolve localPath
                    world.disk (stage answers.conflict.resolve localPath world)) := by
                  simp only [conflictDisk, about, path, found, Option.map_some]
                rw [DiskFrom, disk_of_detected found]
                exact (presentFrom_differences _ _).mono
                  (fun other gone => ⟨client, Or.inr ⟨uploads, _, other, left, rfl, gone.1, gone.2⟩⟩)
                  fun other comes => ⟨client, Or.inr ⟨uploads, _, other, left, rfl, comes.1, comes.2⟩⟩
          · refine moves_bind (observe _) (fun resolved => ?_) world
            cases resolved with
            | error failure => exact diskFrom_uploadFile identified
            | ok done =>
                cases done with
                | true => exact keeps_pure ()
                | false => exact diskFrom_uploadFile identified

theorem diskFrom_beginTask (identified : task.id = some taskId) :
    DiskFrom (TaskTakes answers task world) (TaskPuts answers task world) world
      (final (beginTask answers task) world) := by
  by_cases uploads : task.operation = .upload
  · cases client : answers.hasClient with
    | false =>
        rw [final_beginTask_upload_of_no_client client uploads]
        exact Std.Refl.refl world
    | true =>
        rw [final_beginTask_upload client uploads]
        exact diskFrom_processUpload identified client uploads
  · refine keeps_beginTask_of_parts identified (allowsAsking_diskFrom taskId) (fun client downloads => ?_)
      (fun _ _ _ _ => DiskFrom.of_same rfl) (fun _ _ _ _ => DiskFrom.of_same rfl)
      (fun same => absurd same uploads) world
    refine keeps_beginDownload_of identified (allowsAsking_diskFrom taskId).toAllowsMarking
      (fun _ _ _ => DiskFrom.of_same rfl) (fun path file target written other => ?_) fun path target failed => ?_
    · refine diskFrom_put ⟨client, Or.inl ⟨downloads, ?_, ?_⟩⟩ other
      · rw [written]
        rfl
      · rw [temporaryPlace, target, Option.map_some]
    · refine diskFrom_removeFile fun works => ⟨client, Or.inl ⟨downloads, failed, works, ?_⟩⟩
      rw [temporaryPlace, target, Option.map_some]

end Tasks

variable (system : System)

/-- The places that a step of the engine takes a file from. -/
def EngineTakes : EngineStep → Place → Prop
  | .begin picks answers, place =>
      picks = true ∧ system.engine = .idle ∧
        ∃ task, system.world.db.nextPending = some task ∧ TaskTakes answers task system.world place
  | .land answers, place =>
      ∃ download, system.engine = .fetched download ∧ placeOf (tmpPath download.localPath) = place ∧
        (finds answers.renameFailure (tmpPath download.localPath) system.world = true ∨
          answers.removeTempFailure = none)
  | .removeCopy answers, place =>
      ∃ delete path, system.engine = .removing delete ∧ delete.localPath = some path ∧ placeOf path = place ∧
        answers.removeFailure = none
  | _, _ => False

/-- The places that a step of the engine puts a file at. -/
def EnginePuts : EngineStep → Place → Prop
  | .begin picks answers, place =>
      picks = true ∧ system.engine = .idle ∧
        ∃ task, system.world.db.nextPending = some task ∧ TaskPuts answers task system.world place
  | .land answers, place =>
      ∃ download, system.engine = .fetched download ∧ placeOf download.localPath = place ∧
        finds answers.renameFailure (tmpPath download.localPath) system.world = true
  | _, _ => False

variable {system}

theorem diskFrom_landFetched [Rfc3339] {download : Download} (engine : system.engine = .fetched download)
    (answers : DownloadAnswers) :
    DiskFrom (EngineTakes system (.land answers)) (EnginePuts system (.land answers)) system.world
      (final (landFetched answers download) system.world) := by
  have landing := @Queue.isOk_landDownload answers download system.world
  rw [landFetched, final_bind_of_ok (outcome_observe _ _), final_observe]
  cases there : finds answers.renameFailure (tmpPath download.localPath) system.world with
  | true =>
      rw [there] at landing
      cases landed : outcome (landDownload answers download) system.world with
      | error failure =>
          rw [landed] at landing
          cases landing
      | ok done =>
          exact diskFrom_renameFile (fun _ _ => ⟨download, engine, rfl, Or.inl there⟩)
            fun _ _ => ⟨download, engine, rfl, there⟩
  | false =>
      have stays : final (landDownload answers download) system.world = system.world :=
        final_onFile_of_lost there _
      rw [stays]
      cases outcome (landDownload answers download) system.world with
      | ok done => exact Std.Refl.refl system.world
      | error failure =>
          refine keeps_bind (keeps_bind (keeps_attempt ?_) fun _ => ?_) (fun _ => keeps_pure _) system.world
          · exact diskFrom_removeFile fun works => ⟨download, engine, rfl, Or.inr works⟩
          · exact diskFrom_onDb _

theorem diskFrom_engine [Rfc3339] (step : EngineStep) :
    DiskFrom (EngineTakes system step) (EnginePuts system step) system.world (step.exec system).world := by
  have marks {taken put : Place → Prop} (taskId : Nat) : AllowsMarking taskId (DiskFrom taken put) :=
    (allowsAsking_diskFrom taskId).toAllowsMarking
  have does := step.does system
  generalize step.exec system = later at does
  cases does with
  | nothing => exact Std.Refl.refl system.world
  | restart => exact Std.Refl.refl system.world
  | @begin picks answers task taskId picked idle next identified =>
      exact (diskFrom_beginTask identified).mono (fun _ takes => ⟨picked, idle, task, next, takes⟩)
        fun _ puts => ⟨picked, idle, task, next, puts⟩
  | @land answers download engine => exact diskFrom_landFetched engine answers
  | @record answers download engine =>
      exact keeps_recordDownload (fun _ _ _ _ _ => DiskFrom.of_same rfl) (marks _) answers system.world
  | @removeCopy answers delete engine =>
      dsimp only
      rw [removeLocalCopy]
      split
      · exact Std.Refl.refl system.world
      · next path held =>
          exact keeps_attempt (diskFrom_removeFile fun works => ⟨delete, path, engine, held, rfl, works⟩) system.world
  | @recordDelete answers delete engine =>
      exact keeps_recordRemoteDelete (fun _ _ _ _ => DiskFrom.of_same rfl) (marks _) answers system.world

end Engine

/-! ## Every operation -/

variable (system : System)

/-- The places that an operation takes a file from. -/
def Takes : Operation → Place → Prop
  | .vfs _ answers callback, place => CallbackTakes answers system.world callback place
  | .engine step, place => EngineTakes system step place
  | .user path file, place => placeOf path = place ∧ file = none
  | _, _ => False

/-- The places that an operation puts a file at. -/
def Puts : Operation → Place → Prop
  | .vfs cacheDir answers callback, place => CallbackPuts cacheDir answers system.world callback place
  | .engine step, place => EnginePuts system step place
  | .user path file, place => placeOf path = place ∧ file.isSome = true
  | _, _ => False

/-- A file goes missing only where the operation takes one, and turns up only where it puts one. -/
theorem diskFrom_exec [Rfc3339] (operation : Operation) :
    DiskFrom (Takes system operation) (Puts system operation) system.world (system.exec operation).world := by
  cases operation with
  | sync work => exact DiskFrom.of_same rfl
  | rpc ctx answers request => exact DiskFrom.of_same rfl
  | vfs cacheDir answers callback => exact diskFrom_callback cacheDir answers callback system.world
  | event about isDir kind folders now runs => exact DiskFrom.of_same rfl
  | engine step => exact diskFrom_engine step
  | user about file =>
      exact diskFrom_putOnDisk (fun gone => ⟨rfl, gone⟩) (fun there => ⟨rfl, there⟩) system.world

end Local
end GDriver
