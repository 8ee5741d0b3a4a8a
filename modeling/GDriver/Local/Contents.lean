import GDriver.Conflict.Detection
import GDriver.Library.Run
import GDriver.Local.Storing
import GDriver.Moves.Targets

namespace GDriver
namespace Local

open Library Routine Db Api Sync

/-!
# Local content that has not been synced

A file on disk can hold bytes that were neither downloaded to its place nor uploaded
from it.  Two tasks work on the file itself: a download renames over it, and the
removal of a local copy deletes it.  Neither looks at it before.

The columns of a row say which content was synced last, but every report of a change
erases them.  So the bytes are followed from outside: a run is paired with what was
last downloaded to each place or uploaded from it.  For each part of the two tasks a
condition on the state before it says whether unsynced bytes survive, in place or in a
conflict copy next to it.  Along every run, nothing unsynced is destroyed exactly when
each step meets its condition.
-/

/-! ## What has been synced -/

/-- A system, and the bytes that were last downloaded to each place or uploaded from it. -/
structure Followed where
  system : System
  synced : Place → Option (List UInt8)

def Followed.initial : Followed where
  system := System.initial
  synced := fun _ => none

/-- The file holds other bytes than those that were last downloaded or uploaded. -/
def Unsynced (followed : Followed) (path : String) (file : DiskFile) : Prop :=
  followed.synced (placeOf path) ≠ some file.bytes

/-- What a resolution uploads from the conflict copy, when Drive has answered with a
file, and what it downloads to the path. -/
def syncedByResolution (answers : ResolveAnswers) (localPath : String) (world : World) :
    List (String × List UInt8) :=
  let uploads := match world.disk localPath, answers.server.reply with
    | some file, .ok _ => [(conflictPath answers.timestamp.text localPath, file.bytes)]
    | _, _ => []
  match Conflict.stage answers localPath world with
  | .unmoved => []
  | .setAside => []
  | .transferred => uploads
  | .landed => uploads ++ answers.fetched.written.toList.map fun file => (localPath, file.bytes)

section Syncing

variable [Rfc3339]

/-- What an upload task syncs: what the resolution of a conflict does, and what is
uploaded from the path when Drive has answered with a file. -/
def syncedByUpload (answers : TaskAnswers) (task : SyncTask) (world : World) : List (String × List UInt8) :=
  match task.localPath with
  | none => []
  | some localPath =>
      let resolves := task.fileId.bind fun fileId => Conflict.detected answers.conflict task fileId localPath world
      let resolved := match resolves with
        | none => []
        | some _ => syncedByResolution answers.conflict.resolve localPath world
      match (uploadsFrom answers task world).bind (sent answers.upload localPath), answers.upload.server.reply with
      | some content, .ok _ => resolved ++ [(localPath, content)]
      | _, _ => resolved

/-- What a step downloads or uploads, with the paths, in order. -/
def syncedBy (system : System) : Operation → List (String × List UInt8)
  | .engine (.begin picks answers) =>
      match system.engine, system.world.db.nextPending with
      | .idle, some task =>
          if picks && answers.hasClient && task.operation = .upload then syncedByUpload answers task system.world
          else []
      | _, _ => []
  | .engine (.land answers) =>
      match system.engine with
      | .fetched download =>
          if finds answers.renameFailure (tmpPath download.localPath) system.world then
            (system.world.disk (tmpPath download.localPath)).toList.map fun file => (download.localPath, file.bytes)
          else []
      | _ => []
  | _ => []

omit [Rfc3339] in
/-- The cache file that a rename in the mounted file system moves: from where, and where to. -/
def carriedBy (system : System) : Operation → Option (String × String)
  | .vfs _ answers (.rename parent name newParent newName) => do
      let row ← renamedRow answers parent name newParent newName system.world
      let source ← if answers.runs 1 then row.data.localPath else none
      let directory ← parentPath source
      let target ← newName.map (joinPath directory)
      if finds (answers.failures 0) source system.world then some (source, target) else none
  | _ => none

/-- Carry out one operation, and note what it syncs.  What was synced is carried along
with a file that is moved. -/
def Followed.exec (followed : Followed) (operation : Operation) : Followed where
  system := followed.system.exec operation
  synced :=
    let carried := match carriedBy followed.system operation with
      | none => followed.synced
      | some (source, target) =>
          Function.update (Function.update followed.synced (placeOf source) none) (placeOf target)
            (followed.synced (placeOf source))
    (syncedBy followed.system operation).foldl
      (fun synced noted => Function.update synced (placeOf noted.1) (some noted.2)) carried

end Syncing

/-! ## What survives -/

/-- There is a conflict copy of the file at the path with these bytes. -/
def HasCopy (path : String) (bytes : List UInt8) (disk : String → Option DiskFile) : Prop :=
  ∃ (timestamp : Timestamp) (file : DiskFile), disk (conflictPath timestamp.text path) = some file ∧
    file.bytes = bytes

/-- The bytes are on disk, at the path or in a conflict copy next to it. -/
def Survives (path : String) (bytes : List UInt8) (disk : String → Option DiskFile) : Prop :=
  (disk path).map DiskFile.bytes = some bytes ∨ HasCopy path bytes disk

theorem Survives.inPlace {path : String} {file : DiskFile} {disk : String → Option DiskFile}
    (found : disk path = some file) : Survives path file.bytes disk := by
  refine Or.inl ?_
  rw [found, Option.map_some]

/-- A conflict copy is none of what is put elsewhere. -/
theorem hasCopy_putAt {path other : String} {bytes : List UInt8} {file : Option DiskFile}
    {disk : String → Option DiskFile}
    (beside : ∀ timestamp : Timestamp, placeOf (conflictPath timestamp.text path) ≠ placeOf other) :
    HasCopy path bytes (putAt disk other file) ↔ HasCopy path bytes disk := by
  refine exists_congr fun timestamp => ?_
  rw [putAt_of_apart (beside timestamp)]

theorem hasCopy_putAt_self {path : String} {bytes : List UInt8} {file : Option DiskFile}
    {disk : String → Option DiskFile} : HasCopy path bytes (putAt disk path file) ↔ HasCopy path bytes disk :=
  hasCopy_putAt fun timestamp => Conflict.placeOf_conflictPath_ne timestamp path

/-- After a file is gone its bytes survive exactly when there is a copy. -/
theorem survives_removed {path : String} (bytes : List UInt8) (disk : String → Option DiskFile) :
    Survives path bytes (putAt disk path none) ↔ HasCopy path bytes disk := by
  rw [Survives, putAt_self, hasCopy_putAt_self]
  exact or_iff_right nofun

/-- After a temporary file is moved over it, the bytes survive exactly when they are the
same or there is a copy. -/
theorem survives_replaced {path : String} {file : DiskFile} (bytes : List UInt8)
    (disk : String → Option DiskFile) :
    Survives path bytes (putAt (putAt disk (tmpPath path) none) path (some file)) ↔
      file.bytes = bytes ∨ HasCopy path bytes disk := by
  rw [Survives, putAt_self, Option.map_some, Option.some_inj, hasCopy_putAt_self,
    hasCopy_putAt fun timestamp => Conflict.placeOf_conflictPath_ne_tmpPath timestamp path]

/-! ## Steps that leave a path alone -/

/-- The file at the path is the same in both worlds. -/
def SameAt (path : String) (world later : World) : Prop :=
  later.disk path = world.disk path

instance (path : String) : IsPreorder World (SameAt path) where
  refl _ := rfl
  trans _ _ _ one two := Eq.trans two one

theorem allowsMarking_sameAt (taskId : Nat) (path : String) : AllowsMarking taskId (SameAt path) where
  task _ _ _ _ := rfl
  error _ _ := rfl

theorem sameAt_tmpPath (path : String) (world : World) (file : Option DiskFile) :
    SameAt path world (world.putOnDisk (tmpPath path) file) := by
  rw [SameAt, World.disk_putOnDisk]
  exact putAt_of_apart (placeOf_tmpPath_ne path).symm

theorem Survives.of_sameAt {path : String} {world later : World} {file : DiskFile}
    (same : SameAt path world later) (found : world.disk path = some file) :
    Survives path file.bytes later.disk :=
  Survives.inPlace (same.trans found)

/-! ## Steps that put or remove a file -/

/-- Fetched content is put in place, or the target is left alone. -/
theorem disk_landFetched (answers : DownloadAnswers) (download : Download) (world : World) :
    (∃ temporary, answers.renameFailure = none ∧
        world.disk (tmpPath download.localPath) = some temporary ∧
          (final (landFetched answers download) world).disk =
            putAt (putAt world.disk (tmpPath download.localPath) none) download.localPath (some temporary)) ∨
      ((answers.renameFailure.isSome ∨ world.disk (tmpPath download.localPath) = none) ∧
        SameAt download.localPath world (final (landFetched answers download) world)) := by
  have fails (errorMsg : String) : Keeps (SameAt download.localPath)
      (do failDownload answers download errorMsg; pure EngineState.idle) :=
    keeps_bind (keeps_failDownload (allowsMarking_sameAt download.taskId download.localPath)
      (sameAt_tmpPath download.localPath) errorMsg) fun _ => keeps_pure _
  rw [landFetched, final_bind_of_ok (outcome_observe _ world), final_observe, landDownload, renameFile]
  cases failure : answers.renameFailure with
  | some message =>
      refine Or.inr ⟨Or.inl rfl, ?_⟩
      exact fails ("rename failed: " ++ message) world
  | none =>
      cases found : world.disk (tmpPath download.localPath) with
      | none =>
          refine Or.inr ⟨Or.inr rfl, ?_⟩
          simp only [outcome, final, onFile_of_missing found, endState, answer]
          exact fails _ world
      | some temporary =>
          refine Or.inl ⟨temporary, rfl, rfl, ?_⟩
          simp only [outcome, final, onFile_of_found found, endState, answer]
          rw [← World.disk_putOnDisk, ← World.disk_putOnDisk]
          rfl

/-- A local copy is removed, or left alone. -/
theorem disk_removeLocalCopy {delete : RemoteDelete} {path : String}
    (about : delete.localPath = some path) (answers : DeleteAnswers) (world : World)
    {file : DiskFile} (found : world.disk path = some file) :
    (final (removeLocalCopy answers delete) world).disk =
      if answers.removeFailure.isSome then world.disk else putAt world.disk path none := by
  simp only [removeLocalCopy, about]
  rw [final_attempt, removeFile]
  cases answers.removeFailure with
  | some message => rfl
  | none =>
      rw [final, onFile_of_found found]
      exact World.disk_putOnDisk path none world

/-! ## The parts of the tasks -/

/-- The path a task works on: the target of a download, or the local copy of a
file that a deletion is about. -/
def taskPath (db : Database) (task : SyncTask) : Option String :=
  match task.operation, task.fileId with
  | .download, _ => task.localPath
  | .delete, some fileId => (db.file fileId task.accountId).bind Db.DriveFile.localPath
  | _, _ => none

/-- The path that a step of the engine works on. -/
def workPath (system : System) (step : EngineStep) : Option String :=
  match step, system.engine with
  | .begin _ _, .idle => system.world.db.nextPending.bind (taskPath system.world.db)
  | .land _, .fetched download => some download.localPath
  | .record _, .landed download => some download.localPath
  | .removeCopy _, .removing delete => delete.localPath
  | .recordDelete _, .removed delete => delete.localPath
  | _, _ => none

/-- A step that works on a path, with what the engine is about. -/
inductive WorksAt (system : System) (path : String) : EngineStep → Prop where
  | begin {picks : Bool} {answers : TaskAnswers} (idle : system.engine = .idle)
      (next : system.world.db.nextPending.bind (taskPath system.world.db) = some path) :
      WorksAt system path (.begin picks answers)
  | land {answers : DownloadAnswers} (download : Sync.Download) (engine : system.engine = .fetched download)
      (place : download.localPath = path) : WorksAt system path (.land answers)
  | record {answers : DownloadAnswers} (download : Sync.Download) (engine : system.engine = .landed download)
      (place : download.localPath = path) : WorksAt system path (.record answers)
  | removeCopy {answers : DeleteAnswers} (delete : Sync.RemoteDelete) (engine : system.engine = .removing delete)
      (place : delete.localPath = some path) : WorksAt system path (.removeCopy answers)
  | recordDelete {answers : DeleteAnswers} (delete : Sync.RemoteDelete) (engine : system.engine = .removed delete)
      (place : delete.localPath = some path) : WorksAt system path (.recordDelete answers)

theorem worksAt_of_workPath {system : System} {path : String} {step : EngineStep}
    (works : workPath system step = some path) : WorksAt system path step := by
  unfold workPath at works
  split at works
  · next idle => exact .begin idle works
  · next download engine => exact .land download engine (Option.some.inj works)
  · next download engine => exact .record download engine (Option.some.inj works)
  · next delete engine => exact .removeCopy delete engine works
  · next delete engine => exact .recordDelete delete engine works
  · cases works

section Operations

variable [Rfc3339]

/-- Unsynced bytes at the path a step works on survive it. -/
def SparesContents (followed : Followed) (operation : Operation) : Prop :=
  ∀ step, operation = .engine step → ∀ path, workPath followed.system step = some path →
    ∀ file, followed.system.world.disk path = some file → Unsynced followed path file →
      Survives path file.bytes (step.exec followed.system).world.disk

/-- No unsynced bytes are where the step is about to put or remove a file, or
they are there once more. -/
def LeavesContents (followed : Followed) : Operation → Prop
  | .engine (.land answers) =>
      ∀ download file, followed.system.engine = .fetched download →
        followed.system.world.disk download.localPath = some file → Unsynced followed download.localPath file →
          answers.renameFailure.isSome ∨
            (∀ temporary, followed.system.world.disk (tmpPath download.localPath) = some temporary →
              temporary.bytes = file.bytes) ∨
            HasCopy download.localPath file.bytes followed.system.world.disk
  | .engine (.removeCopy answers) =>
      ∀ delete path file, followed.system.engine = .removing delete → delete.localPath = some path →
        followed.system.world.disk path = some file → Unsynced followed path file →
          answers.removeFailure.isSome ∨ HasCopy path file.bytes followed.system.world.disk
  | _ => True

theorem sparesContents_land (followed : Followed) (answers : DownloadAnswers) :
    SparesContents followed (.engine (.land answers)) ↔
      LeavesContents followed (.engine (.land answers)) := by
  constructor
  · intro spares download file engine found unsynced
    have survives := spares (.land answers) rfl download.localPath
      (by simp only [workPath, engine]) file found unsynced
    simp only [EngineStep.exec, engine, settle] at survives
    rcases disk_landFetched answers download followed.system.world with
      ⟨temporary, renames, there, replaced⟩ | ⟨failed | missing, _⟩
    · rw [replaced, survives_replaced] at survives
      refine Or.inr (survives.imp (fun same other again => ?_) id)
      rw [there] at again
      cases again
      exact same
    · exact Or.inl failed
    · refine Or.inr (Or.inl fun temporary there => ?_)
      rw [missing] at there
      cases there
  · intro leaves step same path works file found unsynced
    cases same
    cases worksAt_of_workPath works with
    | land download engine place =>
        rw [← place] at found unsynced ⊢
        have left := leaves download file engine found unsynced
        simp only [EngineStep.exec, engine, settle]
        rcases disk_landFetched answers download followed.system.world with
          ⟨temporary, renames, there, replaced⟩ | ⟨_, stays⟩
        · rw [replaced, survives_replaced]
          rw [renames] at left
          rcases left with failed | same | copy
          · cases failed
          · exact Or.inl (same temporary there)
          · exact Or.inr copy
        · exact Survives.of_sameAt stays found

theorem sparesContents_removeCopy (followed : Followed) (answers : DeleteAnswers) :
    SparesContents followed (.engine (.removeCopy answers)) ↔
      LeavesContents followed (.engine (.removeCopy answers)) := by
  constructor
  · intro spares delete path file engine about found unsynced
    have survives := spares (.removeCopy answers) rfl path (by simp only [workPath, engine, about])
      file found unsynced
    simp only [EngineStep.exec, engine, disk_removeLocalCopy about answers followed.system.world found]
      at survives
    by_cases fails : answers.removeFailure.isSome = true
    · exact Or.inl fails
    · rw [if_neg fails, survives_removed] at survives
      exact Or.inr survives
  · intro leaves step same path works file found unsynced
    cases same
    cases worksAt_of_workPath works with
    | removeCopy delete engine place =>
        simp only [EngineStep.exec, engine, disk_removeLocalCopy place answers followed.system.world found]
        rcases leaves delete path file engine place found unsynced with fails | copy
        · rw [if_pos fails]
          exact Survives.inPlace found
        · split
          · exact Survives.inPlace found
          · exact (survives_removed _ _).mpr copy

/-- Up to the point where it waits, a task leaves its path alone. -/
theorem sameAt_beginTask {db : Database} {task : SyncTask} {taskId : Nat} {path : String}
    (identified : task.id = some taskId) (works : taskPath db task = some path)
    (answers : TaskAnswers) (world : World) :
    SameAt path world (settle (beginTask answers task) world).world := by
  have allows := allowsMarking_sameAt taskId path
  cases client : answers.hasClient with
  | false =>
      have waits : task.operation = .download ∨ task.operation = .delete := by
        cases operation : task.operation with
        | download => exact Or.inl rfl
        | delete => exact Or.inr rfl
        | upload => simp only [taskPath, operation, reduceCtorEq] at works
        | photosBackup => simp only [taskPath, operation, reduceCtorEq] at works
        | rename => simp only [taskPath, operation, reduceCtorEq] at works
        | move => simp only [taskPath, operation, reduceCtorEq] at works
      rw [settle_beginTask_of_no_client client waits]
      rfl
  | true =>
      cases operation : task.operation with
      | download =>
          simp only [taskPath, operation] at works
          rw [beginTask_download client operation]
          refine keeps_beginDownload identified allows (fun _ _ _ => rfl) ?_ _ world
          intro other same
          rw [works] at same
          cases same
          exact sameAt_tmpPath path
      | delete =>
          cases about : task.fileId with
          | none => simp only [taskPath, operation, about, reduceCtorEq] at works
          | some fileId =>
              rw [beginTask_delete client operation]
              have keeps : Keeps (SameAt path) (beginDelete answers.delete task) := by
                simp only [beginDelete, identified, about]
                refine keeps_bind (keeps_updateTaskStatus allows _ _ _ _) fun _ => ?_
                refine keeps_bind ?_ fun _ => keeps_pure _
                exact keeps_bind (keeps_onDb_select _ _) fun _ => keeps_pure _
              exact keeps world
      | upload => simp only [taskPath, operation, reduceCtorEq] at works
      | photosBackup => simp only [taskPath, operation, reduceCtorEq] at works
      | rename => simp only [taskPath, operation, reduceCtorEq] at works
      | move => simp only [taskPath, operation, reduceCtorEq] at works

/-- A step that leaves the path it works on alone spares what is there. -/
theorem sparesContents_of_sameAt {followed : Followed} {step : EngineStep}
    (stays : ∀ path, workPath followed.system step = some path →
      SameAt path followed.system.world (step.exec followed.system).world) :
    SparesContents followed (.engine step) := by
  intro other same path works file found _
  cases same
  exact Survives.of_sameAt (stays path works) found

theorem sparesContents_begin (followed : Followed) (picks : Bool) (answers : TaskAnswers) :
    SparesContents followed (.engine (.begin picks answers)) := by
  refine sparesContents_of_sameAt fun path works => ?_
  cases worksAt_of_workPath works with
  | begin idle pending =>
      simp only [EngineStep.exec, idle]
      rcases settle_beginNext picks answers followed.system.world with nothing | ⟨task, _, next, begun⟩
      · rw [nothing]
        rfl
      · rw [next, Option.bind_some] at pending
        rcases Database.of_nextPending next with ⟨taskId, identified, _, _⟩
        rw [begun]
        exact sameAt_beginTask identified pending answers followed.system.world

theorem sparesContents_record (followed : Followed) (answers : DownloadAnswers) :
    SparesContents followed (.engine (.record answers)) := by
  refine sparesContents_of_sameAt fun path works => ?_
  cases worksAt_of_workPath works with
  | record download engine _ =>
      simp only [EngineStep.exec, engine]
      exact keeps_recordDownload (fun _ _ _ _ _ => rfl) (allowsMarking_sameAt download.taskId path)
        answers followed.system.world

theorem sparesContents_recordDelete (followed : Followed) (answers : DeleteAnswers) :
    SparesContents followed (.engine (.recordDelete answers)) := by
  refine sparesContents_of_sameAt fun path works => ?_
  cases worksAt_of_workPath works with
  | recordDelete delete engine _ =>
      simp only [EngineStep.exec, engine]
      exact keeps_recordRemoteDelete (fun _ _ _ _ => rfl) (allowsMarking_sameAt delete.taskId path)
        answers followed.system.world

/-- One operation spares unsynced content exactly when it leaves it alone. -/
theorem sparesContents_iff (followed : Followed) (operation : Operation) :
    SparesContents followed operation ↔ LeavesContents followed operation := by
  have outside (other : ∀ step, operation ≠ .engine step) : SparesContents followed operation :=
    fun step same => absurd same (other step)
  cases operation with
  | sync work => exact iff_of_true (outside fun _ same => nomatch same) trivial
  | rpc ctx answers request => exact iff_of_true (outside fun _ same => nomatch same) trivial
  | vfs cacheDir answers callback => exact iff_of_true (outside fun _ same => nomatch same) trivial
  | event path isDir kind folders now runs =>
      exact iff_of_true (outside fun _ same => nomatch same) trivial
  | user path file => exact iff_of_true (outside fun _ same => nomatch same) trivial
  | engine step =>
      cases step with
      | begin picks answers => exact iff_of_true (sparesContents_begin followed picks answers) trivial
      | land answers => exact sparesContents_land followed answers
      | record answers => exact iff_of_true (sparesContents_record followed answers) trivial
      | removeCopy answers => exact sparesContents_removeCopy followed answers
      | recordDelete answers => exact iff_of_true (sparesContents_recordDelete followed answers) trivial
      | restart =>
          exact iff_of_true (sparesContents_of_sameAt fun path works => nomatch works) trivial

/-- Along every run from any state: unsynced content is spared exactly when every
step leaves it alone. -/
theorem contents_spared_iff (operations : List Operation) (followed : Followed) :
    Along Followed.exec SparesContents operations followed ↔
      Along Followed.exec LeavesContents operations followed :=
  along_congr Followed.exec sparesContents_iff operations followed

end Operations

/-- What the engine meets while it downloads this content. -/
def downloading (written : DiskFile) : TaskAnswers :=
  TaskAnswers.allRun ⟨none, .error "not an upload", []⟩ written 5

/-- The mirror has downloaded a file, the file provider has asked for it again,
and the user has edited it by the time the content is there a second time. -/
def editedDuringDownload : List Operation := [
  .sync (.connect true ⟨"ann@example.com", "ann@example.com", 0⟩),
  .sync (.listed true "ann@example.com" (Api.DriveFile.named "notes" "notes.txt")),
  .sync (.mirror (MirrorAnswers.allRun 9 1) "ann@example.com" "/mnt"),
  .engine (.begin true (downloading ⟨[1], 10⟩)),
  .engine (.land (downloading ⟨[1], 10⟩).download),
  .engine (.record (downloading ⟨[1], 10⟩).download),
  .rpc ⟨"/mnt", none, "/cache"⟩ (Ipc.RpcAnswers.allRun 11 1)
    (.fetchContents (some "/mnt/notes.txt")),
  .user "/mnt/notes.txt" (some ⟨[2], 20⟩),
  .engine (.begin true (downloading ⟨[1], 30⟩))]

def edited : Followed :=
  run (@Followed.exec untimed) editedDuringDownload Followed.initial

/-- Nothing is on disk but the file and the temporary file of its download. -/
theorem disk_edited {other : String} (beside : placeOf other ≠ placeOf "/mnt/notes.txt")
    (besideTemporary : placeOf other ≠ placeOf (tmpPath "/mnt/notes.txt")) :
    edited.system.world.disk other = none := by
  let steps : List (String × Option DiskFile) := [
    (tmpPath "/mnt/notes.txt", some ⟨[1], 10⟩), (tmpPath "/mnt/notes.txt", none),
    ("/mnt/notes.txt", some ⟨[1], 10⟩), ("/mnt/notes.txt", some ⟨[2], 20⟩),
    (tmpPath "/mnt/notes.txt", some ⟨[1], 30⟩)]
  have same : edited.system.world.files =
      steps.foldl (fun files step => Function.update files (placeOf step.1) step.2) fun _ => none := by
    rfl
  simp only [World.disk, same, steps, List.foldl, Function.update_of_ne beside,
    Function.update_of_ne besideTemporary]

/-- The second download replaces what the user has written. -/
theorem download_destroys_edit :
    ¬ Along (@Followed.exec untimed) (@SparesContents untimed)
      (editedDuringDownload ++ [.engine (.land (downloading ⟨[1], 30⟩).download)])
      Followed.initial := by
  intro spared
  have last := ((along_append _ _ _ _).mp spared).2.1
  have engine : edited.system.engine = .fetched
      { task := { pendingTask 11 "ann@example.com" (some "notes") .download
                    (some "/mnt/notes.txt") 1 with id := some 2 }
        taskId := 2
        fileId := "notes"
        localPath := "/mnt/notes.txt"
        driveFile := edited.system.world.db.file "notes" "ann@example.com" } := by
    rfl
  have unsynced : Unsynced edited "/mnt/notes.txt" ⟨[2], 20⟩ := by
    have downloaded : edited.synced (placeOf "/mnt/notes.txt") = some [1] := by decide +kernel
    rw [Unsynced, downloaded]
    decide
  rcases (@sparesContents_land untimed edited _).mp last _ ⟨[2], 20⟩ engine rfl unsynced with
    fails | same | ⟨timestamp, file, found, _⟩
  · cases fails
  · exact absurd (same ⟨[1], 30⟩ rfl) (by decide)
  · rw [disk_edited (Conflict.placeOf_conflictPath_ne timestamp _)
      (Conflict.placeOf_conflictPath_ne_tmpPath timestamp _)] at found
    cases found

end Local
end GDriver
