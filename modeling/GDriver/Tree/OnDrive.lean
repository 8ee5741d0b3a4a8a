import GDriver.Conflict.Tags
import GDriver.Local.Copies
import GDriver.Moves.Stored
import GDriver.Queue.Flight
import GDriver.Tree.Announced

namespace GDriver
namespace Tree

open Library Routine Db Api Sync Conflict Queue Local

/-!
# The tree on Drive

The rows that are not trashed form a tree, and so do the files on Drive.  Uploads change both; what
else changes the rows is only queued.  The engine has no request that renames, moves or makes a
folder, and a deletion with a file id sends none: the tasks for these are completed without one.
So such a task is completed in vain unless Drive is as it asks for already, and when the queue is
drained Drive has the tree of the rows only if the rows have come back to the tree of Drive.
-/

/-- A file or folder as a part of the tree. -/
structure Node where
  name : String
  parent : Option String
  isFolder : Bool
  deriving DecidableEq

/-- The node of a row that is not trashed. -/
def rowNode (file : Db.DriveFile) : Option Node :=
  if file.isTrashed then none else some ⟨file.name, file.parentId, file.isFolder⟩

def remoteNode (file : RemoteFile) : Node :=
  ⟨file.name, file.parents.head?, file.mimeType = folderMimeType⟩

def localTree (db : Database) (accountId fileId : String) : Option Node :=
  (db.file fileId accountId).bind rowNode

def driveTree (world : World) (accountId fileId : String) : Option Node :=
  (world.drive accountId fileId).map remoteNode

/-- Drive has the tree of the rows. -/
def SameTrees (world : World) : Prop :=
  ∀ accountId fileId, localTree world.db accountId fileId = driveTree world accountId fileId

/-- When every task is completed, Drive has the tree of the rows. -/
def Propagated (system : System) : Prop :=
  allCompleted system.world = true → SameTrees system.world

/-- Drive has the file under the name of its row, in the folder of its row. -/
def DriveFollows (world : World) (accountId fileId : String) : Prop :=
  ∃ row remote, world.db.file fileId accountId = some row ∧ world.drive accountId fileId = some remote ∧
    remote.name = row.name ∧ remote.parents.head? = row.parentId

/-- Drive is as the task asks for.  A download and a photo are no change of a file on Drive. -/
def Stands (world : World) (task : SyncTask) : Prop :=
  match task.operation with
  | .upload => False
  | .delete => ∃ fileId, task.fileId = some fileId ∧ world.drive task.accountId fileId = none
  | .rename => ∃ fileId, task.fileId = some fileId ∧ DriveFollows world task.accountId fileId
  | .move => ∃ fileId, task.fileId = some fileId ∧ DriveFollows world task.accountId fileId
  | .download => True
  | .photosBackup => True

/-- Drive has a new file with the content of the file at the path of the task. -/
def Uploaded (before later : World) (task : SyncTask) : Prop :=
  ∃ localPath content fileId remote, task.localPath = some localPath ∧ before.disk localPath = some content ∧
    before.drive task.accountId fileId = none ∧ later.drive task.accountId fileId = some remote ∧
    remote.name = (uploadMetadata localPath).name ∧ remote.bytes = content.bytes

/-- The operation is one of the mounted file system or the file provider, or a step of the engine. -/
def OfMount : Operation → Prop
  | .rpc .. => True
  | .vfs .. => True
  | .engine _ => True
  | _ => False

/-- The operation begins a task. -/
def Begins : Operation → Prop
  | .engine (.begin ..) => True
  | _ => False

section Steps

variable [Rfc3339]

/-- The server stores what it answers with and nothing else: one file of this metadata, or none. -/
def AnswersStored (accountId : String) (metadata : CreateFileMetadata) (server : UploadReply) : Prop :=
  match server.reply with
  | .error _ => server.files = []
  | .ok apiFile => ∃ parents, server.files = [((mapApiFileToDb apiFile accountId).id, parents)] ∧
      rowNode (mapApiFileToDb apiFile accountId) =
        some ⟨metadata.name, parents.head?, metadata.mimeType = folderMimeType⟩

/-- The upload has a path and finds no conflict, the server answers with what it stores under a new id, and its
row is stored. -/
structure UploadsWhole (answers : TaskAnswers) (task : SyncTask) (world : World) : Prop where
  placed : task.localPath.isSome = true
  plain : ¬ FindsConflict answers task world
  answered : ∀ localPath, task.localPath = some localPath →
    AnswersStored task.accountId (uploadMetadata localPath) answers.upload.server
  fresh : ∀ fileId ∈ answers.upload.server.files.map Prod.fst, world.drive task.accountId fileId = none
  stored : ∀ apiFile, answers.upload.server.reply = .ok apiFile →
    (answers.upload.upserts && world.db.acceptsFile (mapApiFileToDb apiFile task.accountId)) = true

/-- What the step stores leaves the tree of the rows as it is, unless it is an upload that goes
well. -/
structure KeepsTree (system : System) (operation : Operation) : Prop where
  ofMount : OfMount operation
  rows : ¬ Begins operation → ∀ file, Stores system operation file →
    localTree system.world.db file.accountId file.id = rowNode file
  uploads : ∀ picks answers task, operation = .engine (.begin picks answers) → answers.hasClient = true →
    system.world.db.nextPending = some task → task.operation = .upload → UploadsWhole answers task system.world
  deletes : ∀ picks answers task, operation = .engine (.begin picks answers) → answers.hasClient = true →
    system.world.db.nextPending = some task → task.operation = .delete → task.fileId.isSome = true

/-- Every task but the one that the operation works on is completed. -/
def OthersCompleted (system : System) (operation : Operation) : Prop :=
  ∀ taskId status, HasStatus taskId status system.world → busyTask system operation ≠ some taskId →
    status = .completed

/-- The task may be completed as soon as it is begun. -/
def EndsAtOnce (answers : TaskAnswers) (task : SyncTask) : Prop :=
  match task.operation with
  | .upload => answers.hasClient = true
  | .photosBackup => answers.hasClient = true
  | .download => answers.hasClient = true ∧ (task.fileId = none ∨ task.localPath = none)
  | .delete => answers.hasClient = true ∧ task.fileId = none
  | .rename => answers.marksUnknown = true
  | .move => answers.marksUnknown = true

/-- The operation may complete the task that it works on. -/
def MayComplete (system : System) : Operation → Prop
  | .engine (.begin _ answers) => ∃ task, system.world.db.nextPending = some task ∧ EndsAtOnce answers task
  | .engine (.record answers) => answers.completes = true
  | .engine (.recordDelete answers) => answers.completes = true
  | _ => False

/-- A task is completed by the step only if its upload goes well, or if Drive is as it asks for already.  The step
that may complete the last open task meets the same trees, and nothing but an announced change or an upload
changes the tree of the rows while no other task is open. -/
structure KeepsPace (system : System) (operation : Operation) : Prop where
  ofMount : OfMount operation
  uploads : ∀ picks answers task, operation = .engine (.begin picks answers) → answers.hasClient = true →
    system.world.db.nextPending = some task → task.operation = .upload → UploadsWhole answers task system.world
  deletes : ∀ picks answers task, operation = .engine (.begin picks answers) → answers.hasClient = true →
    system.world.db.nextPending = some task → task.operation = .delete → task.fileId.isSome = true
  stands : ∀ taskId task, system.world.db.task taskId = some task → busyTask system operation = some taskId →
    MayComplete system operation → task.operation ≠ .upload → Stands system.world task
  levels : OthersCompleted system operation → MayComplete system operation → SameTrees system.world
  stays : OthersCompleted system operation → ¬ Enqueues system operation → ¬ Begins operation →
    ∀ file, Stores system operation file → localTree system.world.db file.accountId file.id = rowNode file

/-- No task is completed by the step without the change of Drive that it stands for. -/
def CompletesDone (system : System) (operation : Operation) : Prop :=
  ∀ taskId task, (system.exec operation).world.db.task taskId = some task → task.status = .completed →
    ¬ HasStatus taskId .completed system.world →
      (task.operation = .upload → Uploaded system.world (system.exec operation).world task) ∧
        (task.operation ≠ .upload → Stands (system.exec operation).world task)

omit [Rfc3339] in
theorem SameTrees.of_sameStore {world later : World} (same : SameTrees world) (stores : SameStore world later) :
    SameTrees later := by
  intro accountId fileId
  rw [localTree, driveTree, Database.file, stores.rows, stores.drive]
  exact same accountId fileId

/-! ## Uploads -/

/-- The row of an uploaded file and the file go to the same place in the two trees. -/
theorem sameTrees_recorded {world : World} {accountId : String} {metadata : CreateFileMetadata}
    {content : List UInt8} {server : UploadReply} {upserts : Bool} (same : SameTrees world)
    (answered : AnswersStored accountId metadata server)
    (stored : ∀ apiFile, server.reply = .ok apiFile →
      (upserts && world.db.acceptsFile (mapApiFileToDb apiFile accountId)) = true) :
    SameTrees (recorded upserts accountId server.reply (server.store accountId metadata content world)) := by
  rw [AnswersStored] at answered
  cases reply : server.reply with
  | error failure =>
      rw [reply] at answered
      rw [recorded, UploadReply.store, answered]
      exact same
  | ok apiFile =>
      rw [reply] at answered
      rcases answered with ⟨parents, files, node⟩
      have puts := stored apiFile reply
      intro owner fileId
      rw [recorded, localTree, driveTree, World.withDb_db, World.withDb_drive, db_store, final_upsertFile,
        if_pos puts, Database.file_putFile, mapApiFileToDb_accountId, UploadReply.store, files, List.foldl_cons,
          List.foldl_nil,
        drive_putOnDrive]
      by_cases here : fileId = (mapApiFileToDb apiFile accountId).id ∧ owner = accountId
      · rw [if_pos here, if_pos ⟨here.2, here.1⟩, Option.bind_some, node]
        rfl
      · rw [if_neg here, if_neg fun both => here ⟨both.2, both.1⟩]
        exact same owner fileId

theorem UploadsWhole.uploadsPlainly {answers : TaskAnswers} {task : SyncTask} {world : World}
    (whole : UploadsWhole answers task world) : UploadsPlainly answers task world := by
  refine uploadsPlainly_of_passes fun fileId localPath about path => ?_
  rw [Option.eq_none_iff_forall_not_mem]
  intro conflict found
  exact whole.plain ⟨fileId, localPath, conflict, about, path, found⟩

/-- An upload task that goes well leaves the trees the same. -/
theorem sameTrees_processUpload {answers : TaskAnswers} {task : SyncTask} {taskId : Nat} {world : World}
    (identified : task.id = some taskId) (whole : UploadsWhole answers task world) (same : SameTrees world) :
    SameTrees (final (processUpload answers task) world) := by
  rcases whole.uploadsPlainly with ⟨checked, asked, goesOn⟩
  have stores : SameStore world checked := by
    rcases asked with itself | ⟨fileId, asks⟩
    · rw [itself]
      exact Std.Refl.refl world
    · rw [asks]
      exact ⟨rfl, rfl, rfl⟩
  have before := same.of_sameStore stores
  rw [goesOn]
  cases path : task.localPath with
  | none =>
      have marks := keeps_updateTaskStatus (allowsProcessing_sameStore taskId).toAllowsMarking
      simp only [uploadFile, identified, path]
      exact before.of_sameStore (marks _ _ _ _ checked)
  | some localPath =>
      refine SameTrees.of_sameStore ?_ (sameStore_uploadFile identified path checked)
      rw [uploaded]
      cases sent answers.upload localPath checked with
      | none => exact before
      | some content =>
          refine sameTrees_recorded before (whole.answered localPath path) ?_
          intro apiFile reply
          have accepts : checked.db.acceptsFile (mapApiFileToDb apiFile task.accountId) =
              world.db.acceptsFile (mapApiFileToDb apiFile task.accountId) := by
            simp only [Database.acceptsFile, Database.file, Database.hasAccount, stores.rows, stores.accounts]
          rw [accepts]
          exact whole.stored apiFile reply

/-! ## Steps -/

/-- Only uploads and deletions by path change the rows or Drive when they begin. -/
theorem sameStore_beginTask {answers : TaskAnswers} {task : SyncTask} {taskId : Nat}
    (identified : task.id = some taskId)
    (uploads : task.operation ≠ .upload) (deletes : task.operation ≠ .delete) :
    Keeps SameStore (beginTask answers task) := by
  have processing := allowsProcessing_sameStore taskId
  exact keeps_beginTask_of_parts identified processing.toAllowsAsking
    (fun _ _ => keeps_beginDownload identified processing.toAllowsMarking processing.send
      (fun path _ => processing.disk (tmpPath path)) _)
    (fun same => absurd same deletes) (fun same => absurd same deletes) fun same => absurd same uploads

theorem sameTrees_beginTask {picks : Bool} {answers : TaskAnswers} {system : System} {task : SyncTask} {taskId : Nat}
    (keeps : KeepsTree system (.engine (.begin picks answers))) (identified : task.id = some taskId)
    (next : system.world.db.nextPending = some task) (same : SameTrees system.world) :
    SameTrees (final (beginTask answers task) system.world) := by
  by_cases uploads : task.operation = .upload
  · cases client : answers.hasClient with
    | false =>
        rw [final_beginTask_upload_of_no_client client uploads]
        exact same
    | true =>
        rw [final_beginTask_upload client uploads]
        exact sameTrees_processUpload identified (keeps.uploads picks answers task rfl client next uploads) same
  · by_cases deletes : task.operation = .delete
    · cases client : answers.hasClient with
      | false =>
          simp only [beginTask, processTask, client, deletes, Bool.false_and, Bool.false_eq_true, if_false]
          exact same
      | true =>
          rw [beginTask_delete client deletes]
          have stores := @sameStore_beginDelete answers.delete task taskId identified system.world
          rcases Option.isSome_iff_exists.mp (keeps.deletes picks answers task rfl client next deletes) with
            ⟨fileId, about⟩
          rw [about] at stores
          exact same.of_sameStore stores
    · exact same.of_sameStore (sameStore_beginTask identified uploads deletes system.world)

/-- A step that begins no task leaves Drive as it is. -/
theorem drive_exec {system : System} {operation : Operation} (ofMount : OfMount operation)
    (goesOn : ¬ Begins operation) :
    (system.exec operation).world.drive = system.world.drive := by
  have touches : Touches "" [] system.world (system.exec operation).world := by
    cases operation with
    | rpc ctx answers request => exact touches_of_same _ _ rfl
    | vfs cacheDir answers callback =>
        refine keeps_callback (allowsTasks_keepsTasks none).toEdits ?_ cacheDir answers callback system.world
        constructor
        · exact fun _ _ _ => touches_of_same _ _ rfl
        · exact fun _ _ _ => touches_of_same _ _ rfl
        · exact fun _ _ => touches_of_same _ _ rfl
        · exact fun _ _ => touches_of_same _ _ rfl
    | engine step =>
        refine @keeps_engine (Touches "" []) _ _ system step ?_ ?_ ?_ ?_
        · intro picks answers task taskId same
          rw [same] at goesOn
          exact absurd trivial goesOn
        · exact fun taskId => allowsProcessing_touches taskId "" []
        · exact fun _ _ _ _ _ _ => touches_of_same _ _ rfl
        · exact fun _ _ _ _ => touches_of_same _ _ rfl
    | _ => cases ofMount
  funext accountId fileId
  exact touches accountId fileId fun _ => List.not_mem_nil

/-- After a step that begins no task Drive has the tree of the rows exactly if the step has left
that tree as it was. -/
theorem sameTrees_exec_iff {system : System} {operation : Operation} (ofMount : OfMount operation)
    (goesOn : ¬ Begins operation) (same : SameTrees system.world) :
    SameTrees (system.exec operation).world ↔ ∀ accountId fileId,
      localTree (system.exec operation).world.db accountId fileId = localTree system.world.db accountId fileId := by
  rw [SameTrees]
  refine forall_congr' fun accountId => forall_congr' fun fileId => ?_
  rw [driveTree, drive_exec ofMount goesOn, same accountId fileId]
  exact Iff.rfl

/-- A step that stores rows only where they are in the tree already leaves that tree as it was. -/
theorem localTree_exec {system : System} {operation : Operation} (keeps : KeepsTree system operation)
    (goesOn : ¬ Begins operation) (accountId fileId : String) :
    localTree (system.exec operation).world.db accountId fileId = localTree system.world.db accountId fileId := by
  have stays : operation ≠ .sync (.disconnect true accountId) := by
    intro disconnects
    rw [disconnects] at keeps
    exact keeps.ofMount
  rw [localTree]
  cases found : (system.exec operation).world.db.file fileId accountId with
  | none =>
      cases before : system.world.db.file fileId accountId with
      | none => rw [localTree, before]
      | some row =>
          have kept := keepsRow_exec stays (by rw [before]; rfl)
          rw [found] at kept
          cases kept
  | some file =>
      rcases rowsFrom_exec system operation fileId accountId file found with itself | stores
      · rw [localTree, itself]
      · have key := (Database.holds_of_file found).2
        have place := keeps.rows goesOn file stores
        rw [key.1, key.2] at place
        exact place.symm

/-- A step that keeps the tree of the rows keeps the trees the same. -/
theorem sameTrees_exec {system : System} {operation : Operation} (keeps : KeepsTree system operation)
    (same : SameTrees system.world) : SameTrees (system.exec operation).world := by
  by_cases begins : Begins operation
  · cases operation with
    | engine step =>
        cases step with
        | begin picks answers =>
            have does := EngineStep.does system (.begin picks answers)
            change SameTrees (EngineStep.exec system (.begin picks answers)).world
            generalize EngineStep.exec system (.begin picks answers) = later at does
            cases does with
            | nothing => exact same
            | begin picked idle next identified => exact sameTrees_beginTask keeps identified next same
        | _ => cases begins
    | _ => cases begins
  · exact (sameTrees_exec_iff keeps.ofMount begins same).mpr (localTree_exec keeps begins)

/-! ## Drained queues -/

section Queues

variable {system : System} {operation : Operation}

omit [Rfc3339] in
theorem allCompleted_iff {world : World} :
    allCompleted world = true ↔ ∀ taskId status, HasStatus taskId status world → status = .completed := by
  rw [allCompleted, List.all_eq_true]
  constructor
  · intro completed taskId status has
    rcases Option.map_eq_some_iff.mp has with ⟨task, found, same⟩
    rcases Option.map_eq_some_iff.mp found with ⟨row, there, data⟩
    have member := (Table.of_findRow?_eq_some there).1
    have ends := of_decide_eq_true (completed row.data (List.mem_map_of_mem member))
    rw [data, same] at ends
    exact ends
  · intro completed task member
    rcases List.mem_map.mp member with ⟨row, stored, data⟩
    refine decide_eq_true (completed row.rowid task.status ?_)
    rw [HasStatus, Database.task, Table.rowAt_of_mem stored, Option.map_some, Option.map_some, data]

omit [Rfc3339] in
theorem not_allCompleted_of_hasPending {world : World} (pending : HasPending world.db) :
    ¬ allCompleted world = true := by
  intro completed
  rcases pending with ⟨taskId, task, found, waits⟩
  have status : HasStatus taskId .pending world := by
    rw [HasStatus, found, Option.map_some, waits]
  cases allCompleted_iff.mp completed taskId .pending status

/-- What the step leaves alone was completed before. -/
theorem othersCompleted_of_exec (completed : allCompleted (system.exec operation).world = true) :
    OthersCompleted system operation := by
  intro taskId status has apart
  rcases Option.map_eq_some_iff.mp has with ⟨task, found, same⟩
  rcases (proceeds_exec system operation).tasks.kept taskId task found with ⟨after, reached, _, stays⟩
  rw [stays apart] at reached
  refine allCompleted_iff.mp completed taskId status ?_
  rw [HasStatus, reached, Option.map_some, same]

/-- The engine is in the middle of a download or of a deletion that has a file id. -/
def WaitsWithin (system : System) : Prop :=
  ∀ taskId, inFlight system.engine = some taskId →
    ∃ task, system.world.db.task taskId = some task ∧ (task.operation = .download ∨ task.operation = .delete)

/-- The engine stops in the middle of downloads and deletions only. -/
theorem waits_of_beginTask {answers : TaskAnswers} {task : SyncTask} {world : World} {engine : EngineState}
    {taskId : Nat} (answered : outcome (beginTask answers task) world = .ok engine)
    (within : inFlight engine = some taskId) : task.operation = .download ∨ task.operation = .delete := by
  rw [beginTask] at answered
  split at answered
  · next downloads => exact Or.inl (of_decide_eq_true (Bool.and_eq_true_iff.mp downloads).2)
  · split at answered
    · next deletes => exact Or.inr (of_decide_eq_true (Bool.and_eq_true_iff.mp deletes).2)
    · rcases outcome_bind_eq_ok_iff.mp answered with ⟨_, _, idle⟩
      cases idle
      cases within

theorem waitsWithin_exec (waits : WaitsWithin system) : WaitsWithin (system.exec operation) := by
  intro taskId within
  have before : ∃ task, system.world.db.task taskId = some task ∧
      (task.operation = .download ∨ task.operation = .delete) := by
    by_cases busy : busyTask system operation = some taskId
    · cases operation with
      | engine step =>
          have does := step.does system
          change inFlight (step.exec system).engine = some taskId at within
          generalize step.exec system = later at does within
          cases does with
          | nothing => exact waits taskId within
          | restart => cases within
          | @begin picks answers task other picked idle next identified =>
              rcases answered_of_settle rfl within with ⟨engine, answered, inside⟩
              rcases Database.of_nextPending next with ⟨number, numbered, found, _⟩
              have same := (stopsWithin_beginTask answers task _ engine taskId answered inside).1
              cases same.symm.trans numbered
              exact ⟨task, found, waits_of_beginTask answered inside⟩
          | land engine =>
              rcases answered_of_settle rfl within with ⟨later, answered, inside⟩
              rcases of_outcome_landFetched answered with same | same
              · rw [same] at inside
                exact waits taskId (by rw [engine]; exact inside)
              · rw [same] at inside
                cases inside
          | record engine => cases within
          | removeCopy engine => exact waits taskId (by rw [engine]; exact within)
          | recordDelete engine => cases within
      | _ => cases busy
    · rw [engine_exec_of_not_busy busy within] at within
      exact waits taskId within
  rcases before with ⟨task, found, kind⟩
  rcases (proceeds_exec system operation).tasks.kept taskId task found with ⟨after, reached, asks, _⟩
  rw [← asks.operation] at kind
  exact ⟨after, reached, kind⟩

omit [Rfc3339] in
theorem runs_of_closed {runs : Bool} {status : TaskStatus} (before : status ≠ .completed)
    (ends : statusView.toMarking.closed runs status = .completed) : runs = true := by
  cases runs with
  | false => exact absurd ends before
  | true => rfl

omit [Rfc3339] in
theorem retried_ne_completed {runs : Bool} {task : SyncTask} {status : TaskStatus} (before : status ≠ .completed) :
    statusView.toMarking.retried runs task status ≠ .completed := by
  rw [Marking.retried]
  split
  · split
    · exact fun same => by cases same
    · exact fun same => by cases same
  · exact before

omit [Rfc3339] in
/-- A download that is begun may be completed only when it has nothing to fetch. -/
theorem nothing_of_begunDownload {answers : DownloadAnswers} {task : SyncTask} {status : TaskStatus}
    (before : status ≠ .completed) (ends : statusView.toMarking.beginDownload answers task status = .completed) :
    task.fileId = none ∨ task.localPath = none := by
  cases about : task.fileId with
  | none => exact Or.inl rfl
  | some fileId =>
      cases path : task.localPath with
      | none => exact Or.inr rfl
      | some localPath =>
          have running : TaskStatus.inProgress ≠ .completed := by decide
          simp only [Marking.beginDownload, about, path] at ends
          split at ends
          · exact absurd ends before
          · split at ends
            · exact absurd ends running
            · split at ends
              · exact absurd ends running
              · exact absurd ends (retried_ne_completed running)

theorem endsAtOnce_of_completed {answers : TaskAnswers} {task : SyncTask} {world : World} {status : TaskStatus}
    (before : status ≠ .completed)
    (deletes : answers.hasClient = true → task.operation = .delete → task.fileId.isSome = true)
    (ends : statusView.toMarking.beginTask answers task world status = .completed) : EndsAtOnce answers task := by
  have client (apart : task.operation ≠ .rename) (other : task.operation ≠ .move) : answers.hasClient = true := by
    cases client : answers.hasClient with
    | true => rfl
    | false =>
        cases operation : task.operation with
        | rename => exact absurd operation apart
        | move => exact absurd operation other
        | _ =>
            simp only [Marking.beginTask, Marking.processTask, operation, client, Bool.false_and,
              Bool.false_eq_true, if_false] at ends
            exact absurd ends before
  rw [EndsAtOnce]
  cases operation : task.operation with
  | upload => exact client (by rw [operation]; decide) (by rw [operation]; decide)
  | photosBackup => exact client (by rw [operation]; decide) (by rw [operation]; decide)
  | download =>
      have connected := client (by rw [operation]; decide) (by rw [operation]; decide)
      rw [Marking.beginTask, connected, operation] at ends
      exact ⟨connected, nothing_of_begunDownload before ends⟩
  | delete =>
      have connected := client (by rw [operation]; decide) (by rw [operation]; decide)
      rcases Option.isSome_iff_exists.mp (deletes connected operation) with ⟨fileId, about⟩
      have running : TaskStatus.inProgress ≠ .completed := by decide
      rw [Marking.beginTask, connected, operation] at ends
      simp only [Marking.beginDelete, about, reduceCtorEq, decide_false, Bool.and_false, Bool.false_eq_true,
        if_false, Bool.true_and, decide_true, if_true] at ends
      split at ends
      · exact absurd ends before
      · exact absurd ends running
  | rename =>
      simp only [Marking.beginTask, Marking.processTask, operation, reduceCtorEq, decide_false, Bool.and_false,
        Bool.false_eq_true, if_false] at ends
      exact runs_of_closed before ends
  | move =>
      simp only [Marking.beginTask, Marking.processTask, operation, reduceCtorEq, decide_false, Bool.and_false,
        Bool.false_eq_true, if_false] at ends
      exact runs_of_closed before ends

/-- A task that was not completed is completed only by a step that may complete it. -/
theorem mayComplete_of_completed {taskId : Nat} {status : TaskStatus} {step : EngineStep}
    (deletes : ∀ picks answers task, step = .begin picks answers → answers.hasClient = true →
      system.world.db.nextPending = some task → task.operation = .delete → task.fileId.isSome = true)
    (has : HasStatus taskId status system.world) (busy : busyTask system (.engine step) = some taskId)
    (before : status ≠ .completed) (completed : HasStatus taskId .completed (step.exec system).world) :
    MayComplete system (.engine step) := by
  have ends : statusView.toMarking.after system step status = .completed := by
    have after := @hasView_exec _ _ _ _ statusView _ _ has busy
    rw [HasStatus] at completed
    rw [HasView] at after
    exact Option.some.inj (after.symm.trans completed)
  rcases system with ⟨world, engine⟩
  cases engine with
  | idle =>
      cases step with
      | begin picks answers =>
          rcases Option.bind_eq_some_iff.mp busy with ⟨task, next, identified⟩
          refine ⟨task, next, ?_⟩
          cases picks with
          | false => exact absurd ends before
          | true =>
              simp only [Marking.after, next] at ends
              exact endsAtOnce_of_completed before (deletes true answers task rfl · next) ends
      | _ => cases busy
  | fetched download =>
      cases step with
      | land answers =>
          simp only [Marking.after, Marking.landFetched] at ends
          split at ends
          · exact absurd ends before
          · exact absurd ends (retried_ne_completed before)
      | _ => cases busy
  | landed download =>
      cases step with
      | record answers => exact runs_of_closed before ends
      | _ => cases busy
  | removing delete =>
      cases step with
      | removeCopy answers => exact absurd ends before
      | _ => cases busy
  | removed delete =>
      cases step with
      | recordDelete answers => exact runs_of_closed before ends
      | _ => cases busy

omit [Rfc3339] in
/-- An operation that goes on with a task begins none. -/
theorem not_begins_of_within {taskId : Nat} (within : inFlight system.engine = some taskId)
    (busy : busyTask system operation = some taskId) : ¬ Begins operation := by
  intro begins
  cases operation with
  | engine step =>
      cases step with
      | begin picks answers =>
          cases engine : system.engine with
          | idle =>
              rw [engine] at within
              cases within
          | _ => simp only [busyTask, engine, reduceCtorEq] at busy
      | _ => cases begins
  | _ => cases begins

theorem mayComplete_exec {taskId : Nat} {task after : SyncTask} (paces : KeepsPace system operation)
    (found : system.world.db.task taskId = some task) (busy : busyTask system operation = some taskId)
    (reached : (system.exec operation).world.db.task taskId = some after) (completed : after.status = .completed)
    (remained : ¬ HasStatus taskId .completed system.world) : MayComplete system operation := by
  have has : HasStatus taskId task.status system.world := by
    rw [HasStatus, found, Option.map_some]
  cases operation with
  | engine step =>
      refine mayComplete_of_completed (fun picks answers task same => ?_) has busy ?_ ?_
      · exact paces.deletes picks answers task (congrArg Operation.engine same)
      · intro ends
        rw [ends] at has
        exact remained has
      · rw [HasStatus]
        exact (congrArg (Option.map SyncTask.status) reached).trans (congrArg some completed)
  | _ => cases busy

/-- A step that keeps pace propagates everything. -/
theorem propagated_exec (paces : KeepsPace system operation) (before : Propagated system) :
    Propagated (system.exec operation) := by
  intro completed
  have others := othersCompleted_of_exec completed
  have quiet : ¬ Enqueues system operation := fun enqueues =>
    not_allCompleted_of_hasPending (hasPending_exec enqueues) completed
  have keeps : KeepsTree system operation := ⟨paces.ofMount, paces.stays others quiet, paces.uploads, paces.deletes⟩
  refine sameTrees_exec keeps ?_
  by_cases done : allCompleted system.world = true
  · exact before done
  · -- The only open task is the one that the step completes.
    refine paces.levels others ?_
    rw [allCompleted_iff] at done
    push Not at done
    rcases done with ⟨taskId, status, has, remains⟩
    have busy : busyTask system operation = some taskId := by
      by_contra apart
      exact remains (others taskId status has apart)
    rcases Option.map_eq_some_iff.mp has with ⟨task, found, same⟩
    rcases (proceeds_exec system operation).tasks.kept taskId task found with ⟨after, reached, _, _⟩
    have ends : after.status = .completed := by
      refine allCompleted_iff.mp completed taskId after.status ?_
      rw [HasStatus, reached, Option.map_some]
    refine mayComplete_exec paces found busy reached ends fun already => ?_
    exact remains (Option.some.inj (has.symm.trans already))

/-! ## Tasks that are completed -/

omit [Rfc3339] in
theorem Stands.of_asksSame {world : World} {task after : SyncTask} (stands : Stands world task)
    (same : task.AsksSame after) : Stands world after := by
  rw [Stands, same.operation, same.fileId, same.accountId]
  exact stands

omit [Rfc3339] in
theorem Stands.of_sameStore {world later : World} {task : SyncTask} (stands : Stands world task)
    (stores : SameStore world later) : Stands later task := by
  simp only [Stands, DriveFollows, Database.file, stores.rows, stores.drive] at stands ⊢
  exact stands

omit [Rfc3339] in
/-- Only what renames and moves ask for is about rows. -/
theorem Stands.of_sameDrive {world later : World} {task : SyncTask} (stands : Stands world task)
    (drive : later.drive = world.drive) (kind : task.operation = .download ∨ task.operation = .delete) :
    Stands later task := by
  rcases kind with operation | operation
  · rw [Stands, operation]
    trivial
  · rw [Stands, operation] at stands ⊢
    rw [drive]
    exact stands

omit [Rfc3339] in
theorem Uploaded.of_asksSame {before later : World} {task after : SyncTask} (uploaded : Uploaded before later task)
    (same : task.AsksSame after) : Uploaded before later after := by
  rw [Uploaded, same.localPath, same.accountId]
  exact uploaded

omit [Rfc3339] in
theorem of_sent {answers : UploadAnswers} {localPath : String} {content : List UInt8} {world : World}
    (sending : sent answers localPath world = some content) :
    ∃ file, world.disk localPath = some file ∧ file.bytes = content := by
  rw [sent] at sending
  split at sending
  · cases found : world.disk localPath with
    | none =>
        simp only [outcome, readFile, onFile_of_missing found, answer] at sending
        cases sending
    | some file =>
        refine ⟨file, rfl, ?_⟩
        cases failure : answers.readFailure with
        | none =>
            simp only [outcome, readFile, failure, onFile_of_found found, answer] at sending
            exact Option.some.inj sending
        | some message =>
            simp only [outcome, readFile, failure, onFile, found, answer] at sending
            cases sending
  · cases sending

/-- An upload that goes well and is completed has brought the file at its path to Drive. -/
theorem uploaded_processUpload {answers : TaskAnswers} {task : SyncTask} {taskId : Nat} {world : World}
    (identified : task.id = some taskId) (whole : UploadsWhole answers task world)
    (pending : HasStatus taskId .pending world)
    (completed : HasStatus taskId .completed (final (processUpload answers task) world)) :
    Uploaded world (final (processUpload answers task) world) task := by
  rcases whole.uploadsPlainly with ⟨checked, asked, goesOn⟩
  rcases Option.isSome_iff_exists.mp whole.placed with ⟨localPath, path⟩
  have same : checked.disk = world.disk ∧ checked.drive = world.drive ∧ SameQueueIn world checked := by
    rcases asked with itself | ⟨fileId, asks⟩
    · rw [itself]
      exact ⟨rfl, rfl, Std.Refl.refl world⟩
    · rw [asks]
      exact ⟨rfl, rfl, rfl⟩
  have ends := @hasView_uploadFile _ statusView _ _ _ _ identified (pending.of_sameQueue same.2.2) _ answers.upload
  rw [goesOn] at completed ⊢
  have status : uploadStatus answers.upload task checked = .completed :=
    Option.some.inj (ends.symm.trans completed)
  rcases answered_of_completed path status with ⟨content, apiFile, sending, reply⟩
  rcases of_sent sending with ⟨file, found, bytes⟩
  have stored := whole.answered localPath path
  rw [AnswersStored, reply] at stored
  rcases stored with ⟨parents, files, _⟩
  have member : (mapApiFileToDb apiFile task.accountId).id ∈ answers.upload.server.files.map Prod.fst := by
    rw [files]
    exact List.mem_singleton_self _
  rcases @drive_putFiles_of_mem task.accountId (uploadMetadata localPath) content _ _ member checked with
    ⟨folders, there⟩
  have effect := @drive_uploadFile _ answers task taskId identified localPath path checked
  rw [sending] at effect
  refine ⟨localPath, file, _, _, path, ?_, whole.fresh _ member, (congrFun (congrFun effect _) _).trans there, rfl,
    bytes.symm⟩
  rw [← same.1]
  exact found

/-- A task that is completed as soon as it is begun is no deletion. -/
theorem done_beginTask {answers : TaskAnswers} {task : SyncTask} {taskId : Nat} {world : World}
    (identified : task.id = some taskId) (next : world.db.nextPending = some task)
    (whole : answers.hasClient = true → task.operation = .upload → UploadsWhole answers task world)
    (stands : task.operation ≠ .upload → Stands world task) (apart : task.operation ≠ .delete)
    (completed : HasStatus taskId .completed (final (beginTask answers task) world)) :
    (task.operation = .upload → Uploaded world (final (beginTask answers task) world) task) ∧
      (task.operation ≠ .upload → Stands (final (beginTask answers task) world) task) := by
  have pending := hasStatus_of_next next identified
  constructor
  · intro uploads
    cases client : answers.hasClient with
    | false =>
        rw [final_beginTask_upload_of_no_client client uploads] at completed
        cases pending.symm.trans completed
    | true =>
        rw [final_beginTask_upload client uploads] at completed ⊢
        exact uploaded_processUpload identified (whole client uploads) pending completed
  · intro other
    exact (stands other).of_sameStore (sameStore_beginTask identified other apart world)

theorem completesDone_exec (paces : KeepsPace system operation) (waits : WaitsWithin system) :
    CompletesDone system operation := by
  intro taskId after reached completed remained
  have proceeds := (proceeds_exec system operation).tasks
  have busy : busyTask system operation = some taskId := by
    by_contra apart
    cases found : system.world.db.task taskId with
    | none =>
        have waits := proceeds.fresh taskId after apart reached found
        rw [completed] at waits
        cases waits
    | some task =>
        rcases proceeds.kept taskId task found with ⟨later, there, _, stays⟩
        rw [reached] at there
        rw [Option.some.inj there, stays apart] at completed
        exact remained (by rw [HasStatus, found, Option.map_some, completed])
  rcases busyTask_cases busy with within | ⟨picks, answers, task, same, idle, next, identified⟩
  · rcases waits taskId within with ⟨task, found, kind⟩
    rcases proceeds.kept taskId task found with ⟨later, there, asks, _⟩
    rw [reached] at there
    cases there
    have other : task.operation ≠ .upload := by
      rcases kind with operation | operation
      · rw [operation]
        decide
      · rw [operation]
        decide
    have may := mayComplete_exec paces found busy reached completed remained
    have stands := (paces.stands taskId task found busy may other).of_sameDrive
      (drive_exec paces.ofMount (not_begins_of_within within busy)) kind
    refine ⟨fun uploads => ?_, fun _ => stands.of_asksSame asks⟩
    rw [asks.operation] at uploads
    exact absurd uploads other
  · rcases Database.of_nextPending next with ⟨number, numbered, found, _⟩
    cases identified.symm.trans numbered
    rcases proceeds.kept taskId task found with ⟨later, there, asks, _⟩
    rw [reached] at there
    cases there
    have may := mayComplete_exec paces found busy reached completed remained
    have stands := paces.stands taskId task found busy may
    subst same
    have apart : task.operation ≠ .delete := by
      intro deletes
      rcases may with ⟨_, begun, ends⟩
      rw [next] at begun
      cases begun
      rw [EndsAtOnce, deletes] at ends
      have about := paces.deletes picks answers task rfl ends.1 next deletes
      rw [ends.2] at about
      cases about
    have does := EngineStep.does system (.begin picks answers)
    change (EngineStep.exec system (.begin picks answers)).world.db.task taskId = some after at reached
    change (_ → Uploaded _ (EngineStep.exec system (.begin picks answers)).world _) ∧
      (_ → Stands (EngineStep.exec system (.begin picks answers)).world _)
    generalize EngineStep.exec system (.begin picks answers) = later at does reached
    cases does with
    | nothing => exact absurd (by rw [HasStatus, reached, Option.map_some, completed]) remained
    | begin picked _ begun _ =>
        rw [next] at begun
        cases begun
        have ends : HasStatus taskId .completed (final (beginTask answers task) system.world) := by
          rw [HasStatus]
          exact (congrArg (Option.map SyncTask.status) reached).trans (congrArg some completed)
        have done := done_beginTask identified next (fun client => paces.uploads picks answers task rfl client next)
          stands apart ends
        rw [asks.operation]
        exact ⟨fun uploads => (done.1 uploads).of_asksSame asks, fun other => (done.2 other).of_asksSame asks⟩

end Queues

end Steps

/-! ## Notes -/

/-- The server stores the notes, and answers. -/
def storesAnnsNotes : UploadReply :=
  ⟨some ("drive-1", []), .ok (Api.DriveFile.named "drive-1" "notes.txt"), []⟩

/-- The user has written the notes, and their upload is pending. -/
def writtenNotes : System :=
  run (@System.exec untimed) (connectsAnn :: writesNotes [1] 5) System.initial

/-- The notes have been uploaded. -/
def uploadedNotes : System :=
  @System.exec untimed writtenNotes (uploadsTo storesAnnsNotes)

/-- Without rows and without files the trees are the same. -/
theorem sameTrees_of_empty {world : World} (rows : world.db.driveFiles.rows = [])
    (drive : ∀ accountId fileId, world.drive accountId fileId = none) : SameTrees world := by
  intro accountId fileId
  have none_ : world.db.file fileId accountId = none := by
    rw [Database.file, KeyedTable.lookup, KeyedTable.lookupRow, Table.findRow?, rows]
    rfl
  rw [localTree, driveTree, none_, drive]
  rfl

theorem sameTrees_writtenNotes : SameTrees writtenNotes.world :=
  sameTrees_of_empty (by decide) fun _ _ => rfl

def mounts (callback : Callback) : Operation :=
  .vfs "/cache" (Vfs.CallbackAnswers.allRun 20 1) callback

/-- A folder is made. -/
def madeFolder : System :=
  @System.exec untimed uploadedNotes (mounts (.mkdir 0 (some "docs")))

def renamesNotes (name newName : String) : Operation :=
  mounts (.rename 0 (some name) 0 (some newName))

/-- The notes are renamed, and the task for it is processed. -/
def renamedNotes : System :=
  run (@System.exec untimed) [renamesNotes "notes.txt" "plans.txt", uploadsTo storesAnnsNotes] uploadedNotes

/-- The removal of a local copy goes on to its end. -/
def removesCopies : List Operation :=
  [.engine (.removeCopy (DeleteAnswers.allRun 20)), .engine (.recordDelete (DeleteAnswers.allRun 20))]

/-- The notes are removed, and the task for it is processed. -/
def unlinkedNotes : System :=
  run (@System.exec untimed) (mounts (.unlink 0 (some "notes.txt")) :: uploadsTo storesAnnsNotes :: removesCopies)
    uploadedNotes

/-- The notes are renamed and get their old name again, and a folder is made and removed, before the engine goes on. -/
def editsNotes : List Operation :=
  [renamesNotes "notes.txt" "plans.txt", mounts (.mkdir 0 (some "docs")), mounts (.rmdir 0 (some "docs")),
    renamesNotes "plans.txt" "notes.txt"]

/-- The engine processes the first rename, and then the removal of the folder. -/
def processesEdits : List Operation :=
  uploadsTo storesAnnsNotes :: uploadsTo storesAnnsNotes :: removesCopies

/-- Only the task of the second rename is open. -/
def lastRename : System :=
  run (@System.exec untimed) (editsNotes ++ processesEdits) uploadedNotes

/-- The pending task of the written notes. -/
theorem of_next_writtenNotes {task : SyncTask} (next : writtenNotes.world.db.nextPending = some task) :
    task.operation = .upload ∧ task.fileId = none ∧ task.localPath = some "/mnt/notes.txt" ∧
      task.accountId = "ann@example.com" := by
  have values : writtenNotes.world.db.nextPending.map
      (fun task => (task.operation, task.fileId, task.localPath, task.accountId)) =
        some (.upload, none, some "/mnt/notes.txt", "ann@example.com") := by
    decide
  rw [next, Option.map_some] at values
  have parts := Prod.mk.inj (Option.some.inj values)
  have rest := Prod.mk.inj parts.2
  exact ⟨parts.1, rest.1, Prod.mk.inj rest.2⟩

theorem uploadsWhole_writtenNotes {picks : Bool} {answers : TaskAnswers} {task : SyncTask}
    (same : uploadsTo storesAnnsNotes = .engine (.begin picks answers))
    (next : writtenNotes.world.db.nextPending = some task) : @UploadsWhole untimed answers task writtenNotes.world := by
  rcases of_next_writtenNotes next with ⟨_, about, path, account⟩
  cases same
  refine @UploadsWhole.mk untimed _ _ _ ?_ ?_ ?_ ?_ ?_
  · rw [path]
    rfl
  · rintro ⟨fileId, _, _, named, _⟩
    rw [about] at named
    cases named
  · intro localPath there
    rw [path] at there
    rw [account, ← Option.some.inj there]
    exact ⟨[], rfl, by decide⟩
  · intro fileId stored
    rw [List.mem_singleton.mp stored]
    rfl
  · intro apiFile reply
    rw [account, ← Except.ok.inj reply]
    decide

/-- What the task asks for that an operation works on. -/
theorem of_busy {system : System} {operation : Operation} {number : Nat}
    {asks : TaskOperation × Option String × String} (working : busyTask system operation = some number)
    (stored : (system.world.db.task number).map (fun task => (task.operation, task.fileId, task.accountId)) = some asks)
    (taskId : Nat) (task : SyncTask) (found : system.world.db.task taskId = some task)
    (busy : busyTask system operation = some taskId) : (task.operation, task.fileId, task.accountId) = asks := by
  rw [working] at busy
  cases busy
  rw [found, Option.map_some] at stored
  exact Option.some.inj stored

theorem driveFollows_of {world : World} {accountId fileId : String} {place : String × Option String}
    (row : (world.db.file fileId accountId).map (fun row => (row.name, row.parentId)) = some place)
    (remote : (world.drive accountId fileId).map (fun remote => (remote.name, remote.parents.head?)) = some place) :
    DriveFollows world accountId fileId := by
  rcases Option.map_eq_some_iff.mp row with ⟨file, found, same⟩
  rcases Option.map_eq_some_iff.mp remote with ⟨stored, there, equal⟩
  have places := Prod.mk.inj (equal.trans same.symm)
  exact ⟨file, stored, found, there, places.1, places.2⟩

/-- An open task is not completed. -/
theorem not_othersCompleted {system : System} {operation : Operation} (taskId : Nat) (status : TaskStatus)
    (has : (system.world.db.task taskId).map SyncTask.status = some status)
    (apart : busyTask system operation ≠ some taskId) (remains : status ≠ .completed) :
    ¬ OthersCompleted system operation :=
  fun others => remains (others taskId status has apart)

theorem keepsPace_writtenNotes : @KeepsPace untimed writtenNotes (uploadsTo storesAnnsNotes) := by
  refine @KeepsPace.mk untimed _ _ trivial ?_ ?_ ?_ ?_ ?_
  · exact fun picks answers task same _ next _ => uploadsWhole_writtenNotes same next
  · intro picks answers task _ _ next deletes
    rw [(of_next_writtenNotes next).1] at deletes
    cases deletes
  · intro taskId task found busy _ other
    have asks := @of_busy _ _ 1 (.upload, none, "ann@example.com") (by decide) (by decide) _ _ found busy
    exact absurd (Prod.mk.inj asks).1 other
  · exact fun _ _ => sameTrees_writtenNotes
  · exact fun _ _ goesOn => absurd trivial goesOn

/-- A callback that is announced, or while another task is open, keeps pace. -/
theorem keepsPace_mounts {system : System} {callback : Callback}
    (announced : @OthersCompleted system (mounts callback) → @Enqueues system (mounts callback)) :
    @KeepsPace untimed system (mounts callback) := by
  refine @KeepsPace.mk untimed _ _ trivial ?_ ?_ ?_ ?_ ?_
  · exact fun _ _ _ impossible => by cases impossible
  · exact fun _ _ _ impossible => by cases impossible
  · exact fun _ _ _ busy => by cases busy
  · exact fun _ impossible => impossible.elim
  · exact fun others quiet => absurd (announced others) quiet

/-- The task of a rename may be begun when Drive has the name already. -/
theorem keepsPace_rename {system : System} {number : Nat} {accountId fileId : String} {place : String × Option String}
    (next : system.world.db.nextPending.map SyncTask.operation = some .rename)
    (working : busyTask system (uploadsTo storesAnnsNotes) = some number)
    (stored : (system.world.db.task number).map (fun task => (task.operation, task.fileId, task.accountId)) =
      some (.rename, some fileId, accountId))
    (row : (system.world.db.file fileId accountId).map (fun row => (row.name, row.parentId)) = some place)
    (remote : (system.world.drive accountId fileId).map (fun remote => (remote.name, remote.parents.head?)) =
      some place)
    (levels : OthersCompleted system (uploadsTo storesAnnsNotes) → SameTrees system.world) :
    @KeepsPace untimed system (uploadsTo storesAnnsNotes) := by
  have renames {task : SyncTask} (begun : system.world.db.nextPending = some task) : task.operation = .rename := by
    rw [begun, Option.map_some] at next
    exact Option.some.inj next
  refine @KeepsPace.mk untimed _ _ trivial ?_ ?_ ?_ ?_ ?_
  · intro _ _ task _ _ begun uploads
    rw [renames begun] at uploads
    cases uploads
  · intro _ _ task _ _ begun deletes
    rw [renames begun] at deletes
    cases deletes
  · intro taskId task found busy _ _
    have asks := Prod.mk.inj (of_busy working stored taskId task found busy)
    have rest := Prod.mk.inj asks.2
    rw [Stands, asks.1, rest.1, rest.2]
    exact ⟨fileId, rfl, driveFollows_of row remote⟩
  · exact fun others _ => levels others
  · exact fun _ _ goesOn => absurd trivial goesOn

/-- The rows and Drive's files are the same in both trees when every row is where it was. -/
theorem SameTrees.of_rows {world later : World} (same : SameTrees world) (drive : later.drive = world.drive)
    (rows : ∀ file ∈ later.db.driveFiles.records, localTree world.db file.accountId file.id = rowNode file)
    (kept : ∀ file ∈ world.db.driveFiles.records, (later.db.file file.id file.accountId).isSome = true) :
    SameTrees later := by
  intro accountId fileId
  rw [driveTree, drive]
  refine Eq.trans ?_ (same accountId fileId)
  cases found : later.db.file fileId accountId with
  | some file =>
      rcases Database.holds_of_file found with ⟨_, id, owner⟩
      have place := rows file (KeyedTable.lookup_eq_some_iff _ _ _ |>.mp found).1
      rw [id, owner] at place
      rw [localTree, found, place]
      rfl
  | none =>
      cases before : world.db.file fileId accountId with
      | none => rw [localTree, localTree, found, before]
      | some file =>
          rcases Database.holds_of_file before with ⟨_, id, owner⟩
          have there := kept file (KeyedTable.lookup_eq_some_iff _ _ _ |>.mp before).1
          rw [id, owner, found] at there
          cases there

theorem sameTrees_uploadedNotes : SameTrees uploadedNotes.world :=
  @propagated_exec untimed _ _ keepsPace_writtenNotes (fun _ => sameTrees_writtenNotes) (by decide)

theorem sameTrees_lastRename : SameTrees lastRename.world :=
  sameTrees_uploadedNotes.of_rows rfl (by decide) (by decide)

/-- The task of a removal may be begun in any case: it is completed later. -/
theorem keepsPace_beginRemoval {system : System}
    (next : system.world.db.nextPending.map (fun task => (task.operation, task.fileId.isSome)) =
      some (.delete, true)) :
    @KeepsPace untimed system (uploadsTo storesAnnsNotes) := by
  have deletes {task : SyncTask} (begun : system.world.db.nextPending = some task) :
      task.operation = .delete ∧ task.fileId.isSome = true := by
    rw [begun, Option.map_some] at next
    exact Prod.mk.inj (Option.some.inj next)
  have lasts (may : MayComplete system (uploadsTo storesAnnsNotes)) : False := by
    rcases may with ⟨task, begun, ends⟩
    rw [EndsAtOnce, (deletes begun).1] at ends
    have about := (deletes begun).2
    rw [ends.2] at about
    cases about
  refine @KeepsPace.mk untimed _ _ trivial ?_ ?_ ?_ ?_ ?_
  · intro _ _ task _ _ begun uploads
    rw [(deletes begun).1] at uploads
    cases uploads
  · exact fun _ _ task _ _ begun _ => (deletes begun).2
  · exact fun _ _ _ _ may => (lasts may).elim
  · exact fun _ may => (lasts may).elim
  · exact fun _ _ goesOn => absurd trivial goesOn

/-- The engine may go on with a removal while another task is open, when Drive does not have the file. -/
theorem keepsPace_removal {system : System} {step : EngineStep} {number : Nat} {accountId fileId : String}
    (goesOn : ∀ picks answers, step ≠ .begin picks answers)
    (working : busyTask system (.engine step) = some number)
    (stored : (system.world.db.task number).map (fun task => (task.operation, task.fileId, task.accountId)) =
      some (.delete, some fileId, accountId))
    (absent : system.world.drive accountId fileId = none) (another : ¬ OthersCompleted system (.engine step)) :
    @KeepsPace untimed system (.engine step) := by
  refine @KeepsPace.mk untimed _ _ trivial ?_ ?_ ?_ ?_ ?_
  · exact fun picks answers _ same => absurd (Operation.engine.inj same) (goesOn picks answers)
  · exact fun picks answers _ same => absurd (Operation.engine.inj same) (goesOn picks answers)
  · intro taskId task found busy _ _
    have asks := Prod.mk.inj (of_busy working stored taskId task found busy)
    have rest := Prod.mk.inj asks.2
    rw [Stands, asks.1, rest.1, rest.2]
    exact ⟨fileId, rfl, absent⟩
  · exact fun others => absurd others another
  · exact fun others => absurd others another

theorem keepsPace_editsNotes :
    Along (@System.exec untimed) (@KeepsPace untimed) editsNotes uploadedNotes := by
  refine ⟨keepsPace_mounts fun _ => ⟨rfl, by decide⟩, keepsPace_mounts fun others => ?_,
    keepsPace_mounts fun _ => ⟨rfl, by decide⟩, keepsPace_mounts fun _ => ⟨rfl, by decide⟩, trivial⟩
  exact absurd others (not_othersCompleted 2 .pending (by decide) (by decide) (by decide))

/-- The task of the second rename is open all the time. -/
theorem keepsPace_processesEdits :
    Along (@System.exec untimed) (@KeepsPace untimed) processesEdits
      (run (@System.exec untimed) editsNotes uploadedNotes) := by
  refine ⟨@keepsPace_rename _ 2 "ann@example.com" "drive-1" ("notes.txt", none) (by decide) (by decide) (by decide)
      (by decide) (by decide) fun others => ?_, keepsPace_beginRemoval (by decide),
    @keepsPace_removal _ _ 3 "ann@example.com" "local-folder-1" (fun _ _ => nofun) (by decide) (by decide) rfl ?_,
    @keepsPace_removal _ _ 3 "ann@example.com" "local-folder-1" (fun _ _ => nofun) (by decide) (by decide) rfl ?_,
    trivial⟩
  · exact absurd others (not_othersCompleted 4 .pending (by decide) (by decide) (by decide))
  · exact not_othersCompleted 4 .pending (by decide) (by decide) (by decide)
  · exact not_othersCompleted 4 .pending (by decide) (by decide) (by decide)

theorem keepsPace_lastRename : @KeepsPace untimed lastRename (uploadsTo storesAnnsNotes) :=
  @keepsPace_rename _ 4 "ann@example.com" "drive-1" ("notes.txt", none) (by decide) (by decide) (by decide)
    (by decide) (by decide) fun _ => sameTrees_lastRename

theorem not_propagated_of_differs {system : System} {accountId fileId : String}
    (completed : allCompleted system.world = true)
    (differs : localTree system.world.db accountId fileId ≠ driveTree system.world accountId fileId) :
    ¬ Propagated system :=
  fun propagated => differs (propagated completed accountId fileId)

/-- The task of a rename is completed though Drive has another name. -/
theorem not_completesDone_of {system : System} {operation : Operation} {number : Nat} {accountId fileId : String}
    (open_ : (system.world.db.task number).map SyncTask.status = some .pending)
    (completed : ((@System.exec untimed system operation).world.db.task number).map
      (fun task => (task.status, task.operation, task.fileId, task.accountId)) =
        some (.completed, .rename, some fileId, accountId))
    (differs : ((@System.exec untimed system operation).world.db.file fileId accountId).map Db.DriveFile.name ≠
      ((@System.exec untimed system operation).world.drive accountId fileId).map RemoteFile.name) :
    ¬ @CompletesDone untimed system operation := by
  intro done
  rcases Option.map_eq_some_iff.mp completed with ⟨task, found, values⟩
  have status := Prod.mk.inj values
  have asks := Prod.mk.inj status.2
  have about := Prod.mk.inj asks.2
  have stands := (done number task found status.1 ?_).2 ?_
  · rw [Stands, asks.1] at stands
    rcases stands with ⟨other, named, row, remote, stored, there, same, _⟩
    rw [about.1] at named
    rw [← Option.some.inj named, about.2] at stored there
    rw [stored, there, Option.map_some, Option.map_some, same] at differs
    exact differs rfl
  · intro already
    rw [HasStatus, open_] at already
    cases already
  · rw [asks.1]
    decide

end Tree
end GDriver
