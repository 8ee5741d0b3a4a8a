import GDriver.Api.Fields
import GDriver.Conflict.Detection
import GDriver.Library.Run
import GDriver.Metadata.Writes
import GDriver.Moves.Mount
import GDriver.Moves.Sync

namespace GDriver
namespace Conflict

open Library Routine Db Api Sync Metadata

/-!
# Rows without etags

A conflict check compares the etag of the row with the one on the server.  The row
was stored from the answer to a listing, to a poll for changes or to an upload, and
none of these requests names the etag.  So no row ever has one, every check passes,
and the local file is uploaded as if the remote one had not changed.
-/

/-- No row has an etag. -/
def Untagged (db : Database) : Prop :=
  ∀ file ∈ db.driveFiles.records, file.etag = none

/-- Rows without etags get none. -/
def StaysUntagged (db later : Database) : Prop :=
  Untagged db → Untagged later

instance : IsPreorder Database StaysUntagged where
  refl _ untagged := untagged
  trans _ _ _ one two untagged := two (one untagged)

def StaysUntaggedIn (world later : World) : Prop :=
  StaysUntagged world.db later.db

instance : IsPreorder World StaysUntaggedIn where
  refl _ untagged := untagged
  trans _ _ _ one two untagged := two (one untagged)

section Statements

variable {db : Database}

theorem Untagged.file (untagged : Untagged db) {fileId accountId : String} {file : Db.DriveFile}
    (found : db.file fileId accountId = some file) : file.etag = none :=
  untagged file ((db.driveFiles.lookup_eq_some_iff _ _).mp found).1

theorem StaysUntagged.of_same {later : Database} (same : later.driveFiles = db.driveFiles) :
    StaysUntagged db later := by
  intro untagged
  rw [Untagged, same]
  exact untagged

theorem staysUntagged_putFile {file : Db.DriveFile} (missing : file.etag = none) :
    StaysUntagged db (db.putFile file) := by
  intro untagged other member
  rcases (db.driveFiles.mem_records_upsert file other).mp member with same | ⟨stored, _⟩
  · rw [same]
    exact missing
  · exact untagged other stored

theorem staysUntagged_updateFiles {change : Db.DriveFile → Db.DriveFile}
    (selected : Row Db.DriveFile → Bool) (keeps : ∀ file, (change file).key = file.key)
    (same : ∀ file, (change file).etag = file.etag) :
    StaysUntagged db (db.updateFiles selected change keeps) := by
  intro untagged other member
  rcases List.mem_map.mp member with ⟨row, changed, equal⟩
  rcases List.mem_map.mp changed with ⟨before, stored, became⟩
  have missing := untagged before.data (List.mem_map_of_mem stored)
  rw [← equal, ← became]
  split
  · exact (same before.data).trans missing
  · exact missing

theorem staysUntagged_deleteAccount (runs : Bool) (accountId : String) :
    Keeps StaysUntagged (deleteAccount runs accountId) := by
  refine keeps_execute runs fun db untagged file member => ?_
  rcases List.mem_map.mp member with ⟨row, kept, same⟩
  exact untagged file (List.mem_map.mpr ⟨row, (List.mem_filter.mp kept).1, same⟩)

theorem staysUntagged_upsertFile {file : Db.DriveFile} (missing : file.etag = none) (runs : Bool) :
    Keeps StaysUntagged (upsertFile runs file) := by
  intro db
  rw [final_upsertFile]
  split
  · exact staysUntagged_putFile missing
  · exact Std.Refl.refl db

theorem staysUntagged_enqueue (runs : Bool) (task : SyncTask) :
    Keeps StaysUntagged (enqueue runs task) := by
  intro db
  rw [final_enqueue]
  split
  · exact StaysUntagged.of_same rfl
  · exact Std.Refl.refl db

end Statements

/-! ## Requests, callbacks and syncs -/

theorem allowsEdits_staysUntagged : AllowsEdits StaysUntagged where
  enqueues _ _ _ := StaysUntagged.of_same rfl
  inserts _ _ _ _ _ _ _ _ _ := staysUntagged_putFile rfl
  updates _ _ _ _ same := staysUntagged_updateFiles _ _ same

theorem allowsCallbacks_staysUntagged : AllowsCallbacks StaysUntagged StaysUntaggedIn where
  lifts _ _ stays := stays
  disk _ _ _ := StaysUntagged.of_same rfl
  opens _ _ := StaysUntagged.of_same rfl
  releases _ _ := StaysUntagged.of_same rfl

theorem staysUntagged_request (ctx : Ipc.RouterContext) (answers : Ipc.RpcAnswers) (request : Rpc) :
    Keeps StaysUntagged (request.run ctx answers) :=
  keeps_request allowsEdits_staysUntagged ctx answers request

theorem staysUntagged_callback (cacheDir : String) (answers : Vfs.CallbackAnswers)
    (callback : Callback) : Keeps StaysUntaggedIn (callback.run cacheDir answers) :=
  keeps_callback allowsEdits_staysUntagged allowsCallbacks_staysUntagged cacheDir answers callback

theorem staysUntagged_watch (path : String) (isDir : Bool) (kind : Watcher.EventKind)
    (folders : List Watcher.WatchedFolder) (now : Int) (runs : Bool) :
    Keeps StaysUntagged (watch path isDir kind folders now runs) := by
  rw [watch]
  split
  · exact keeps_pure ()
  · exact keeps_attempt (staysUntagged_enqueue _ _)

theorem staysUntagged_mirrorFiles (answers : MirrorAnswers) (accountId mountPoint : String)
    (folders : List String) (nameMap : String → Option (String × Option String)) (index : Nat)
    {files : List Db.DriveFile} (missing : ∀ file ∈ files, file.etag = none) :
    Keeps StaysUntagged (mirrorFiles answers accountId mountPoint folders nameMap index files) := by
  induction files generalizing index with
  | nil => exact keeps_pure 0
  | cons file rest inductionHypothesis =>
      have others := fun other member => missing other (List.mem_cons_of_mem _ member)
      rw [mirrorFiles]
      split
      · split
        · exact keeps_throw stopped
        · refine keeps_bind ?_ fun _ => ?_
          · apply staysUntagged_upsertFile
            exact missing file List.mem_cons_self
          refine keeps_bind (keeps_observe (staysUntagged_enqueue _ _)) fun enqueued => ?_
          refine keeps_bind (inductionHypothesis _ others) fun count => ?_
          cases enqueued with
          | ok task => exact keeps_pure _
          | error failure => exact keeps_pure _
      · exact inductionHypothesis _ others

theorem staysUntagged_enqueueMirrorDownloads (answers : MirrorAnswers) (accountId mountPoint : String) :
    Keeps StaysUntagged (enqueueMirrorDownloads answers accountId mountPoint) := by
  intro db
  have missing (untagged : Untagged db) :
      ∀ file ∈ Database.filesOfAccount db accountId, file.etag = none :=
    fun file member => untagged file (List.mem_filter.mp member).1
  have reads : final (select answers.listsFiles fun db => Database.filesOfAccount db accountId) db = db :=
    final_select _ _ _
  have listed : outcome (select answers.listsFiles fun db => Database.filesOfAccount db accountId) db =
      if answers.listsFiles then .ok (Database.filesOfAccount db accountId) else .error databaseError :=
    outcome_select _ _ _
  rw [enqueueMirrorDownloads, final_bind, reads, listed]
  cases answers.listsFiles with
  | false => exact Std.Refl.refl db
  | true =>
      intro untagged
      exact staysUntagged_mirrorFiles answers accountId mountPoint _ _ 0 (missing untagged) db untagged

section Answered

variable [Rfc3339]

/-- What the server answers in an operation are the fields that the request names. -/
def NamedFields : Operation → Prop
  | .sync (.listed _ _ apiFile) => Answers defaultFileFields apiFile
  | .sync (.change _ _ reported _ _) => ∀ apiFile ∈ reported.file, Answers changeFields apiFile
  | .engine (.begin _ answers) =>
      (∀ apiFile, answers.conflict.remote = .ok apiFile → Answers conflictCheckFields apiFile) ∧
        (∀ apiFile, answers.conflict.resolve.server.reply = .ok apiFile → AnswersUpload apiFile) ∧
          ∀ apiFile, answers.upload.server.reply = .ok apiFile → AnswersUpload apiFile
  | _ => True

theorem staysUntagged_sync {work : SyncWork} (named : NamedFields (.sync work)) :
    Keeps StaysUntagged work.run := by
  cases work with
  | connect runs account =>
      intro db
      rw [SyncWork.run, final_insertAccount]
      split
      · exact StaysUntagged.of_same rfl
      · exact Std.Refl.refl db
  | disconnect runs accountId => exact staysUntagged_deleteAccount runs accountId
  | storeToken runs now accountId token =>
      intro db
      rw [SyncWork.run, final_setToken]
      split
      · exact StaysUntagged.of_same rfl
      · exact Std.Refl.refl db
  | listed runs accountId apiFile =>
      exact staysUntagged_upsertFile (etag_of_answers named (by decide)) _
  | change answers accountId reported syncMode mountPoint =>
      intro db
      have spec := processChange_spec answers accountId reported syncMode mountPoint db
      refine IsTrans.trans _ _ _ ?_ (StaysUntagged.of_same spec.writes.driveFiles)
      rw [changeWritten]
      cases asked : changeWrite accountId reported with
      | none => exact Std.Refl.refl db
      | some write =>
          dsimp only
          split
          · cases write with
            | trash fileId owner => exact staysUntagged_updateFiles _ _ fun _ => rfl
            | store file =>
                rw [changeWrite] at asked
                split at asked
                · cases asked
                · split at asked
                  · cases asked
                  · rcases Option.map_eq_some_iff.mp asked with ⟨apiFile, reports, same⟩
                    cases same
                    exact staysUntagged_putFile (etag_of_answers (named apiFile reports) (by decide))
          · exact Std.Refl.refl db
  | mirror answers accountId mountPoint =>
      exact keeps_attempt (staysUntagged_enqueueMirrorDownloads _ _ _)
  | resetMirror runs accountId =>
      exact keeps_execute _ fun _ => staysUntagged_updateFiles _ _ fun _ => rfl

/-! ## Tasks -/

omit [Rfc3339] in
theorem allowsSending_staysUntagged (taskId : Nat) : AllowsSending taskId StaysUntaggedIn where
  disk _ _ _ := StaysUntagged.of_same rfl
  send _ _ _ := StaysUntagged.of_same rfl
  task _ _ _ _ := StaysUntagged.of_same rfl
  error _ _ := StaysUntagged.of_same rfl
  drive _ _ := StaysUntagged.of_same rfl

omit [Rfc3339] in
/-- Without an etag in the row no conflict is found. -/
theorem detected_of_untagged {world : World} (untagged : Untagged world.db) (answers : ConflictAnswers)
    (task : SyncTask) (fileId localPath : String) :
    detected answers task fileId localPath world = none := by
  cases found : detected answers task fileId localPath world with
  | none => rfl
  | some conflict =>
      rcases of_detected found with ⟨stored, _, tagged⟩
      rw [untagged.file stored] at tagged
      cases tagged

/-- The task is processed by the normal upload, after a check that has asked Drive for the
file at most. -/
def UploadsPlainly (answers : TaskAnswers) (task : SyncTask) (world : World) : Prop :=
  ∃ checked, (checked = world ∨ ∃ fileId, checked = world.send task.accountId (.get fileId)) ∧
    final (processUpload answers task) world = final (uploadFile answers.upload task) checked

/-- The check of an upload task finds a conflict, and runs its resolution. -/
def FindsConflict (answers : TaskAnswers) (task : SyncTask) (world : World) : Prop :=
  ∃ fileId localPath conflict, task.fileId = some fileId ∧ task.localPath = some localPath ∧
    detected answers.conflict task fileId localPath world = some conflict

theorem uploadsPlainly_of_passes {answers : TaskAnswers} {task : SyncTask} {world : World}
    (undetected : ∀ fileId localPath, task.fileId = some fileId → task.localPath = some localPath →
      detected answers.conflict task fileId localPath world = none) :
    UploadsPlainly answers task world := by
  rw [UploadsPlainly, processUpload]
  cases about : task.fileId with
  | none => exact ⟨world, Or.inl rfl, rfl⟩
  | some fileId =>
      cases path : task.localPath with
      | none => exact ⟨world, Or.inl rfl, rfl⟩
      | some localPath =>
          have passes := checked answers.conflict task fileId localPath world
          rw [undetected fileId localPath about path] at passes
          rcases passes with ⟨unresolved, asked⟩
          refine ⟨final (checkAndResolve answers.conflict task fileId localPath) world, ?_, ?_⟩
          · rcases asked with same | sent
            · exact Or.inl same
            · exact Or.inr ⟨fileId, sent⟩
          · rw [final_bind_of_ok (outcome_observe _ _), final_observe]
            cases result : outcome (checkAndResolve answers.conflict task fileId localPath) world with
            | error failure => rfl
            | ok resolved =>
                cases resolved with
                | false => rfl
                | true => exact absurd result unresolved

theorem staysUntagged_processUpload {task : SyncTask} {taskId : Nat} (identified : task.id = some taskId)
    {answers : TaskAnswers}
    (named : ∀ apiFile, answers.upload.server.reply = .ok apiFile → AnswersUpload apiFile) :
    Keeps StaysUntaggedIn (processUpload answers task) := by
  intro world untagged
  have undetected (fileId localPath : String) (_ : task.fileId = some fileId)
      (_ : task.localPath = some localPath) := detected_of_untagged untagged answers.conflict task fileId localPath
  rcases uploadsPlainly_of_passes undetected with ⟨checked, asked, same⟩
  have before : Untagged checked.db := by
    rcases asked with same | ⟨fileId, same⟩
    · rw [same]
      exact untagged
    · rw [same]
      exact untagged
  rw [same]
  have sends := allowsSending_staysUntagged taskId
  refine keeps_uploadFile identified sends.toAllowsAsking
    (fun world _ _ => sends.store _ _ _ _ world) ?_ checked before
  intro world apiFile replied _
  exact staysUntagged_putFile (etag_of_answersUpload (named apiFile replied))

theorem staysUntagged_beginTask {task : SyncTask} {taskId : Nat} (identified : task.id = some taskId)
    {answers : TaskAnswers}
    (named : ∀ apiFile, answers.upload.server.reply = .ok apiFile → AnswersUpload apiFile) :
    Keeps StaysUntaggedIn (beginTask answers task) := by
  have sends := allowsSending_staysUntagged taskId
  refine keeps_beginTask_of_uploads identified sends.toAllowsProcessing sends.removes ?_ ?_
  · exact fun _ world _ _ => staysUntagged_updateFiles _ _ fun _ => rfl
  · exact fun _ => staysUntagged_processUpload identified named

/-! ## Runs -/

/-- No row has an etag, and the engine holds none that has one. -/
structure MissesTags (system : System) : Prop where
  rows : Untagged system.world.db
  held : ∀ file, heldRow system.engine = some file → file.etag = none

omit [Rfc3339] in
theorem missesTags_initial : MissesTags System.initial := by
  constructor
  · intro file member
    cases member
  · intro file held
    cases held

theorem missesTags_engine {system : System} {step : EngineStep} (named : NamedFields (.engine step))
    (missing : MissesTags system) : MissesTags (step.exec system) := by
  have stores {world : World} {file : Db.DriveFile} (tag : file.etag = none) :
      StaysUntaggedIn world (world.withDb (world.db.putFile file)) := staysUntagged_putFile tag
  constructor
  · refine @keeps_engine StaysUntaggedIn _ _ system step ?_ ?_ ?_ ?_ missing.rows
    · intro picks answers task taskId same _ _ identified
      rw [same] at named
      exact staysUntagged_beginTask identified named.2.2 system.world
    · exact fun taskId => (allowsSending_staysUntagged taskId).toAllowsProcessing
    · exact fun world file _ _ held _ => stores (missing.held file held)
    · exact fun world file held _ => stores (missing.held file held)
  · intro file held
    rcases heldRow_exec held with before | ⟨fileId, accountId, stored⟩
    · exact missing.held file before
    · exact missing.rows.file stored

theorem missesTags_exec {system : System} {operation : Operation} (named : NamedFields operation)
    (missing : MissesTags system) : MissesTags (system.exec operation) := by
  cases operation with
  | sync work => exact ⟨staysUntagged_sync named _ missing.rows, missing.held⟩
  | rpc ctx answers request => exact ⟨staysUntagged_request ctx answers request _ missing.rows, missing.held⟩
  | vfs cacheDir answers callback =>
      exact ⟨staysUntagged_callback cacheDir answers callback system.world missing.rows, missing.held⟩
  | event path isDir kind folders now runs =>
      exact ⟨staysUntagged_watch path isDir kind folders now runs _ missing.rows, missing.held⟩
  | engine step => exact missesTags_engine named missing
  | user path file => exact ⟨missing.rows, missing.held⟩

/-- In every run whose requests are answered with the fields they name, no upload task
finds a conflict: every one of them is processed by the normal upload. -/
theorem conflicts_are_not_found {operations : List Operation}
    (named : Along System.exec (fun _ => NamedFields) operations System.initial)
    (answers : TaskAnswers) (task : SyncTask) :
    ¬ FindsConflict answers task (run System.exec operations System.initial).world ∧
      UploadsPlainly answers task (run System.exec operations System.initial).world := by
  have missing : MissesTags (run System.exec operations System.initial) :=
    run_of_along (fun _ _ named => missesTags_exec named) named missesTags_initial
  have undetected (fileId localPath : String) :=
    detected_of_untagged missing.rows answers.conflict task fileId localPath
  constructor
  · rintro ⟨fileId, localPath, conflict, _, _, found⟩
    rw [undetected] at found
    cases found
  · exact uploadsPlainly_of_passes fun fileId localPath _ _ => undetected fileId localPath

/-! ## Edits on both sides -/

/-- The local file is newer than it was when its row was stored. -/
def changedOnDisk (fileId accountId localPath : String) (world : World) : Bool :=
  (world.db.file fileId accountId).any fun row =>
    row.localPath = some localPath && row.localMtime.any fun stored =>
      (mtimeOf true localPath world).any fun current => stored < current

/-- After the run the local file is newer than its row says, the next task is its upload, and
its processing finds no conflict. -/
def MissesConflict (operations : List Operation) (fileId accountId localPath : String)
    (answers : TaskAnswers) : Prop :=
  Along System.exec (fun _ => NamedFields) operations System.initial ∧
    changedOnDisk fileId accountId localPath (run System.exec operations System.initial).world = true ∧
    ∃ task, (run System.exec operations System.initial).world.db.nextPending = some task ∧
      task.operation = .upload ∧ task.localPath = some localPath ∧
      ¬ FindsConflict answers task (run System.exec operations System.initial).world

end Answered

/-- The notes as they are on Drive, under an etag. -/
def notesOnDrive (etag : String) : Api.DriveFile :=
  { Api.DriveFile.named "notes" "notes.txt" with etag := some etag }

/-- The next task is begun, and a conflict check finds the notes under a new etag. -/
def asksDrive : TaskAnswers :=
  { TaskAnswers.allRun ⟨none, .error "no upload", []⟩ ⟨[1], 10⟩ 5 with
    conflict := ⟨true, true, .ok ((notesOnDrive "2").only conflictCheckFields),
      ResolveAnswers.allRun ⟨none, .error "no upload", []⟩ ⟨[1], 10⟩ 5⟩ }

/-- The notes are listed, and downloaded on the next request for them. -/
def downloadsListed (asked : List Operation) : List Operation :=
  [.sync (.connect true ⟨"ann@example.com", "ann@example.com", 0⟩),
    .sync (.listed true "ann@example.com" ((notesOnDrive "1").only defaultFileFields))] ++ asked ++
  [.engine (.begin true asksDrive), .engine (.land (DownloadAnswers.allRun ⟨[1], 10⟩ 5)),
    .engine (.record (DownloadAnswers.allRun ⟨[1], 10⟩ 5))]

/-- The notes are mirrored, and edited in place. -/
def editsMirrored : List Operation :=
  downloadsListed [.sync (.mirror (MirrorAnswers.allRun 9 1) "ann@example.com" "/mnt")] ++
  [.user "/mnt/notes.txt" (some ⟨[2], 20⟩),
    .event "/mnt/notes.txt" false .modifyData [⟨"/mnt", "ann@example.com", "mirror"⟩] 25 true]

/-- The notes are opened, read, edited and flushed in the mounted file system. -/
def editsMounted : List Operation :=
  downloadsListed [.vfs "/cache" (Vfs.CallbackAnswers.allRun 1 1) (.openFile 1),
    .vfs "/cache" (Vfs.CallbackAnswers.allRun 1 1) (.read 1 1)] ++
  [.vfs "/cache" (Vfs.CallbackAnswers.allRun 20 1) (.write 1 1 0 [2] 1),
    .vfs "/cache" (Vfs.CallbackAnswers.allRun 25 1) (.flush 1 1)]

/-- The conflict that the check of a task finds.  A task without a file id is not checked. -/
def conflictOf (answers : TaskAnswers) (task : SyncTask) (world : World) :
    Option (Db.DriveFile × Api.DriveFile) :=
  task.fileId.bind fun fileId => task.localPath.bind fun localPath =>
    detected answers.conflict task fileId localPath world

theorem of_conflictOf {answers : TaskAnswers} {world : World} {localPath : String}
    (passes : world.db.nextPending.map (fun task =>
      (task.operation, task.localPath, conflictOf answers task world)) =
        some (.upload, some localPath, none)) :
    ∃ task, world.db.nextPending = some task ∧ task.operation = .upload ∧
      task.localPath = some localPath ∧ ¬ FindsConflict answers task world := by
  rcases Option.map_eq_some_iff.mp passes with ⟨task, next, values⟩
  rcases Prod.mk.inj values with ⟨operation, others⟩
  rcases Prod.mk.inj others with ⟨path, nothing⟩
  refine ⟨task, next, operation, path, ?_⟩
  rintro ⟨fileId, otherPath, conflict, about, at_, found⟩
  rw [conflictOf, about, at_, Option.bind_some, Option.bind_some, found] at nothing
  cases nothing

theorem namedFields_begin : NamedFields (.engine (.begin true asksDrive)) := by
  refine ⟨?_, ?_, ?_⟩
  · intro apiFile replied
    cases replied
    exact ⟨_, rfl⟩
  · intro apiFile replied
    cases replied
  · intro apiFile replied
    cases replied

theorem answers_listed : Answers defaultFileFields ((notesOnDrive "1").only defaultFileFields) :=
  ⟨_, rfl⟩

theorem namedFields_editsMounted :
    Along (@System.exec untimed) (fun _ => NamedFields) editsMounted System.initial :=
  ⟨trivial, answers_listed, trivial, trivial, namedFields_begin, trivial, trivial, trivial, trivial, trivial⟩

/-- The upload of the notes edited in the mounted file system is a normal one. -/
theorem conflicts_are_not_found_of_mounted :
    @UploadsPlainly untimed asksDrive
      (pendingTask 25 "ann@example.com" (some "notes") .upload (some "/cache/ann@example.com/notes") 5)
      (run (@System.exec untimed) editsMounted System.initial).world :=
  (@conflicts_are_not_found untimed editsMounted namedFields_editsMounted asksDrive _).2

/-- The notes are edited on disk and on Drive, and neither the task of the watcher nor that
of the mounted file system finds the conflict. -/
theorem edits_on_both_sides_are_not_found :
    (notesOnDrive "1").etag ≠ (notesOnDrive "2").etag ∧
      @MissesConflict untimed editsMirrored "notes" "ann@example.com" "/mnt/notes.txt" asksDrive ∧
      @MissesConflict untimed editsMounted "notes" "ann@example.com" "/cache/ann@example.com/notes"
        asksDrive := by
  have mirrored : Along (@System.exec untimed) (fun _ => NamedFields) editsMirrored System.initial :=
    ⟨trivial, answers_listed, trivial, namedFields_begin, trivial, trivial, trivial, trivial, trivial⟩
  refine ⟨by decide, ?_, ?_⟩
  · exact ⟨mirrored, by decide, of_conflictOf (by decide)⟩
  · exact ⟨namedFields_editsMounted, by decide, of_conflictOf (by decide)⟩

end Conflict
end GDriver
