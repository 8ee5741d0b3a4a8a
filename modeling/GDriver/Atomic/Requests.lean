import GDriver.Atomic.Callbacks
import GDriver.Ipc.Preferences

namespace GDriver
namespace Atomic

open Library Routine Db Sync Vfs Ipc

/-!
# Requests that fail

A request of the file provider changes a row and then enqueues a task, and may do so twice; a
switch of the mode changes the memory before it tells the engine.  An error in between is
answered as if nothing had been done.
-/

/-- A request that changes rows, tasks or preferences, with what it meets. -/
inductive Request where
  | createItem (answers : RpcAnswers) (name : Option String) (isFolder : Option Bool)
      (localPath : Option String)
  | modifyItem (ctx : RouterContext) (answers : RpcAnswers) (path newName localPath : Option String)
  | deleteItem (ctx : RouterContext) (answers : RpcAnswers) (path : Option String)
  | setSyncMode (answers : PrefsAnswers) (mode : Except String SyncMode)
  | prefsSave (answers : PrefsAnswers) (params : Except String Preferences)

/-- A handler that works on the database alone. -/
def onDatabase {α : Type} (handler : Routine RpcError Database α) : Routine RpcError Backend α :=
  zoom Backend.db (fun db backend => { backend with db := db }) handler

/-- The handler of a request, read for whether it answers an error. -/
def Request.respond [Toml] : Request → Routine RpcError Backend Unit
  | .createItem answers name isFolder localPath =>
      onDatabase (handleFpCreateItem answers name isFolder localPath) >>= fun _ => pure ()
  | .modifyItem ctx answers path newName localPath =>
      onDatabase (handleFpModifyItem ctx answers path newName localPath)
  | .deleteItem ctx answers path => onDatabase (handleFpDeleteItem ctx answers path)
  | .setSyncMode answers mode => handleSetSyncMode answers mode >>= fun _ => pure ()
  | .prefsSave answers params => handlePrefsSave answers params

/-- The rows and the tasks are the same. -/
structure SameRecords (before after : Database) : Prop where
  files : after.driveFiles = before.driveFiles
  queue : after.syncQueue = before.syncQueue

/-- The rows, the tasks and the preferences, in memory and on disk, are the same. -/
structure SameBackend (before after : Backend) : Prop where
  records : SameRecords before.db after.db
  config : after.config = before.config
  file : after.files.file = before.files.file

theorem SameRecords.refl (db : Database) : SameRecords db db :=
  ⟨rfl, rfl⟩

theorem SameBackend.refl (backend : Backend) : SameBackend backend backend :=
  ⟨SameRecords.refl _, rfl, rfl⟩

/-- When the response is an error, nothing has changed. -/
def Request.FailsCleanly [Toml] (request : Request) (backend : Backend) : Prop :=
  FailsIn (SameBackend backend) request.respond backend

/-- A handler on the database changes nothing else. -/
theorem failsIn_onDatabase {α : Type} {handler : Routine RpcError Database α} {backend : Backend} :
    FailsIn (SameBackend backend) (onDatabase handler) backend ↔
      FailsIn (SameRecords backend.db) handler backend.db := by
  rw [onDatabase, failsIn_zoom]
  constructor
  · exact fun fails failure failed => (fails failure failed).records
  · exact fun fails failure failed => ⟨fails failure failed, rfl, rfl⟩

/-- Whether a sequence fails in a condition does not depend on an answer that it drops. -/
theorem failsIn_bind_unit {ε σ α β : Type} {condition : σ → Prop} {routine : Routine ε σ α} {value : β} {state : σ} :
    FailsIn condition (routine >>= fun _ => pure value) state ↔ FailsIn condition routine state := by
  rw [failsIn_bind]
  exact and_iff_left fun _ _ => failsIn_pure value

/-! ## Statements -/

section Statements

variable {db : Database} {condition : Database → Prop} {β : Type}

theorem failsIn_bind_orRpcError {α : Type} (holds : condition db) {error : RpcError} {found : Option α}
    {second : α → Routine RpcError Database β} :
    FailsIn condition (orRpcError error found >>= second) db ↔
      ∀ value, found = some value → FailsIn condition (second value) db := by
  cases found with
  | none =>
      refine iff_of_true (failsIn_of_reads holds rfl) fun value impossible => ?_
      cases impossible
  | some value =>
      have answered : outcome (orRpcError error (some value)) db = .ok value := rfl
      rw [failsIn_bind_of_ok answered]
      constructor
      · rintro fails other ⟨⟩
        exact fails
      · exact fun fails => fails value rfl

theorem failsIn_bind_resolveFileForPath (holds : condition db) {ctx : RouterContext} {answers : RpcAnswers}
    {path : Option String} {second : DriveFile → Routine RpcError Database β} :
    FailsIn condition (requiredParam "path" path >>= fun path => resolveFileForPath ctx answers path >>= second) db ↔
      ∀ file, requestedFile ctx answers path db = some file → FailsIn condition (second file) db := by
  rw [requiredParam, failsIn_bind_orRpcError holds]
  constructor
  · intro fails file requested
    rcases Option.bind_eq_some_iff.mp requested with ⟨given, carried, resolved⟩
    have goes := (failsIn_bind_of_reads holds (final_resolveFileForPath ctx answers given db)).mp (fails given carried)
    refine goes file ?_
    cases answered : outcome (resolveFileForPath ctx answers given) db with
    | error failure =>
        rw [answered] at resolved
        cases resolved
    | ok value =>
        rw [answered] at resolved
        cases resolved
        rfl
  · intro fails given carried
    refine (failsIn_bind_of_reads holds (final_resolveFileForPath ctx answers given db)).mpr fun file resolved => ?_
    refine fails file (Option.bind_eq_some_iff.mpr ⟨given, carried, ?_⟩)
    rw [resolved]
    rfl

/-- A change of a row that is not executed is a failure where it stands. -/
theorem failsIn_bind_updateRow {runs : Bool} {file : DriveFile} {change : DriveFile → DriveFile}
    {keeps : ∀ row, (change row).key = row.key} {second : Unit → Routine RpcError Database β} :
    FailsIn condition (updateRow runs file change keeps >>= second) db ↔
      (runs = false → condition db) ∧
        (runs = true → FailsIn condition (second ()) (db.updateFileAt file.id file.accountId change keeps)) := by
  cases runs with
  | false =>
      constructor
      · intro fails
        refine ⟨fun _ => fails (.internalError databaseError) rfl, fun impossible => ?_⟩
        cases impossible
      · exact fun parts => failsIn_of_reads (parts.1 rfl) rfl
  | true =>
      have answered : outcome (updateRow true file change keeps) db = .ok () := rfl
      rw [failsIn_bind_of_ok answered]
      constructor
      · intro fails
        refine ⟨fun impossible => ?_, fun _ => fails⟩
        cases impossible
      · exact fun parts => parts.2 rfl

/-- A task that cannot be inserted is a failure where it stands. -/
theorem failsIn_bind_enqueue {runs : Bool} {task : SyncTask} {second : SyncTask → Routine RpcError Database β} :
    FailsIn condition (orInternal (enqueue runs task) >>= second) db ↔
      (runs = false → condition db) ∧
        (runs = true → FailsIn condition (second { task with id := some db.nextTaskId }) (db.putTask task)) := by
  cases runs with
  | false =>
      constructor
      · intro fails
        refine ⟨fun _ => fails (.internalError databaseError) rfl, fun impossible => ?_⟩
        cases impossible
      · exact fun parts => failsIn_of_reads (parts.1 rfl) rfl
  | true =>
      have answered : outcome (orInternal (enqueue true task)) db = .ok { task with id := some db.nextTaskId } := rfl
      have ends : final (orInternal (enqueue true task)) db = db.putTask task := rfl
      rw [failsIn_bind_of_ok answered, ends]
      constructor
      · intro fails
        refine ⟨fun impossible => ?_, fun _ => fails⟩
        cases impossible
      · exact fun parts => parts.2 rfl

end Statements

/-! ## What counts as a change -/

section Changes

variable {db : Database}

/-- The row of a file would not change. -/
def Settled (db : Database) (file : DriveFile) (change : DriveFile → DriveFile) : Prop :=
  ∀ row, db.file file.id file.accountId = some row → change row = row

theorem sameRecords_updateFileAt_iff {file : DriveFile} {change : DriveFile → DriveFile}
    {keeps : ∀ row, (change row).key = row.key} :
    SameRecords db (db.updateFileAt file.id file.accountId change keeps) ↔ Settled db file change := by
  constructor
  · exact fun same => (KeyedTable.updateAt_eq_self_iff _ _ _ keeps).mp same.files
  · exact fun settled => ⟨(KeyedTable.updateAt_eq_self_iff _ _ _ keeps).mpr settled, rfl⟩

/-- The queue has grown. -/
theorem not_sameRecords {later : Database} (more : db.syncQueue.rows.length < later.syncQueue.rows.length) :
    ¬ SameRecords db later := by
  intro same
  rw [same.queue] at more
  exact Nat.lt_irrefl _ more

theorem length_putTask (db : Database) (task : SyncTask) :
    (db.putTask task).syncQueue.rows.length = db.syncQueue.rows.length + 1 :=
  List.length_append

end Changes

/-! ## Items of the file provider -/

section Items

variable {db : Database} {answers : RpcAnswers}

/-- The number of the item to create, before it is uploaded. -/
def tempId (answers : RpcAnswers) : String :=
  "local-" ++ toString answers.nanos

/-- The row of the item to create gets inserted. -/
def InsertsItem (answers : RpcAnswers) (name : Option String) (db : Database) : Prop :=
  ∃ accountId, createdItemFor answers name db = some accountId ∧
    db.file (tempId answers) accountId = none ∧ db.hasAccount accountId = true

/-- Inserting a row and going on. -/
theorem failsIn_bind_insertItem {condition : Database → Prop} (holds : condition db) {β : Type} {runs : Bool}
    {file : DriveFile} {second : Nat → Routine RpcError Database β} :
    FailsIn condition (orInternal (insertFile runs file) >>= second) db ↔
      (runs = true → db.file file.id file.accountId = none → db.hasAccount file.accountId = true →
        FailsIn condition (second db.driveFiles.nextRowid) (db.putFile file)) := by
  have insertion : outcome (orInternal (insertFile runs file)) db =
      if runs && (db.file file.id file.accountId).isNone && db.hasAccount file.accountId then
        .ok db.driveFiles.nextRowid
      else .error (.internalError databaseError) := by
    rw [orInternal, outcome_mapError, Tree.outcome_insertFile]
    split <;> rfl
  have ends : final (orInternal (insertFile runs file)) db =
      if runs && (db.file file.id file.accountId).isNone && db.hasAccount file.accountId then
        db.putFile file
      else db := by
    rw [orInternal, final_mapError, final_insertFile]
  by_cases inserts : (runs && (db.file file.id file.accountId).isNone && db.hasAccount file.accountId) = true
  · rw [if_pos inserts] at insertion ends
    rw [failsIn_bind_of_ok insertion, ends]
    rw [Bool.and_eq_true, Bool.and_eq_true, Option.isNone_iff_eq_none] at inserts
    exact ⟨fun fails _ _ _ => fails, fun fails => fails inserts.1.1 inserts.1.2 inserts.2⟩
  · rw [if_neg inserts] at insertion ends
    refine iff_of_true (fun failure _ => ?_) fun executed absent owner => absurd ?_ inserts
    · rw [final_bind_of_error insertion, ends]
      exact holds
    · rw [executed, absent, owner]
      rfl

theorem not_sameRecords_putFile {file : DriveFile} (absent : db.file file.id file.accountId = none) :
    ¬ SameRecords db (db.putFile file) := by
  intro same
  have rows := congrArg (fun files => files.rows.length) same.files
  rw [Tree.rows_putFile_of_absent absent, List.length_append] at rows
  exact absurd rows (Nat.succ_ne_self _)

/-- An item is stored for the account that was used last. -/
theorem failsIn_bind_firstAccount {condition : Database → Prop} (holds : condition db) {β : Type} {runs : Bool}
    {error : RpcError} {second : String → Routine RpcError Database β} :
    FailsIn condition (orInternal (getFirstAccountId runs) >>= fun found => orRpcError error found >>= second) db ↔
      ∀ accountId, (outcome (getFirstAccountId runs) db).toOption.join = some accountId →
        FailsIn condition (second accountId) db := by
  cases runs with
  | false =>
      refine iff_of_true (failsIn_of_reads holds rfl) fun accountId impossible => ?_
      cases impossible
  | true =>
      have answered : outcome (orInternal (getFirstAccountId true)) db =
          .ok ((db.accounts.records.foldl usedLast none).map Account.id) := rfl
      have ends : final (orInternal (getFirstAccountId true)) db = db := rfl
      rw [failsIn_bind_of_ok answered, ends]
      exact failsIn_bind_orRpcError holds

/-- A file comes with content, or needs no task; a folder needs none. -/
theorem failsIn_insertItem_iff {accountId : String} {folder : Bool} {localPath : Option String}
    {folderRow fileRow : DriveFile} (sameKey : fileRow.key = folderRow.key) :
    FailsIn (SameRecords db)
        (if folder then orInternal (insertFile (answers.runs 1) folderRow) >>= fun _ => pure (tempId answers)
        else orInternal (insertFile (answers.runs 1) fileRow) >>= fun _ =>
          localPath.elim (pure (tempId answers)) fun path =>
            orInternal (enqueueUploadTask (answers.runs 2) answers.now accountId (tempId answers) path) >>= fun _ =>
              pure (tempId answers)) db ↔
      (answers.runs 1 = true → db.file folderRow.id folderRow.accountId = none →
        db.hasAccount folderRow.accountId = true → folder = false → localPath.isSome = true →
          answers.runs 2 = true) := by
  have holds := SameRecords.refl db
  rcases Prod.mk.inj sameKey with ⟨sameId, sameAccount⟩
  cases folder with
  | true =>
      refine iff_of_true ((failsIn_bind_insertItem holds).mpr fun _ _ _ => failsIn_pure _) ?_
      intro _ _ _ impossible
      cases impossible
  | false =>
      rw [if_neg Bool.false_ne_true, failsIn_bind_insertItem holds, sameId, sameAccount]
      refine imp_congr_right fun _ => imp_congr_right fun absent => imp_congr_right fun _ => ?_
      cases localPath with
      | none =>
          refine iff_of_true (failsIn_pure _) fun _ impossible => ?_
          cases impossible
      | some path =>
          rw [← sameId, ← sameAccount] at absent
          rw [Option.elim_some]
          constructor
          · intro fails _ _
            by_contra stopped
            have late := (failsIn_bind_enqueue.mp fails).1 (Bool.eq_false_iff.mpr stopped)
            exact not_sameRecords_putFile absent late
          · intro early
            refine failsIn_bind_enqueue.mpr ⟨fun stopped => ?_, fun _ => failsIn_pure _⟩
            rw [early rfl rfl] at stopped
            cases stopped

theorem failsIn_handleFpCreateItem_iff (name : Option String) (isFolder : Option Bool) (localPath : Option String) :
    FailsIn (SameRecords db) (handleFpCreateItem answers name isFolder localPath) db ↔
      (InsertsItem answers name db → isFolder.getD false = false → localPath.isSome = true →
        answers.runs 2 = true) := by
  have holds := SameRecords.refl db
  rw [handleFpCreateItem, requiredParam, failsIn_bind_orRpcError holds]
  have parts (newName accountId : String) := @failsIn_insertItem_iff db answers accountId
    (isFolder.getD false) localPath
    (localFile answers.now (tempId answers) accountId newName folderMimeType none none .cloudOnly)
    (localFile answers.now (tempId answers) accountId newName (Ipc.guessMime newName) none localPath .modified) rfl
  constructor
  · rintro fails ⟨accountId, created, absent, owner⟩
    rw [createdItemFor] at created
    split at created
    · next both =>
        rw [Bool.and_eq_true] at both
        rcases Option.isSome_iff_exists.mp both.2 with ⟨newName, given⟩
        have stored := (failsIn_bind_firstAccount holds).mp (fails newName given) accountId created
        refine (parts newName accountId).mp ?_ both.1 absent owner
        cases localPath <;> exact stored
    · cases created
  · intro early newName given
    refine (failsIn_bind_firstAccount holds).mpr fun accountId found => ?_
    have stored := (parts newName accountId).mpr fun executed absent owner =>
      early ⟨accountId, ?_, absent, owner⟩
    · cases localPath <;> exact stored
    · rw [createdItemFor, executed, given, found]
      rfl

theorem key_rewritten (now : Int) (path : String) (row : DriveFile) : (rewritten now path row).key = row.key := rfl

/-- New content is stored and announced, if there is any. -/
theorem failsIn_modifyContent_iff {condition : Database → Prop} {file : DriveFile} {localPath : Option String} :
    FailsIn condition (modifyContent answers file localPath) db ↔
      ∀ path, localPath = some path → (answers.runs 4 = false → condition db) ∧
        (answers.runs 4 = true → answers.runs 5 = false →
          condition (db.updateFileAt file.id file.accountId (rewritten answers.now path)
            (key_rewritten answers.now path))) := by
  cases localPath with
  | none =>
      refine iff_of_true (failsIn_pure _) fun path impossible => ?_
      cases impossible
  | some path =>
      constructor
      · rintro fails other ⟨⟩
        rcases failsIn_bind_updateRow.mp fails with ⟨first, second⟩
        exact ⟨first, fun executed => (failsIn_bind_enqueue.mp (second executed)).1⟩
      · intro parts
        rcases parts path rfl with ⟨first, second⟩
        refine failsIn_bind_updateRow.mpr ⟨first, fun executed => ?_⟩
        exact failsIn_bind_enqueue.mpr ⟨second executed, fun _ => failsIn_pure _⟩

/-- Whether the changes of a file fail before anything counts: the new name before its change
or on a row that has it already, the new content on a row that has it already and, once a name
was announced, not at all. -/
def ModifiesEarly (answers : RpcAnswers) (newName localPath : Option String) (db : Database) (file : DriveFile) :
    Prop :=
  (∀ name, newName = some name → answers.runs 2 = true →
    (answers.runs 3 = false → Settled db file (renamed answers.now name)) ∧
    (answers.runs 3 = true → localPath.isSome = true → answers.runs 4 = true ∧ answers.runs 5 = true)) ∧
  (newName = none → ∀ path, localPath = some path → answers.runs 4 = true → answers.runs 5 = false →
    Settled db file (rewritten answers.now path))

theorem failsIn_modify_iff {file : DriveFile} {newName localPath : Option String} :
    FailsIn (SameRecords db)
        (modifyName answers file newName >>= fun _ => modifyContent answers file localPath) db ↔
      ModifiesEarly answers newName localPath db file := by
  have holds := SameRecords.refl db
  cases newName with
  | none =>
      have named : outcome (modifyName answers file none) db = .ok () := rfl
      rw [failsIn_bind_of_ok named]
      constructor
      · intro fails
        refine ⟨fun name impossible => ?_, fun _ path carried executed stopped => ?_⟩
        · cases impossible
        · exact sameRecords_updateFileAt_iff.mp ((failsIn_modifyContent_iff.mp fails path carried).2 executed stopped)
      · intro early
        refine failsIn_modifyContent_iff.mpr fun path carried => ⟨fun _ => holds, fun executed stopped => ?_⟩
        exact sameRecords_updateFileAt_iff.mpr (early.2 rfl path carried executed stopped)
  | some name =>
      have grown (task : SyncTask) : ¬ SameRecords db
          ((db.updateFileAt file.id file.accountId (renamed answers.now name) fun _ => rfl).putTask task) :=
        not_sameRecords ((length_putTask _ task).symm ▸ Nat.lt_succ_self _)
      simp only [modifyName, bind_assoc, pure_bind]
      constructor
      · intro fails
        have second := (failsIn_bind_updateRow.mp fails).2
        refine ⟨?_, fun impossible => ?_⟩
        · rintro other ⟨⟩ executed
          rcases failsIn_bind_enqueue.mp (second executed) with ⟨announced, content⟩
          refine ⟨fun stopped => sameRecords_updateFileAt_iff.mp (announced stopped), fun enqueued carried => ?_⟩
          rcases Option.isSome_iff_exists.mp carried with ⟨path, given⟩
          rcases failsIn_modifyContent_iff.mp (content enqueued) path given with ⟨changed, stored⟩
          have changes : answers.runs 4 = true := by
            by_contra stopped
            exact grown _ (changed (Bool.eq_false_iff.mpr stopped))
          refine ⟨changes, ?_⟩
          by_contra stopped
          refine absurd (stored changes (Bool.eq_false_iff.mpr stopped)) (not_sameRecords ?_)
          exact (length_putTask _ _).symm ▸ Nat.lt_succ_self _
        · cases impossible
      · intro early
        refine failsIn_bind_updateRow.mpr ⟨fun _ => holds, fun executed => ?_⟩
        rcases early.1 name rfl executed with ⟨announced, content⟩
        refine failsIn_bind_enqueue.mpr ⟨fun stopped => ?_, fun enqueued => ?_⟩
        · exact sameRecords_updateFileAt_iff.mpr (announced stopped)
        · refine failsIn_modifyContent_iff.mpr fun path given => ?_
          rcases content enqueued (Option.isSome_of_mem given) with ⟨changes, stores⟩
          refine ⟨fun stopped => ?_, fun _ stopped => ?_⟩
          · rw [changes] at stopped
            cases stopped
          · rw [stores] at stopped
            cases stopped

theorem failsIn_handleFpModifyItem_iff (ctx : RouterContext) (path newName localPath : Option String) :
    FailsIn (SameRecords db) (handleFpModifyItem ctx answers path newName localPath) db ↔
      ∀ file, requestedFile ctx answers path db = some file → ModifiesEarly answers newName localPath db file := by
  rw [handleFpModifyItem, failsIn_bind_resolveFileForPath (SameRecords.refl db)]
  exact forall_congr' fun file => imp_congr_right fun _ => failsIn_modify_iff

theorem failsIn_handleFpDeleteItem_iff (ctx : RouterContext) (path : Option String) :
    FailsIn (SameRecords db) (handleFpDeleteItem ctx answers path) db ↔
      ∀ file, requestedFile ctx answers path db = some file → answers.runs 2 = true → answers.runs 3 = false →
        Settled db file (discarded answers.now) := by
  have holds := SameRecords.refl db
  rw [handleFpDeleteItem, failsIn_bind_resolveFileForPath holds]
  refine forall_congr' fun file => imp_congr_right fun _ => ?_
  constructor
  · intro fails executed stopped
    have second := (failsIn_bind_updateRow.mp fails).2 executed
    exact sameRecords_updateFileAt_iff.mp ((failsIn_bind_enqueue.mp second).1 stopped)
  · intro early
    refine failsIn_bind_updateRow.mpr ⟨fun _ => holds, fun executed => ?_⟩
    refine failsIn_bind_enqueue.mpr ⟨fun stopped => ?_, fun _ => failsIn_pure _⟩
    exact sameRecords_updateFileAt_iff.mpr (early executed stopped)

end Items

/-! ## Preferences -/

section Preferences

/-- Only a rename that succeeds replaces the file. -/
theorem failsIn_renameTmp {files : ConfigFiles} {answers : SaveAnswers} (content : Option String)
    (same : files.file = content) : FailsIn (fun after => after.file = content) (renameTmp answers) files := by
  intro failure failed
  rw [outcome, renameTmp] at failed
  rw [final, renameTmp]
  cases broken : answers.renames with
  | some _ => exact same
  | none =>
      rw [broken] at failed
      cases sibling : files.tmp with
      | none => exact same
      | some _ =>
          rw [sibling] at failed
          cases failed

theorem file_final_writeTmp (answers : SaveAnswers) (content : String) (files : ConfigFiles) :
    (final (writeTmp answers content) files).file = files.file := by
  rw [final, writeTmp]
  cases answers.writes <;> rfl

/-- A save of the preferences that fails leaves the file as it was. -/
theorem failsIn_saveTo [Toml] (answers : SaveAnswers) (prefs : Preferences) (files : ConfigFiles) :
    FailsIn (fun after => after.file = files.file) (saveTo answers prefs) files := by
  have kept (content : String) := file_final_writeTmp answers content files
  have goes := @failsIn_bind_received String String ConfigFiles String Unit
    (fun after => after.file = files.file) files rfl
  refine (goes _).mpr fun content _ => failsIn_bind.mpr ⟨fun failure _ => kept content, fun _ _ => ?_⟩
  exact failsIn_renameTmp files.file (kept content)

theorem failsIn_bind_orFailure {σ β : Type} {condition : σ → Prop} {state : σ} (holds : condition state)
    {failure : Option String} {second : Unit → Routine String σ β} (goesOn : FailsIn condition (second ()) state) :
    FailsIn condition (orFailure failure >>= second) state := by
  cases failure with
  | some message => exact failsIn_of_reads holds rfl
  | none => exact (failsIn_bind_of_ok rfl).mpr goesOn

theorem failsIn_save [Toml] (answers : PrefsAnswers) (prefs : Preferences) (backend : Backend) :
    FailsIn (SameBackend backend) (save answers prefs) backend := by
  have holds := SameBackend.refl backend
  refine failsIn_bind_orFailure holds (failsIn_bind_orFailure holds (failsIn_zoom.mpr fun failure failed => ?_))
  exact ⟨SameRecords.refl _, rfl, failsIn_saveTo answers.save prefs backend.files failure failed⟩

/-- Preferences that cannot be saved are not taken into memory. -/
theorem failsIn_handlePrefsSave [Toml] (answers : PrefsAnswers) (params : Except String Preferences)
    (backend : Backend) :
    FailsIn (SameBackend backend) (handlePrefsSave answers params) backend := by
  refine (failsIn_bind_received (SameBackend.refl backend) _).mpr fun newPrefs _ => failsIn_bind.mpr ⟨?_, fun _ _ => ?_⟩
  · exact (failsIn_mapError _).mpr (failsIn_save answers newPrefs backend)
  · exact failsIn_of_ok rfl

/-- A command that cannot be sent is the only failure of a switch of the mode. -/
theorem failsIn_bind_sendCommand {condition : Backend → Prop} {β : Type} {answers : PrefsAnswers}
    {command : SyncCommand} {backend : Backend} {second : Unit → Routine RpcError Backend β} :
    FailsIn condition (sendCommand answers command >>= second) backend ↔
      (answers.engineReceives = false → condition backend) ∧
        (answers.engineReceives = true →
          FailsIn condition (second ()) { backend with commands := backend.commands ++ [command] }) := by
  by_cases receives : answers.engineReceives = true
  · have answered : outcome (sendCommand answers command) backend = .ok () := by
      simp only [outcome, sendCommand, if_pos receives, answer]
    have ends : final (sendCommand answers command) backend =
        { backend with commands := backend.commands ++ [command] } := by
      simp only [final, sendCommand, if_pos receives, endState]
    rw [failsIn_bind_of_ok answered, ends]
    constructor
    · refine fun fails => ⟨fun impossible => ?_, fun _ => fails⟩
      rw [receives] at impossible
      cases impossible
    · exact fun parts => parts.2 receives
  · have answered : outcome (sendCommand answers command) backend = .error (.internalError "channel closed") := by
      simp only [outcome, sendCommand, if_neg receives, answer]
    have ends : final (sendCommand answers command) backend = backend := by
      simp only [final, sendCommand, if_neg receives, endState]
    rw [FailsIn, outcome_bind_of_error answered, final_bind_of_error answered, ends]
    constructor
    · exact fun fails => ⟨fun _ => fails _ rfl, fun impossible => absurd impossible receives⟩
    · exact fun parts _ _ => parts.1 (Bool.eq_false_iff.mpr receives)

/-- A mode that the engine does not hear of is in memory already. -/
theorem failsIn_handleSetSyncMode_iff [Toml] (answers : PrefsAnswers) (mode : Except String SyncMode)
    (backend : Backend) :
    FailsIn (SameBackend backend) (handleSetSyncMode answers mode) backend ↔
      ∀ newMode, mode = .ok newMode → answers.engineReceives = false → backend.config.vfs.syncMode = newMode := by
  rw [handleSetSyncMode, failsIn_bind_received (SameBackend.refl backend)]
  refine forall_congr' fun newMode => imp_congr_right fun _ => ?_
  have stored : outcome (setConfig (Preferences.withMode newMode) : Routine RpcError Backend Unit) backend =
      .ok () := rfl
  rw [failsIn_bind_of_ok stored, failsIn_bind_sendCommand]
  constructor
  · intro parts lost
    have same := (parts.1 lost).config
    exact (congrArg (fun prefs => prefs.vfs.syncMode) same).symm
  · intro known
    refine ⟨fun lost => ⟨SameRecords.refl _, ?_, rfl⟩, fun _ => ?_⟩
    · rw [← known lost]
      rfl
    · exact failsIn_of_ok rfl

end Preferences

/-! ## All requests -/

/-- No statement of the request fails after something that counts was changed. -/
def Request.FailsEarly (backend : Backend) : Request → Prop
  | .createItem answers name isFolder localPath =>
      InsertsItem answers name backend.db → isFolder.getD false = false → localPath.isSome = true →
        answers.runs 2 = true
  | .modifyItem ctx answers path newName localPath =>
      ∀ file, requestedFile ctx answers path backend.db = some file →
        ModifiesEarly answers newName localPath backend.db file
  | .deleteItem ctx answers path =>
      ∀ file, requestedFile ctx answers path backend.db = some file → answers.runs 2 = true →
        answers.runs 3 = false → Settled backend.db file (discarded answers.now)
  | .setSyncMode answers mode =>
      ∀ newMode, mode = .ok newMode → answers.engineReceives = false → backend.config.vfs.syncMode = newMode
  | .prefsSave _ _ => True

/-- A request that answers an error has changed nothing exactly when it fails early. -/
theorem request_fails_cleanly_iff [Toml] (request : Request) (backend : Backend) :
    request.FailsCleanly backend ↔ request.FailsEarly backend := by
  cases request with
  | createItem answers name isFolder localPath =>
      have parts := @failsIn_handleFpCreateItem_iff backend.db answers name isFolder localPath
      exact (failsIn_bind_unit.trans failsIn_onDatabase).trans parts
  | modifyItem ctx answers path newName localPath =>
      exact failsIn_onDatabase.trans (failsIn_handleFpModifyItem_iff ctx path newName localPath)
  | deleteItem ctx answers path => exact failsIn_onDatabase.trans (failsIn_handleFpDeleteItem_iff ctx path)
  | setSyncMode answers mode => exact failsIn_bind_unit.trans (failsIn_handleSetSyncMode_iff answers mode backend)
  | prefsSave answers params => exact iff_of_true (failsIn_handlePrefsSave answers params backend) trivial

/-- The engine has stopped. -/
def engineStopped : PrefsAnswers :=
  { PrefsAnswers.allRun with engineReceives := false }

/-- A mode that could not be switched is in memory. -/
theorem refused_mode_is_in_memory :
    ¬ @Request.FailsCleanly ⟨fun prefs => .ok (plainToml prefs)⟩ (.setSyncMode engineStopped (.ok .mirror))
      ⟨Database.fresh, Preferences.default, ⟨none, none⟩, []⟩ := by
  intro clean
  have same := (clean (.internalError "channel closed") (by decide)).config
  exact absurd same (by decide)

end Atomic
end GDriver
