import GDriver.Library.Failure
import GDriver.Tree.Calls

namespace GDriver
namespace Atomic

open Library Routine Db Sync Vfs Local

/-!
# Callbacks that fail

A callback is a row of statements and calls.  When a late one fails, what the earlier ones did
stays, and the caller is told that nothing was done.  For each callback it is said which calls
are too late to fail.
-/

/-- The rows, the tasks and the contents of all local files are the same. -/
structure Unchanged (before after : World) : Prop where
  files : after.db.driveFiles = before.db.driveFiles
  queue : after.db.syncQueue = before.db.syncQueue
  bytes : ∀ path, (after.disk path).map DiskFile.bytes = (before.disk path).map DiskFile.bytes

theorem Unchanged.refl (world : World) : Unchanged world world :=
  ⟨rfl, rfl, fun _ => rfl⟩

/-- A callback with its reply: an error number, or none. -/
def reply (cacheDir : String) (answers : CallbackAnswers) : Callback → Routine Errno World Unit
  | .openFile ino => do
      let _ ← Vfs.openFile answers cacheDir ino
      pure ()
  | .read ino fh => Vfs.requestContent answers cacheDir ino fh
  | .create parent name => do
      let _ ← Vfs.create answers cacheDir parent name
      pure ()
  | .write ino fh offset data written => do
      let _ ← Vfs.write answers ino fh offset data written
      pure ()
  | .flush ino fh => Vfs.flush answers ino fh
  | .fsync ino fh => Vfs.fsync answers ino fh
  | .unlink parent name => Vfs.unlink answers parent name
  | .rename parent name newParent newName => Vfs.rename answers parent name newParent newName
  | .mkdir parent name => do
      let _ ← Vfs.mkdir answers parent name
      pure ()
  | .rmdir parent name => Vfs.rmdir answers parent name
  | .release fh => Vfs.release fh

/-- When the reply is an error, nothing has changed. -/
def FailsCleanly (cacheDir : String) (answers : CallbackAnswers) (callback : Callback) (world : World) : Prop :=
  FailsIn (Unchanged world) (reply cacheDir answers callback) world

/-! ## Parts that only read -/

section Parts

variable {α β : Type} {world : World} {condition : World → Prop}

/-- A routine that is read for its answer does not matter after it. -/
theorem failsIn_bind_pure {routine : Routine Errno World α} :
    FailsIn condition (routine >>= fun _ => (pure () : Routine Errno World Unit)) world ↔
      FailsIn condition routine world := by
  rw [failsIn_bind]
  exact and_iff_left fun value _ => failsIn_pure ()

theorem failsIn_bind_orErrno (holds : condition world) {errno : Errno} {found : Option α}
    {second : α → Routine Errno World β} :
    FailsIn condition (orErrno errno found >>= second) world ↔
      ∀ value, found = some value → FailsIn condition (second value) world := by
  cases found with
  | none =>
      refine iff_of_true (failsIn_of_reads holds rfl) fun value impossible => ?_
      cases impossible
  | some value =>
      have answered : outcome (orErrno errno (some value)) world = .ok value := rfl
      rw [failsIn_bind_of_ok answered]
      constructor
      · rintro fails other ⟨⟩
        exact fails
      · exact fun fails => fails value rfl

theorem failsIn_bind_select (holds : condition world) {runs : Bool} {read : Database → α}
    {second : α → Routine Errno World β} :
    FailsIn condition (orEio (select runs read) >>= second) world ↔
      (runs = true → FailsIn condition (second (read world.db)) world) := by
  cases runs with
  | false =>
      refine iff_of_true (failsIn_of_reads holds rfl) fun impossible => ?_
      cases impossible
  | true =>
      have answered : outcome (orEio (select true read)) world = .ok (read world.db) := rfl
      rw [failsIn_bind_of_ok answered]
      exact ⟨fun fails _ => fails, fun fails => fails rfl⟩

theorem failsIn_bind_refuseIf (holds : condition world) {refused : Bool} {errno : Errno}
    {second : Unit → Routine Errno World β} :
    FailsIn condition (refuseIf refused errno >>= second) world ↔
      (refused = false → FailsIn condition (second ()) world) := by
  cases refused with
  | true =>
      refine iff_of_true (failsIn_of_reads holds rfl) fun impossible => ?_
      cases impossible
  | false =>
      have answered : outcome (refuseIf false errno) world = .ok () := rfl
      rw [failsIn_bind_of_ok answered]
      exact ⟨fun fails _ => fails, fun fails => fails rfl⟩

/-- A call that may fail where it stands. -/
theorem failsIn_bind_callOrEio {failure : Option String} {second : Unit → Routine Errno World β} :
    FailsIn condition (callOrEio failure >>= second) world ↔
      (failure ≠ none → condition world) ∧ (failure = none → FailsIn condition (second ()) world) := by
  cases failure with
  | some message =>
      constructor
      · intro fails
        refine ⟨fun _ => fails Errno.eio rfl, fun impossible => ?_⟩
        cases impossible
      · rintro ⟨holds, _⟩
        exact failsIn_of_reads (holds (by simp)) rfl
  | none =>
      have answered : outcome (callOrEio none) world = .ok () := rfl
      rw [failsIn_bind_of_ok answered]
      exact ⟨fun fails => ⟨fun impossible => absurd rfl impossible, fun _ => fails⟩, fun fails => fails.2 rfl⟩

/-- A statement on the database that fails changes nothing. -/
theorem failsIn_orEio_statement {runs : Bool} {effect : Database → α × Database} (holds : condition world) :
    FailsIn condition (orEio (query runs effect)) world := by
  refine (failsIn_mapError _).mpr (failsIn_zoom.mpr (failsIn_statement.mpr (Or.inr ?_)))
  exact holds

theorem failsIn_bind_insert (holds : condition world) {runs : Bool} {file : DriveFile}
    {second : Nat → Routine Errno World β} :
    FailsIn condition (orEio (insertFile runs file) >>= second) world ↔
      ((runs && (world.db.file file.id file.accountId).isNone && world.db.hasAccount file.accountId) = true →
        FailsIn condition (second world.db.driveFiles.nextRowid) (world.withDb (world.db.putFile file))) := by
  have insertion : outcome (orEio (insertFile runs file)) world =
      if runs && (world.db.file file.id file.accountId).isNone && world.db.hasAccount file.accountId then
        .ok world.db.driveFiles.nextRowid
      else .error .eio := by
    rw [orEio, outcome_mapError, outcome_onDb, Tree.outcome_insertFile]
    split <;> rfl
  have ends : final (orEio (insertFile runs file)) world = world.withDb
      (if runs && (world.db.file file.id file.accountId).isNone && world.db.hasAccount file.accountId then
        world.db.putFile file
      else world.db) := by
    rw [orEio, final_mapError, final_onDb, final_insertFile]
  by_cases inserts : (runs && (world.db.file file.id file.accountId).isNone && world.db.hasAccount file.accountId) =
      true
  · rw [if_pos inserts] at insertion ends
    rw [failsIn_bind_of_ok insertion, ends]
    exact ⟨fun fails _ => fails, fun fails => fails inserts⟩
  · rw [if_neg inserts] at insertion ends
    refine iff_of_true (fun failure _ => ?_) fun impossible => absurd impossible inserts
    rw [final_bind_of_error insertion, ends]
    exact holds

/-- An insert that fails changes nothing. -/
theorem failsIn_insert (holds : condition world) {runs : Bool} {file : DriveFile} :
    FailsIn condition (orEio (insertFile runs file)) world :=
  failsIn_bind_pure.mp ((failsIn_bind_insert holds).mpr fun _ => failsIn_pure ())

end Parts

/-! ## What counts as a change -/

section Changes

variable {world : World}

theorem not_unchanged_putFile {file : DriveFile} (absent : world.db.file file.id file.accountId = none) :
    ¬ Unchanged world (world.withDb (world.db.putFile file)) := by
  intro same
  have rows := congrArg (fun files => files.rows.length) same.files
  rw [World.withDb_db, Tree.rows_putFile_of_absent absent, List.length_append] at rows
  exact absurd rows (Nat.succ_ne_self _)

theorem not_unchanged_putTask {later : World} {task : SyncTask}
    (queue : later.db.syncQueue = (world.db.putTask task).syncQueue) : ¬ Unchanged world later := by
  intro same
  have rows := congrArg (fun queue => queue.rows.length) (queue.symm.trans same.queue)
  have added : (world.db.putTask task).syncQueue.rows.length = world.db.syncQueue.rows.length + 1 :=
    List.length_append
  rw [added] at rows
  exact absurd rows (Nat.succ_ne_self _)

/-- Putting a file on disk changes the contents unless they were the same. -/
theorem unchanged_putOnDisk_iff {path : String} {file : Option DiskFile} :
    Unchanged world (world.putOnDisk path file) ↔
      file.map DiskFile.bytes = (world.disk path).map DiskFile.bytes := by
  have there (other : String) : (world.putOnDisk path file).disk other =
      if placeOf other = placeOf path then file else world.disk other := by
    rw [World.disk_putOnDisk]
    rfl
  constructor
  · intro same
    have here := same.bytes path
    rw [there, if_pos rfl] at here
    exact here
  · intro same
    refine ⟨rfl, rfl, fun other => ?_⟩
    rw [there]
    split
    · next here =>
        rw [world.disk_congr here]
        exact same
    · rfl

end Changes

/-! ## Callbacks that change nothing before they fail -/

section Clean

variable {world : World} {answers : CallbackAnswers}

theorem failsCleanly_openFile {cacheDir : String} (ino : Nat) :
    FailsCleanly cacheDir answers (.openFile ino) world := by
  have holds := Unchanged.refl world
  refine failsIn_bind_pure.mpr ?_
  refine (failsIn_bind_refuseIf holds).mpr fun _ => (failsIn_bind_select holds).mpr fun _ => ?_
  refine (failsIn_bind_orErrno holds).mpr fun details _ => (failsIn_bind_refuseIf holds).mpr fun _ => ?_
  refine (failsIn_bind_refuseIf holds).mpr fun _ => (failsIn_bind_of_ok (outcome_inspect _ _)).mpr ?_
  exact (failsIn_bind_of_ok (outcome_perform _ _)).mpr (failsIn_pure _)

theorem failsIn_validHandle {β : Type} {condition : World → Prop} (holds : condition world) {ino fh : Nat}
    {second : OpenHandle → Routine Errno World β} :
    FailsIn condition (validHandle ino fh >>= second) world ↔
      ∀ handle, HasHandle ino fh handle world → FailsIn condition (second handle) world := by
  rw [failsIn_bind_of_reads holds final_validHandle]
  exact forall_congr' fun handle => imp_congr_left outcome_validHandle_eq_ok_iff

theorem failsCleanly_read {cacheDir : String} (ino fh : Nat) :
    FailsCleanly cacheDir answers (.read ino fh) world := by
  have holds := Unchanged.refl world
  refine (failsIn_validHandle holds).mpr fun handle _ => (failsIn_bind_select holds).mpr fun _ => ?_
  refine (failsIn_bind_orErrno holds).mpr fun details _ => (failsIn_bind_of_ok (outcome_inspect _ _)).mpr ?_
  rw [final_inspect]
  split
  · refine failsIn_bind_callOrEio.mpr ⟨fun _ => holds, fun _ => failsIn_bind_pure.mpr ?_⟩
    exact failsIn_orEio_statement holds
  · exact failsIn_pure _

theorem failsIn_uploadIfModified (ino fh : Nat) :
    FailsIn (Unchanged world) (uploadIfModified answers ino fh) world := by
  have holds := Unchanged.refl world
  refine (failsIn_validHandle holds).mpr fun handle _ => ?_
  have reads : final (mapError (fun _ => Errno.ebadf) (onDb (getFileDetailsByInode (answers.runs 0) ino))) world =
      world := by
    rw [final_mapError, final_onDb, getFileDetailsByInode, final_select]
    rfl
  refine (failsIn_bind_of_reads holds reads).mpr fun found _ => (failsIn_bind_orErrno holds).mpr fun details _ => ?_
  split
  · exact failsIn_bind_pure.mpr (failsIn_orEio_statement holds)
  · exact failsIn_pure _

theorem failsIn_bind_refuseIfTaken {condition : World → Prop} (holds : condition world) {runs : Bool}
    {parent : Nat} {name : String} {β : Type} {second : Unit → Routine Errno World β}
    (fails : FailsIn condition (second ()) world) :
    FailsIn condition (refuseIfTaken runs parent name >>= second) world :=
  (failsIn_bind_of_reads holds (@keeps_refuseIfTaken Eq inferInstance runs parent name world).symm).mpr
    fun _ _ => fails

theorem failsIn_bind_newEntryOwner {condition : World → Prop} (holds : condition world)
    {parentRuns accountRuns : Bool} {parent : Nat} {β : Type}
    {second : String × Option String → Routine Errno World β} :
    FailsIn condition (newEntryOwner parentRuns accountRuns parent >>= second) world ↔
      ∀ owner, entryOwner parentRuns accountRuns parent world = some owner →
        FailsIn condition (second owner) world := by
  rw [failsIn_bind_of_reads holds (@keeps_newEntryOwner Eq inferInstance _ _ _ world).symm]
  refine forall_congr' fun owner => imp_congr_left ?_
  rw [entryOwner]
  cases outcome (newEntryOwner parentRuns accountRuns parent) world with
  | error failure =>
      refine iff_of_false (fun impossible => ?_) fun impossible => ?_
      · cases impossible
      · cases impossible
  | ok value =>
      constructor
      · rintro ⟨⟩
        rfl
      · rintro ⟨⟩
        rfl

theorem failsCleanly_mkdir {cacheDir : String} (parent : Nat) (name : Option String) :
    FailsCleanly cacheDir answers (.mkdir parent name) world := by
  have holds := Unchanged.refl world
  refine failsIn_bind_pure.mpr ((failsIn_bind_orErrno holds).mpr fun name _ => ?_)
  refine failsIn_bind_refuseIfTaken holds ((failsIn_bind_newEntryOwner holds).mpr fun owner _ => ?_)
  exact failsIn_insert holds

/-- Once the row is renamed, a rename does not fail. -/
theorem failsCleanly_rename {cacheDir : String} (parent : Nat) (name : Option String) (newParent : Nat)
    (newName : Option String) : FailsCleanly cacheDir answers (.rename parent name newParent newName) world := by
  have holds := Unchanged.refl world
  refine (failsIn_bind_orErrno holds).mpr fun name _ => (failsIn_bind_orErrno holds).mpr fun newName _ => ?_
  refine (failsIn_bind_select holds).mpr fun _ => (failsIn_bind_orErrno holds).mpr fun row _ => ?_
  refine failsIn_bind_refuseIfTaken holds ?_
  refine (failsIn_bind_of_reads holds (@keeps_newParentOf Eq inferInstance _ _ world).symm).mpr fun directory _ => ?_
  refine failsIn_bind.mpr ⟨failsIn_orEio_statement holds, fun _ _ => ?_⟩
  refine failsIn_of_ok (outcome_announce fun details world => ?_)
  rw [renameCacheFile]
  cases details.localPath with
  | none => rfl
  | some path =>
      dsimp only
      cases parentPath path with
      | none => rfl
      | some directory => rfl

end Clean

/-! ## Callbacks that fail late -/

section Late

variable {cacheDir : String} {answers : CallbackAnswers} {world : World}

/-- The row that a callback creates, when it gets as far as that. -/
def Creates (cacheDir : String) (answers : CallbackAnswers) (parent : Nat) (name : Option String)
    (world : World) (file : DriveFile) : Prop :=
  ∃ newName owner, name = some newName ∧ createdFor answers parent name world = some owner ∧
    file = createdRow cacheDir answers owner newName ∧
    world.db.file file.id file.accountId = none ∧ world.db.hasAccount file.accountId = true

theorem failsCleanly_create_iff (parent : Nat) (name : Option String) :
    FailsCleanly cacheDir answers (.create parent name) world ↔
      ((∃ file, Creates cacheDir answers parent name world file) → answers.failures 1 = none) := by
  have holds := Unchanged.refl world
  have opens (ino : Nat) (path : String) (after : World) : FailsIn (Unchanged world)
      (callOrEio (answers.failures 1) >>= fun _ => perform (World.putOnDisk path (some ⟨[], answers.now⟩)) >>=
        fun _ => inspect World.nextFh >>= fun fh => perform (World.openFile ⟨ino, path⟩) >>= fun _ =>
          (pure fh : Routine Errno World Nat)) after ↔ (answers.failures 1 ≠ none → Unchanged world after) := by
    rw [failsIn_bind_callOrEio]
    refine and_iff_left fun _ => @failsIn_of_ok _ _ _ _ _ _ after.nextFh ?_
    rfl
  have stores (newName : String) (owner : String × Option String) : FailsIn (Unchanged world)
      (callOrEio (answers.failures 0) >>= fun _ =>
        orEio (insertFile (answers.runs 2) (createdRow cacheDir answers owner newName)) >>= fun ino =>
          callOrEio (answers.failures 1) >>= fun _ =>
            perform (World.putOnDisk (cachePath cacheDir owner.1 ("local-" ++ toString answers.nanos))
              (some ⟨[], answers.now⟩)) >>= fun _ => inspect World.nextFh >>= fun fh =>
                perform (World.openFile ⟨ino, cachePath cacheDir owner.1 ("local-" ++ toString answers.nanos)⟩) >>=
                  fun _ => (pure fh : Routine Errno World Nat)) world ↔
      (answers.failures 0 = none → answers.runs 2 = true →
        world.db.file (createdRow cacheDir answers owner newName).id owner.1 = none →
        world.db.hasAccount owner.1 = true → answers.failures 1 = none) := by
    rw [failsIn_bind_callOrEio, and_iff_right fun _ => holds]
    refine imp_congr_right fun _ => ?_
    rw [failsIn_bind_insert holds, opens]
    simp only [Bool.and_eq_true, Option.isNone_iff_eq_none, and_imp]
    refine imp_congr_right fun _ => imp_congr_right fun absent => imp_congr_right fun _ => ?_
    constructor
    · intro fails
      by_contra late
      exact not_unchanged_putFile absent (fails late)
    · exact fun early late => absurd early late
  rw [FailsCleanly, reply, failsIn_bind_pure, Vfs.create, failsIn_bind_orErrno holds]
  constructor
  · rintro fails ⟨file, newName, owner, named, created, same, absent, account⟩
    rw [createdFor] at created
    split at created
    · next calls =>
        rw [Bool.and_eq_true, Bool.and_eq_true, Option.isNone_iff_eq_none] at calls
        have goes := (failsIn_bind_newEntryOwner holds).mp (fails newName named) owner created
        rw [same] at absent account
        exact (stores newName owner).mp goes calls.1.2 calls.2 absent account
    · cases created
  · intro early newName named
    refine (failsIn_bind_newEntryOwner holds).mpr fun owner owned => ?_
    refine (stores newName owner).mpr fun calls runs absent account =>
      early ⟨_, newName, owner, named, ?_, rfl, absent, account⟩
    rw [createdFor, named, calls, runs, owned]
    rfl

/-- A write empties the file before it can fail. -/
theorem failsCleanly_write_iff (ino fh offset : Nat) (data : List UInt8) (written : Nat) :
    FailsCleanly cacheDir answers (.write ino fh offset data written) world ↔
      ∀ handle, HasHandle ino fh handle world → answers.failures 0 = none →
        (answers.failures 1 = none ∧ answers.failures 2 = none) ∨
          (world.disk handle.localPath).map DiskFile.bytes = some [] := by
  have holds := Unchanged.refl world
  rw [FailsCleanly, reply, failsIn_bind_pure, Vfs.write, failsIn_validHandle holds]
  refine forall_congr' fun handle => imp_congr_right fun _ => ?_
  rw [failsIn_bind_callOrEio, and_iff_right fun _ => holds]
  refine imp_congr_right fun _ => ?_
  rw [failsIn_bind_of_ok (outcome_perform _ _), final_perform, failsIn_bind_callOrEio, failsIn_bind_callOrEio,
    unchanged_putOnDisk_iff]
  have same : (some (⟨[], answers.now⟩ : DiskFile)).map DiskFile.bytes =
      (world.disk handle.localPath).map DiskFile.bytes ↔
      (world.disk handle.localPath).map DiskFile.bytes = some [] := eq_comm
  rw [same]
  constructor
  · rintro ⟨seek, rest⟩
    by_cases sought : answers.failures 1 = none
    · by_cases wrote : answers.failures 2 = none
      · exact Or.inl ⟨sought, wrote⟩
      · exact Or.inr ((rest sought).1 wrote)
    · exact Or.inr (seek sought)
  · intro early
    refine ⟨fun late => early.resolve_left fun both => late both.1, fun _ => ⟨fun late => ?_, fun _ => ?_⟩⟩
    · exact early.resolve_left fun both => late both.2
    · exact @failsIn_of_ok _ _ _ _ _ _ (data.take written).length rfl

/-- A removal that fails at the end has announced itself. -/
theorem failsIn_removal_iff {row : Row DriveFile} (member : row ∈ world.db.driveFiles.rows)
    (live : row.data.isTrashed = false) {operation : TaskOperation}
    {andThen : DriveFile → Routine Errno World Unit}
    (completes : ∀ details world, outcome (andThen details) world = .ok ())
    (spares : ∀ details world, (final (andThen details) world).db = world.db) :
    FailsIn (Unchanged world) (announce answers row.rowid operation andThen >>= fun _ =>
        orEio (softDeleteByInode (answers.runs 3) row.rowid)) world ↔
      (answers.runs 3 = false → answers.runs 1 = true →
        answers.runs 2 = false ∧ Unchanged world (final (andThen row.data) world)) := by
  rw [failsIn_bind_of_ok (outcome_announce completes)]
  have trashes : FailsIn (Unchanged world) (orEio (softDeleteByInode (answers.runs 3) row.rowid))
      (final (announce answers row.rowid operation andThen) world) ↔
      answers.runs 3 = true ∨ Unchanged world (final (announce answers row.rowid operation andThen) world) :=
    (failsIn_mapError _).trans (failsIn_zoom.trans failsIn_statement)
  rw [trashes, or_iff_not_imp_left, Bool.not_eq_true]
  refine imp_congr_right fun _ => ?_
  rw [final_announce]
  by_cases looks : answers.runs 1 = true
  · rw [if_pos looks, rowAtInode_of_mem member live, Option.map_some, Option.elim_some]
    have enqueued : final (Vfs.enqueueTask (answers.runs 2) answers.now row.data.accountId row.data.id operation
        row.data.localPath) world.db = if answers.runs 2 then
          world.db.putTask (pendingTask answers.now row.data.accountId
            (some row.data.id) operation row.data.localPath 1)
        else world.db := final_enqueue _ _ _
    rw [enqueued]
    by_cases enqueues : answers.runs 2 = true
    · rw [if_pos enqueues]
      let task := pendingTask answers.now row.data.accountId (some row.data.id) operation row.data.localPath 1
      refine iff_of_false (@not_unchanged_putTask world _ task ?_) fun spared => ?_
      · rw [spares]
        rfl
      · rw [enqueues] at spared
        cases (spared looks).1
    · rw [if_neg enqueues]
      exact ⟨fun same _ => ⟨Bool.eq_false_iff.mpr enqueues, same⟩, fun spared => (spared looks).2⟩
  · rw [if_neg looks]
    exact iff_of_true (Unchanged.refl world) fun impossible => absurd impossible looks

/-- The local copy of a file is still there, or there was none. -/
theorem unchanged_removeCacheFile_iff (failure : Option String) (details : DriveFile) :
    Unchanged world (final (removeCacheFile failure details) world) ↔
      ∀ path, details.localPath = some path → finds failure path world = false := by
  rw [removeCacheFile]
  cases details.localPath with
  | none =>
      refine iff_of_true (Unchanged.refl world) fun path impossible => ?_
      cases impossible
  | some path =>
      rw [Option.elim_some, final_attempt]
      by_cases there : finds failure path world = true
      · have known := there
        rw [finds, Bool.and_eq_true] at known
        rcases Option.isSome_iff_exists.mp known.2 with ⟨file, found⟩
        have removed : final (removeFile failure path) world = world.putOnDisk path none := by
          rw [Option.isNone_iff_eq_none.mp known.1]
          simp only [final, removeFile, onFile_of_found found, endState]
        rw [removed, unchanged_putOnDisk_iff, found]
        refine iff_of_false (fun impossible => ?_) fun lost => ?_
        · cases impossible
        · rw [lost path rfl] at there
          cases there
      · have lost := Bool.eq_false_iff.mpr there
        rw [removeFile, final_onFile_of_lost lost]
        refine iff_of_true (Unchanged.refl world) fun other same => ?_
        cases same
        exact lost

/-- Removing a file leaves the database alone. -/
theorem db_removeFile (failure : Option String) (path : String) (world : World) :
    (final (removeFile failure path) world).db = world.db := by
  cases found : world.disk path with
  | none => simp only [final, removeFile, onFile_of_missing found, endState]
  | some file =>
      cases failure with
      | none => simp only [final, removeFile, onFile_of_found found, endState, World.putOnDisk_db]
      | some message => rfl

theorem failsIn_announce_congr {condition : World → Prop} {β : Type} {inode : Nat} {operation : TaskOperation}
    {one two : DriveFile → Routine Errno World Unit} {second : Unit → Routine Errno World β}
    (same : ∀ details, one details = two details) :
    FailsIn condition (announce answers inode operation one >>= second) world ↔
      FailsIn condition (announce answers inode operation two >>= second) world := by
  rw [funext same]

/-- A file is looked up before anything is done to it. -/
theorem failsIn_unlink {condition : World → Prop} (holds : condition world) (parent : Nat) (name : Option String) :
    FailsIn condition (unlink answers parent name) world ↔
      ∀ row, unlinkedRow answers parent name world.db = some row →
        FailsIn condition (announce answers row.rowid .delete (removeCacheFile (answers.failures 0)) >>= fun _ =>
          orEio (softDeleteByInode (answers.runs 3) row.rowid)) world := by
  rw [unlink, failsIn_bind_orErrno holds]
  constructor
  · intro fails row found
    rcases Option.filter_eq_some_iff.mp found with ⟨named, regular⟩
    rw [Bool.not_eq_true'] at regular
    rw [namedRow] at named
    split at named
    · next runs =>
        rcases Option.bind_eq_some_iff.mp named with ⟨wanted, given, child⟩
        have looked := (failsIn_bind_select holds).mp (fails wanted given) runs
        have goes := (failsIn_bind_refuseIf holds).mp ((failsIn_bind_orErrno holds).mp looked row child) regular
        refine (failsIn_announce_congr fun details => ?_).mp goes
        rw [removeCacheFile]
        cases details.localPath <;> rfl
    · cases named
  · intro fails wanted given
    refine (failsIn_bind_select holds).mpr fun runs => (failsIn_bind_orErrno holds).mpr fun row child => ?_
    refine (failsIn_bind_refuseIf holds).mpr fun regular => ?_
    refine (failsIn_announce_congr fun details => ?_).mpr (fails row ?_)
    · rw [removeCacheFile]
      cases details.localPath <;> rfl
    · rw [unlinkedRow, namedRow, if_pos runs, given, Option.bind_some, child]
      exact Option.filter_eq_some_iff.mpr ⟨rfl, by rw [regular]; rfl⟩

theorem failsCleanly_unlink_iff (parent : Nat) (name : Option String) :
    FailsCleanly cacheDir answers (.unlink parent name) world ↔
      ∀ row, unlinkedRow answers parent name world.db = some row →
        answers.runs 3 = false → answers.runs 1 = true →
          answers.runs 2 = false ∧
            ∀ path, row.data.localPath = some path → finds (answers.failures 0) path world = false := by
  rw [FailsCleanly, reply, failsIn_unlink (Unchanged.refl world)]
  refine forall_congr' fun row => imp_congr_right fun found => ?_
  rcases of_namedRow (Option.filter_eq_some_iff.mp found).1 with ⟨member, live⟩
  rw [failsIn_removal_iff member live (fun details world => outcome_removeCacheFile _ details) fun details world => ?_]
  · exact imp_congr_right fun _ => imp_congr_right fun _ => and_congr_right fun _ =>
      unchanged_removeCacheFile_iff _ _
  · rw [removeCacheFile]
    cases details.localPath with
    | none => rfl
    | some path => exact db_removeFile _ path world

/-- A folder is looked up, and found empty, before anything is done to it. -/
theorem failsIn_rmdir {condition : World → Prop} (holds : condition world) (parent : Nat) (name : Option String) :
    FailsIn condition (rmdir answers parent name) world ↔
      ∀ row, removedFolder answers parent name world.db = some row →
        FailsIn condition (announce answers row.rowid .delete (fun _ => pure ()) >>= fun _ =>
          orEio (softDeleteByInode (answers.runs 3) row.rowid)) world := by
  rw [rmdir, failsIn_bind_orErrno holds]
  constructor
  · intro fails row found
    rcases Option.filter_eq_some_iff.mp found with ⟨named, empty⟩
    simp only [Bool.and_eq_true, Bool.not_eq_true'] at empty
    rw [namedRow] at named
    split at named
    · next runs =>
        rcases Option.bind_eq_some_iff.mp named with ⟨wanted, given, child⟩
        have looked := (failsIn_bind_select holds).mp (fails wanted given) runs
        have folder := (failsIn_bind_refuseIf holds).mp ((failsIn_bind_orErrno holds).mp looked row child)
          (by rw [empty.1]; rfl)
        rw [hasChildren] at folder
        have counted := (failsIn_bind_select holds).mp folder empty.2.1
        exact (failsIn_bind_refuseIf holds).mp counted empty.2.2
    · cases named
  · intro fails wanted given
    refine (failsIn_bind_select holds).mpr fun runs => (failsIn_bind_orErrno holds).mpr fun row child => ?_
    refine (failsIn_bind_refuseIf holds).mpr fun folder => (failsIn_bind_select holds).mpr fun counts => ?_
    refine (failsIn_bind_refuseIf holds).mpr fun empty => fails row ?_
    rw [removedFolder, namedRow, if_pos runs, given, Option.bind_some, child]
    rw [Bool.not_eq_false'] at folder
    exact Option.filter_eq_some_iff.mpr ⟨rfl, by rw [folder, counts, empty]; rfl⟩

theorem failsCleanly_rmdir_iff (parent : Nat) (name : Option String) :
    FailsCleanly cacheDir answers (.rmdir parent name) world ↔
      ∀ row, removedFolder answers parent name world.db = some row →
        answers.runs 3 = false → answers.runs 1 = true → answers.runs 2 = false := by
  rw [FailsCleanly, reply, failsIn_rmdir (Unchanged.refl world)]
  refine forall_congr' fun row => imp_congr_right fun found => ?_
  rcases of_namedRow (Option.filter_eq_some_iff.mp found).1 with ⟨member, live⟩
  rw [failsIn_removal_iff member live (fun details world => rfl) fun details world => rfl]
  exact imp_congr_right fun _ => imp_congr_right fun _ => and_iff_left (Unchanged.refl world)

/-- No call of the callback fails after it has changed something that counts. -/
def FailsEarly (cacheDir : String) (answers : CallbackAnswers) (world : World) : Callback → Prop
  | .create parent name => (∃ file, Creates cacheDir answers parent name world file) → answers.failures 1 = none
  | .write ino fh _ _ _ => ∀ handle, HasHandle ino fh handle world → answers.failures 0 = none →
      (answers.failures 1 = none ∧ answers.failures 2 = none) ∨
        (world.disk handle.localPath).map DiskFile.bytes = some []
  | .unlink parent name => ∀ row, unlinkedRow answers parent name world.db = some row →
      answers.runs 3 = false → answers.runs 1 = true →
        answers.runs 2 = false ∧
          ∀ path, row.data.localPath = some path → finds (answers.failures 0) path world = false
  | .rmdir parent name => ∀ row, removedFolder answers parent name world.db = some row →
      answers.runs 3 = false → answers.runs 1 = true → answers.runs 2 = false
  | _ => True

/-- A callback that replies an error has changed nothing exactly when it fails early. -/
theorem callback_fails_cleanly_iff (cacheDir : String) (answers : CallbackAnswers) (callback : Callback)
    (world : World) :
    FailsCleanly cacheDir answers callback world ↔ FailsEarly cacheDir answers world callback := by
  cases callback with
  | openFile ino => exact iff_of_true (failsCleanly_openFile ino) trivial
  | read ino fh => exact iff_of_true (failsCleanly_read ino fh) trivial
  | create parent name => exact failsCleanly_create_iff parent name
  | write ino fh offset data written => exact failsCleanly_write_iff ino fh offset data written
  | flush ino fh => exact iff_of_true (failsIn_uploadIfModified ino fh) trivial
  | fsync ino fh => exact iff_of_true (failsIn_uploadIfModified ino fh) trivial
  | unlink parent name => exact failsCleanly_unlink_iff parent name
  | rename parent name newParent newName =>
      exact iff_of_true (failsCleanly_rename parent name newParent newName) trivial
  | mkdir parent name => exact iff_of_true (failsCleanly_mkdir parent name) trivial
  | rmdir parent name => exact failsCleanly_rmdir_iff parent name
  | release fh => exact iff_of_true (failsIn_of_ok rfl) trivial

end Late

/-- The file to create cannot be opened on disk. -/
def diskIsFull : CallbackAnswers where
  runs := fun _ => true
  failures := fun call => if call = 1 then some "No space left on device" else none
  now := 1
  nanos := 1

/-- A file whose creation failed is listed. -/
theorem failed_create_leaves_row :
    ¬ FailsCleanly "/cache" diskIsFull (.create rootInode (some "notes.txt")) (World.around Tree.withAccount) := by
  intro clean
  have same := clean .eio (by decide)
  have rows : (final (reply "/cache" diskIsFull (.create rootInode (some "notes.txt")))
      (World.around Tree.withAccount)).db.driveFiles.rows.length = 1 := by decide
  rw [same.files] at rows
  exact absurd rows (by decide)

end Atomic
end GDriver
