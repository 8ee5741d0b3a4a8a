import GDriver.Library.Run
import GDriver.Library.Splice
import GDriver.Moves.Mount

namespace GDriver
namespace Local

open Library Routine Db Vfs

/-!
# What written files read as

A write through the mounted file system empties the local file before it writes at the
offset, and stores the end of what it wrote as the size.  So the file reads as its content
with the writes spliced in exactly when the last write left nothing else to keep.
-/

/-! ## Writes -/

/-- A write that the mounted file system is asked for. -/
structure WriteCall where
  answers : CallbackAnswers
  fh : Nat
  offset : Nat
  data : List UInt8
  written : Nat

namespace WriteCall

/-- The bytes that the caller is told were written. -/
def accepted (call : WriteCall) : List UInt8 :=
  call.data.take call.written

def routine (ino : Nat) (call : WriteCall) : Routine Errno World Nat :=
  Vfs.write call.answers ino call.fh call.offset call.data call.written

/-- The write is reported as done. -/
def Succeeds (ino : Nat) (world : World) (call : WriteCall) : Prop :=
  ∃ count, outcome (call.routine ino) world = .ok count

/-- What a write leaves, through a handle with this path. -/
def done (ino : Nat) (localPath : String) (call : WriteCall) (world : World) : World :=
  (world.putOnDisk localPath (some ⟨writtenAt call.offset call.accepted, call.answers.now⟩)).withDb
    (final (updateFileSizeMtime (call.answers.runs 0) ino
      ((call.offset + call.accepted.length : Nat) : Int) call.answers.now) world.db)

end WriteCall

/-- The inode has this open handle. -/
def HasHandle (ino fh : Nat) (handle : OpenHandle) (world : World) : Prop :=
  world.openFiles fh = some handle ∧ handle.ino = ino

section Handles

variable {ino fh : Nat} {world : World} {handle : OpenHandle}

theorem outcome_validHandle_eq_ok_iff :
    outcome (validHandle ino fh) world = .ok handle ↔ HasHandle ino fh handle world := by
  rw [validHandle, outcome_bind_of_ok (outcome_inspect _ _), final_inspect, HasHandle]
  cases world.openFiles fh with
  | none =>
      refine iff_of_false (fun impossible => ?_) fun impossible => ?_
      · cases impossible
      · cases impossible.1
  | some other =>
      have goes : outcome (orErrno Errno.ebadf (some other)) world = .ok other := rfl
      rw [outcome_bind_of_ok goes, Option.some.injEq]
      split
      · next owned =>
          constructor
          · intro same
            cases same
            exact ⟨rfl, owned⟩
          · rintro ⟨same, _⟩
            rw [same]
            rfl
      · next foreign =>
          refine iff_of_false (fun impossible => ?_) ?_
          · cases impossible
          · rintro ⟨same, owned⟩
            rw [same] at foreign
            exact foreign owned

theorem final_validHandle : final (validHandle ino fh) world = world :=
  (@keeps_validHandle Eq _ ino fh world).symm

theorem outcome_callOrEio_eq_ok_iff {failure : Option String} :
    outcome (callOrEio failure) world = .ok () ↔ failure = none := by
  cases failure with
  | none => exact iff_of_true rfl rfl
  | some message =>
      refine iff_of_false (fun impossible => ?_) fun impossible => ?_
      · cases impossible
      · cases impossible

theorem final_callOrEio (failure : Option String) : final (callOrEio failure) world = world :=
  (@keeps_callOrEio Eq _ failure world).symm

/-- A write that is reported as done went through a handle of the inode. -/
theorem WriteCall.Succeeds.done {call : WriteCall} (succeeds : call.Succeeds ino world) :
    ∃ handle, HasHandle ino call.fh handle world ∧
      final (call.routine ino) world = call.done ino handle.localPath world := by
  rcases succeeds with ⟨count, answered⟩
  rw [WriteCall.routine, Vfs.write] at answered
  rcases outcome_bind_eq_ok_iff.mp answered with ⟨handle, valid, answered⟩
  rcases outcome_bind_eq_ok_iff.mp answered with ⟨_, opened, answered⟩
  rcases outcome_bind_eq_ok_iff.mp answered with ⟨_, _, answered⟩
  rcases outcome_bind_eq_ok_iff.mp answered with ⟨_, sought, answered⟩
  rcases outcome_bind_eq_ok_iff.mp answered with ⟨_, wrote, _⟩
  have opens := outcome_callOrEio_eq_ok_iff.mp opened
  have seeks := outcome_callOrEio_eq_ok_iff.mp sought
  have writes := outcome_callOrEio_eq_ok_iff.mp wrote
  refine ⟨handle, outcome_validHandle_eq_ok_iff.mp valid, ?_⟩
  rw [WriteCall.routine, Vfs.write, final_bind_of_ok valid, final_validHandle, opens, seeks, writes]
  rw [final_bind_of_ok (outcome_callOrEio_eq_ok_iff.mpr rfl), final_callOrEio]
  rw [final_bind_of_ok (outcome_perform _ _), final_perform]
  rw [final_bind_of_ok (outcome_callOrEio_eq_ok_iff.mpr rfl), final_callOrEio]
  rw [final_bind_of_ok (outcome_callOrEio_eq_ok_iff.mpr rfl), final_callOrEio]
  dsimp only
  rw [final_bind_of_ok (outcome_perform _ _), final_perform]
  rw [final_bind_of_ok (outcome_attempt _ _), final_attempt, final_pure, final_onDb]
  rw [World.putOnDisk_putOnDisk]
  rfl

/-! ## Reads, sizes and uploads -/

theorem outcome_details (runs : Bool) (world : World) :
    outcome (orEio (getFileDetailsByInode runs ino)) world =
      if runs then .ok ((Vfs.Database.rowAtInode world.db ino).map Row.data) else .error .eio := by
  rw [orEio, outcome_mapError, outcome_onDb, getFileDetailsByInode, outcome_select]
  cases runs with
  | false => rfl
  | true => rfl

theorem final_details (runs : Bool) (world : World) :
    final (orEio (getFileDetailsByInode runs ino)) world = world :=
  (@keeps_orEio_select Eq _ _ runs _ world).symm

variable {row : Row DriveFile} {now : Int} {nanos : Nat} {cacheDir : String}

/-- Where a read looks for the content of a row. -/
def contentPath (cacheDir : String) (file : DriveFile) : String :=
  file.localPath.getD (cachePath cacheDir file.accountId file.id)

section Reading

variable {row : Row DriveFile} {now : Int} {nanos : Nat} {cacheDir : String} {offset size : Nat}
  {wait : DownloadWait}

theorem outcome_read (has : HasHandle ino fh handle world)
    (located : Vfs.Database.rowAtInode world.db ino = some row) :
    outcome (Vfs.read (.allRun now nanos) cacheDir ino fh offset size wait) world =
      outcome (awaitContent (.allRun now nanos) row.data (contentPath cacheDir row.data) wait >>= fun _ =>
        readContent (.allRun now nanos) (contentPath cacheDir row.data) offset size) world := by
  have details : outcome (orEio (getFileDetailsByInode ((CallbackAnswers.allRun now nanos).runs 0) ino))
      world = .ok (some row.data) := by
    rw [outcome_details, located]
    rfl
  have found : outcome (orErrno Errno.enoent (some row.data)) world = .ok row.data := rfl
  rw [Vfs.read, outcome_bind_of_ok (outcome_validHandle_eq_ok_iff.mpr has), final_validHandle]
  rw [outcome_bind_of_ok details, final_details, outcome_bind_of_ok found]
  rfl

/-- A file that is there is read as it is. -/
theorem outcome_read_of_present (has : HasHandle ino fh handle world)
    (located : Vfs.Database.rowAtInode world.db ino = some row) (local_ : row.data.syncState ≠ .cloudOnly)
    {file : DiskFile} (present : world.disk (contentPath cacheDir row.data) = some file) :
    outcome (Vfs.read (.allRun now nanos) cacheDir ino fh offset size wait) world =
      .ok ((file.bytes.drop offset).take size) := by
  have there : (decide (row.data.syncState = SyncState.cloudOnly) ||
      !(world.disk (contentPath cacheDir row.data)).isSome) = false := by
    rw [present, decide_eq_false local_]
    rfl
  have answered : outcome (awaitContent (.allRun now nanos) row.data (contentPath cacheDir row.data) wait)
      world = .ok () := by
    rw [awaitContent, outcome_bind_of_ok (outcome_inspect _ _), final_inspect, there,
      if_neg Bool.false_ne_true]
    rfl
  have stays : final (awaitContent (.allRun now nanos) row.data (contentPath cacheDir row.data) wait)
      world = world := by
    rw [awaitContent, final_bind_of_ok (outcome_inspect _ _), final_inspect, there,
      if_neg Bool.false_ne_true]
    rfl
  rw [outcome_read has located, outcome_bind_of_ok answered, stays]
  change outcome ((orErrno Errno.eio (world.disk (contentPath cacheDir row.data))) >>= fun file =>
    pure ((file.bytes.drop offset).take size)) world = _
  rw [present]
  rfl

/-- The wait for a download may fail. -/
theorem outcome_read_of_absent (has : HasHandle ino fh handle world)
    (located : Vfs.Database.rowAtInode world.db ino = some row)
    (absent : row.data.syncState = .cloudOnly ∨ world.disk (contentPath cacheDir row.data) = none) :
    outcome (Vfs.read (.allRun now nanos) cacheDir ino fh offset size ⟨id, .ok false⟩) world =
      .error .eio := by
  have missing : (decide (row.data.syncState = SyncState.cloudOnly) ||
      !(world.disk (contentPath cacheDir row.data)).isSome) = true := by
    rcases absent with remote | gone
    · rw [decide_eq_true remote, Bool.true_or]
    · rw [gone, Option.isSome_none, Bool.not_false, Bool.or_true]
  have fails : outcome (awaitContent (.allRun now nanos) row.data (contentPath cacheDir row.data)
      ⟨id, .ok false⟩) world = .error .eio := by
    rw [awaitContent, outcome_bind_of_ok (outcome_inspect _ _), final_inspect, missing, if_pos rfl]
    rfl
  rw [outcome_read has located, outcome_bind_of_error fails]

theorem outcome_getattr (inside : ino ≠ rootInode)
    (located : Vfs.Database.rowAtInode world.db ino = some row) :
    outcome (getattr (.allRun now nanos) ino) world = .ok (fileToAttr now row) := by
  have found : outcome (orEio (getFileByInode ((CallbackAnswers.allRun now nanos).runs 0) ino)) world =
      .ok (some row) := by
    rw [orEio, outcome_mapError, outcome_onDb, getFileByInode, outcome_select, located]
    rfl
  rw [getattr, if_neg inside, outcome_bind_of_ok found]
  rfl

/-- A flush enqueues an upload of what is behind the handle, if the row is modified. -/
theorem final_flush (has : HasHandle ino fh handle world)
    (located : Vfs.Database.rowAtInode world.db ino = some row) :
    final (flush (.allRun now nanos) ino fh) world =
      if row.data.syncState = .modified then
        world.withDb (world.db.putTask (Sync.pendingTask now row.data.accountId (some row.data.id) .upload
          (some handle.localPath) 1))
      else world := by
  have details : outcome (mapError (fun _ => Errno.ebadf)
      (onDb (getFileDetailsByInode ((CallbackAnswers.allRun now nanos).runs 0) ino))) world =
      .ok (some row.data) := by
    rw [outcome_mapError, outcome_onDb, getFileDetailsByInode, outcome_select, located]
    rfl
  have stays : final (mapError (fun _ => Errno.ebadf)
      (onDb (getFileDetailsByInode ((CallbackAnswers.allRun now nanos).runs 0) ino))) world = world := by
    rw [final_mapError, final_onDb, getFileDetailsByInode, final_select]
    rfl
  have found : outcome (orErrno Errno.ebadf (some row.data)) world = .ok row.data := rfl
  rw [flush, uploadIfModified, final_bind_of_ok (outcome_validHandle_eq_ok_iff.mpr has), final_validHandle]
  rw [final_bind_of_ok details, stays, final_bind_of_ok found]
  split
  · rfl
  · rfl

end Reading

end Handles

/-! ## Written content -/

/-- The row of a written file. -/
def resizedRow (call : WriteCall) (row : Row DriveFile) : Row DriveFile :=
  if call.answers.runs 0 then
    { row with
      data := resized ((call.offset + call.accepted.length : Nat) : Int) call.answers.now row.data }
  else row

/-- A change of the row with a number is seen at this number. -/
theorem rowAtInode_updateFiles {ino : Nat} {change : DriveFile → DriveFile}
    (keeps : ∀ file, (change file).key = file.key)
    (keepsTrash : ∀ file, (change file).isTrashed = file.isTrashed) (db : Db.Database) :
    Vfs.Database.rowAtInode (db.updateFiles (fun row => row.rowid = ino) change keeps) ino =
      (Vfs.Database.rowAtInode db ino).map fun row => { row with data := change row.data } := by
  have rows : (db.updateFiles (fun row => row.rowid = ino) change keeps).driveFiles.rows =
      db.driveFiles.rows.map fun row =>
        if decide (row.rowid = ino) then { row with data := change row.data } else row := rfl
  have sameCondition : ((fun row : Row DriveFile => decide (row.rowid = ino) && !row.data.isTrashed) ∘
      fun row => if decide (row.rowid = ino) then { row with data := change row.data } else row) =
      fun row => decide (row.rowid = ino) && !row.data.isTrashed := by
    funext row
    rw [Function.comp_apply]
    split
    · rw [keepsTrash]
    · rfl
  rw [Vfs.Database.rowAtInode, Table.findRow?, rows, List.find?_map, sameCondition]
  refine Option.map_congr fun row found => ?_
  have holds := List.find?_some found
  rw [Bool.and_eq_true] at holds
  exact if_pos holds.1

theorem rowAtInode_done {ino : Nat} {localPath : String} {call : WriteCall} {world : World} :
    Vfs.Database.rowAtInode (call.done ino localPath world).db ino =
      (Vfs.Database.rowAtInode world.db ino).map (resizedRow call) := by
  have ends : final (updateFileSizeMtime (call.answers.runs 0) ino
      ((call.offset + call.accepted.length : Nat) : Int) call.answers.now) world.db =
      if call.answers.runs 0 then
        world.db.updateFiles (fun row => row.rowid = ino)
          (resized ((call.offset + call.accepted.length : Nat) : Int) call.answers.now) fun _ => rfl
      else world.db := final_execute _ _ _
  rw [WriteCall.done, World.withDb_db, ends]
  cases runs : call.answers.runs 0 with
  | false =>
      have same : resizedRow call = id := by
        funext row
        rw [resizedRow, runs, if_neg Bool.false_ne_true, id]
      rw [same, Option.map_id, if_neg Bool.false_ne_true]
      rfl
  | true =>
      have same : resizedRow call = fun row =>
          { row with
            data := resized ((call.offset + call.accepted.length : Nat) : Int) call.answers.now row.data } := by
        funext row
        rw [resizedRow, runs, if_pos rfl]
      rw [same, if_pos rfl]
      exact @rowAtInode_updateFiles ino
        (resized ((call.offset + call.accepted.length : Nat) : Int) call.answers.now) _ (fun _ => rfl) world.db

/-- What the operations of the mounted file system tell about a file: it reads as this content,
it has its size, and this content is uploaded. -/
structure SeenAs (cacheDir : String) (ino : Nat) (content : List UInt8) (world : World) : Prop where
  reads : ∀ fh handle, HasHandle ino fh handle world → ∀ now nanos offset size wait,
    outcome (Vfs.read (.allRun now nanos) cacheDir ino fh offset size wait) world =
      .ok ((content.drop offset).take size)
  size : ∀ now nanos, (outcome (getattr (.allRun now nanos) ino) world).map FileAttr.size =
    .ok content.length
  uploads : ∀ fh handle, HasHandle ino fh handle world → ∀ now nanos, ∃ taskId task path,
    world.db.task taskId = none ∧
      (final (flush (.allRun now nanos) ino fh) world).db.task taskId = some task ∧
        task.operation = .upload ∧ task.localPath = some path ∧
          (world.disk path).map DiskFile.bytes = some content

/-- The paths behind a file: that of its row and those of its open handles. -/
def Behind (cacheDir : String) (ino : Nat) (row : Row DriveFile) (world : World) (path : String) : Prop :=
  path = contentPath cacheDir row.data ∨ ∃ fh handle, HasHandle ino fh handle world ∧ path = handle.localPath

/-- The row and everything behind it say that this is the content. -/
structure StoredAs (cacheDir : String) (ino : Nat) (row : Row DriveFile) (content : List UInt8)
    (world : World) : Prop where
  modified : row.data.syncState = .modified
  size : asUnsigned (row.data.size.getD 0) = content.length
  behind : ∀ path, Behind cacheDir ino row world path → (world.disk path).map DiskFile.bytes = some content

theorem take_congr_of_forall {α : Type} {first second : List α}
    (same : ∀ size, first.take size = second.take size) : first = second := by
  have whole := same (max first.length second.length)
  rwa [List.take_of_length_le (Nat.le_max_left _ _), List.take_of_length_le (Nat.le_max_right _ _)] at whole

theorem seenAs_iff {cacheDir : String} {ino fh : Nat} {handle : OpenHandle} {world : World}
    {row : Row DriveFile} {content : List UInt8} (has : HasHandle ino fh handle world)
    (inside : ino ≠ rootInode) (located : Vfs.Database.rowAtInode world.db ino = some row)
    (file : row.data.isFolder = false) :
    SeenAs cacheDir ino content world ↔ StoredAs cacheDir ino row content world := by
  constructor
  · intro seen
    have modified : row.data.syncState = .modified := by
      by_contra kept
      rcases seen.uploads fh handle has 0 0 with ⟨taskId, task, path, absent, found, _⟩
      rw [final_flush has located, if_neg kept, absent] at found
      cases found
    refine ⟨modified, ?_, ?_⟩
    · have told := seen.size 0 0
      rw [outcome_getattr inside located] at told
      have sizes := Except.ok.inj told
      rw [fileToAttr, file] at sizes
      exact sizes
    · intro path behind
      rcases behind with same | ⟨other, otherHandle, hasOther, same⟩
      · rw [same]
        have local_ : row.data.syncState ≠ .cloudOnly := by
          rw [modified]
          decide
        cases present : world.disk (contentPath cacheDir row.data) with
        | none =>
            have failed := seen.reads fh handle has 0 0 0 0 ⟨id, .ok false⟩
            rw [outcome_read_of_absent has located (Or.inr present)] at failed
            cases failed
        | some found =>
            refine congrArg some (take_congr_of_forall fun size => ?_)
            have read := seen.reads fh handle has 0 0 0 size ⟨id, .ok false⟩
            rw [outcome_read_of_present has located local_ present] at read
            exact Except.ok.inj read
      · rcases seen.uploads other otherHandle hasOther 0 0 with
          ⟨taskId, task, target, absent, found, _, about, stored⟩
        rw [final_flush hasOther located, if_pos modified] at found
        rcases Db.Database.task_putTask_cases found with new | before
        · rw [new] at about
          rw [same, Option.some.inj about]
          exact stored
        · rw [absent] at before
          cases before
  · rintro ⟨modified, size, behind⟩
    have local_ : row.data.syncState ≠ .cloudOnly := by
      rw [modified]
      decide
    refine ⟨?_, ?_, ?_⟩
    · intro other otherHandle hasOther now nanos offset size wait
      rcases Option.map_eq_some_iff.mp (behind _ (Or.inl rfl)) with ⟨found, present, same⟩
      rw [outcome_read_of_present hasOther located local_ present, same]
    · intro now nanos
      rw [outcome_getattr inside located, Except.map, fileToAttr, file]
      exact congrArg Except.ok size
    · intro other otherHandle hasOther now nanos
      refine ⟨world.db.nextTaskId, { Sync.pendingTask now row.data.accountId (some row.data.id) .upload
        (some otherHandle.localPath) 1 with id := some world.db.nextTaskId }, otherHandle.localPath,
        Db.Database.task_nextTaskId _, ?_, rfl, rfl, ?_⟩
      · rw [final_flush hasOther located, if_pos modified]
        exact Db.Database.task_putTask_next _ _
      · exact behind _ (Or.inr ⟨other, otherHandle, hasOther, rfl⟩)

/-! ## Writes that fit -/

/-- What a write does to a content. -/
def WriteCall.splices (call : WriteCall) (content : List UInt8) : List UInt8 :=
  splice 0 content call.offset call.accepted

/-- A write that leaves nothing else to keep: before it there are only zeros, it covers the rest,
its end is recorded, and it goes where the file is. -/
structure Fits (cacheDir : String) (ino : Nat) (row : Row DriveFile) (content : List UInt8)
    (world : World) (call : WriteCall) : Prop where
  blank : ∀ byte ∈ content.take call.offset, byte = 0
  covers : content.length ≤ call.offset + call.accepted.length
  empty : call.accepted = [] → content = []
  recorded : call.answers.runs 0 = true ∧ (call.accepted = [] → call.offset = 0) ∨
    call.answers.runs 0 = false ∧ row.data.syncState = .modified ∧
      asUnsigned (row.data.size.getD 0) = (call.splices content).length
  behind : ∀ path, Behind cacheDir ino row world path →
    (∃ handle, HasHandle ino call.fh handle world ∧ placeOf path = placeOf handle.localPath) ∨
      (world.disk path).map DiskFile.bytes = some (call.splices content)

theorem writtenAt_eq_splices_iff {call : WriteCall} {content : List UInt8} :
    writtenAt call.offset call.accepted = call.splices content ↔
      (∀ byte ∈ content.take call.offset, byte = 0) ∧
        content.length ≤ call.offset + call.accepted.length ∧ (call.accepted = [] → content = []) := by
  rw [WriteCall.splices]
  by_cases none_ : call.accepted = []
  · rw [none_, splice_nil]
    constructor
    · intro same
      have empty : content = [] := same.symm
      rw [empty]
      refine ⟨fun byte member => ?_, Nat.zero_le _, fun _ => rfl⟩
      rw [List.take_nil] at member
      cases member
    · rintro ⟨_, _, empty⟩
      rw [empty rfl]
      rfl
  · have written : writtenAt call.offset call.accepted = List.replicate call.offset 0 ++ call.accepted := by
      rw [writtenAt, if_neg]
      rw [List.isEmpty_iff]
      exact none_
    rw [written, eq_comm, splice_eq_iff none_]
    exact and_congr_right fun _ => (and_iff_left fun empty => absurd empty none_).symm

theorem asUnsigned_natCast (value : Nat) : asUnsigned (value : Int) = value := by
  rw [asUnsigned, if_neg (by omega), Int.toNat_natCast]

section Step

variable {cacheDir : String} {ino : Nat} {world : World} {row : Row DriveFile} {content : List UInt8}
  {call : WriteCall} {handle : OpenHandle}

theorem contentPath_resizedRow : contentPath cacheDir (resizedRow call row).data =
    contentPath cacheDir row.data := by
  rw [resizedRow]
  split
  · rfl
  · rfl

theorem behind_done {path : String} :
    Behind cacheDir ino (resizedRow call row) (call.done ino handle.localPath world) path ↔
      Behind cacheDir ino row world path := by
  rw [Behind, contentPath_resizedRow]
  rfl

theorem disk_done (path : String) :
    (call.done ino handle.localPath world).disk path =
      if placeOf path = placeOf handle.localPath then some ⟨writtenAt call.offset call.accepted, call.answers.now⟩
      else world.disk path := by
  rw [WriteCall.done, World.withDb_disk, World.disk_putOnDisk]
  rfl

/-- A file that is emptied before a write is stored with the write spliced in exactly when the
write fits. -/
theorem storedAs_done_iff (has : HasHandle ino call.fh handle world) :
    StoredAs cacheDir ino (resizedRow call row) (call.splices content)
      (call.done ino handle.localPath world) ↔ Fits cacheDir ino row content world call := by
  have same (path : String)
      (there : ∃ other, HasHandle ino call.fh other world ∧ placeOf path = placeOf other.localPath) :
      placeOf path = placeOf handle.localPath := by
    rcases there with ⟨other, again, here⟩
    rw [here, Option.some.inj (again.1.symm.trans has.1)]
  constructor
  · rintro ⟨modified, size, behind⟩
    have written := behind handle.localPath (behind_done.mpr (Or.inr ⟨call.fh, handle, has, rfl⟩))
    rw [disk_done, if_pos rfl, Option.map_some] at written
    rcases writtenAt_eq_splices_iff.mp (Option.some.inj written) with ⟨blank, covers, empty⟩
    refine ⟨blank, covers, empty, ?_, ?_⟩
    · cases runs : call.answers.runs 0 with
      | false =>
          rw [resizedRow, runs, if_neg Bool.false_ne_true] at modified size
          exact Or.inr ⟨rfl, modified, size⟩
      | true =>
          rw [resizedRow, runs, if_pos rfl] at size
          refine Or.inl ⟨rfl, fun none_ => ?_⟩
          have told : call.offset + call.accepted.length = (call.splices content).length := by
            rw [← size]
            exact (asUnsigned_natCast _).symm
          rw [WriteCall.splices, none_, splice_nil, empty none_] at told
          exact told
    · intro path reaches
      have stored := behind path (behind_done.mpr reaches)
      rw [disk_done] at stored
      by_cases here : placeOf path = placeOf handle.localPath
      · exact Or.inl ⟨handle, has, here⟩
      · rw [if_neg here] at stored
        exact Or.inr stored
  · rintro ⟨blank, covers, empty, recorded, behind⟩
    have written := writtenAt_eq_splices_iff.mpr ⟨blank, covers, empty⟩
    refine ⟨?_, ?_, ?_⟩
    · rcases recorded with ⟨runs, _⟩ | ⟨runs, modified, _⟩
      · rw [resizedRow, runs, if_pos rfl]
        rfl
      · rw [resizedRow, runs, if_neg Bool.false_ne_true]
        exact modified
    · rcases recorded with ⟨runs, starts⟩ | ⟨runs, _, size⟩
      · rw [resizedRow, runs, if_pos rfl, ← written]
        refine (asUnsigned_natCast _).trans ?_
        by_cases none_ : call.accepted = []
        · rw [none_, starts none_]
          rfl
        · rw [writtenAt, if_neg (by rwa [List.isEmpty_iff]), List.length_append, List.length_replicate]
      · rw [resizedRow, runs, if_neg Bool.false_ne_true]
        exact size
    · intro path reaches
      rw [disk_done]
      split
      · rw [Option.map_some, written]
      · next elsewhere =>
          rcases behind path (behind_done.mp reaches) with here | there
          · exact absurd (same path here) elsewhere
          · exact there

end Step

/-! ## Sequences of writes -/

/-- The world after a write. -/
def writeStep (ino : Nat) (world : World) (call : WriteCall) : World :=
  final (call.routine ino) world

/-- A content after some writes. -/
def spliced (content : List UInt8) (calls : List WriteCall) : List UInt8 :=
  calls.foldl (fun content call => call.splices content) content

/-- The inode is that of a file. -/
def IsFileAt (ino : Nat) (row : Row DriveFile) (world : World) : Prop :=
  Vfs.Database.rowAtInode world.db ino = some row ∧ row.data.isFolder = false

theorem isFileAt_writeStep {ino : Nat} {world : World} {call : WriteCall}
    (succeeds : call.Succeeds ino world) (file : ∃ row, IsFileAt ino row world) :
    ∃ row, IsFileAt ino row (writeStep ino world call) := by
  rcases file with ⟨row, located, file⟩
  rcases succeeds.done with ⟨handle, _, ends⟩
  refine ⟨resizedRow call row, ?_, ?_⟩
  · rw [writeStep, ends, rowAtInode_done, located, Option.map_some]
  · rw [resizedRow]
    split
    · exact file
    · exact file

/-- After any sequence of writes that succeed, a file is seen with all of them spliced into its
content exactly when the last one fits what it was written to. -/
theorem written_file_seen_iff (cacheDir : String) {ino : Nat} (inside : ino ≠ rootInode) {world : World}
    (file : ∃ row, IsFileAt ino row world) (content : List UInt8) (calls : List WriteCall) (call : WriteCall)
    (succeed : Along (writeStep ino) (WriteCall.Succeeds ino) (calls ++ [call]) world) :
    SeenAs cacheDir ino (spliced content (calls ++ [call])) (run (writeStep ino) (calls ++ [call]) world) ↔
      ∃ row, IsFileAt ino row (run (writeStep ino) calls world) ∧
        Fits cacheDir ino row (spliced content calls) (run (writeStep ino) calls world) call := by
  rcases (along_append _ calls [call] world).mp succeed with ⟨earlier, last, _⟩
  have there : ∃ row, IsFileAt ino row (run (writeStep ino) calls world) :=
    @run_of_along _ _ _ _ (fun world => ∃ row, IsFileAt ino row world)
      (fun _ _ => isFileAt_writeStep) _ _ earlier file
  have content_ : spliced content (calls ++ [call]) = call.splices (spliced content calls) :=
    List.foldl_append
  rw [content_, run_append]
  generalize run (writeStep ino) calls world = before at last there
  generalize spliced content calls = so
  rcases last.done with ⟨handle, has, ends⟩
  rcases there with ⟨row, located, plain⟩
  have after : run (writeStep ino) [call] before = call.done ino handle.localPath before := ends
  rw [after]
  have locatedAfter : Vfs.Database.rowAtInode (call.done ino handle.localPath before).db ino =
      some (resizedRow call row) := by rw [rowAtInode_done, located, Option.map_some]
  have plainAfter : (resizedRow call row).data.isFolder = false := by
    rw [resizedRow]
    split
    · exact plain
    · exact plain
  have hasAfter : HasHandle ino call.fh handle (call.done ino handle.localPath before) := has
  rw [seenAs_iff hasAfter inside locatedAfter plainAfter, storedAs_done_iff has]
  constructor
  · intro fits
    exact ⟨row, ⟨located, plain⟩, fits⟩
  · rintro ⟨other, ⟨found, _⟩, fits⟩
    rw [located] at found
    rw [Option.some.inj found]
    exact fits

/-! ## A file that is appended to -/

/-- The row of a file with a local copy, opened once. -/
def notesInCache : DriveFile :=
  localFile 1 "notes" "ann@example.com" "notes.txt" "text/plain" none (some "/mnt/notes.txt") .cached

/-- A file with a local copy of these bytes, opened once. -/
def openNotes (bytes : List UInt8) : World :=
  { (World.around (Database.fresh.putFile notesInCache)).putOnDisk "/mnt/notes.txt" (some ⟨bytes, 5⟩) with
    openFiles := fun fh => if fh = 1 then some ⟨1, "/mnt/notes.txt"⟩ else none }

def writeAt (offset : Nat) (byte : UInt8) : WriteCall :=
  ⟨CallbackAnswers.allRun 9 9, 1, offset, [byte], 1⟩

/-- A write of two bytes, at the beginning. -/
def writesTwo : WriteCall :=
  ⟨CallbackAnswers.allRun 9 9, 1, 0, [5, 6], 2⟩

/-- A byte of the notes is written over, and then all of them. -/
theorem notes_seen_after_writes :
    SeenAs "/cache" 1 [5, 6] (run (writeStep 1) [writeAt 0 4, writesTwo] (openNotes [7])) := by
  have behind (path : String) (there : Behind "/cache" 1 (resizedRow (writeAt 0 4) ⟨1, notesInCache⟩)
      (run (writeStep 1) [writeAt 0 4] (openNotes [7])) path) : path = "/mnt/notes.txt" := by
    rcases there with same | ⟨fh, handle, has, same⟩
    · exact same
    · have opened : (if fh = 1 then some (⟨1, "/mnt/notes.txt"⟩ : OpenHandle) else none) = some handle := has.1
      rw [same]
      split at opened
      · rw [← Option.some.inj opened]
      · cases opened
  refine (written_file_seen_iff "/cache" (by decide) ⟨⟨1, notesInCache⟩, by decide, by decide⟩ [7] [writeAt 0 4]
    writesTwo ⟨⟨1, rfl⟩, ⟨2, rfl⟩, trivial⟩).mpr ⟨resizedRow (writeAt 0 4) ⟨1, notesInCache⟩,
      ⟨by decide, by decide⟩, ?_⟩
  refine ⟨fun _ member => absurd member List.not_mem_nil, by decide, by decide, Or.inl ⟨rfl, by decide⟩,
    fun path there => ?_⟩
  rw [behind path there]
  exact Or.inl ⟨⟨1, "/mnt/notes.txt"⟩, ⟨rfl, rfl⟩, rfl⟩

/-- A byte that is appended to a file is all that is left of it. -/
theorem appended_notes_lose_content :
    ∃ row file, IsFileAt 1 row (openNotes [1, 2, 3]) ∧
      (openNotes [1, 2, 3]).disk (contentPath "/cache" row.data) = some file ∧
        (writeAt 3 4).Succeeds 1 (openNotes [1, 2, 3]) ∧
          ¬ SeenAs "/cache" 1 (spliced file.bytes [writeAt 3 4])
            (run (writeStep 1) [writeAt 3 4] (openNotes [1, 2, 3])) := by
  refine ⟨⟨1, notesInCache⟩, ⟨[1, 2, 3], 5⟩, ⟨by decide, by decide⟩, by decide, ⟨1, rfl⟩, ?_⟩
  rintro ⟨reads, _, _⟩
  have read := reads 1 ⟨1, "/mnt/notes.txt"⟩ ⟨rfl, rfl⟩ 0 0 0 4 ⟨id, .ok false⟩
  have answered : outcome (Vfs.read (.allRun 0 0) "/cache" 1 1 0 4 ⟨id, .ok false⟩)
      (run (writeStep 1) [writeAt 3 4] (openNotes [1, 2, 3])) = .ok [0, 0, 0, 4] := by decide
  rw [answered] at read
  exact absurd read (by decide)

end Local
end GDriver
