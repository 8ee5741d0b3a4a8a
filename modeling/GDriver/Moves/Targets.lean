import GDriver.Moves.Mount

namespace GDriver

open Library Routine Db Vfs

/-!
# What callbacks and requests are about

A callback that changes the tree first finds out what it is about, and refuses
when there is nothing to do.  Up to there it only reads.  For each one the row
or the place it is about is a function of the state before it, and without one
the callback changes nothing.
-/

section Reading

variable {β : Type}

theorem final_bind_orErrno {α : Type} (errno : Errno) (found : Option α)
    (second : α → Routine Errno World β) (world : World) :
    final (orErrno errno found >>= second) world =
      found.elim world fun value => final (second value) world := by
  cases found <;> rfl

theorem final_bind_orEio_select {α : Type} (runs : Bool) (read : Database → α)
    (second : α → Routine Errno World β) (world : World) :
    final (orEio (select runs read) >>= second) world =
      if runs then final (second (read world.db)) world else world := by
  cases runs <;> rfl

theorem outcome_bind_orEio_select {α : Type} (runs : Bool) (read : Database → α)
    (second : α → Routine Errno World β) (world : World) :
    outcome (orEio (select runs read) >>= second) world =
      if runs then outcome (second (read world.db)) world else .error .eio := by
  cases runs <;> rfl

theorem final_bind_refuseIf (condition : Bool) (errno : Errno)
    (second : Unit → Routine Errno World β) (world : World) :
    final (refuseIf condition errno >>= second) world =
      if condition then world else final (second ()) world := by
  cases condition <;> rfl

theorem final_bind_callOrEio (failure : Option String) (second : Unit → Routine Errno World β)
    (world : World) :
    final (callOrEio failure >>= second) world =
      if failure.isSome then world else final (second ()) world := by
  cases failure <;> rfl

/-- Whether a name is found in a directory. -/
def isTaken (runs : Bool) (parent : Nat) (name : String) (db : Database) : Bool :=
  runs && (Database.childNamed db parent name).isSome

theorem final_bind_refuseIfTaken (runs : Bool) (parent : Nat) (name : String)
    (second : Unit → Routine Errno World β) (world : World) :
    final (refuseIfTaken runs parent name >>= second) world =
      if isTaken runs parent name world.db then world else final (second ()) world := by
  cases runs with
  | false => rfl
  | true =>
      rw [isTaken, final_bind_of_reads (@keeps_refuseIfTaken Eq inferInstance true parent name world).symm]
      cases found : Database.childNamed world.db parent name <;>
        simp only [refuseIfTaken, lookupByParentAndName, outcome_bind_of_ok (outcome_observe _ world),
          outcome_onDb, outcome_select, found, if_true, outcome_throw, outcome_pure, Except.toOption,
          Option.elim_none, Option.elim_some, Option.isSome_none, Option.isSome_some, Bool.true_and,
          Bool.false_eq_true, if_false]

/-- The account and the parent of a new entry, when they are found. -/
def entryOwner (parentRuns accountRuns : Bool) (parent : Nat) (world : World) :
    Option (String × Option String) :=
  (outcome (newEntryOwner parentRuns accountRuns parent) world).toOption

theorem final_bind_newEntryOwner (parentRuns accountRuns : Bool) (parent : Nat)
    (second : String × Option String → Routine Errno World β) (world : World) :
    final (newEntryOwner parentRuns accountRuns parent >>= second) world =
      (entryOwner parentRuns accountRuns parent world).elim world fun owner =>
        final (second owner) world :=
  final_bind_of_reads (@keeps_newEntryOwner Eq inferInstance _ _ _ world).symm second

/-- The directory that a file is moved to, when it is found. -/
def newDirectory (runs : Bool) (newParent : Nat) (world : World) : Option (Option String) :=
  (outcome (newParentOf runs newParent) world).toOption

theorem final_bind_newParentOf (runs : Bool) (newParent : Nat)
    (second : Option String → Routine Errno World β) (world : World) :
    final (newParentOf runs newParent >>= second) world =
      (newDirectory runs newParent world).elim world fun directory =>
        final (second directory) world :=
  final_bind_of_reads (@keeps_newParentOf Eq inferInstance _ _ world).symm second

end Reading

section Targets

variable (answers : CallbackAnswers) (parent : Nat) (name : Option String)

/-- The row that the name stands for, when its lookup is executed. -/
def namedRow (db : Database) : Option (Row DriveFile) :=
  if answers.runs 0 then name.bind (Database.childNamed db parent) else none

/-- The row of the file to unlink. -/
def unlinkedRow (db : Database) : Option (Row DriveFile) :=
  (namedRow answers parent name db).filter fun row => !row.data.isFolder

/-- The row of the empty folder to remove. -/
def removedFolder (db : Database) : Option (Row DriveFile) :=
  (namedRow answers parent name db).filter fun row =>
    row.data.isFolder && (answers.runs 4 && !Database.hasChildren db row.rowid)

/-- The row to rename, when nothing is in its way and the change is executed. -/
def renamedRow (newParent : Nat) (newName : Option String) (world : World) :
    Option (Row DriveFile) :=
  if answers.runs 5 && (newDirectory (answers.runs 4) newParent world).isSome &&
      newName.any fun newName => !isTaken (answers.runs 3) newParent newName world.db then
    namedRow answers parent name world.db
  else none

/-- The owner of the file to create, when the row can be stored. -/
def createdFor (world : World) : Option (String × Option String) :=
  if name.isSome && (answers.failures 0).isNone && answers.runs 2 then
    entryOwner (answers.runs 0) (answers.runs 1) parent world
  else none

/-- The owner of the folder to make, when the row can be stored. -/
def madeFor (world : World) : Option (String × Option String) :=
  if answers.runs 3 && name.any fun name => !isTaken (answers.runs 0) parent name world.db then
    entryOwner (answers.runs 1) (answers.runs 2) parent world
  else none

variable {answers parent name} {world : World}

theorem final_unlink_of_none (nothing : unlinkedRow answers parent name world.db = none) :
    final (unlink answers parent name) world = world := by
  simp only [unlink, lookupByParentAndName, final_bind_orErrno, final_bind_orEio_select,
    final_bind_refuseIf]
  cases name with
  | none => rfl
  | some name =>
      simp only [unlinkedRow, namedRow, Option.bind_some] at nothing
      rw [Option.elim_some]
      split
      · next runs =>
          rw [if_pos runs] at nothing
          cases found : Database.childNamed world.db parent name with
          | none => rfl
          | some row =>
              rw [found] at nothing
              cases folder : row.data.isFolder with
              | true => simp only [Option.elim_some, folder, if_true]
              | false => simp [folder] at nothing
      · rfl

theorem final_rmdir_of_none (nothing : removedFolder answers parent name world.db = none) :
    final (rmdir answers parent name) world = world := by
  simp only [rmdir, lookupByParentAndName, hasChildren, final_bind_orErrno,
    final_bind_orEio_select, final_bind_refuseIf]
  cases name with
  | none => rfl
  | some name =>
      simp only [removedFolder, namedRow, Option.bind_some] at nothing
      rw [Option.elim_some]
      split
      · next runs =>
          rw [if_pos runs] at nothing
          cases found : Database.childNamed world.db parent name with
          | none => rfl
          | some row =>
              rw [found] at nothing
              cases folder : row.data.isFolder with
              | false => simp only [Option.elim_some, folder, Bool.not_false, if_true]
              | true =>
                  cases counts : answers.runs 4 with
                  | false => simp only [Option.elim_some, folder, Bool.not_true, Bool.false_eq_true,
                      if_false]
                  | true =>
                      cases children : Database.hasChildren world.db row.rowid with
                      | true => simp only [Option.elim_some, folder, children, Bool.not_true,
                          Bool.false_eq_true, if_false, if_true]
                      | false => simp [folder, counts, children] at nothing
      · rfl

/-- A row whose statement is not executed is not stored, and the callback stops. -/
theorem final_bind_insert_of_not_run {β : Type} {runs : Bool} (fails : runs = false)
    (file : DriveFile) (second : Nat → Routine Errno World β) (world : World) :
    final (orEio (insertFile runs file) >>= second) world = world := by
  subst fails
  rfl

theorem final_insert_of_not_run {runs : Bool} (fails : runs = false) (file : DriveFile)
    (world : World) : final (orEio (insertFile runs file)) world = world := by
  subst fails
  rfl

theorem final_create_of_none {cacheDir : String}
    (nothing : createdFor answers parent name world = none) :
    final (Vfs.create answers cacheDir parent name) world = world := by
  simp only [Vfs.create, insertLocalFile, final_bind_orErrno, final_bind_newEntryOwner,
    final_bind_callOrEio]
  cases name with
  | none => rfl
  | some name =>
      rw [Option.elim_some]
      cases owned : entryOwner (answers.runs 0) (answers.runs 1) parent world with
      | none => rfl
      | some owner =>
          rw [Option.elim_some]
          split
          · rfl
          · next calls =>
              have fails : answers.runs 2 = false := by
                by_contra runs
                have none := Bool.eq_false_iff.mpr calls
                rw [Option.isSome_eq_false_iff] at none
                simp [createdFor, none, Bool.of_not_eq_false runs, owned] at nothing
              exact final_bind_insert_of_not_run fails _ _ world

/-- The row of a file that is created. -/
def createdRow (cacheDir : String) (answers : CallbackAnswers) (owner : String × Option String) (name : String) :
    Db.DriveFile :=
  let tempFileId := "local-" ++ toString answers.nanos
  localFile answers.now tempFileId owner.1 name (guessMimeFromName name) owner.2
    (some (cachePath cacheDir owner.1 tempFileId)) .modified

/-- The file of a row that is created is put on disk and opened. -/
def openCreated (cacheDir : String) (answers : CallbackAnswers) (owner : String × Option String) (ino : Nat) :
    Routine Errno World Nat := do
  let localPath := cachePath cacheDir owner.1 ("local-" ++ toString answers.nanos)
  callOrEio (answers.failures 1)
  perform (World.putOnDisk localPath (some ⟨[], answers.now⟩))
  let fh ← inspect World.nextFh
  perform (World.openFile ⟨ino, localPath⟩)
  pure fh

theorem final_create_of_some {cacheDir : String} {owner : String × Option String}
    (created : createdFor answers parent name world = some owner) :
    ∃ newName, name = some newName ∧ entryOwner (answers.runs 0) (answers.runs 1) parent world = some owner ∧
      final (Vfs.create answers cacheDir parent name) world =
        final (orEio (insertFile (answers.runs 2) (createdRow cacheDir answers owner newName)) >>=
          openCreated cacheDir answers owner) world := by
  rw [createdFor] at created
  split at created
  · next calls =>
      rw [Bool.and_eq_true, Bool.and_eq_true, Option.isNone_iff_eq_none] at calls
      rcases Option.isSome_iff_exists.mp calls.1.1 with ⟨newName, named⟩
      subst named
      refine ⟨newName, rfl, created, ?_⟩
      simp only [Vfs.create, insertLocalFile, final_bind_orErrno, final_bind_newEntryOwner,
        final_bind_callOrEio, created, calls.1.2, Option.elim_some, Option.isSome_none,
        Bool.false_eq_true, if_false]
      rfl
  · cases created

theorem final_mkdir_of_none (nothing : madeFor answers parent name world = none) :
    final (Vfs.mkdir answers parent name) world = world := by
  simp only [Vfs.mkdir, insertLocalFolder, final_bind_orErrno, final_bind_newEntryOwner,
    final_bind_refuseIfTaken]
  cases name with
  | none => rfl
  | some name =>
      rw [Option.elim_some]
      split
      · rfl
      · next free =>
          cases owned : entryOwner (answers.runs 1) (answers.runs 2) parent world with
          | none => rfl
          | some owner =>
              have fails : answers.runs 3 = false := by
                by_contra runs
                simp [madeFor, Bool.eq_false_iff.mpr free, Bool.of_not_eq_false runs, owned]
                  at nothing
              exact final_insert_of_not_run fails _ world

/-- The row of a folder that is made. -/
def madeRow (answers : CallbackAnswers) (owner : String × Option String) (name : String) : Db.DriveFile :=
  localFile answers.now ("local-folder-" ++ toString answers.nanos) owner.1 name folderMimeType owner.2
    none .cloudOnly

theorem final_mkdir_of_some {owner : String × Option String} (made : madeFor answers parent name world = some owner) :
    ∃ newName, name = some newName ∧ entryOwner (answers.runs 1) (answers.runs 2) parent world = some owner ∧
      final (Vfs.mkdir answers parent name) world =
        final (orEio (insertFile (answers.runs 3) (madeRow answers owner newName))) world := by
  rw [madeFor] at made
  split at made
  · next free =>
      rw [Bool.and_eq_true] at free
      rcases (Option.any_eq_true _ _).mp free.2 with ⟨newName, named, untaken⟩
      subst named
      rw [Bool.not_eq_true'] at untaken
      refine ⟨newName, rfl, made, ?_⟩
      simp only [Vfs.mkdir, insertLocalFolder, final_bind_orErrno, final_bind_refuseIfTaken,
        final_bind_newEntryOwner, made, untaken, Option.elim_some, Bool.false_eq_true, if_false]
      rfl
  · cases made

theorem final_bind_rename_of_not_run {β : Type} {runs : Bool} (fails : runs = false) (now : Int)
    (inode : Nat) (newName : String) (directory : Option String)
    (second : Unit → Routine Errno World β) (world : World) :
    final (orEio (renameRow runs now inode newName directory) >>= second) world = world := by
  subst fails
  rfl

theorem final_rename_of_none {newParent : Nat} {newName : Option String}
    (nothing : renamedRow answers parent name newParent newName world = none) :
    final (Vfs.rename answers parent name newParent newName) world = world := by
  simp only [Vfs.rename, lookupByParentAndName, final_bind_orErrno, final_bind_orEio_select,
    final_bind_refuseIfTaken, final_bind_newParentOf]
  cases name with
  | none => rfl
  | some name =>
      cases newName with
      | none => rfl
      | some newName =>
          rw [Option.elim_some, Option.elim_some]
          split
          · next looksUp =>
              cases found : Database.childNamed world.db parent name with
              | none => rfl
              | some row =>
                  rw [Option.elim_some]
                  split
                  · rfl
                  · next free =>
                      cases directory : newDirectory (answers.runs 4) newParent world with
                      | none => rfl
                      | some newParentId =>
                          have fails : answers.runs 5 = false := by
                            by_contra runs
                            simp [renamedRow, namedRow, looksUp, found, directory,
                              Bool.eq_false_iff.mpr free, Bool.of_not_eq_false runs] at nothing
                          exact final_bind_rename_of_not_run fails _ _ _ _ _ world
          · rfl

section Found

variable {row : Row DriveFile}

theorem rowAtInode_of_mem {db : Database} (member : row ∈ db.driveFiles.rows)
    (live : row.data.isTrashed = false) : Database.rowAtInode db row.rowid = some row := by
  cases found : Database.rowAtInode db row.rowid with
  | none =>
      have absent := List.find?_eq_none.mp found row member
      rw [decide_eq_true rfl, live] at absent
      exact absurd rfl absent
  | some other =>
      rcases Table.of_findRow?_eq_some found with ⟨stored, holds⟩
      have same := of_decide_eq_true (Bool.and_eq_true_iff.mp holds).1
      have here := Table.rowAt_of_mem stored
      rw [same, Table.rowAt_of_mem member] at here
      rw [Option.some.inj here]

theorem of_namedRow {db : Database} (found : namedRow answers parent name db = some row) :
    row ∈ db.driveFiles.rows ∧ row.data.isTrashed = false := by
  rw [namedRow] at found
  split at found
  · rcases Option.bind_eq_some_iff.mp found with ⟨wanted, _, child⟩
    rcases Table.of_findRow?_eq_some child with ⟨member, holds⟩
    rw [Bool.and_eq_true, Bool.not_eq_true'] at holds
    exact ⟨member, holds.2⟩
  · cases found

/-- The local copy of a file is removed, if it has one. -/
def removeCacheFile (failure : Option String) (details : DriveFile) : Routine Errno World Unit :=
  details.localPath.elim (pure ()) fun localPath => attempt (removeFile failure localPath)

theorem final_unlink_of_some (found : unlinkedRow answers parent name world.db = some row) :
    final (unlink answers parent name) world =
      final (announce answers row.rowid .delete (removeCacheFile (answers.failures 0)) >>= fun _ =>
        orEio (softDeleteByInode (answers.runs 3) row.rowid)) world := by
  rcases Option.filter_eq_some_iff.mp found with ⟨named, regular⟩
  rw [Bool.not_eq_true'] at regular
  rw [namedRow] at named
  split at named
  · next runs =>
      rcases Option.bind_eq_some_iff.mp named with ⟨wanted, given, child⟩
      simp only [unlink, lookupByParentAndName, final_bind_orErrno, final_bind_orEio_select,
        final_bind_refuseIf, given, Option.elim_some, runs, if_true, child, regular,
        Bool.false_eq_true, if_false]
      refine congrArg (fun removes =>
        final (announce answers row.rowid .delete removes >>= fun _ =>
          orEio (softDeleteByInode (answers.runs 3) row.rowid)) world) (funext fun details => ?_)
      rw [removeCacheFile]
      cases details.localPath with
      | none => rfl
      | some localPath => rfl
  · cases named

theorem final_rename_of_some {newParent : Nat} {newName : Option String}
    (found : renamedRow answers parent name newParent newName world = some row) :
    ∃ wanted newParentId, newName = some wanted ∧
      newDirectory (answers.runs 4) newParent world = some newParentId ∧
      final (rename answers parent name newParent newName) world =
        final (orEio (renameRow (answers.runs 5) answers.now row.rowid wanted newParentId) >>= fun _ =>
          announce answers row.rowid .rename (renameCacheFile (answers.failures 0) wanted)) world := by
  rw [renamedRow] at found
  split at found
  · next free =>
      rw [Bool.and_eq_true, Bool.and_eq_true] at free
      rcases Option.isSome_iff_exists.mp free.1.2 with ⟨newParentId, directory⟩
      rcases (Option.any_eq_true _ _).mp free.2 with ⟨wanted, given, untaken⟩
      rw [Bool.not_eq_true'] at untaken
      rw [namedRow] at found
      split at found
      · next runs =>
          rcases Option.bind_eq_some_iff.mp found with ⟨old, named, child⟩
          refine ⟨wanted, newParentId, given, directory, ?_⟩
          simp only [rename, lookupByParentAndName, final_bind_orErrno, final_bind_orEio_select,
            final_bind_refuseIfTaken, final_bind_newParentOf, given, named, Option.elim_some, runs, if_true,
            child, untaken, directory, Bool.false_eq_true, if_false]
      · cases found
  · cases found

/-- An announcement enqueues a task for the row that it finds, and goes on with it. -/
theorem final_announce {operation : TaskOperation} {andThen : DriveFile → Routine Errno World Unit}
    {ino : Nat} :
    final (announce answers ino operation andThen) world =
      (if answers.runs 1 then (Database.rowAtInode world.db ino).map Row.data else none).elim world
        fun details => final (andThen details) (world.withDb
          (final (enqueueTask (answers.runs 2) answers.now details.accountId details.id operation
            details.localPath) world.db)) := by
  have reads : final (onDb (getFileDetailsByInode (answers.runs 1) ino)) world = world := by
    rw [final_onDb, getFileDetailsByInode, final_select]
    rfl
  rw [announce, final_bind_of_ok (outcome_observe _ _), final_observe, reads, outcome_onDb,
    getFileDetailsByInode, outcome_select]
  by_cases looksUp : answers.runs 1 = true
  · rw [if_pos looksUp, if_pos looksUp]
    cases found : (Database.rowAtInode world.db ino).map Row.data with
    | none => rfl
    | some details =>
        dsimp only
        rw [final_bind_of_ok (outcome_attempt _ _), final_attempt, final_onDb]
        rfl
  · rw [if_neg looksUp, if_neg looksUp]
    rfl

/-- What follows an announcement works on the row as it was looked up. -/
theorem moves_announce {allowed : World → World → Prop} [Std.Refl allowed]
    {operation : TaskOperation} {andThen : DriveFile → Routine Errno World Unit} {ino : Nat}
    (goesOn : ∀ details, answers.runs 1 = true → (Database.rowAtInode world.db ino).map Row.data = some details →
      ∀ db, allowed world (final (andThen details) (world.withDb db))) :
    allowed world (final (announce answers ino operation andThen) world) := by
  rw [final_announce]
  split
  · next looksUp =>
      cases found : (Database.rowAtInode world.db ino).map Row.data with
      | none => exact Std.Refl.refl world
      | some details => exact goesOn details looksUp found _
  · exact Std.Refl.refl world

/-- An announcement reports no error that what follows it does not report. -/
theorem outcome_announce {operation : TaskOperation} {andThen : DriveFile → Routine Errno World Unit}
    {ino : Nat} (completes : ∀ details world, outcome (andThen details) world = .ok ()) :
    outcome (announce answers ino operation andThen) world = .ok () := by
  rw [announce, outcome_bind_of_ok (outcome_observe _ _)]
  split
  · rw [outcome_bind_of_ok (outcome_attempt _ _)]
    exact completes _ _
  · rfl

theorem outcome_removeCacheFile (failure : Option String) (details : DriveFile) :
    outcome (removeCacheFile failure details) world = .ok () := by
  rw [removeCacheFile]
  cases details.localPath with
  | none => rfl
  | some localPath => rfl

end Found

end Targets

section Requests

open Ipc

variable (ctx : RouterContext) (answers : RpcAnswers) (path : Option String)

/-- The file that a request is about, when it is found. -/
def requestedFile (db : Database) : Option DriveFile :=
  path.bind fun path => (outcome (resolveFileForPath ctx answers path) db).toOption

/-- The file to move to the trash, when the change is executed. -/
def deletedItem (db : Database) : Option DriveFile :=
  if answers.runs 2 then requestedFile ctx answers path db else none

/-- The account of the item to create, when the row can be stored. -/
def createdItemFor (name : Option String) (db : Database) : Option String :=
  if answers.runs 1 && name.isSome then
    (outcome (getFirstAccountId (answers.runs 0)) db).toOption.join
  else none

variable {ctx answers path} {db : Database}

theorem final_bind_orRpcError {α β : Type} (error : RpcError) (found : Option α)
    (second : α → Routine RpcError Database β) (db : Database) :
    final (orRpcError error found >>= second) db =
      found.elim db fun value => final (second value) db := by
  cases found <;> rfl

theorem final_bind_resolveFileForPath {β : Type} (path : String)
    (second : DriveFile → Routine RpcError Database β) (db : Database) :
    final (resolveFileForPath ctx answers path >>= second) db =
      (outcome (resolveFileForPath ctx answers path) db).toOption.elim db fun file =>
        final (second file) db :=
  final_bind_of_reads (final_resolveFileForPath ctx answers path db) second

theorem final_bind_getFirstAccountId {β : Type} (runs : Bool)
    (second : Option String → Routine RpcError Database β) (db : Database) :
    final (orInternal (getFirstAccountId runs) >>= second) db =
      (outcome (getFirstAccountId runs) db).toOption.elim db fun account =>
        final (second account) db := by
  cases runs <;> rfl

theorem final_handleFpCreateItem_of_none {name : Option String} {isFolder : Option Bool}
    {localPath : Option String} (nothing : createdItemFor answers name db = none) :
    final (handleFpCreateItem answers name isFolder localPath) db = db := by
  simp only [handleFpCreateItem, requiredParam, final_bind_orRpcError,
    final_bind_getFirstAccountId]
  cases name with
  | none => rfl
  | some name =>
      rw [Option.elim_some]
      cases found : (outcome (getFirstAccountId (answers.runs 0)) db).toOption with
      | none => rfl
      | some account =>
          cases account with
          | none => rfl
          | some accountId =>
              have fails : answers.runs 1 = false := by
                by_contra runs
                simp [createdItemFor, Bool.of_not_eq_false runs, found] at nothing
              simp only [Option.elim_some, fails]
              split <;> rfl

end Requests

end GDriver
