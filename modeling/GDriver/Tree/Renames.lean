import GDriver.Local.Reading
import GDriver.Tree.Calls

namespace GDriver
namespace Tree

open Library Routine Db Vfs Local

/-!
# What a rename moves

A rename changes a row, and then moves its cached file under the new name, but the row keeps the path
that the file had.  From then on the row is modified, and what is at its path is its content.
-/

/-! ## The law of a rename -/

/-- The row is an entry of the directory under this name. -/
def IsEntry (db : Database) (directory : Nat) (name : String) (file : DriveFile) : Prop :=
  Database.isChildOf db directory file = true ∧ file.name = name ∧ file.isTrashed = false

/-- The file of the row is found under its new name and no longer under the old one, it is read as
before, and its bytes are at the path of its row. -/
structure FollowsFile {ε : Type} (reader : Reader ε) (paths : PathFunctions) (cacheDir : String) (parent : Nat)
    (name : String) (newParent : Nat) (newName : String) (row : Row DriveFile) (before after : World) : Prop where
  found : (Database.childNamed after.db newParent newName).map Row.rowid = some row.rowid
  gone : (Database.childNamed after.db parent name).map Row.rowid ≠ some row.rowid
  reads : ReadsAsBefore reader (contentAt paths cacheDir row.data) before after
  holds : ∃ later, Database.rowAtInode after.db row.rowid = some later ∧ (row.data.syncState ≠ .cloudOnly →
    (after.disk (contentAt paths cacheDir later.data)).map DiskFile.bytes =
      (before.disk (contentAt paths cacheDir row.data)).map DiskFile.bytes)

/-- The rows of all other files and their cached bytes are unchanged. -/
def SparesOthers (paths : PathFunctions) (cacheDir : String) (ino : Nat) (before after : World) : Prop :=
  ∀ other ∈ before.db.driveFiles.rows, other.rowid ≠ ino → other ∈ after.db.driveFiles.rows ∧
    (after.disk (contentAt paths cacheDir other.data)).map DiskFile.bytes =
      (before.disk (contentAt paths cacheDir other.data)).map DiskFile.bytes

/-- A task is waiting that deletes the file on Drive. -/
def DeleteWaits (db : Database) (file : DriveFile) : Prop :=
  ∃ taskId task, db.task taskId = some task ∧ task.operation = .delete ∧ task.fileId = some file.id ∧
    task.accountId = file.accountId ∧ task.status = .pending

/-! ## When it holds -/

/-- A cached file that is moved. -/
structure CacheMove where
  source : String
  target : String
  file : DiskFile

/-- The cached file that a rename moves away from the path of its row. -/
def cacheMove (paths : PathFunctions) (answers : CallbackAnswers) (newName : String) (file : DriveFile)
    (disk : String → Option DiskFile) : Option CacheMove :=
  if answers.runs 1 && (answers.failures 0).isNone then
    file.localPath.bind fun source => (paths.parent source).bind fun directory =>
      if placeOf (paths.join directory newName) = placeOf source then none
      else (disk source).map fun content => ⟨source, paths.join directory newName, content⟩
  else none

/-- The row is not the replaced one, its new directory is one of its account, in which nothing comes
before it under its new name, and the place is not the old one. -/
structure FindsNewPlace (parent : Nat) (name : String) (newParent : Nat) (newName : String) (replaced : Option Nat)
    (row : Row DriveFile) (db : Database) : Prop where
  kept : replaced ≠ some row.rowid
  account : newParent = rootInode ∨ ∃ directory, Database.rowAtInode db newParent = some directory ∧
    directory.data.accountId = row.data.accountId
  first : ∀ other ∈ db.driveFiles.rows, other.rowid < row.rowid → replaced ≠ some other.rowid →
    ¬ IsEntry db newParent newName other.data
  away : newParent ≠ parent ∨ newName ≠ name

/-- A file in the cache is left where it is, unless its content is in the cloud only; and then it is
moved away, if the file is read at all. -/
structure KeepsContent (opens : DriveFile → Prop) (paths : PathFunctions) (cacheDir : String)
    (answers : CallbackAnswers) (newName : String) (file : DriveFile) (disk : String → Option DiskFile) : Prop where
  kept : (cacheMove paths answers newName file disk).isSome = true → file.syncState = .cloudOnly
  stale : opens file → file.syncState = .cloudOnly → (disk (contentAt paths cacheDir file)).isSome = true →
    (cacheMove paths answers newName file disk).isSome = true

/-- The file that is moved is no other file's, and replaces no other bytes of one. -/
def MovesOwn (paths : PathFunctions) (cacheDir : String) (answers : CallbackAnswers) (newName : String)
    (row : Row DriveFile) (world : World) : Prop :=
  ∀ move, cacheMove paths answers newName row.data world.disk = some move →
    ∀ other ∈ world.db.driveFiles.rows, other.rowid ≠ row.rowid →
      placeOf (contentAt paths cacheDir other.data) ≠ placeOf move.source ∧
        (placeOf (contentAt paths cacheDir other.data) = placeOf move.target →
          (world.disk move.target).map DiskFile.bytes = some move.file.bytes)

/-! ## The state after a rename -/

/-- The database in which a replaced row is trashed. -/
def withReplaced (replaced : Option Nat) (db : Database) : Database :=
  replaced.elim db (trashedAt db)

/-- The row is changed, and the change announced. -/
def relocated (paths : PathFunctions) (answers : CallbackAnswers) (ino : Nat) (newName : String)
    (newParentId : Option String) (world : World) : World :=
  final (announce answers ino .rename (Windows.renameCacheFile paths (answers.failures 0) newName))
    (world.withDb (movedAt world.db ino answers.now newName newParentId))

section Relocated

variable {paths : PathFunctions} {answers : CallbackAnswers} {ino : Nat} {newName : String}
  {newParentId : Option String} {world : World}

theorem keeps_renameCacheFile {allowed : World → World → Prop} [IsPreorder World allowed]
    (moves : ∀ (world : World) path file, allowed world (world.putOnDisk path file)) (failure : Option String)
    (details : DriveFile) : Keeps allowed (Windows.renameCacheFile paths failure newName details) := by
  rw [Windows.renameCacheFile]
  split
  · exact keeps_pure ()
  · split
    · exact keeps_pure ()
    · exact keeps_attempt (keeps_renameFile (fun _ _ => moves _ _ _) (fun _ _ => moves _ _ _) _)

theorem driveFiles_relocated : (relocated paths answers ino newName newParentId world).db.driveFiles =
    (movedAt world.db ino answers.now newName newParentId).driveFiles :=
  sameRows_announce ino (by decide) (fun details => keeps_renameCacheFile (fun _ _ _ => rfl) _ details) _

/-- The cache after a file is moved in it. -/
def CacheMove.carry (move : CacheMove) (disk : String → Option DiskFile) : String → Option DiskFile :=
  putAt (putAt disk move.source none) move.target (some move.file)

/-- A file that is moved to where it is stays there. -/
theorem carry_self {source target : String} {file : DiskFile} (same : placeOf target = placeOf source)
    (there : world.disk source = some file) : (CacheMove.mk source target file).carry world.disk = world.disk := by
  funext other
  rw [CacheMove.carry]
  by_cases here : placeOf other = placeOf target
  · rw [putAt_of_same here, ← there]
    exact (world.disk_congr (here.trans same)).symm
  · rw [putAt_of_apart here, putAt_of_apart fun back => here (back.trans same.symm)]

theorem disk_renameCacheFile (details : DriveFile) (looksUp : answers.runs 1 = true) :
    (final (Windows.renameCacheFile paths (answers.failures 0) newName details) world).disk =
      (cacheMove paths answers newName details world.disk).elim world.disk fun move => move.carry world.disk := by
  rw [Windows.renameCacheFile, cacheMove, looksUp, Bool.true_and]
  cases details.localPath with
  | none => rw [final_pure, Option.bind_none, ite_self, Option.elim_none]
  | some source =>
      rw [Option.bind_some]
      dsimp only
      cases paths.parent source with
      | none => rw [final_pure, Option.bind_none, ite_self, Option.elim_none]
      | some directory =>
          rw [Option.bind_some]
          dsimp only
          rw [final_attempt]
          cases fails : answers.failures 0 with
          | some failure => rfl
          | none =>
              rw [Option.isNone_none, if_pos rfl]
              cases there : world.disk source with
              | none =>
                  have lost : finds none source world = false := by
                    rw [finds, there]
                    rfl
                  rw [renameFile, final_onFile_of_lost lost, Option.map_none, ite_self, Option.elim_none]
              | some file =>
                  have found : finds none source world = true := by
                    rw [finds, there]
                    rfl
                  have carried : ((world.putOnDisk source none).putOnDisk (paths.join directory newName)
                      (some file)).disk = (CacheMove.mk source (paths.join directory newName) file).carry
                        world.disk := by
                    rw [World.disk_putOnDisk, World.disk_putOnDisk, CacheMove.carry]
                  rw [final_renameFile_of_finds found, there, carried]
                  split
                  · next same =>
                      rw [Option.elim_none]
                      exact carry_self same there
                  · rfl

/-- The file of a row that is there is moved as its path and the new name have it. -/
theorem disk_relocated {later : Row DriveFile} {row : Row DriveFile}
    (located : Database.rowAtInode (movedAt world.db ino answers.now newName newParentId) ino = some later)
    (samePath : later.data.localPath = row.data.localPath) :
    (relocated paths answers ino newName newParentId world).disk =
      (cacheMove paths answers newName row.data world.disk).elim world.disk fun move => move.carry world.disk := by
  have sameMove : cacheMove paths answers newName later.data world.disk =
      cacheMove paths answers newName row.data world.disk := by
    rw [cacheMove, cacheMove, samePath]
  rw [relocated, final_announce, World.withDb_db, located, Option.map_some, ← sameMove]
  cases looksUp : answers.runs 1 with
  | false =>
      rw [cacheMove, looksUp]
      rfl
  | true =>
      rw [if_pos rfl, Option.elim_some]
      exact disk_renameCacheFile later.data looksUp

theorem db_renameCacheFile (failure : Option String) (details : DriveFile) :
    (final (Windows.renameCacheFile paths failure newName details) world).db = world.db :=
  @keeps_renameCacheFile paths newName (fun world later => later.db = world.db)
    { refl := fun _ => rfl, trans := fun _ _ _ one two => two.trans one } (fun _ _ _ => rfl) failure details world

/-- A rename makes no task that deletes. -/
theorem deleteWaits_relocated {file : DriveFile} :
    DeleteWaits (relocated paths answers ino newName newParentId world).db file ↔ DeleteWaits world.db file := by
  rw [relocated, final_announce]
  cases (if answers.runs 1 then (Database.rowAtInode (world.withDb
      (movedAt world.db ino answers.now newName newParentId)).db ino).map Row.data else none) with
  | none => rfl
  | some details =>
      rw [Option.elim_some, db_renameCacheFile, World.withDb_db, World.withDb_db, Vfs.enqueueTask, final_enqueue]
      split
      · constructor
        · rintro ⟨taskId, task, stored, deletes, rest⟩
          rcases Db.Database.task_putTask_cases stored with new | before
          · rw [new] at deletes
            cases deletes
          · exact ⟨taskId, task, before, deletes, rest⟩
        · rintro ⟨taskId, task, stored, deletes⟩
          exact ⟨taskId, task, Db.Database.task_putTask_of_some stored _, deletes⟩
      · rfl

end Relocated

section Places

variable {db : Database} {row other : Row DriveFile} {directory parent newParent ino : Nat}
  {name newName wanted : String}
  {replaced : Option Nat} {now : Int} {newParentId : Option String}

theorem childNamed_eq_some_iff : Database.childNamed db directory wanted = some row ↔
    row ∈ db.driveFiles.rows ∧ IsEntry db directory wanted row.data ∧
      ∀ other ∈ db.driveFiles.rows, other.rowid < row.rowid → ¬ IsEntry db directory wanted other.data := by
  have entry (file : DriveFile) : (Database.isChildOf db directory file && decide (file.name = wanted) &&
      !file.isTrashed) = true ↔ IsEntry db directory wanted file := by
    rw [Bool.and_eq_true, Bool.and_eq_true, decide_eq_true_eq, Bool.not_eq_true', IsEntry, and_assoc]
  rw [Database.childNamed, Table.findRow?_eq_some_iff, entry]
  refine and_congr_right fun _ => and_congr_right fun _ => ?_
  refine forall_congr' fun other => forall_congr' fun _ => forall_congr' fun _ => ?_
  rw [← entry, Bool.not_eq_true]

theorem childNamed_congr {later : Database} (same : later.driveFiles = db.driveFiles) :
    Database.childNamed later directory wanted = Database.childNamed db directory wanted := by
  simp only [Database.childNamed, Database.isChildOf, same]

theorem rowAtInode_congr {later : Database} (same : later.driveFiles = db.driveFiles) :
    Database.rowAtInode later ino = Database.rowAtInode db ino := by
  rw [Database.rowAtInode, same]
  rfl

/-- A row that is not replaced stays. -/
theorem mem_withReplaced (member : other ∈ db.driveFiles.rows) (kept : replaced ≠ some other.rowid) :
    other ∈ (withReplaced replaced db).driveFiles.rows := by
  cases replaced with
  | none => exact member
  | some number => exact mem_rows_changedAt.mpr (Or.inl ⟨member, fun same => kept (congrArg some same.symm)⟩)

/-- What is live after the replacement was there before. -/
theorem of_mem_withReplaced (member : other ∈ (withReplaced replaced db).driveFiles.rows)
    (live : other.data.isTrashed = false) : other ∈ db.driveFiles.rows ∧ replaced ≠ some other.rowid := by
  cases replaced with
  | none => exact ⟨member, fun impossible => by cases impossible⟩
  | some number =>
      rcases of_mem_trashedAt member live with ⟨stored, apart⟩
      exact ⟨stored, fun same => apart (Option.some.inj same).symm⟩

theorem isEntry_after {file : DriveFile} :
    IsEntry (movedAt (withReplaced replaced db) ino now newName newParentId) directory wanted file ↔
      IsEntry db directory wanted file := by
  rw [IsEntry, IsEntry]
  refine and_congr_left fun _ => isChildOf_changedAt.trans ?_
  cases replaced with
  | none => rfl
  | some number => exact isChildOf_changedAt

/-- What is live at the number of the row afterwards is the row, moved. -/
theorem of_mem_movedAt (member : row ∈ db.driveFiles.rows)
    (stored : other ∈ (movedAt (withReplaced replaced db) row.rowid now newName newParentId).driveFiles.rows)
    (live : other.data.isTrashed = false) (place : other.rowid = row.rowid) :
    replaced ≠ some row.rowid ∧ other = { row with data := moved now newName newParentId row.data } := by
  rcases mem_rows_changedAt.mp stored with ⟨_, apart⟩ | ⟨before, there, number, same⟩
  · exact absurd place apart
  · rw [same] at live
    rcases of_mem_withReplaced there live with ⟨stays, kept⟩
    rw [row_eq_of_rowid stays member number] at same kept
    exact ⟨kept, same⟩

theorem mem_movedAt (member : row ∈ db.driveFiles.rows) (kept : replaced ≠ some row.rowid) :
    { row with data := moved now newName newParentId row.data } ∈
      (movedAt (withReplaced replaced db) row.rowid now newName newParentId).driveFiles.rows :=
  mem_rows_changedAt.mpr (Or.inr ⟨row, mem_withReplaced member kept, rfl, rfl⟩)

/-- Under which names the row is found afterwards. -/
theorem childNamed_after_iff (member : row ∈ db.driveFiles.rows) (kept : replaced ≠ some row.rowid) :
    (Database.childNamed (movedAt (withReplaced replaced db) row.rowid now newName newParentId) directory wanted).map
        Row.rowid = some row.rowid ↔
      IsEntry db directory wanted (moved now newName newParentId row.data) ∧
        ∀ other ∈ db.driveFiles.rows, other.rowid < row.rowid → replaced ≠ some other.rowid →
          ¬ IsEntry db directory wanted other.data := by
  rw [Option.map_eq_some_iff]
  constructor
  · rintro ⟨there, found, place⟩
    rcases childNamed_eq_some_iff.mp found with ⟨stored, entry, first⟩
    have same := (of_mem_movedAt member stored entry.2.2 place).2
    rw [same] at entry first
    refine ⟨isEntry_after.mp entry, fun other stays before apart isEntry => ?_⟩
    refine first other (mem_rows_changedAt.mpr (Or.inl ⟨mem_withReplaced stays apart, Nat.ne_of_lt before⟩)) before ?_
    exact isEntry_after.mpr isEntry
  · rintro ⟨entry, first⟩
    refine ⟨_, childNamed_eq_some_iff.mpr ⟨mem_movedAt member kept, isEntry_after.mpr entry, ?_⟩, rfl⟩
    intro other stored before isEntry
    rcases mem_rows_changedAt.mp stored with ⟨stays, _⟩ | ⟨old, _, number, same⟩
    · rcases of_mem_withReplaced stays isEntry.2.2 with ⟨there, apart⟩
      exact first other there before apart (isEntry_after.mp isEntry)
    · rw [same] at before
      exact absurd number (Nat.ne_of_lt before)

/-- The new directory is the root, or a row whose id the file gets as its parent. -/
def LeadsTo (db : Database) (newParent : Nat) (newParentId : Option String) : Prop :=
  newParent = rootInode ∧ newParentId = none ∨
    newParent ≠ rootInode ∧ ∃ target, Database.rowAtInode db newParent = some target ∧ newParentId = some target.data.id

theorem leadsTo_of_withReplaced (leads : LeadsTo (withReplaced replaced db) newParent newParentId) :
    LeadsTo db newParent newParentId := by
  refine leads.imp_right fun ⟨inside, target, there, named⟩ => ⟨inside, target, ?_, named⟩
  rcases Table.of_findRow?_eq_some there with ⟨stored, holds⟩
  rw [Bool.and_eq_true, Bool.not_eq_true'] at holds
  rw [← of_decide_eq_true holds.1]
  exact rowAtInode_of_mem (of_mem_withReplaced stored holds.2).1 holds.2

theorem isChildOf_moved_iff (leads : LeadsTo db newParent newParentId) {file : DriveFile} :
    Database.isChildOf db newParent (moved now newName newParentId file) = true ↔
      newParent = rootInode ∨ ∃ directory, Database.rowAtInode db newParent = some directory ∧
        directory.data.accountId = file.accountId := by
  rcases leads with ⟨top, nothing⟩ | ⟨inside, target, there, named⟩
  · rw [top, isChildOf_root]
    exact iff_of_true nothing (Or.inl rfl)
  · rcases Table.of_findRow?_eq_some there with ⟨stored, holds⟩
    have number := of_decide_eq_true (Bool.and_eq_true_iff.mp holds).1
    rw [isChildOf_iff_of_ne inside]
    constructor
    · rintro ⟨directory, present, place, _, alike⟩
      refine Or.inr ⟨target, there, ?_⟩
      rw [row_eq_of_rowid stored present (number.trans place.symm)]
      exact alike
    · rintro (top | ⟨directory, found, alike⟩)
      · exact absurd top inside
      · rw [there] at found
        cases found
        exact ⟨target, stored, number, named, alike⟩

/-- A row is found in its new place and not in the old one exactly if it gets there. -/
theorem findsNewPlace_iff (named : Database.childNamed db parent name = some row) (kept : replaced ≠ some row.rowid)
    (leads : LeadsTo db newParent newParentId) :
    (Database.childNamed (movedAt (withReplaced replaced db) row.rowid now newName newParentId) newParent newName).map
          Row.rowid = some row.rowid ∧
        (Database.childNamed (movedAt (withReplaced replaced db) row.rowid now newName newParentId) parent name).map
          Row.rowid ≠ some row.rowid ↔
      FindsNewPlace parent name newParent newName replaced row db := by
  rcases childNamed_eq_some_iff.mp named with ⟨member, entry, _⟩
  rw [childNamed_after_iff member kept]
  constructor
  · rintro ⟨⟨⟨child, _, _⟩, first⟩, gone⟩
    refine ⟨kept, (isChildOf_moved_iff leads).mp child, first, ?_⟩
    by_contra stays
    rw [not_or, not_not, not_not] at stays
    rw [← stays.1, ← stays.2, ne_eq, childNamed_after_iff member kept] at gone
    exact gone ⟨⟨child, rfl, entry.2.2⟩, first⟩
  · rintro ⟨_, account, first, away⟩
    have child := (@isChildOf_moved_iff db newParent newName now newParentId leads row.data).mpr account
    refine ⟨⟨⟨child, rfl, entry.2.2⟩, first⟩, fun still => ?_⟩
    rcases ((childNamed_after_iff member kept).mp still).1 with ⟨childToo, sameName, _⟩
    rcases away with elsewhere | renamed
    · exact elsewhere (isChildOf_unique child childToo)
    · exact renamed sameName

end Places

section Follows

variable {ε : Type} {reader : Reader ε} {opens : DriveFile → Prop} {paths : PathFunctions} {cacheDir : String}
  {answers : CallbackAnswers} {row : Row DriveFile} {parent newParent : Nat} {name newName : String}
  {replaced : Option Nat} {newParentId : Option String} {world : World}

/-- The state after a replacement and a rename. -/
def afterRename (paths : PathFunctions) (answers : CallbackAnswers) (ino : Nat) (newName : String)
    (newParentId : Option String) (replaced : Option Nat) (world : World) : World :=
  relocated paths answers ino newName newParentId (world.withDb (withReplaced replaced world.db))

theorem driveFiles_afterRename :
    (afterRename paths answers row.rowid newName newParentId replaced world).db.driveFiles =
      (movedAt (withReplaced replaced world.db) row.rowid answers.now newName newParentId).driveFiles :=
  driveFiles_relocated

/-- Only a cached file that is there, at the path of its row, is moved. -/
theorem of_cacheMove {file : DriveFile} {disk : String → Option DiskFile} {move : CacheMove}
    (moves : cacheMove paths answers newName file disk = some move) :
    file.localPath = some move.source ∧ disk move.source = some move.file ∧
      placeOf move.source ≠ placeOf move.target := by
  rw [cacheMove] at moves
  split at moves
  · rcases Option.bind_eq_some_iff.mp moves with ⟨source, located, moves⟩
    rcases Option.bind_eq_some_iff.mp moves with ⟨directory, _, moves⟩
    split at moves
    · cases moves
    · next apart =>
        rcases Option.map_eq_some_iff.mp moves with ⟨content, there, same⟩
        rw [← same]
        exact ⟨located, there, fun back => apart back.symm⟩
  · cases moves

theorem carry_source {move : CacheMove} {disk : String → Option DiskFile} {other : String}
    (here : placeOf other = placeOf move.source) (apart : placeOf move.source ≠ placeOf move.target) :
    move.carry disk other = none := by
  rw [CacheMove.carry, putAt_of_apart fun onto => apart (here.symm.trans onto), putAt_of_same here]

theorem carry_target {move : CacheMove} {disk : String → Option DiskFile} {other : String}
    (here : placeOf other = placeOf move.target) : move.carry disk other = some move.file := by
  rw [CacheMove.carry, putAt_of_same here]

theorem carry_away {move : CacheMove} {disk : String → Option DiskFile} {other : String}
    (away : placeOf other ≠ placeOf move.source) (apart : placeOf other ≠ placeOf move.target) :
    move.carry disk other = disk other := by
  rw [CacheMove.carry, putAt_of_apart apart, putAt_of_apart away]

/-- The row afterwards. -/
theorem rowAtInode_afterRename (member : row ∈ world.db.driveFiles.rows) (live : row.data.isTrashed = false)
    (kept : replaced ≠ some row.rowid) :
    Database.rowAtInode (movedAt (withReplaced replaced world.db) row.rowid answers.now newName newParentId) row.rowid =
      some { row with data := moved answers.now newName newParentId row.data } :=
  rowAtInode_of_mem (mem_movedAt member kept) live

theorem disk_afterRename (member : row ∈ world.db.driveFiles.rows) (live : row.data.isTrashed = false)
    (kept : replaced ≠ some row.rowid) :
    (afterRename paths answers row.rowid newName newParentId replaced world).disk =
      (cacheMove paths answers newName row.data world.disk).elim world.disk fun move => move.carry world.disk :=
  disk_relocated (rowAtInode_afterRename member live kept) rfl

/-- Whether a file is read as before and holds its bytes is decided by what is moved in the cache. -/
theorem keepsContent_iff (reads : ReadsFiles reader opens paths cacheDir row.rowid)
    (sameOpens : ∀ file, opens (moved answers.now newName newParentId file) ↔ opens file)
    (member : row ∈ world.db.driveFiles.rows) (live : row.data.isTrashed = false) (kept : replaced ≠ some row.rowid) :
    (ReadsAsBefore reader (contentAt paths cacheDir row.data) world
          (afterRename paths answers row.rowid newName newParentId replaced world) ∧
        (row.data.syncState ≠ .cloudOnly →
          ((afterRename paths answers row.rowid newName newParentId replaced world).disk
              (contentAt paths cacheDir row.data)).map DiskFile.bytes =
            (world.disk (contentAt paths cacheDir row.data)).map DiskFile.bytes)) ↔
      KeepsContent opens paths cacheDir answers newName row.data world.disk := by
  have still : Database.rowAtInode (afterRename paths answers row.rowid newName newParentId replaced world).db
      row.rowid = some { row with data := moved answers.now newName newParentId row.data } := by
    rw [rowAtInode_congr driveFiles_afterRename]
    exact rowAtInode_afterRename member live kept
  have readsSame := @readsAsBefore_iff world ε reader opens paths cacheDir row.rowid row
    { row with data := moved answers.now newName newParentId row.data }
    (afterRename paths answers row.rowid newName newParentId replaced world) reads
    (rowAtInode_of_mem member live) still rfl
    (sameOpens row.data) (fun impossible => by cases impossible)
  have disk := @disk_afterRename paths answers row newName replaced newParentId world member live kept
  cases moves : cacheMove paths answers newName row.data world.disk with
  | none =>
      rw [moves, Option.elim_none] at disk
      rw [disk] at readsSame ⊢
      rw [readsSame fun _ => rfl]
      constructor
      · rintro ⟨gone, _⟩
        refine ⟨fun impossible => ?_, fun opened remote there => ?_⟩
        · rw [moves] at impossible
          cases impossible
        · rw [gone opened remote] at there
          cases there
      · intro keeps
        refine ⟨fun opened remote => ?_, fun _ => rfl⟩
        by_contra there
        have impossible := keeps.stale opened remote (Option.isSome_iff_ne_none.mpr there)
        rw [moves] at impossible
        cases impossible
  | some move =>
      rcases of_cacheMove moves with ⟨located, there, apart⟩
      have here : contentAt paths cacheDir row.data = move.source := by
        rw [contentAt, located, Option.getD_some]
      rw [moves, Option.elim_some] at disk
      have gone : (afterRename paths answers row.rowid newName newParentId replaced world).disk
          (contentAt paths cacheDir row.data) = none := by
        rw [disk, here]
        exact carry_source rfl apart
      constructor
      · rintro ⟨_, holds⟩
        refine ⟨fun _ => ?_, fun _ _ _ => ?_⟩
        · by_contra local_
          have impossible := holds local_
          rw [gone, here, there] at impossible
          cases impossible
        · rw [moves]
          rfl
      · intro keeps
        have remote := keeps.kept (by rw [moves]; rfl)
        refine ⟨(readsSame fun local_ => absurd remote local_).mpr fun _ _ => gone, fun local_ => ?_⟩
        exact absurd remote local_

/-- A rename after a replacement follows its file exactly if the file finds its new place and keeps
its content. -/
theorem followsFile_iff (reads : ReadsFiles reader opens paths cacheDir row.rowid)
    (sameOpens : ∀ file, opens (moved answers.now newName newParentId file) ↔ opens file)
    (named : Database.childNamed world.db parent name = some row)
    (leads : LeadsTo (withReplaced replaced world.db) newParent newParentId) :
    FollowsFile reader paths cacheDir parent name newParent newName row world
        (afterRename paths answers row.rowid newName newParentId replaced world) ↔
      FindsNewPlace parent name newParent newName replaced row world.db ∧
        KeepsContent opens paths cacheDir answers newName row.data world.disk := by
  rcases childNamed_eq_some_iff.mp named with ⟨member, entry, _⟩
  have places (kept : replaced ≠ some row.rowid) :=
      @findsNewPlace_iff world.db row parent newParent name newName replaced
    answers.now newParentId named kept (leadsTo_of_withReplaced leads)
  have content (kept : replaced ≠ some row.rowid) := @keepsContent_iff ε reader opens paths cacheDir answers row newName
    replaced newParentId world reads sameOpens member entry.2.2 kept
  have sameNames (directory : Nat) (wanted : String) := @childNamed_congr _ directory wanted _
    (@driveFiles_afterRename paths answers row newName replaced newParentId world)
  constructor
  · rintro ⟨found, gone, same, later, there, holds⟩
    rw [rowAtInode_congr driveFiles_afterRename] at there
    rcases Table.of_findRow?_eq_some there with ⟨stored, live⟩
    rw [Bool.and_eq_true, Bool.not_eq_true'] at live
    rcases of_mem_movedAt member stored live.2 (of_decide_eq_true live.1) with ⟨kept, sameRow⟩
    rw [sameNames] at found gone
    rw [sameRow] at holds
    exact ⟨(places kept).mp ⟨found, gone⟩, (content kept).mp ⟨same, holds⟩⟩
  · rintro ⟨finds, keeps⟩
    rcases (places finds.kept).mpr finds with ⟨found, gone⟩
    rcases (content finds.kept).mpr keeps with ⟨same, holds⟩
    refine ⟨?_, ?_, same, { row with data := moved answers.now newName newParentId row.data }, ?_, holds⟩
    · rw [sameNames]
      exact found
    · rw [sameNames]
      exact gone
    · rw [rowAtInode_congr driveFiles_afterRename]
      exact rowAtInode_afterRename member entry.2.2 finds.kept

/-- The other files stay, if what is moved is no other file's. -/
theorem sparesOthers_iff (named : Database.childNamed world.db parent name = some row) :
    SparesOthers paths cacheDir row.rowid world (afterRename paths answers row.rowid newName newParentId none world) ↔
      MovesOwn paths cacheDir answers newName row world := by
  rcases childNamed_eq_some_iff.mp named with ⟨member, entry, _⟩
  have disk := @disk_afterRename paths answers row newName none newParentId world member entry.2.2
    fun impossible => by cases impossible
  have rows (other : Row DriveFile) (stored : other ∈ world.db.driveFiles.rows) (apart : other.rowid ≠ row.rowid) :
      other ∈ (afterRename paths answers row.rowid newName newParentId none world).db.driveFiles.rows := by
    rw [driveFiles_afterRename]
    exact mem_rows_changedAt.mpr (Or.inl ⟨stored, apart⟩)
  rw [SparesOthers, MovesOwn, disk]
  cases moves : cacheMove paths answers newName row.data world.disk with
  | none =>
      refine iff_of_true (fun other stored apart => ⟨rows other stored apart, rfl⟩) fun move impossible => ?_
      cases impossible
  | some move =>
      rcases of_cacheMove moves with ⟨_, there, apart⟩
      rw [Option.elim_some]
      constructor
      · intro spares same moved other stored other_
        cases moved
        have bytes := (spares other stored other_).2
        refine ⟨fun here => ?_, fun onto => ?_⟩
        · rw [carry_source here apart, world.disk_congr here, there] at bytes
          cases bytes
        · rw [carry_target onto, world.disk_congr onto] at bytes
          exact bytes.symm
      · intro own other stored other_
        refine ⟨rows other stored other_, ?_⟩
        rcases own move rfl other stored other_ with ⟨away, onto⟩
        by_cases target : placeOf (contentAt paths cacheDir other.data) = placeOf move.target
        · rw [carry_target target, world.disk_congr target, onto target]
          rfl
        · rw [carry_away away target]

end Follows

end Tree
end GDriver
