import GDriver.Library.Run
import GDriver.Local.Present
import GDriver.Tree.Edits
import GDriver.Tree.Root

namespace GDriver
namespace Tree

open Library Routine Db Vfs Local Relation

/-!
# Callbacks on the tree

Every callback does one of a few things to the tree: it leaves the tree alone, adds a row,
trashes one without children, or moves one.  A new row gets the account and the id of its
directory from one row.  A move takes the id of its directory, but leaves the file in its own
account, where a folder with this id need not be.
-/

/-- A callback and what it meets. -/
structure MountCall where
  cacheDir : String
  answers : CallbackAnswers
  callback : Callback

namespace MountCall

/-- The state after a callback. -/
def exec (world : World) (call : MountCall) : World :=
  final (call.callback.run call.cacheDir call.answers) world

end MountCall

/-! ## Where a callback works -/

section Places

variable {world : World}

theorem ok_of_toOption {ε α : Type} {result : Except ε α} {value : α} (same : result.toOption = some value) :
    result = .ok value := by
  cases result with
  | error failure => cases same
  | ok other => exact congrArg Except.ok (Option.some.inj same)

/-- A query that was answered was executed. -/
theorem of_outcome_orEio_select {α : Type} {runs : Bool} {read : Database → α} {value : α}
    (answered : outcome (orEio (select runs read)) world = .ok value) : read world.db = value := by
  rw [orEio, outcome_mapError, outcome_onDb, outcome_select] at answered
  cases runs with
  | false => cases answered
  | true => exact Except.ok.inj answered

/-- The account and the parent of a new entry are those of one row, unless it is at the root. -/
theorem of_entryOwner {parentRuns accountRuns : Bool} {parent : Nat} {owner : String × Option String}
    (found : entryOwner parentRuns accountRuns parent world = some owner) :
    owner.2 = none ∨ ∃ target, Database.rowAtInode world.db parent = some target ∧
      owner = (target.data.accountId, some target.data.id) := by
  have answered := ok_of_toOption found
  rw [newEntryOwner, outcome_bind_eq_ok_iff] at answered
  rcases answered with ⟨info, looked, gives⟩
  cases info with
  | none =>
      dsimp only at gives
      split at gives
      · rcases outcome_bind_eq_ok_iff.mp gives with ⟨account, _, rest⟩
        rcases outcome_bind_eq_ok_iff.mp rest with ⟨accountId, _, same⟩
        cases same
        exact Or.inl rfl
      · cases gives
  | some row =>
      cases gives
      rw [getParentInfo] at looked
      split at looked
      · cases looked
      · rcases Option.map_eq_some_iff.mp (of_outcome_orEio_select looked) with ⟨target, there, same⟩
        cases same
        exact Or.inr ⟨target, there, rfl⟩

/-- A file is moved to the root, or to the row with the number of its new directory. -/
theorem of_newDirectory {runs : Bool} {newParent : Nat} {newParentId : Option String}
    (found : newDirectory runs newParent world = some newParentId) :
    newParent = rootInode ∧ newParentId = none ∨
      newParent ≠ rootInode ∧ ∃ target, Database.rowAtInode world.db newParent = some target ∧
        newParentId = some target.data.id := by
  have answered := ok_of_toOption found
  rw [newParentOf] at answered
  split at answered
  · next top =>
      cases answered
      exact Or.inl ⟨top, rfl⟩
  · next inside =>
      refine Or.inr ⟨inside, ?_⟩
      rw [outcome_bind_of_ok (outcome_observe _ _), outcome_onDb, getParentInfo, if_neg inside,
        outcome_select] at answered
      cases runs with
      | false => cases answered
      | true =>
          rw [if_pos rfl] at answered
          cases there : Database.rowAtInode world.db newParent with
          | none =>
              rw [there] at answered
              cases answered
          | some target =>
              rw [there] at answered
              cases answered
              exact ⟨target, rfl, rfl⟩

end Places

/-! ## What a callback does to the rows -/

section Rows

variable {world : World} {answers : CallbackAnswers} {row : Row DriveFile}

theorem db_updateInode (runs : Bool) (inode : Nat) (change : DriveFile → DriveFile)
    (keeps : ∀ file, (change file).key = file.key) :
    (final (orEio (updateInode runs inode change keeps)) world).db =
      if runs then changedAt world.db inode change keeps else world.db := by
  rw [orEio, final_mapError, final_onDb, World.withDb_db]
  exact final_execute _ _ _

/-- A row that is removed is trashed, when the last statement is executed. -/
theorem driveFiles_removal {operation : TaskOperation} (other : operation ≠ .download)
    {andThen : DriveFile → Routine Errno World Unit} (goesOn : ∀ details, Keeps SameRows (andThen details))
    (completes : ∀ details world, outcome (andThen details) world = .ok ()) (inode : Nat) :
    (final (announce answers inode operation andThen >>= fun _ =>
        orEio (softDeleteByInode (answers.runs 3) inode)) world).db.driveFiles =
      if answers.runs 3 then (trashedAt world.db inode).driveFiles else world.db.driveFiles := by
  have same : SameRows world (final (announce answers inode operation andThen) world) :=
    sameRows_announce inode other goesOn world
  rw [final_bind_of_ok (outcome_announce completes), softDeleteByInode, db_updateInode]
  split
  · exact congrArg (fun files => (KeyedTable.update files (fun row => row.rowid = inode) DriveFile.trashed
      DriveFile.key_trashed)) same
  · exact same

theorem driveFiles_unlink {parent : Nat} {name : Option String}
    (found : unlinkedRow answers parent name world.db = some row) :
    (final (unlink answers parent name) world).db.driveFiles =
      if answers.runs 3 then (trashedAt world.db row.rowid).driveFiles else world.db.driveFiles := by
  rw [final_unlink_of_some found]
  refine driveFiles_removal (by decide) (fun details => ?_) (fun details world => outcome_removeCacheFile _ details) _
  rw [removeCacheFile]
  cases details.localPath with
  | none => exact keeps_pure ()
  | some path => exact keeps_attempt (keeps_removeFile (fun _ _ => rfl) _)

theorem final_rmdir_of_some {parent : Nat} {name : Option String}
    (found : removedFolder answers parent name world.db = some row) :
    final (rmdir answers parent name) world =
      final (announce answers row.rowid .delete (fun _ => pure ()) >>= fun _ =>
        orEio (softDeleteByInode (answers.runs 3) row.rowid)) world := by
  rcases Option.filter_eq_some_iff.mp found with ⟨named, empty⟩
  simp only [Bool.and_eq_true, Bool.not_eq_true'] at empty
  rw [namedRow] at named
  split at named
  · next runs =>
      rcases Option.bind_eq_some_iff.mp named with ⟨wanted, given, child⟩
      simp only [rmdir, lookupByParentAndName, hasChildren, final_bind_orErrno, final_bind_orEio_select,
        final_bind_refuseIf, given, Option.elim_some, runs, if_true, child, empty, Bool.not_true,
        Bool.false_eq_true, if_false]
  · cases named

theorem driveFiles_rmdir {parent : Nat} {name : Option String}
    (found : removedFolder answers parent name world.db = some row) :
    (final (rmdir answers parent name) world).db.driveFiles =
      if answers.runs 3 then (trashedAt world.db row.rowid).driveFiles else world.db.driveFiles := by
  rw [final_rmdir_of_some found]
  exact driveFiles_removal (by decide) (fun details => keeps_pure ()) (fun details world => rfl) _

theorem driveFiles_rename {parent : Nat} {name : Option String} {newParent : Nat} {newName : Option String}
    (found : renamedRow answers parent name newParent newName world = some row) :
    ∃ wanted newParentId, newName = some wanted ∧ newDirectory (answers.runs 4) newParent world = some newParentId ∧
      (final (Vfs.rename answers parent name newParent newName) world).db.driveFiles =
        (movedAt world.db row.rowid answers.now wanted newParentId).driveFiles := by
  rcases of_renamedRow found with ⟨executes, _, _⟩
  rcases sameRows_rename found with ⟨wanted, newParentId, given, directory, same⟩
  refine ⟨wanted, newParentId, given, directory, ?_⟩
  have moves : (final (orEio (renameRow (answers.runs 5) answers.now row.rowid wanted newParentId)) world).db =
      if answers.runs 5 then movedAt world.db row.rowid answers.now wanted newParentId else world.db :=
    db_updateInode _ _ _ _
  rw [same, moves, if_pos executes]

/-- A new row of a directory: its account and its parent are those of one row, unless it is
at the root. -/
structure NewIn (db : Database) (parent : Nat) (file : DriveFile) : Prop where
  absent : db.file file.id file.accountId = none
  owned : file.parentId = none ∨ ∃ target, Database.rowAtInode db parent = some target ∧
    file.accountId = target.data.accountId ∧ file.parentId = some target.data.id

/-- The rows are the same, or there is a new one in the directory. -/
def AtMostAdds (parent : Nat) (world later : World) : Prop :=
  later.db.driveFiles = world.db.driveFiles ∨
    ∃ file, NewIn world.db parent file ∧ later.db.driveFiles = (world.db.putFile file).driveFiles

theorem db_insertFile (runs : Bool) (file : DriveFile) :
    (final (orEio (insertFile runs file)) world).db = final (insertFile runs file) world.db := by
  rw [orEio, final_mapError, final_onDb, World.withDb_db]

theorem driveFiles_create {cacheDir : String} {parent : Nat} {name : Option String} {owner : String × Option String}
    (created : createdFor answers parent name world = some owner) :
    ∃ newName, name = some newName ∧ entryOwner (answers.runs 0) (answers.runs 1) parent world = some owner ∧
      (final (Vfs.create answers cacheDir parent name) world).db.driveFiles =
        (final (insertFile (answers.runs 2) (createdRow cacheDir answers owner newName)) world.db).driveFiles := by
  rcases @final_create_of_some _ _ _ _ cacheDir _ created with ⟨newName, named, found, opens⟩
  have same (ino : Nat) : Keeps SameRows (openCreated cacheDir answers owner ino) := by
    refine keeps_bind (keeps_callOrEio _) fun _ => ?_
    refine keeps_bind (keeps_perform fun world => rfl) fun _ => ?_
    refine keeps_bind (keeps_inspect _) fun fh => ?_
    exact keeps_bind (keeps_perform fun world => rfl) fun _ => keeps_pure fh
  refine ⟨newName, named, found, ?_⟩
  rw [opens]
  exact (moves_bind _ same world).trans (congrArg Database.driveFiles (db_insertFile _ _))

theorem driveFiles_mkdir {parent : Nat} {name : Option String} {owner : String × Option String}
    (made : madeFor answers parent name world = some owner) :
    ∃ newName, name = some newName ∧ entryOwner (answers.runs 1) (answers.runs 2) parent world = some owner ∧
      (final (Vfs.mkdir answers parent name) world).db.driveFiles =
        (final (insertFile (answers.runs 3) (madeRow answers owner newName)) world.db).driveFiles := by
  rcases final_mkdir_of_some made with ⟨newName, named, found, inserts⟩
  refine ⟨newName, named, found, ?_⟩
  rw [inserts]
  exact congrArg Database.driveFiles (db_insertFile _ _)

theorem atMostAdds_insert {later : World} {parentRuns accountRuns runs : Bool} {parent : Nat}
    {owner : String × Option String} {file : DriveFile}
    (found : entryOwner parentRuns accountRuns parent world = some owner)
    (owned : file.accountId = owner.1 ∧ file.parentId = owner.2)
    (same : later.db.driveFiles = (final (insertFile runs file) world.db).driveFiles) :
    AtMostAdds parent world later := by
  rw [AtMostAdds, same, final_insertFile]
  split
  · next inserts =>
      rw [Bool.and_eq_true, Bool.and_eq_true, Option.isNone_iff_eq_none] at inserts
      refine Or.inr ⟨file, ⟨inserts.1.2, ?_⟩, rfl⟩
      rcases of_entryOwner found with top | ⟨target, there, same⟩
      · exact Or.inl (owned.2.trans top)
      · rw [same] at owned
        exact Or.inr ⟨target, there, owned⟩
  · exact Or.inl rfl

theorem atMostAdds_create {cacheDir : String} (parent : Nat) (name : Option String) :
    AtMostAdds parent world (final (Vfs.create answers cacheDir parent name) world) := by
  cases created : createdFor answers parent name world with
  | none =>
      rw [final_create_of_none created]
      exact Or.inl rfl
  | some owner =>
      rcases driveFiles_create created with ⟨newName, _, found, same⟩
      exact atMostAdds_insert found ⟨rfl, rfl⟩ same

theorem atMostAdds_mkdir (parent : Nat) (name : Option String) :
    AtMostAdds parent world (final (Vfs.mkdir answers parent name) world) := by
  cases made : madeFor answers parent name world with
  | none =>
      rw [final_mkdir_of_none made]
      exact Or.inl rfl
  | some owner =>
      rcases driveFiles_mkdir made with ⟨newName, _, found, same⟩
      exact atMostAdds_insert found ⟨rfl, rfl⟩ same

end Rows

/-! ## Callbacks that move nothing -/

/-- What the tree was it still is. -/
structure StaysTree (db later : Database) : Prop where
  numbered : Numbered db → Numbered later
  closed : Numbered db → Closed db → Closed later
  reached : Numbered db → Closed db → AllReached db → AllReached later

instance : IsPreorder Database StaysTree where
  refl _ := ⟨id, fun _ closed => closed, fun _ _ reached => reached⟩
  trans _ _ _ one two :=
    { numbered := two.numbered ∘ one.numbered
      closed := fun numbered closed => two.closed (one.numbered numbered) (one.closed numbered closed)
      reached := fun numbered closed reached =>
        two.reached (one.numbered numbered) (one.closed numbered closed) (one.reached numbered closed reached) }

section Stays

variable {db later : Database}

theorem numbered_congr (same : later.driveFiles = db.driveFiles) : Numbered later ↔ Numbered db := by
  rw [Numbered, Numbered, same]

theorem closed_congr (same : later.driveFiles = db.driveFiles) : Closed later ↔ Closed db := by
  simp only [Closed, HasFolder, same]

theorem lists_congr (same : later.driveFiles = db.driveFiles) : Lists later = Lists db := by
  funext directory inode
  simp only [Lists, Database.childrenByInode, Database.isChildOf, same]

theorem allReached_congr (same : later.driveFiles = db.driveFiles) : AllReached later ↔ AllReached db := by
  rw [AllReached, AllReached, lists_congr same, same]

theorem StaysTree.of_same (same : later.driveFiles = db.driveFiles) : StaysTree db later where
  numbered := (numbered_congr same).mpr
  closed _ := (closed_congr same).mpr
  reached _ _ := (allReached_congr same).mpr

theorem StaysTree.of_driveFiles {other : Database} (stays : StaysTree db other)
    (same : later.driveFiles = other.driveFiles) : StaysTree db later :=
  IsTrans.trans _ _ _ stays (StaysTree.of_same same)

theorem isChildOf_congr {directory : Nat} {file other : DriveFile} (parents : file.parentId = other.parentId)
    (accounts : file.accountId = other.accountId) :
    Database.isChildOf db directory file = Database.isChildOf db directory other := by
  rw [Database.isChildOf, Database.isChildOf, parents, accounts]

/-- A row may change in the columns that say nothing about its place. -/
theorem staysTree_changedAt {change : DriveFile → DriveFile} {keeps : ∀ file, (change file).key = file.key}
    (parents : ∀ file, (change file).parentId = file.parentId)
    (trash : ∀ file, (change file).isTrashed = file.isTrashed)
    (folders : ∀ file, (change file).isFolder = file.isFolder) (inode : Nat) :
    StaysTree db (changedAt db inode change keeps) := by
  have accounts (file : DriveFile) : (change file).accountId = file.accountId := congrArg Prod.snd (keeps file)
  have before : ∀ row ∈ (changedAt db inode change keeps).driveFiles.rows, ∃ old ∈ db.driveFiles.rows,
      old.rowid = row.rowid ∧ row.data.isTrashed = old.data.isTrashed ∧ row.data.parentId = old.data.parentId ∧
        row.data.accountId = old.data.accountId := by
    intro row member
    rcases mem_rows_changedAt.mp member with ⟨stored, _⟩ | ⟨old, stored, _, same⟩
    · exact ⟨row, stored, rfl, rfl, rfl, rfl⟩
    · rw [same]
      exact ⟨old, stored, rfl, trash old.data, parents old.data, accounts old.data⟩
  have after : ∀ old ∈ db.driveFiles.rows, ∃ row ∈ (changedAt db inode change keeps).driveFiles.rows,
      row.rowid = old.rowid ∧ row.data.key = old.data.key ∧ row.data.isTrashed = old.data.isTrashed ∧
        row.data.parentId = old.data.parentId ∧ row.data.isFolder = old.data.isFolder := by
    intro old stored
    by_cases here : old.rowid = inode
    · exact ⟨_, mem_rows_changedAt.mpr (Or.inr ⟨old, stored, here, rfl⟩), rfl, keeps old.data, trash old.data,
        parents old.data, folders old.data⟩
    · exact ⟨old, mem_rows_changedAt.mpr (Or.inl ⟨stored, here⟩), rfl, rfl, rfl, rfl, rfl⟩
  refine ⟨numbered_changedAt, fun _ closed row member live parentId parent => ?_, fun _ _ reached row member live => ?_⟩
  · rcases before row member with ⟨old, stored, _, trashed, parented, owned⟩
    rw [trashed] at live
    rw [parented] at parent
    rw [owned]
    rcases closed old stored live parentId parent with ⟨folder, there, key, kept, isFolder⟩
    rcases after folder there with ⟨still, present, _, sameKey, sameTrash, _, sameKind⟩
    exact ⟨still, present, sameKey.trans key, sameTrash.trans kept, sameKind.trans isFolder⟩
  · have goes : Lists db ≤ Lists (changedAt db inode change keeps) := by
      intro one two lists
      rcases lists_iff.mp lists with ⟨old, stored, number, kept, child⟩
      rcases after old stored with ⟨still, present, place, sameKey, sameTrash, sameParent, _⟩
      refine lists_iff.mpr ⟨still, present, place.trans number, sameTrash.trans kept, isChildOf_changedAt.mpr ?_⟩
      rw [isChildOf_congr sameParent (congrArg Prod.snd sameKey)]
      exact child
    rcases before row member with ⟨old, stored, number, trashed, _⟩
    rw [trashed] at live
    rw [← number]
    exact ReflTransGen.mono goes _ _ (reached old stored live)

/-- The tree stays as it is when a row is trashed that has no children. -/
theorem staysTree_trashedAt {node : Row DriveFile} (member : node ∈ db.driveFiles.rows)
    (childless : Numbered db → Closed db → Childless db node.data) : StaysTree db (trashedAt db node.rowid) where
  numbered := numbered_changedAt
  closed numbered closed := closed_trashedAt member (childless numbered closed) closed
  reached numbered closed := allReached_trashedAt numbered member (childless numbered closed)

/-- A new row in a directory belongs to its tree. -/
theorem staysTree_putFile {parent : Nat} {file : DriveFile} (new : NewIn db parent file)
    (directory : ∀ target, Database.rowAtInode db parent = some target → target.data.isFolder = true) :
    StaysTree db (db.putFile file) := by
  have parents : ∀ parentId, file.parentId = some parentId → HasFolder db parentId file.accountId := by
    intro parentId named
    rcases new.owned with top | ⟨target, there, owner, parentOf⟩
    · rw [top] at named
      cases named
    · rw [parentOf] at named
      cases named
      rcases of_rowAtInode there with ⟨stored, _, live⟩
      exact ⟨target, stored, Prod.ext rfl owner.symm, live, directory target there⟩
  exact ⟨numbered_putFile new.absent, fun _ => closed_putFile new.absent parents,
    fun numbered _ => allReached_putFile numbered new.absent parents⟩

/-- In a closed tree a file that is no folder has no children. -/
theorem childless_of_regular {node : Row DriveFile} (member : node ∈ db.driveFiles.rows)
    (regular : node.data.isFolder = false) (closed : Closed db) : Childless db node.data := by
  intro row stored live account parent
  rcases closed row stored live _ parent with ⟨folder, there, key, _, isFolder⟩
  rw [account] at key
  rw [row_eq_of_key there member key, regular] at isFolder
  cases isFolder

/-- A folder in which no row is found has no children. -/
theorem childless_of_empty (numbered : Numbered db) {node : Row DriveFile} (member : node ∈ db.driveFiles.rows)
    (empty : Database.hasChildren db node.rowid = false) : Childless db node.data := by
  intro row stored live _ parent
  have found : db.driveFiles.findRow? (fun other => other.rowid = node.rowid) = some node := Table.rowAt_of_mem member
  rw [Database.hasChildren, if_neg (numbered node member), found] at empty
  have none := List.any_eq_false.mp empty row.data (List.mem_map_of_mem stored)
  rw [parent, live] at none
  exact none (by rw [decide_eq_true rfl]; rfl)

end Stays

/-! ## Every callback -/

section Calls

variable {world : World} {call : MountCall}

/-- What is shown at an inode is a folder. -/
def IsDirectory (db : Database) (inode : Nat) : Prop :=
  ∀ row, Database.rowAtInode db inode = some row → row.data.isFolder = true

/-- A callback moves the row into the directory of the other one. -/
def MovesInto (world : World) (call : MountCall) (row target : Row DriveFile) : Prop :=
  match call.callback with
  | .rename parent name newParent newName =>
      renamedRow call.answers parent name newParent newName world = some row ∧ newParent ≠ rootInode ∧
        Database.rowAtInode world.db newParent = some target
  | _ => False

/-- The kernel calls with directories as parents, and moves nothing below itself. -/
def KernelAllows (world : World) (call : MountCall) : Prop :=
  (match call.callback with
    | .create parent _ => IsDirectory world.db parent
    | .mkdir parent _ => IsDirectory world.db parent
    | .rename _ _ newParent _ => IsDirectory world.db newParent
    | _ => True) ∧
  ∀ row target, MovesInto world call row target → ¬ ReflTransGen (Lists world.db) row.rowid target.rowid

/-- What is moved finds a folder of its account under the id of its new directory. -/
def FindsFolder (world : World) (call : MountCall) : Prop :=
  ∀ row target, MovesInto world call row target → HasFolder world.db target.data.id row.data.accountId

/-- What is moved stays in its account, or finds a folder there that is not below it. -/
def FindsPlace (world : World) (call : MountCall) : Prop :=
  ∀ row target, MovesInto world call row target →
    target.data.accountId = row.data.accountId ∨ Fits world.db row (some target.data.id)

theorem staysTree_removal {later : World} {runs : Bool} {node : Row DriveFile}
    (member : node ∈ world.db.driveFiles.rows)
    (childless : Numbered world.db → Closed world.db → Childless world.db node.data)
    (ends : later.db.driveFiles = if runs then (trashedAt world.db node.rowid).driveFiles else world.db.driveFiles) :
    StaysTree world.db later.db := by
  cases runs with
  | false => exact StaysTree.of_same ends
  | true => exact (staysTree_trashedAt member childless).of_driveFiles ends

theorem staysTree_of_atMostAdds {later : World} {parent : Nat} (adds : AtMostAdds parent world later)
    (directory : IsDirectory world.db parent) : StaysTree world.db later.db := by
  rcases adds with same | ⟨file, new, same⟩
  · exact StaysTree.of_same same
  · exact (staysTree_putFile new directory).of_driveFiles same

/-- The relation on the rows of two states. -/
def StaysTreeIn (world later : World) : Prop :=
  StaysTree world.db later.db

instance : IsPreorder World StaysTreeIn where
  refl world := Std.Refl.refl world.db
  trans one two three first second := IsTrans.trans one.db two.db three.db first second

/-- A write changes the size and the time of its row. -/
theorem staysTree_write {answers : CallbackAnswers} (ino fh offset : Nat) (data : List UInt8) (written : Nat) :
    StaysTree world.db (final (Vfs.write answers ino fh offset data written) world).db := by
  refine @keeps_write StaysTreeIn inferInstance (fun _ _ _ => StaysTree.of_same rfl)
    (fun runs inode size modifiedTime before => ?_) answers ino fh offset data written world
  have resizes : final (updateFileSizeMtime runs inode size modifiedTime) before.db =
      if runs then changedAt before.db inode (resized size modifiedTime) fun _ => rfl else before.db :=
    final_execute _ _ _
  rw [final_onDb, resizes]
  split
  · exact @staysTree_changedAt before.db (resized size modifiedTime) (fun _ => rfl) (fun _ => rfl) (fun _ => rfl)
      (fun _ => rfl) inode
  · exact StaysTree.of_same rfl

/-- A callback that does not move a row leaves the tree a tree. -/
theorem staysTree_exec (allows : KernelAllows world call)
    (stays : ∀ parent name newParent newName, call.callback ≠ .rename parent name newParent newName) :
    StaysTree world.db (MountCall.exec world call).db := by
  have enqueues (runs : Bool) (task : SyncTask) : Keeps SameRows (onDb (enqueue runs task)) := by
    intro before
    rw [final_onDb]
    exact sameFiles_enqueue runs task before.db
  rcases call with ⟨cacheDir, answers, callback⟩
  have directory := allows.1
  cases callback with
  | openFile ino =>
      have same : SameRows world (MountCall.exec world ⟨cacheDir, answers, .openFile ino⟩) :=
        keeps_attempt (keeps_openFile (fun _ _ => rfl) _ _ _) world
      exact StaysTree.of_same same
  | read ino fh =>
      have same : SameRows world (MountCall.exec world ⟨cacheDir, answers, .read ino fh⟩) :=
        keeps_requestContent (fun _ _ _ _ _ => enqueues _ _) _ _ _ _ world
      exact StaysTree.of_same same
  | create parent name =>
      exact staysTree_of_atMostAdds (atMostAdds_create parent name) directory
  | write ino fh offset data written => exact staysTree_write ino fh offset data written
  | flush ino fh =>
      have same : SameRows world (MountCall.exec world ⟨cacheDir, answers, .flush ino fh⟩) :=
        keeps_uploadIfModified (fun _ _ _ _ _ => enqueues _ _) _ _ _ world
      exact StaysTree.of_same same
  | fsync ino fh =>
      have same : SameRows world (MountCall.exec world ⟨cacheDir, answers, .fsync ino fh⟩) :=
        keeps_uploadIfModified (fun _ _ _ _ _ => enqueues _ _) _ _ _ world
      exact StaysTree.of_same same
  | unlink parent name =>
      cases found : unlinkedRow answers parent name world.db with
      | none => exact StaysTree.of_same (congrArg (fun later : World => later.db.driveFiles)
          (final_unlink_of_none found))
      | some node =>
          rcases Option.filter_eq_some_iff.mp found with ⟨named, regular⟩
          rw [Bool.not_eq_true'] at regular
          exact staysTree_removal (of_namedRow named).1
            (fun _ closed => childless_of_regular (of_namedRow named).1 regular closed) (driveFiles_unlink found)
  | rename parent name newParent newName => exact absurd rfl (stays _ _ _ _)
  | mkdir parent name => exact staysTree_of_atMostAdds (atMostAdds_mkdir parent name) directory
  | rmdir parent name =>
      cases found : removedFolder answers parent name world.db with
      | none => exact StaysTree.of_same (congrArg (fun later : World => later.db.driveFiles)
          (final_rmdir_of_none found))
      | some node =>
          rcases Option.filter_eq_some_iff.mp found with ⟨named, empty⟩
          simp only [Bool.and_eq_true, Bool.not_eq_true'] at empty
          exact staysTree_removal (of_namedRow named).1
            (fun numbered _ => childless_of_empty numbered (of_namedRow named).1 empty.2.2) (driveFiles_rmdir found)
  | release fh => exact StaysTree.of_same rfl

/-- A callback that moves nothing leaves the tree a tree. -/
theorem staysTree_or_moves (allows : KernelAllows world call) :
    (StaysTree world.db (MountCall.exec world call).db ∧ ∀ row target, ¬ MovesInto world call row target) ∨
      ∃ row ∈ world.db.driveFiles.rows, row.data.isTrashed = false ∧ ∃ now newName newParentId,
        (MountCall.exec world call).db.driveFiles = (movedAt world.db row.rowid now newName newParentId).driveFiles ∧
        ((newParentId = none ∧ ∀ row target, ¬ MovesInto world call row target) ∨
          ∃ target, newParentId = some target.data.id ∧
            ∀ other directory, MovesInto world call other directory ↔ other = row ∧ directory = target) := by
  by_cases moves : ∃ parent name newParent newName, call.callback = .rename parent name newParent newName
  · rcases moves with ⟨parent, name, newParent, newName, renames⟩
    have into (row target : Row DriveFile) : MovesInto world call row target ↔
        renamedRow call.answers parent name newParent newName world = some row ∧ newParent ≠ rootInode ∧
          Database.rowAtInode world.db newParent = some target := by
      rw [MovesInto, renames]
    have ends : MountCall.exec world call = final (Vfs.rename call.answers parent name newParent newName) world := by
      rw [MountCall.exec, renames]
      rfl
    cases found : renamedRow call.answers parent name newParent newName world with
    | none =>
        refine Or.inl ⟨StaysTree.of_same ?_, fun row target moved => ?_⟩
        · rw [ends, final_rename_of_none found]
        · rw [into, found] at moved
          cases moved.1
    | some row =>
        rcases of_renamedRow found with ⟨_, member, live⟩
        rcases driveFiles_rename found with ⟨wanted, newParentId, _, directory, same⟩
        refine Or.inr ⟨row, member, live, call.answers.now, wanted, newParentId, ?_, ?_⟩
        · rw [ends]
          exact same
        · rcases of_newDirectory directory with ⟨top, isNone⟩ | ⟨inside, target, there, named⟩
          · refine Or.inl ⟨isNone, fun other place moved => ?_⟩
            exact ((into other place).mp moved).2.1 top
          · refine Or.inr ⟨target, named, fun other place => ?_⟩
            rw [into, found, there, Option.some_inj, Option.some_inj]
            constructor
            · rintro ⟨one, _, two⟩
              exact ⟨one.symm, two.symm⟩
            · rintro ⟨one, two⟩
              exact ⟨one.symm, inside, two.symm⟩
  · refine Or.inl ⟨staysTree_exec allows fun parent name newParent newName same =>
      moves ⟨parent, name, newParent, newName, same⟩, fun row target moved => ?_⟩
    rw [MovesInto] at moved
    split at moved
    · next parent name newParent newName same => exact moves ⟨parent, name, newParent, newName, same⟩
    · exact moved

theorem numbered_exec (allows : KernelAllows world call) (numbered : Numbered world.db) :
    Numbered (MountCall.exec world call).db := by
  rcases staysTree_or_moves allows with ⟨stays, _⟩ | ⟨row, _, _, now, newName, newParentId, same, _⟩
  · exact stays.numbered numbered
  · exact (numbered_congr same).mpr (numbered_changedAt numbered)

/-- A callback leaves the tree closed exactly when what it moves finds a folder. -/
theorem closed_exec_iff (allows : KernelAllows world call) (numbered : Numbered world.db)
    (closed : Closed world.db) : Closed (MountCall.exec world call).db ↔ FindsFolder world call := by
  rcases staysTree_or_moves allows with ⟨stays, nothing⟩ | ⟨row, member, live, now, newName, newParentId, same, place⟩
  · exact iff_of_true (stays.closed numbered closed) fun row target moved => (nothing row target moved).elim
  · rw [closed_congr same, closed_movedAt_iff member live closed]
    rcases place with ⟨isNone, nothing⟩ | ⟨target, named, only⟩
    · refine iff_of_true (fun parentId parent => ?_) fun row target moved => (nothing row target moved).elim
      rw [isNone] at parent
      cases parent
    · rw [named]
      constructor
      · intro has other directory moved
        rcases (only other directory).mp moved with ⟨one, two⟩
        rw [one, two]
        exact has _ rfl
      · intro finds parentId parent
        cases parent
        exact finds row target ((only row target).mpr ⟨rfl, rfl⟩)

/-- The directory that a file is moved into is a folder. -/
theorem directory_of_movesInto (allows : KernelAllows world call) {row target : Row DriveFile}
    (moved : MovesInto world call row target) :
    target ∈ world.db.driveFiles.rows ∧ target.data.isTrashed = false ∧ target.data.isFolder = true := by
  have directory := allows.1
  rw [MovesInto] at moved
  split at moved
  · next parent name newParent newName renames =>
      rw [renames] at directory
      rcases of_rowAtInode moved.2.2 with ⟨member, _, live⟩
      exact ⟨member, live, directory target moved.2.2⟩
  · exact moved.elim

/-- When the kernel keeps a folder from what is below it, the folders of its account fit. -/
theorem findsPlace_iff_fits (allows : KernelAllows world call) {row target : Row DriveFile}
    (only : ∀ other directory, MovesInto world call other directory ↔ other = row ∧ directory = target) :
    FindsPlace world call ↔ Fits world.db row (some target.data.id) := by
  have moved := (only row target).mpr ⟨rfl, rfl⟩
  constructor
  · intro finds
    rcases finds row target moved with alike | fits
    · intro parentId parent
      cases parent
      rcases directory_of_movesInto allows moved with ⟨member, live, isFolder⟩
      exact ⟨target, member, Prod.ext rfl alike, live, isFolder, allows.2 row target moved⟩
    · exact fits
  · intro fits other directory moves
    rcases (only other directory).mp moves with ⟨one, two⟩
    rw [one, two]
    exact Or.inr fits

/-- A callback leaves the tree closed, with everything in reach, exactly when what it moves
finds a place. -/
theorem tree_exec_iff (allows : KernelAllows world call) (numbered : Numbered world.db)
    (tree : Closed world.db ∧ AllReached world.db) :
    Closed (MountCall.exec world call).db ∧ AllReached (MountCall.exec world call).db ↔
      FindsPlace world call := by
  rcases staysTree_or_moves allows with ⟨stays, nothing⟩ | ⟨row, member, live, now, newName, newParentId, same, place⟩
  · refine iff_of_true ⟨stays.closed numbered tree.1, stays.reached numbered tree.1 tree.2⟩ ?_
    exact fun row target moved => (nothing row target moved).elim
  · have exact_ : Closed (MountCall.exec world call).db ∧ AllReached (MountCall.exec world call).db ↔
        Fits world.db row newParentId := by
      rw [closed_congr same, allReached_congr same]
      constructor
      · rintro ⟨closed, reached⟩
        exact fits_of_allReached numbered member live closed reached
      · intro fits
        exact ⟨(closed_movedAt_iff member live tree.1).mpr fits.hasFolder,
          allReached_movedAt numbered member live fits tree.2⟩
    rw [exact_]
    rcases place with ⟨isNone, nothing⟩ | ⟨target, named, only⟩
    · refine iff_of_true (fun parentId parent => ?_) fun row target moved => (nothing row target moved).elim
      rw [isNone] at parent
      cases parent
    · rw [named]
      exact (findsPlace_iff_fits allows only).symm

end Calls

/-! ## Runs of callbacks -/

/-- In a run of callbacks a closed tree stays closed exactly as long as every file that is moved
finds a folder in its account; and a tree in which everything is in reach stays one exactly
when it finds a place there. -/
theorem tree_stays_iff {calls : List MountCall} {world : World}
    (kernel : Along MountCall.exec KernelAllows calls world) (numbered : Numbered world.db)
    (closed : Closed world.db) :
    (Throughout MountCall.exec (fun state => Closed state.db) calls world ↔
        Along MountCall.exec FindsFolder calls world) ∧
      (AllReached world.db →
        (Throughout MountCall.exec (fun state => Closed state.db ∧ AllReached state.db) calls world ↔
          Along MountCall.exec FindsPlace calls world)) := by
  have preserved : ∀ state call, KernelAllows state call → Numbered state.db →
      Numbered (MountCall.exec state call).db := fun _ _ => numbered_exec
  constructor
  · exact throughout_iff_along_of preserved
      (fun _ _ allows numbered closed => closed_exec_iff allows numbered closed) kernel numbered closed
  · intro reached
    exact throughout_iff_along_of preserved
      (fun _ _ allows numbered tree => tree_exec_iff allows numbered tree) kernel numbered ⟨closed, reached⟩

def annsNotes : DriveFile :=
  localFile 0 "notes" "ann@example.com" "notes.txt" "text/plain" none none .cloudOnly

def bobsFolder : DriveFile :=
  localFile 0 "work" "bob@example.com" "Work" folderMimeType none none .cloudOnly

/-- A folder of one account and a file of another, both at the root. -/
def twoAccounts : World :=
  World.around ((Database.fresh.putFile bobsFolder).putFile annsNotes)

/-- The file is moved into the folder. -/
def movesNotes : MountCall where
  cacheDir := "/cache"
  answers := CallbackAnswers.allRun 1 1
  callback := .rename rootInode (some "notes.txt") 1 (some "notes.txt")

theorem rows_twoAccounts : twoAccounts.db.driveFiles.rows = [⟨1, bobsFolder⟩, ⟨2, annsNotes⟩] := by
  decide

theorem numbered_twoAccounts : Numbered twoAccounts.db := by
  rw [Numbered, rows_twoAccounts]
  decide

theorem closed_twoAccounts : Closed twoAccounts.db := by
  have orphans : ∀ row ∈ twoAccounts.db.driveFiles.rows, row.data.parentId = none := by
    rw [rows_twoAccounts]
    decide
  intro row member _ parentId parent
  rw [orphans row member] at parent
  cases parent

theorem kernelAllows_movesNotes : KernelAllows twoAccounts movesNotes := by
  have found : renamedRow movesNotes.answers rootInode (some "notes.txt") 1 (some "notes.txt") twoAccounts =
      some ⟨2, annsNotes⟩ := by decide
  have directory : Database.rowAtInode twoAccounts.db 1 = some ⟨1, bobsFolder⟩ := by decide
  refine ⟨fun row there => ?_, fun row target moved below => ?_⟩
  · rw [directory] at there
    cases there
    rfl
  · have same := moved.1
    have place := moved.2.2
    rw [found] at same
    rw [directory] at place
    cases same
    cases place
    have top : Lists twoAccounts.db rootInode 1 := lists_iff.mpr ⟨⟨1, bobsFolder⟩, by decide⟩
    cases ReflTransGen.cases_tail below with
    | inl impossible => exact absurd impossible (by decide)
    | inr last =>
        rcases last with ⟨place, above, lists⟩
        rw [lists_unique lists top] at above
        exact root_not_below numbered_twoAccounts (by rw [rows_twoAccounts]; decide) above

/-- A file that is moved into a folder of another account has no parent any more. -/
theorem moved_notes_are_lost :
    (Numbered twoAccounts.db ∧ Closed twoAccounts.db ∧ KernelAllows twoAccounts movesNotes) ∧
      ¬ Closed (MountCall.exec twoAccounts movesNotes).db := by
  refine ⟨⟨numbered_twoAccounts, closed_twoAccounts, kernelAllows_movesNotes⟩, fun closed => ?_⟩
  have rows : (MountCall.exec twoAccounts movesNotes).db.driveFiles.rows =
      [⟨1, bobsFolder⟩, ⟨2, moved 1 "notes.txt" (some "work") annsNotes⟩] := by decide
  have has := closed ⟨2, moved 1 "notes.txt" (some "work") annsNotes⟩ (by rw [rows]; decide) rfl "work" rfl
  rw [HasFolder, rows] at has
  exact absurd has (by decide)

theorem tree_stays_iff_of_notes :
    (Throughout MountCall.exec (fun state => Closed state.db) [movesNotes] twoAccounts ↔
        Along MountCall.exec FindsFolder [movesNotes] twoAccounts) ∧
      (AllReached twoAccounts.db →
        (Throughout MountCall.exec (fun state => Closed state.db ∧ AllReached state.db) [movesNotes] twoAccounts ↔
          Along MountCall.exec FindsPlace [movesNotes] twoAccounts)) :=
  tree_stays_iff ⟨kernelAllows_movesNotes, trivial⟩ numbered_twoAccounts closed_twoAccounts

end Tree
end GDriver
