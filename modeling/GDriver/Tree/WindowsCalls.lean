import GDriver.Tree.NameSteps
import GDriver.Tree.WindowsPaths

namespace GDriver
namespace Tree

open Library Routine Db Vfs Sync Local Relation

/-!
# Callbacks on the tree, on Windows

On Windows a row is added by one callback for files and folders, is trashed when its last handle is cleaned up
and when a rename replaces it, and is moved by a rename.  Each of these is said for the tree first, and then for
the callbacks.  Nothing in the callbacks keeps a folder with children from being trashed, or a file from being
moved to another account.
-/

/-- All files are found by listings from the root and by their names, and every parent is a folder. -/
structure Tidy (db : Database) : Prop where
  numbered : Numbered db
  closed : Closed db
  reached : AllReached db
  resolvable : Resolvable db

/-! ## Edits of a tidy tree -/

section TidyTrees

variable {db later : Database} {node : Row DriveFile} {now : Int} {newName : String} {newParentId : Option String}
  {newParent : Nat}

theorem Tidy.unique (tidy : Tidy db) : NamesUnique db :=
  (resolvable_iff tidy.numbered).mp tidy.resolvable

/-- A tree stays tidy when it stays a tree with unique names. -/
theorem Tidy.of_staysTree (tidy : Tidy db) (stays : StaysTree db later) (unique : NamesUnique later) : Tidy later where
  numbered := stays.numbered tidy.numbered
  closed := stays.closed tidy.numbered tidy.closed
  reached := stays.reached tidy.numbered tidy.closed tidy.reached
  resolvable := (resolvable_iff (stays.numbered tidy.numbered)).mpr unique

theorem Tidy.of_same (tidy : Tidy db) (same : later.driveFiles = db.driveFiles) : Tidy later :=
  tidy.of_staysTree (StaysTree.of_same same)
    (Thins.namesUnique (@GivesNames.of_same none _ _ _ same (Thins.refl db)) tidy.unique)

/-- No name is given by a change that leaves the names, or trashes. -/
theorem thins_changedAt {change : DriveFile → DriveFile} {keeps : ∀ file, (change file).key = file.key}
    (same : ∀ file, (change file).isTrashed = false → file.isTrashed = false ∧ file.name = (change file).name ∧
      file.parentId = (change file).parentId) (inode : Nat) : Thins db (changedAt db inode change keeps) := by
  intro file held
  rcases holds_iff.mp held with ⟨row, member, isFile⟩
  rcases mem_rows_changedAt.mp member with ⟨stored, _⟩ | ⟨before, stored, _, changed⟩
  · exact ⟨file, holds_iff.mpr ⟨row, stored, isFile⟩, rfl, fun live => ⟨live, rfl, rfl⟩⟩
  · rw [changed] at isFile
    rw [← isFile]
    exact ⟨before.data, holds_iff.mpr ⟨before, stored, rfl⟩, (keeps before.data).symm, same before.data⟩

theorem Tidy.trashedAt (tidy : Tidy db) (member : node ∈ db.driveFiles.rows) (childless : Childless db node.data) :
    Tidy (trashedAt db node.rowid) := by
  refine tidy.of_staysTree (staysTree_trashedAt member fun _ _ => childless) ?_
  exact Thins.namesUnique (thins_changedAt (fun _ impossible => by cases impossible) _) tidy.unique

/-- A new size or time of a row does not matter. -/
theorem Tidy.resizedAt (tidy : Tidy db) (inode : Nat) (size modifiedTime : Int) :
    Tidy (changedAt db inode (resized size modifiedTime) fun _ => rfl) := by
  have names : Thins db (changedAt db inode (resized size modifiedTime) fun _ => rfl) :=
    @thins_changedAt db (resized size modifiedTime) (fun _ => rfl) (fun _ live => ⟨live, rfl, rfl⟩) inode
  refine tidy.of_staysTree ?_ (Thins.namesUnique names tidy.unique)
  exact @staysTree_changedAt db (resized size modifiedTime) (fun _ => rfl) (fun _ => rfl) (fun _ => rfl)
    (fun _ => rfl) inode

/-- A row that counts as changed now. -/
def touched (now : Int) (file : DriveFile) : DriveFile :=
  { file with modifiedTime := some now, syncState := .modified }

theorem Tidy.touchedAt (tidy : Tidy db) (inode : Nat) (now : Int) :
    Tidy (changedAt db inode (touched now) fun _ => rfl) := by
  have names : Thins db (changedAt db inode (touched now) fun _ => rfl) :=
    @thins_changedAt db (touched now) (fun _ => rfl) (fun _ live => ⟨live, rfl, rfl⟩) inode
  refine tidy.of_staysTree ?_ (Thins.namesUnique names tidy.unique)
  exact @staysTree_changedAt db (touched now) (fun _ => rfl) (fun _ => rfl) (fun _ => rfl) (fun _ => rfl) inode

/-- A row that is moved to where it is changes its time only. -/
theorem driveFiles_movedAt_of_there {inode : Nat} (there : ∀ other ∈ db.driveFiles.rows, other.rowid = inode →
      other.data.name = newName ∧ other.data.parentId = newParentId) :
    (Tree.movedAt db inode now newName newParentId).driveFiles =
      (changedAt db inode (touched now) fun _ => rfl).driveFiles := by
  refine KeyedTable.ext_rows (List.map_congr_left fun other stored => ?_)
  by_cases here : other.rowid = inode
  · rcases there other stored here with ⟨name, parent⟩
    rw [if_pos (decide_eq_true here), if_pos (decide_eq_true here), moved, touched, ← name, ← parent]
  · rw [if_neg (by simpa using here), if_neg (by simpa using here)]

/-- What is listed in a directory has its number as parent. -/
theorem parentId_of_leadsTo {file : DriveFile} (leads : LeadsTo db newParent newParentId)
    (child : Database.isChildOf db newParent file = true) : file.parentId = newParentId := by
  rcases leads with ⟨top, none_⟩ | ⟨inside, target, shown, named⟩
  · rw [top] at child
    rw [none_]
    exact isChildOf_root.mp child
  · rcases (isChildOf_iff_of_ne inside).mp child with ⟨parent, stored, number, same, _⟩
    rcases of_rowAtInode shown with ⟨member, place, _⟩
    rw [named, same, row_eq_of_rowid stored member (number.trans place.symm)]

/-- In a closed tree no file waits for one that is not there. -/
theorem no_waiting_of_absent {file : DriveFile} (closed : Closed db) (absent : db.file file.id file.accountId = none)
    {other : DriveFile} (held : db.Holds other) : ¬ WaitsFor file other := by
  rintro ⟨_, live, parent, account⟩
  rcases holds_iff.mp held with ⟨row, stored, isOther⟩
  rw [← isOther] at live parent account
  rcases closed row stored live file.id parent with ⟨folder, there, key, _⟩
  rw [account] at key
  have free := (KeyedTable.lookupRow_eq_none_iff db.driveFiles file.key).mp (Option.map_eq_none_iff.mp absent)
  exact free folder there key

/-- A new row with a name that is not found in its directory. -/
theorem Tidy.putFile {parent : Nat} {file : DriveFile} (tidy : Tidy db) (new : NewIn db parent file)
    (directory : IsDirectory db parent) (child : Database.isChildOf db parent file = true)
    (free : Database.childNamed db parent file.name = none) : Tidy (db.putFile file) := by
  refine tidy.of_staysTree (staysTree_putFile new directory) ?_
  refine (namesUnique_iff_nameFree (puts_putFile db file) tidy.unique).mpr
    ⟨fun _ _ other held _ live named same => ?_, ?_⟩
  · rcases holds_iff.mp held with ⟨row, stored, isOther⟩
    have childToo :=
      isChildOf_of_samePlace ⟨same.1.symm, same.2.imp (fun none_ => same.1.symm.trans none_) Eq.symm⟩ child
    have absent := List.find?_eq_none.mp free row stored
    rw [isOther, childToo, live, named, decide_eq_true rfl] at absent
    exact absent rfl
  · exact fun one _ held _ waits => absurd waits (no_waiting_of_absent tidy.closed new.absent held)

/-- What is shown at the inode, if anything, is a folder of the account of the row, and not below it. -/
def Receives (db : Database) (inode : Nat) (row : Row DriveFile) : Prop :=
  ∀ target, Database.rowAtInode db inode = some target →
    target.data.isFolder = true ∧ target.data.accountId = row.data.accountId ∧
      ¬ ReflTransGen (Lists db) row.rowid target.rowid

theorem fits_of_receives (receives : Receives db newParent node) (leads : LeadsTo db newParent newParentId) :
    Fits db node newParentId := by
  intro parentId parent
  rcases leads with ⟨_, none_⟩ | ⟨_, target, there, named⟩
  · rw [none_] at parent
    cases parent
  · rw [named] at parent
    cases parent
    rcases of_rowAtInode there with ⟨stored, _, live⟩
    rcases receives target there with ⟨isFolder, account, apart⟩
    exact ⟨target, stored, Prod.ext rfl account, live, isFolder, apart⟩

/-- A row that is moved to a directory in which no other has its new name. -/
theorem Tidy.movedAt (tidy : Tidy db) (member : node ∈ db.driveFiles.rows) (live : node.data.isTrashed = false)
    (receives : Receives db newParent node) (leads : LeadsTo db newParent newParentId)
    (free : ∀ other ∈ db.driveFiles.rows, other.rowid ≠ node.rowid → ¬ IsEntry db newParent newName other.data) :
    Tidy (movedAt db node.rowid now newName newParentId) := by
  have fits := fits_of_receives receives leads
  have numbered : Numbered (Tree.movedAt db node.rowid now newName newParentId) := numbered_changedAt tidy.numbered
  have child : Database.isChildOf db newParent (moved now newName newParentId node.data) = true := by
    refine (isChildOf_moved_iff leads).mpr ?_
    rcases leads with ⟨top, _⟩ | ⟨_, target, there, _⟩
    · exact Or.inl top
    · exact Or.inr ⟨target, there, (receives target there).2.1⟩
  refine ⟨numbered, (closed_movedAt_iff member live tidy.closed).mpr fits.hasFolder,
    allReached_movedAt tidy.numbered member live fits tidy.reached, (resolvable_iff numbered).mpr ?_⟩
  refine (namesUnique_iff_nameFree (puts_changedAt member) tidy.unique).mpr
    ⟨fun _ _ other held apart alive named same => ?_, ?_⟩
  · rcases holds_iff.mp held with ⟨row, stored, isOther⟩
    rw [← isOther] at apart alive named same
    refine free row stored (fun number => apart ?_) ⟨isChildOf_of_samePlace same.symm child, named, alive⟩
    rw [row_eq_of_rowid stored member number]
    rfl
  · intro one two held also waits waitsToo named
    have place : HasPlace db one := by
      intro parentId parent
      rw [waits.2.2.1] at parent
      cases parent
      rw [waits.2.2.2, Option.isSome_iff_exists]
      exact ⟨node.data, holds_iff.mpr ⟨node, member, rfl⟩⟩
    exact tidy.unique one two held also waits.2.1 waitsToo.2.1 named
      ⟨waits.2.2.1.trans waitsToo.2.2.1.symm, Or.inr (waits.2.2.2.trans waitsToo.2.2.2.symm)⟩ place

/-! ## A row that is replaced before -/

section Replaced

variable {row : Row DriveFile} {replaced : Option Nat} {directory : Nat} {wanted : String}

theorem isEntry_withReplaced {file : DriveFile} :
    IsEntry (withReplaced replaced db) directory wanted file ↔ IsEntry db directory wanted file := by
  rw [IsEntry, IsEntry]
  refine and_congr_left fun _ => ?_
  cases replaced with
  | none => exact Iff.rfl
  | some number => exact isChildOf_changedAt

theorem lists_of_withReplaced {inode : Nat} (lists : Lists (withReplaced replaced db) directory inode) :
    Lists db directory inode := by
  rcases lists_iff.mp lists with ⟨child, member, number, live, listed⟩
  have stored := (of_mem_withReplaced member live).1
  refine lists_iff.mpr ⟨child, stored, number, live, ?_⟩
  cases replaced with
  | none => exact listed
  | some place => exact isChildOf_changedAt.mp listed

theorem rowAtInode_of_withReplaced {inode : Nat} {target : Row DriveFile}
    (there : Database.rowAtInode (withReplaced replaced db) inode = some target) :
    Database.rowAtInode db inode = some target := by
  rcases of_rowAtInode there with ⟨member, number, live⟩
  rw [← number]
  exact rowAtInode_of_mem (of_mem_withReplaced member live).1 live

theorem Receives.withReplaced (receives : Receives db newParent node) :
    Receives (withReplaced replaced db) newParent node := by
  intro target there
  rcases receives target (rowAtInode_of_withReplaced there) with ⟨isFolder, account, apart⟩
  exact ⟨isFolder, account, fun below => apart (ReflTransGen.mono (fun _ _ => lists_of_withReplaced) _ _ below)⟩

/-- What is found under the new name, if anything, has no children. -/
def MakesWay (db : Database) (newParent : Nat) (newName : String) : Prop :=
  ∀ target, Database.childNamed db newParent newName = some target → Childless db target.data

theorem Tidy.withReplaced (tidy : Tidy db) (makesWay : MakesWay db newParent newName) :
    Tidy (withReplaced ((Database.childNamed db newParent newName).map Row.rowid) db) := by
  cases found : Database.childNamed db newParent newName with
  | none => exact tidy
  | some target => exact tidy.trashedAt (childNamed_eq_some_iff.mp found).1 (makesWay target found)

/-- A row that is replaced by itself is trashed, and stays where it is. -/
theorem Tidy.replacedByItself (tidy : Tidy db) (member : row ∈ db.driveFiles.rows)
    (makesWay : MakesWay db newParent newName)
    (itself : (Database.childNamed db newParent newName).map Row.rowid = some row.rowid)
    (leads : LeadsTo (Tree.withReplaced (some row.rowid) db) newParent newParentId) :
    Tidy (Tree.movedAt (Tree.withReplaced (some row.rowid) db) row.rowid now newName newParentId) := by
  have way := tidy.withReplaced makesWay
  rw [itself] at way
  rcases Option.map_eq_some_iff.mp itself with ⟨target, found, number⟩
  rcases childNamed_eq_some_iff.mp found with ⟨stored, entry, _⟩
  rw [row_eq_of_rowid stored member number] at entry
  refine (way.touchedAt row.rowid now).of_same (driveFiles_movedAt_of_there ?_)
  intro other there here
  rcases mem_rows_changedAt.mp there with ⟨_, apart⟩ | ⟨before, present, same, trashed⟩
  · exact absurd here apart
  · rw [trashed, row_eq_of_rowid present member same]
    exact ⟨entry.2.1, parentId_of_leadsTo (leadsTo_of_withReplaced leads) entry.1⟩

/-- A rename that replaces what has the new name. -/
theorem Tidy.replacedAndMoved (tidy : Tidy db) (member : row ∈ db.driveFiles.rows) (live : row.data.isTrashed = false)
    (makesWay : MakesWay db newParent newName) (receives : Receives db newParent row)
    (leads : LeadsTo (Tree.withReplaced ((Database.childNamed db newParent newName).map Row.rowid) db) newParent
      newParentId) :
    Tidy (Tree.movedAt (Tree.withReplaced ((Database.childNamed db newParent newName).map Row.rowid) db) row.rowid now
      newName newParentId) := by
  by_cases itself : (Database.childNamed db newParent newName).map Row.rowid = some row.rowid
  · rw [itself] at leads ⊢
    exact tidy.replacedByItself member makesWay itself leads
  · refine (tidy.withReplaced makesWay).movedAt (mem_withReplaced member itself) live receives.withReplaced leads ?_
    intro other stored _ entry
    rcases of_mem_withReplaced stored entry.2.2 with ⟨before, apart⟩
    rw [isEntry_withReplaced] at entry
    have listed : other ∈ Database.childrenByInode db newParent :=
      Database.mem_childrenByInode.mpr ⟨before, entry.1, entry.2.2⟩
    have resolves := tidy.resolvable.resolves newParent other listed
    rw [entry.2.1] at resolves
    exact apart resolves

end Replaced

end TidyTrees

/-! ## The callbacks -/

/-- The callbacks that change rows, with what they are called with. -/
inductive WindowsCallback where
  | create (path : String) (isDirectory : Bool)
  | write (handle : OpenHandle) (offset : Nat) (buffer : List UInt8) (written : Nat)
  | setFileSize (handle : OpenHandle) (newSize : Nat) (setAllocationSize : Bool)
  | flush (handle : OpenHandle)
  | cleanup (ino flags : Nat)
  | rename (fileName newFileName : String) (replaceIfExists : Bool)

/-- A callback and what it meets. -/
structure WindowsCall where
  paths : PathFunctions
  cacheDir : String
  answers : CallbackAnswers
  callback : WindowsCallback

/-- The state after a callback. -/
def WindowsCall.exec (world : World) (call : WindowsCall) : World :=
  match call.callback with
  | .create path isDirectory => final (Windows.create call.paths call.answers call.cacheDir path isDirectory) world
  | .write handle offset buffer written => final (Windows.write call.answers handle offset buffer written) world
  | .setFileSize handle newSize setAllocationSize =>
      final (Windows.setFileSize call.answers handle newSize setAllocationSize) world
  | .flush handle => final (Windows.flush call.answers handle) world
  | .cleanup ino flags => final (Windows.cleanup call.answers ino flags) world
  | .rename fileName newFileName replaceIfExists =>
      final (Windows.rename call.paths call.answers fileName newFileName replaceIfExists) world

/-- The path of a rename leads to the row, and its new path into the directory. -/
structure Renames (world : World) (answers : CallbackAnswers) (fileName newFileName : String) (newParent : Nat)
    (row : Row DriveFile) : Prop where
  leaves : ∃ parent, outcome (Windows.walk answers.runs .objectPathNotFound 7 (Windows.splitPath fileName).1 rootInode)
    world = .ok parent ∧ Database.childNamed world.db parent (Windows.splitPath fileName).2 = some row
  arrives : outcome (Windows.walk answers.runs .objectPathNotFound (7 + (Windows.splitPath fileName).1.length)
    (Windows.splitPath newFileName).1 rootInode) world = .ok newParent

/-- The lookup of a new name is executed, what is deleted or replaced has no children, and what is moved
comes into a folder of its account that is not below it. -/
def Permits (world : World) (call : WindowsCall) : Prop :=
  match call.callback with
  | .create _ _ => call.answers.runs 0 = true
  | .cleanup ino flags =>
      flags % 2 = 1 → ∀ row ∈ world.db.driveFiles.rows, row.rowid = ino → Childless world.db row.data
  | .rename fileName newFileName replaceIfExists =>
      call.answers.runs 3 = true ∧ ∀ newParent row, Renames world call.answers fileName newFileName newParent row →
        Receives world.db newParent row ∧
          (replaceIfExists = true → MakesWay world.db newParent (Windows.splitPath newFileName).2)
  | _ => True

section Callbacks

variable {world : World} {answers : CallbackAnswers}

theorem childNamed_of_outcome {runs : Bool} {inode : Nat} {name : String} {found : Option (Row DriveFile)}
    (looked : outcome (Windows.orInternalError (lookupByParentAndName runs inode name)) world = .ok found) :
    Database.childNamed world.db inode name = found := by
  rw [Windows.orInternalError, outcome_mapError, outcome_onDb, lookupByParentAndName, outcome_select] at looked
  cases runs with
  | false => cases looked
  | true => exact Except.ok.inj looked

/-- When a rename cannot make way, it changes nothing. -/
theorem replaceTarget_ends {newParent : Nat} {newName : String} {replaceIfExists : Bool}
    (looks : answers.runs 3 = true) :
    (∃ status, outcome (Windows.replaceTarget answers newParent newName replaceIfExists) world = .error status ∧
        final (Windows.replaceTarget answers newParent newName replaceIfExists) world = world) ∨
      (outcome (Windows.replaceTarget answers newParent newName replaceIfExists) world = .ok () ∧
        (replaceIfExists = true ∨ Database.childNamed world.db newParent newName = none)) := by
  have found : outcome (onDb (lookupByParentAndName (answers.runs 3) newParent newName)) world =
      .ok (Database.childNamed world.db newParent newName) := by
    rw [outcome_onDb, lookupByParentAndName, outcome_select, looks]
    rfl
  have reads : final (onDb (lookupByParentAndName (answers.runs 3) newParent newName)) world = world := by
    rw [final_onDb, lookupByParentAndName, final_select]
    rfl
  rw [Windows.replaceTarget, final_bind_of_ok (outcome_observe _ _), outcome_bind_of_ok (outcome_observe _ _),
    final_observe, reads, found]
  cases Database.childNamed world.db newParent newName with
  | none => exact Or.inr ⟨rfl, Or.inr rfl⟩
  | some target =>
      cases replaceIfExists with
      | false => exact Or.inl ⟨_, rfl, rfl⟩
      | true =>
          have change : final (softDeleteByInode (answers.runs 6) target.rowid) world.db =
              if answers.runs 6 then Tree.trashedAt world.db target.rowid else world.db := final_execute _ _ _
          have answer : outcome (softDeleteByInode (answers.runs 6) target.rowid) world.db =
              if answers.runs 6 then .ok () else .error databaseError := outcome_execute _ _ _
          change (∃ status,
              outcome (Windows.orInternalError (softDeleteByInode (answers.runs 6) target.rowid)) world =
                .error status ∧
                final (Windows.orInternalError (softDeleteByInode (answers.runs 6) target.rowid)) world = world) ∨
            outcome (Windows.orInternalError (softDeleteByInode (answers.runs 6) target.rowid)) world = .ok () ∧ _
          rw [Windows.orInternalError, final_mapError, final_onDb, change, outcome_mapError, outcome_onDb, answer]
          cases answers.runs 6 with
          | false => exact Or.inl ⟨_, rfl, rfl⟩
          | true => exact Or.inr ⟨rfl, Or.inl rfl⟩

/-- The second half of a rename, when it has made way. -/
theorem moving_ends {paths : PathFunctions} {newParent ino : Nat} {newName : String} {db : Database} :
    (final (Windows.newParentOf (answers.runs 4) newParent >>= fun newParentId =>
        Windows.orInternalError (renameRow (answers.runs 5) answers.now ino newName newParentId) >>= fun _ =>
          mapError (fun _ => Windows.NtStatus.internalError)
            (announce answers ino .rename (Windows.renameCacheFile paths (answers.failures 0) newName)))
        (world.withDb db)).db.driveFiles = db.driveFiles ∨
      ∃ newParentId, LeadsTo db newParent newParentId ∧
        (final (Windows.newParentOf (answers.runs 4) newParent >>= fun newParentId =>
          Windows.orInternalError (renameRow (answers.runs 5) answers.now ino newName newParentId) >>= fun _ =>
            mapError (fun _ => Windows.NtStatus.internalError)
              (announce answers ino .rename (Windows.renameCacheFile paths (answers.failures 0) newName)))
          (world.withDb db)).db.driveFiles = (movedAt db ino answers.now newName newParentId).driveFiles := by
  rw [final_bind_of_reads (final_newParentOf _)]
  cases leads : outcome (Windows.newParentOf (answers.runs 4) newParent) (world.withDb db) with
  | error status => exact Or.inl rfl
  | ok newParentId =>
      rw [Except.toOption, Option.elim_some]
      have ends : final (Windows.orInternalError (renameRow (answers.runs 5) answers.now ino newName newParentId))
          (world.withDb db) =
          world.withDb (if answers.runs 5 then movedAt db ino answers.now newName newParentId else db) := by
        have change : final (renameRow (answers.runs 5) answers.now ino newName newParentId) db =
            if answers.runs 5 then movedAt db ino answers.now newName newParentId else db := final_execute _ _ _
        rw [Windows.orInternalError, final_mapError, final_onDb, World.withDb_db, change]
        rfl
      have answer : outcome (Windows.orInternalError (renameRow (answers.runs 5) answers.now ino newName newParentId))
          (world.withDb db) = if answers.runs 5 then .ok () else .error .internalError := by
        have change : outcome (renameRow (answers.runs 5) answers.now ino newName newParentId) db =
            if answers.runs 5 then .ok () else .error databaseError := outcome_execute _ _ _
        rw [Windows.orInternalError, outcome_mapError, outcome_onDb, World.withDb_db, change]
        cases answers.runs 5 with
        | false => rfl
        | true => rfl
      rw [final_bind, answer, ends]
      cases answers.runs 5 with
      | false => exact Or.inl rfl
      | true =>
          refine Or.inr ⟨newParentId, leadsTo_of_newParentOf leads, ?_⟩
          have other : TaskOperation.rename ≠ .download := by decide
          change (final (mapError (fun _ => Windows.NtStatus.internalError) _)
            (world.withDb (movedAt db ino _ _ _))).db.driveFiles = _
          rw [final_mapError]
          exact sameRows_announce ino other (fun details => keeps_renameCacheFile (fun _ _ _ => rfl) _ details) _

/-- What a rename does to the rows: it trashes what it replaces, and may then move its row. -/
theorem rename_ends {paths : PathFunctions} {fileName newFileName : String} {replaceIfExists : Bool}
    (looks : answers.runs 3 = true) :
    (final (Windows.rename paths answers fileName newFileName replaceIfExists) world).db.driveFiles =
        world.db.driveFiles ∨
      ∃ newParent row replaced, Renames world answers fileName newFileName newParent row ∧
        (replaceIfExists = true ∨ Database.childNamed world.db newParent (Windows.splitPath newFileName).2 = none) ∧
        replaced = (Database.childNamed world.db newParent (Windows.splitPath newFileName).2).map Row.rowid ∧
        ((final (Windows.rename paths answers fileName newFileName replaceIfExists) world).db.driveFiles =
            (withReplaced replaced world.db).driveFiles ∨
          ∃ newParentId, LeadsTo (withReplaced replaced world.db) newParent newParentId ∧
            (final (Windows.rename paths answers fileName newFileName replaceIfExists) world).db.driveFiles =
              (movedAt (withReplaced replaced world.db) row.rowid answers.now (Windows.splitPath newFileName).2
                newParentId).driveFiles) := by
  have parts := @Renames.mk world answers fileName newFileName
  generalize isEnd : final (Windows.rename paths answers fileName newFileName replaceIfExists) world = ends
  rw [Windows.rename] at isEnd
  generalize Windows.splitPath fileName = old at *
  generalize Windows.splitPath newFileName = new at *
  rcases old with ⟨oldDirectory, oldName⟩
  rcases new with ⟨newDirectory, newName⟩
  dsimp only at parts isEnd ⊢
  have stays (same : world = ends) : ends.db.driveFiles = world.db.driveFiles := by rw [same]
  rw [final_bind_of_reads (final_walk _ _ _ _ _ _)] at isEnd
  cases leaves : outcome (Windows.walk answers.runs .objectPathNotFound 7 oldDirectory rootInode) world with
  | error status =>
      rw [leaves] at isEnd
      exact Or.inl (stays isEnd)
  | ok parent =>
      rw [leaves, Except.toOption, Option.elim_some, final_bind_of_reads (final_walk _ _ _ _ _ _)] at isEnd
      cases arrives : outcome (Windows.walk answers.runs .objectPathNotFound (7 + oldDirectory.length) newDirectory
          rootInode) world with
      | error status =>
          rw [arrives] at isEnd
          exact Or.inl (stays isEnd)
      | ok newParent =>
          rw [arrives, Except.toOption, Option.elim_some, final_bind_of_reads (final_lookup _ _ _)] at isEnd
          cases looked : outcome (Windows.orInternalError (lookupByParentAndName (answers.runs 0) parent oldName))
              world with
          | error status =>
              rw [looked] at isEnd
              exact Or.inl (stays isEnd)
          | ok found =>
              have named := childNamed_of_outcome looked
              rw [looked, Except.toOption, Option.elim_some] at isEnd
              cases found with
              | none => exact Or.inl (stays isEnd)
              | some row =>
                  have renames := parts ⟨parent, leaves, named⟩ arrives
                  change final (Windows.replaceTarget answers newParent newName replaceIfExists >>= _) world =
                    ends at isEnd
                  rcases replaceTarget_ends looks with ⟨status, stops, still⟩ | ⟨replaces, makes⟩
                  · rw [final_bind_of_error stops, still] at isEnd
                    exact Or.inl (stays isEnd)
                  · refine Or.inr ⟨newParent, row, _, renames, makes, rfl, ?_⟩
                    rw [final_bind_of_ok replaces, final_replaceTarget replaces, replacedBy, if_pos looks] at isEnd
                    rw [← isEnd]
                    exact moving_ends

/-- The relation between states that a tidy tree survives. -/
def StaysTidy (world later : World) : Prop :=
  Tidy world.db → Tidy later.db

instance : IsPreorder World StaysTidy where
  refl _ tidy := tidy
  trans _ _ _ one two tidy := two (one tidy)

theorem StaysTidy.of_same {later : World} (same : later.db.driveFiles = world.db.driveFiles) : StaysTidy world later :=
  fun tidy => tidy.of_same same

theorem staysTidy_rename {paths : PathFunctions} {fileName newFileName : String} {replaceIfExists : Bool}
    (looks : answers.runs 3 = true)
    (permits : ∀ newParent row, Renames world answers fileName newFileName newParent row →
      Receives world.db newParent row ∧
        (replaceIfExists = true → MakesWay world.db newParent (Windows.splitPath newFileName).2)) :
    StaysTidy world (final (Windows.rename paths answers fileName newFileName replaceIfExists) world) := by
  intro tidy
  rcases @rename_ends world answers paths fileName newFileName replaceIfExists looks with
    same | ⟨newParent, row, replaced, renames, makes, isReplaced, ends⟩
  · exact tidy.of_same same
  · rcases permits newParent row renames with ⟨receives, way⟩
    have makesWay : MakesWay world.db newParent (Windows.splitPath newFileName).2 := by
      rcases makes with replaces | none_
      · exact way replaces
      · intro target found
        rw [none_] at found
        cases found
    rcases renames.leaves with ⟨parent, _, named⟩
    rcases childNamed_eq_some_iff.mp named with ⟨member, entry, _⟩
    rw [isReplaced] at ends
    rcases ends with same | ⟨newParentId, leads, same⟩
    · exact (tidy.withReplaced makesWay).of_same same
    · exact (tidy.replacedAndMoved member entry.2.2 makesWay receives leads).of_same same

theorem childNamed_of_lookupComponent {runs : Bool} {missing : Windows.NtStatus} {inode : Nat} {component : String}
    {row : Row DriveFile} (found : outcome (Windows.lookupComponent runs missing inode component) world = .ok row) :
    Database.childNamed world.db inode component = some row := by
  rw [Windows.lookupComponent, Windows.widened, outcome_mapError] at found
  cases inner : outcome
      (do Windows.orStatus missing (← Windows.orInternalError (lookupByParentAndName runs inode component))) world with
  | error status =>
      rw [inner] at found
      cases found
  | ok other =>
      rw [inner] at found
      cases found
      rcases outcome_bind_eq_ok_iff.mp inner with ⟨answer, looked, given⟩
      cases answer with
      | none => cases given
      | some other =>
          cases given
          exact childNamed_of_outcome looked

/-- A walk down through folders ends in the directory it began in or in a folder. -/
theorem folder_of_walkFolders {runs : Nat → Bool} {missing : Windows.NtStatus} {first : Nat} {components : List String}
    {inode parent : Nat} (walked : outcome (Windows.walkFolders runs missing first components inode) world =
      .ok parent) :
    parent = inode ∨ ∃ row ∈ world.db.driveFiles.rows, row.rowid = parent ∧ row.data.isTrashed = false ∧
      row.data.isFolder = true := by
  induction components generalizing first inode with
  | nil =>
      cases walked
      exact Or.inl rfl
  | cons component rest inductionHypothesis =>
      rw [Windows.walkFolders] at walked
      rcases of_bind_of_reads (final_lookupComponent _ _ _) walked with ⟨row, looked, walked, _⟩
      rcases childNamed_eq_some_iff.mp (childNamed_of_lookupComponent looked) with ⟨member, entry, _⟩
      refine Or.inr ?_
      cases isFolder : row.data.isFolder with
      | false =>
          rw [isFolder] at walked
          cases walked
      | true =>
          rw [isFolder] at walked
          rcases inductionHypothesis walked with same | folder
          · exact ⟨row, member, same.symm, entry.2.2, isFolder⟩
          · exact folder

/-- A name that is not refused is not found in the directory. -/
theorem refuseCollision_ends (parent : Nat) (name : String) :
    final (Windows.refuseCollision true parent name) world = world ∧
      (outcome (Windows.refuseCollision true parent name) world = .ok () →
        Database.childNamed world.db parent name = none) := by
  have found : outcome (onDb (lookupByParentAndName true parent name)) world =
      .ok (Database.childNamed world.db parent name) := by
    rw [outcome_onDb, lookupByParentAndName, outcome_select]
    rfl
  have reads : final (onDb (lookupByParentAndName true parent name)) world = world := by
    rw [final_onDb, lookupByParentAndName, final_select]
    rfl
  rw [Windows.refuseCollision, final_bind_of_ok (outcome_observe _ _), outcome_bind_of_ok (outcome_observe _ _),
    final_observe, reads, found]
  cases Database.childNamed world.db parent name with
  | none => exact ⟨rfl, fun _ => rfl⟩
  | some row =>
      refine ⟨rfl, fun impossible => ?_⟩
      cases impossible

/-- The account and the parent of a new entry are those of its directory, or any account's at the root. -/
theorem newEntryOwner_ends (parentRuns accountRuns : Bool) (parent : Nat) :
    final (Windows.newEntryOwner parentRuns accountRuns parent) world = world ∧
      ∀ owner, outcome (Windows.newEntryOwner parentRuns accountRuns parent) world = .ok owner →
        parent = rootInode ∧ owner.2 = none ∨ ∃ target, Database.rowAtInode world.db parent = some target ∧
          owner = (target.data.accountId, some target.data.id) := by
  rw [Windows.newEntryOwner]
  split
  · next top =>
      constructor
      · rw [final_bind_of_reader fun _ _ => rfl, Windows.widened, final_mapError, final_bind_of_reader,
          Windows.orInternalError, final_mapError, final_onDb, getFirstAccountId, final_select]
        · rfl
        · intro found state
          cases found with
          | none => rfl
          | some accountId => rfl
      · intro owner owned
        rcases outcome_bind_eq_ok_iff.mp owned with ⟨accountId, _, same⟩
        cases same
        exact Or.inl ⟨top, rfl⟩
  · next inside =>
      have reads : final (onDb (getParentInfo parentRuns parent)) world = world :=
        (@keeps_getParentInfo Eq _ parentRuns parent world).symm
      rw [final_bind_of_ok (outcome_observe _ _), outcome_bind_of_ok (outcome_observe _ _), final_observe, reads,
        outcome_onDb, getParentInfo, if_neg inside, outcome_select]
      cases parentRuns with
      | false =>
          refine ⟨rfl, fun owner impossible => ?_⟩
          cases impossible
      | true =>
          rw [if_pos rfl]
          cases there : Database.rowAtInode world.db parent with
          | none =>
              refine ⟨rfl, fun owner impossible => ?_⟩
              cases impossible
          | some target =>
              refine ⟨rfl, fun owner owned => ?_⟩
              cases owned
              exact Or.inr ⟨target, rfl, rfl⟩

/-- The rows after a folder or a file is created for an owner. -/
theorem driveFiles_created {paths : PathFunctions} {cacheDir : String} {owner : String × Option String} {name : String}
    (isDirectory : Bool) :
    ∃ runs file, file.name = name ∧ file.accountId = owner.1 ∧ file.parentId = owner.2 ∧
      (final (if isDirectory then Windows.createFolder answers owner name
        else Windows.createFile paths answers cacheDir owner name) world).db.driveFiles =
          (final (insertFile runs file) world.db).driveFiles := by
  have inserts (runs : Bool) (file : DriveFile) (state : World) :
      (final (Windows.orInternalError (insertFile runs file)) state).db = final (insertFile runs file) state.db := by
    rw [Windows.orInternalError, final_mapError, final_onDb, World.withDb_db]
  cases isDirectory with
  | true =>
      refine ⟨answers.runs 3, localFile answers.now ("local-" ++ toString answers.nanos) owner.1 name folderMimeType
        owner.2 none .cloudOnly, rfl, rfl, rfl, ?_⟩
      rw [if_pos rfl, Windows.createFolder, final_bind_of_reader fun _ _ => rfl, insertLocalFolder, inserts]
  | false =>
      let file := localFile answers.now ("local-" ++ toString answers.nanos) owner.1 name
          (guessMimeFromName name) owner.2
        (some (paths.cachePath cacheDir owner.1 ("local-" ++ toString answers.nanos))) .modified
      refine ⟨(answers.failures 0).isNone && answers.runs 3, file, rfl, rfl, rfl, ?_⟩
      rw [if_neg Bool.false_ne_true, Windows.createFile]
      cases answers.failures 0 with
      | some failure =>
          rw [final_insertFile]
          rfl
      | none =>
          have call : Keeps SameRows (Windows.callOrInternalError (answers.failures 1)) := by
            cases answers.failures 1 with
            | none => exact keeps_pure ()
            | some failure => exact keeps_throw _
          rw [← inserts]
          change (final (Windows.orInternalError (insertFile (answers.runs 3) file) >>= _) world).db.driveFiles =
            (final (Windows.orInternalError (insertFile (answers.runs 3) file)) world).db.driveFiles
          refine moves_bind _ (fun ino => keeps_bind call fun _ => ?_) world
          exact keeps_bind (keeps_perform fun world => rfl) fun _ => keeps_pure _

/-- A created row is one of the directory that its path leads to, under a name that is free there. -/
theorem staysTidy_create {paths : PathFunctions} {cacheDir path : String} {isDirectory : Bool}
    (looks : answers.runs 0 = true) :
    StaysTidy world (final (Windows.create paths answers cacheDir path isDirectory) world) := by
  intro tidy
  generalize isEnd : final (Windows.create paths answers cacheDir path isDirectory) world = ends
  rw [Windows.create, looks] at isEnd
  generalize Windows.splitPath path = parts at isEnd
  rcases parts with ⟨directory, name⟩
  dsimp only at isEnd
  rw [final_bind_of_reads (final_walkFolders _ _ _ _ _)] at isEnd
  cases walked : outcome (Windows.walkFolders answers.runs .objectPathNotFound 7 directory rootInode) world with
  | error status =>
      rw [walked] at isEnd
      exact isEnd ▸ tidy
  | ok parent =>
      rcases @refuseCollision_ends world parent name with ⟨reads, free⟩
      rw [walked, Except.toOption, Option.elim_some, final_bind_of_reads reads] at isEnd
      cases collides : outcome (Windows.refuseCollision true parent name) world with
      | error status =>
          rw [collides] at isEnd
          exact isEnd ▸ tidy
      | ok accepted =>
          rcases @newEntryOwner_ends world (answers.runs 1) (answers.runs 2) parent with ⟨still, owners⟩
          rw [collides, Except.toOption, Option.elim_some, final_bind_of_reads still] at isEnd
          cases owned : outcome (Windows.newEntryOwner (answers.runs 1) (answers.runs 2) parent) world with
          | error status =>
              rw [owned] at isEnd
              exact isEnd ▸ tidy
          | ok owner =>
              rcases @driveFiles_created world answers paths cacheDir owner name isDirectory with
                ⟨runs, file, named, account, parented, same⟩
              rw [owned, Except.toOption, Option.elim_some, Windows.widened, final_mapError] at isEnd
              rw [isEnd, final_insertFile] at same
              have isFolder : IsDirectory world.db parent := by
                intro row there
                rcases of_rowAtInode there with ⟨stored, number, _⟩
                rcases folder_of_walkFolders walked with top | ⟨folder, member, place, _, isFolder⟩
                · exact absurd (number.trans top) (tidy.numbered row stored)
                · rw [row_eq_of_rowid stored member (number.trans place.symm)]
                  exact isFolder
              split at same
              · next inserts =>
                  rw [Bool.and_eq_true, Bool.and_eq_true, Option.isNone_iff_eq_none] at inserts
                  have noneThere := free collides
                  rw [← named] at noneThere
                  refine (tidy.putFile ⟨inserts.1.2, ?_⟩ isFolder ?_ noneThere).of_same same
                  · rcases owners owner owned with ⟨_, top⟩ | ⟨target, there, isOwner⟩
                    · exact Or.inl (parented.trans top)
                    · rw [isOwner] at account parented
                      exact Or.inr ⟨target, there, account, parented⟩
                  · rcases owners owner owned with ⟨isRoot, top⟩ | ⟨target, there, isOwner⟩
                    · rw [isRoot, isChildOf_root]
                      exact parented.trans top
                    · rcases of_rowAtInode there with ⟨stored, number, _⟩
                      rw [isOwner] at account parented
                      rw [← number]
                      exact isChildOf_of_key tidy.numbered stored parented (Prod.ext rfl account.symm)
              · exact tidy.of_same same

/-- A write, or a new size, changes the size and the time of a row. -/
theorem keeps_resizing (runs : Bool) (inode : Nat) (size modifiedTime : Int) :
    Keeps StaysTidy (attempt (onDb (updateFileSizeMtime runs inode size modifiedTime)) :
      Routine Windows.NtStatus World Unit) := by
  intro before tidy
  have resizes : final (updateFileSizeMtime runs inode size modifiedTime) before.db =
      if runs then changedAt before.db inode (resized size modifiedTime) fun _ => rfl else before.db :=
    final_execute _ _ _
  rw [final_attempt, final_onDb, resizes, World.withDb_db]
  split
  · exact tidy.resizedAt inode size modifiedTime
  · exact tidy

theorem keeps_callOrInternalError (failure : Option String) :
    Keeps StaysTidy (Windows.callOrInternalError failure) := by
  cases failure with
  | none => exact keeps_pure ()
  | some failure => exact keeps_throw _

theorem keeps_refuseIf (condition : Bool) (status : Windows.NtStatus) :
    Keeps StaysTidy (Windows.refuseIf condition status) := by
  cases condition with
  | false => exact keeps_pure ()
  | true => exact keeps_throw _

theorem keeps_putOnDisk (path : String) (file : Option DiskFile) :
    Keeps StaysTidy (perform (World.putOnDisk path file) : Routine Windows.NtStatus World Unit) :=
  keeps_perform fun _ => StaysTidy.of_same rfl

theorem staysTidy_write (handle : OpenHandle) (offset : Nat) (buffer : List UInt8) (written : Nat) :
    Keeps StaysTidy (Windows.write answers handle offset buffer written) := by
  refine keeps_bind (keeps_refuseIf _ _) fun _ => ?_
  refine keeps_bind (keeps_callOrInternalError _) fun _ => ?_
  refine keeps_bind (keeps_putOnDisk _ _) fun _ => ?_
  refine keeps_bind (keeps_callOrInternalError _) fun _ => ?_
  refine keeps_bind (keeps_callOrInternalError _) fun _ => ?_
  refine keeps_bind (keeps_putOnDisk _ _) fun _ => ?_
  exact keeps_bind (keeps_resizing _ _ _ _) fun _ => keeps_pure _

theorem staysTidy_setFileSize (handle : OpenHandle) (newSize : Nat) (setAllocationSize : Bool) :
    Keeps StaysTidy (Windows.setFileSize answers handle newSize setAllocationSize) := by
  refine keeps_bind (keeps_refuseIf _ _) fun _ => ?_
  cases setAllocationSize with
  | true => exact keeps_pure ()
  | false =>
      refine keeps_bind (keeps_callOrInternalError _) fun _ => ?_
      refine keeps_bind (keeps_inspect _) fun disk => ?_
      refine keeps_bind ?_ fun file => ?_
      · cases disk handle.localPath with
        | none => exact keeps_throw _
        | some file => exact keeps_pure _
      · refine keeps_bind (keeps_callOrInternalError _) fun _ => ?_
        exact keeps_bind (keeps_putOnDisk _ _) fun _ => keeps_resizing _ _ _ _

theorem staysTidy_flush (handle : OpenHandle) : Keeps StaysTidy (Windows.flush answers handle) := by
  rw [Windows.flush]
  split
  · exact keeps_pure ()
  · refine keeps_bind (keeps_observe ?_) fun found => ?_
    · intro before
      rw [final_onDb, getFileDetailsByInode, final_select]
      exact StaysTidy.of_same rfl
    · split
      · split
        · intro before
          rw [final_attempt, final_onDb]
          exact StaysTidy.of_same (sameFiles_enqueue _ _ before.db)
        · exact keeps_pure ()
      · exact keeps_pure ()

/-- A row without children is announced and then trashed, and the tree stays tidy. -/
theorem staysTidy_removal {ino : Nat}
    (childless : ∀ row ∈ world.db.driveFiles.rows, row.rowid = ino → Childless world.db row.data)
    {andThen : DriveFile → Routine Errno World Unit} (goesOn : ∀ details, Keeps SameRows (andThen details)) :
    StaysTidy world (final
      (mapError (fun _ => Windows.NtStatus.internalError) (announce answers ino .delete andThen) >>= fun _ =>
        attempt (onDb (softDeleteByInode (answers.runs 3) ino))) world) := by
  have other : TaskOperation.delete ≠ .download := by decide
  have same : SameRows world (final (announce answers ino .delete andThen) world) :=
    sameRows_announce ino other goesOn world
  have trashes (state : World) : (final (onDb (softDeleteByInode (answers.runs 3) ino)) state).db =
      if answers.runs 3 then Tree.trashedAt state.db ino else state.db := by
    rw [final_onDb, World.withDb_db]
    exact final_execute _ _ _
  intro tidy
  rw [final_bind]
  split
  · rw [final_attempt, final_mapError, trashes]
    refine @Tidy.of_same (if answers.runs 3 then Tree.trashedAt world.db ino else world.db) _ ?_ ?_
    · split
      · by_cases there : ∃ row ∈ world.db.driveFiles.rows, row.rowid = ino
        · rcases there with ⟨row, member, number⟩
          rw [← number]
          exact tidy.trashedAt member (childless row member number)
        · refine tidy.of_same (@KeyedTable.update_of_none _ _ _ world.db.driveFiles (fun row => row.rowid = ino)
            DriveFile.trashed DriveFile.key_trashed fun row member => ?_)
          exact decide_eq_false fun number => there ⟨row, member, number⟩
      · exact tidy
    · split
      · exact congrArg (fun files => KeyedTable.update files (fun row => row.rowid = ino) DriveFile.trashed
          DriveFile.key_trashed) same
      · exact same
  · rw [final_mapError]
    exact tidy.of_same same

/-- The row that is shown at an inode, which must be there. -/
theorem rowAtInode_of_shownRow {runs : Bool} {ino : Nat} {row : Row DriveFile}
    (shown : outcome (Windows.widened do
      Windows.orStatus .objectNameNotFound (← Windows.orInternalError (getFileByInode runs ino))) world = .ok row) :
    Database.rowAtInode world.db ino = some row := by
  rw [Windows.widened, outcome_mapError] at shown
  cases executes : runs with
  | false =>
      rw [executes] at shown
      cases shown
  | true =>
      have answered : outcome (Windows.orInternalError (getFileByInode true ino)) world =
          .ok (Database.rowAtInode world.db ino) := by
        rw [Windows.orInternalError, outcome_mapError, outcome_onDb, getFileByInode, outcome_select]
        rfl
      rw [executes, outcome_bind_of_ok answered] at shown
      cases found : Database.rowAtInode world.db ino with
      | none =>
          rw [found] at shown
          cases shown
      | some other =>
          rw [found] at shown
          cases shown
          rfl

theorem final_shownRow (runs : Bool) (ino : Nat) :
    final (Windows.widened do
      Windows.orStatus .objectNameNotFound (← Windows.orInternalError (getFileByInode runs ino))) world = world := by
  rw [Windows.widened, final_mapError, final_bind_of_reader]
  · rw [Windows.orInternalError, final_mapError, final_onDb, getFileByInode, final_select]
    rfl
  · intro found state
    cases found with
    | none => rfl
    | some row => rfl

/-- A cleanup trashes the row of a handle that is to be deleted. -/
theorem staysTidy_cleanup {ino flags : Nat}
    (childless : flags % 2 = 1 → ∀ row ∈ world.db.driveFiles.rows, row.rowid = ino → Childless world.db row.data) :
    StaysTidy world (final (Windows.cleanup answers ino flags) world) := by
  rw [Windows.cleanup]
  split
  · next deletes =>
      rw [Bool.and_eq_true, decide_eq_true_eq, decide_eq_true_eq] at deletes
      refine staysTidy_removal (childless deletes.1) fun details => ?_
      cases details.localPath with
      | none => exact keeps_pure ()
      | some localPath => exact keeps_attempt (keeps_removeFile (fun _ _ => rfl) _)
  · exact id

/-- What may be deleted has no children: a folder is looked into, and a file is no parent. -/
theorem childless_of_canDelete (tidy : Tidy world.db) {ino : Nat}
    (allowed : outcome (Windows.canDelete answers ino) world = .ok ()) :
    ∀ row ∈ world.db.driveFiles.rows, row.rowid = ino → Childless world.db row.data := by
  intro row member number
  rw [Windows.canDelete] at allowed
  rcases outcome_bind_eq_ok_iff.mp allowed with ⟨_, inside, allowed⟩
  have apart : ¬ ino = rootInode := by
    intro top
    rw [Windows.refuseWith, if_pos (decide_eq_true top)] at inside
    cases inside
  rw [Windows.refuseWith, if_neg (by simpa using apart), final_pure] at allowed
  rcases of_bind_of_reads (final_shownRow _ _) allowed with ⟨found, shown, allowed, _⟩
  have same : found = row := row_eq_of_rowid (of_rowAtInode (rowAtInode_of_shownRow shown)).1 member
    ((of_rowAtInode (rowAtInode_of_shownRow shown)).2.1.trans number.symm)
  rw [same] at allowed
  cases isFolder : row.data.isFolder with
  | false => exact childless_of_regular member isFolder tidy.closed
  | true =>
      rw [isFolder, if_pos rfl] at allowed
      rcases outcome_bind_eq_ok_iff.mp allowed with ⟨occupied, counted, allowed⟩
      refine childless_of_empty tidy.numbered member ?_
      rw [Windows.widened, outcome_mapError, Windows.orInternalError, outcome_mapError, outcome_onDb, Vfs.hasChildren,
        outcome_select] at counted
      cases runs : answers.runs 1 with
      | false =>
          rw [runs] at counted
          cases counted
      | true =>
          rw [runs, if_pos rfl] at counted
          cases counted
          rw [number]
          cases empty : Database.hasChildren world.db ino with
          | false => rfl
          | true =>
              rw [empty] at allowed
              cases allowed

end Callbacks

/-! ## Runs -/

/-- In a run of callbacks on Windows a tidy tree stays tidy, whatever is executed of them, as long as the names
are looked up, nothing with children is deleted or replaced, and what is moved stays in its account. -/
theorem tidy_stays_on_windows {calls : List WindowsCall} {world : World}
    (permits : Along WindowsCall.exec Permits calls world) (tidy : Tidy world.db) :
    Throughout WindowsCall.exec (fun state => Tidy state.db) calls world := by
  refine throughout_of_along (fun state call permitted before => ?_) permits tidy
  rcases call with ⟨paths, cacheDir, answers, callback⟩
  cases callback with
  | create path isDirectory => exact staysTidy_create permitted before
  | write handle offset buffer written => exact staysTidy_write handle offset buffer written state before
  | setFileSize handle newSize setAllocationSize =>
      exact staysTidy_setFileSize handle newSize setAllocationSize state before
  | flush handle => exact staysTidy_flush handle state before
  | cleanup ino flags => exact staysTidy_cleanup permitted before
  | rename fileName newFileName replaceIfExists => exact staysTidy_rename permitted.1 permitted.2 before

/-- A mount of one account without files. -/
def annsMount : World :=
  World.around (Database.connected ⟨"ann@example.com", "ann@example.com", 0⟩)

def callAt (nanos : Nat) (callback : WindowsCallback) : WindowsCall where
  paths := .unix
  cacheDir := "/cache"
  answers := .allRun 5 nanos
  callback := callback

def createsWork : List WindowsCall :=
  [callAt 1 (.create "\\Work" true), callAt 2 (.create "\\notes.txt" false),
    callAt 3 (.create "\\Work\\notes.txt" false)]

def withWork : World :=
  run WindowsCall.exec createsWork annsMount

def movesIntoWork : WindowsCall :=
  callAt 4 (.rename "\\notes.txt" "\\Work\\notes.txt" true)

theorem tidy_annsMount : Tidy annsMount.db := by
  have rows : annsMount.db.driveFiles.rows = [] := by decide
  have none_ {row : Row DriveFile} (member : row ∈ annsMount.db.driveFiles.rows) : False := by
    rw [rows] at member
    cases member
  refine ⟨fun row member => (none_ member).elim, fun row member => (none_ member).elim,
    fun row member => (none_ member).elim, ⟨fun directory one member => ?_, fun directory one member => ?_⟩⟩
  · exact (none_ (Database.mem_childrenByInode.mp member).1).elim
  · exact (none_ (Database.mem_childrenByInode.mp member).1).elim

def workFolder : Row DriveFile :=
  ⟨1, localFile 5 "local-1" "ann@example.com" "Work" folderMimeType none none .cloudOnly⟩

def notesAt (rowid : Nat) (fileId : String) (parentId : Option String) : Row DriveFile :=
  ⟨rowid, localFile 5 fileId "ann@example.com" "notes.txt" (guessMimeFromName "notes.txt") parentId
    (some ("/cache/ann@example.com/" ++ fileId)) .modified⟩

theorem rows_withWork : withWork.db.driveFiles.rows =
    [workFolder, notesAt 2 "local-2" none, notesAt 3 "local-3" (some "local-1")] := by
  decide

theorem permits_movesIntoWork : Permits withWork movesIntoWork := by
  refine ⟨rfl, fun newParent row renames => ?_⟩
  have arrives : newParent = 1 := by
    have walked : outcome (Windows.walk movesIntoWork.answers.runs .objectPathNotFound
        (7 + (Windows.splitPath "\\notes.txt").1.length) (Windows.splitPath "\\Work\\notes.txt").1 rootInode) withWork =
          .ok 1 := rfl
    exact Except.ok.inj (renames.arrives.symm.trans walked)
  have leaves : row = notesAt 2 "local-2" none := by
    rcases renames.leaves with ⟨parent, walked, named⟩
    have here : outcome (Windows.walk movesIntoWork.answers.runs .objectPathNotFound 7
        (Windows.splitPath "\\notes.txt").1 rootInode) withWork = .ok rootInode := rfl
    rw [Except.ok.inj (walked.symm.trans here)] at named
    have found : Database.childNamed withWork.db rootInode (Windows.splitPath "\\notes.txt").2 =
        some (notesAt 2 "local-2" none) := by decide
    exact Option.some.inj (named.symm.trans found)
  rw [arrives, leaves]
  have numbered : Numbered withWork.db := by
    rw [Numbered, rows_withWork]
    decide
  constructor
  · intro target there
    have shown : Database.rowAtInode withWork.db 1 = some workFolder := by decide
    rw [shown] at there
    cases there
    refine ⟨rfl, rfl, fun below => ?_⟩
    have top : Lists withWork.db rootInode 1 := lists_iff.mpr ⟨workFolder, by decide⟩
    cases ReflTransGen.cases_tail below with
    | inl impossible => exact absurd impossible (by decide)
    | inr last =>
        rcases last with ⟨place, above, lists⟩
        rw [lists_unique lists top] at above
        exact root_not_below numbered (by rw [rows_withWork]; decide) above
  · intro _ target found
    have replaced : Database.childNamed withWork.db 1 (Windows.splitPath "\\Work\\notes.txt").2 =
        some (notesAt 3 "local-3" (some "local-1")) := by decide
    rw [replaced] at found
    cases found
    rw [Childless, rows_withWork]
    decide

/-- A file is moved into a folder, where it replaces another. -/
theorem notes_move_tidily :
    Throughout WindowsCall.exec (fun state => Tidy state.db) (createsWork ++ [movesIntoWork]) annsMount := by
  refine tidy_stays_on_windows ((along_append _ _ _ _).mpr ⟨⟨rfl, rfl, rfl, trivial⟩, ?_⟩) tidy_annsMount
  exact ⟨permits_movesIntoWork, trivial⟩

end Tree
end GDriver
