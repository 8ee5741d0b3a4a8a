import GDriver.Library.Reach
import GDriver.Vfs.Directories

namespace GDriver
namespace Tree

open Library Routine Db Vfs Relation

/-!
# The tree of a mount

The rows form a tree by their parents, which the mount shows by its listings.  The tree is
closed when every parent is there, as a folder of the same account.  Rows are added to it,
trashed and moved; what each of these does to the tree is said here without the callbacks
that do it.
-/

/-- Listing the directory shows a row with this number. -/
def Lists (db : Database) (directory inode : Nat) : Prop :=
  ∃ row ∈ Database.childrenByInode db directory, row.rowid = inode

/-- A folder of the account that is not trashed is stored under this id. -/
def HasFolder (db : Database) (folderId accountId : String) : Prop :=
  ∃ folder ∈ db.driveFiles.rows, folder.data.key = (folderId, accountId) ∧
    folder.data.isTrashed = false ∧ folder.data.isFolder = true

/-- The parent of every row that is not trashed is such a folder. -/
def Closed (db : Database) : Prop :=
  ∀ row ∈ db.driveFiles.rows, row.data.isTrashed = false →
    ∀ parentId, row.data.parentId = some parentId → HasFolder db parentId row.data.accountId

/-- Every row that is not trashed is found by listings from the root. -/
def AllReached (db : Database) : Prop :=
  ∀ row ∈ db.driveFiles.rows, row.data.isTrashed = false → ReflTransGen (Lists db) rootInode row.rowid

/-- No row has the number of the root. -/
def Numbered (db : Database) : Prop :=
  ∀ row ∈ db.driveFiles.rows, row.rowid ≠ rootInode

section Listing

variable {db : Database} {row folder : Row DriveFile} {directory inode : Nat}

theorem lists_iff : Lists db directory inode ↔
    ∃ row ∈ db.driveFiles.rows, row.rowid = inode ∧ row.data.isTrashed = false ∧
      Database.isChildOf db directory row.data = true := by
  constructor
  · rintro ⟨row, listed, number⟩
    rcases Database.mem_childrenByInode.mp listed with ⟨member, child, live⟩
    exact ⟨row, member, number, live, child⟩
  · rintro ⟨row, member, number, live, child⟩
    exact ⟨row, Database.mem_childrenByInode.mpr ⟨member, child, live⟩, number⟩

/-- Two rows with one number are one row. -/
theorem row_eq_of_rowid (member : row ∈ db.driveFiles.rows) (other : folder ∈ db.driveFiles.rows)
    (same : row.rowid = folder.rowid) : row = folder := by
  have here := Table.rowAt_of_mem member
  rw [same, Table.rowAt_of_mem other] at here
  exact (Option.some.inj here).symm

/-- Two rows with one key are one row. -/
theorem row_eq_of_key (member : row ∈ db.driveFiles.rows) (other : folder ∈ db.driveFiles.rows)
    (same : row.data.key = folder.data.key) : row = folder :=
  List.inj_on_of_nodup_map db.driveFiles.unique member other same

theorem isChildOf_root {file : DriveFile} :
    Database.isChildOf db rootInode file = true ↔ file.parentId = none := by
  rw [Database.isChildOf, if_pos rfl, Option.isNone_iff_eq_none]

theorem isChildOf_iff_of_ne (inside : directory ≠ rootInode) {file : DriveFile} :
    Database.isChildOf db directory file = true ↔
      ∃ parent ∈ db.driveFiles.rows, parent.rowid = directory ∧
        file.parentId = some parent.data.id ∧ parent.data.accountId = file.accountId := by
  rw [Database.isChildOf, if_neg inside, List.any_eq_true]
  refine exists_congr fun parent => and_congr_right fun _ => ?_
  rw [Bool.and_eq_true, Bool.and_eq_true, decide_eq_true_eq, decide_eq_true_eq, decide_eq_true_eq, and_assoc]
  exact and_congr_right fun _ => and_congr_left fun _ => eq_comm

/-- A row is listed in the folder that is its parent. -/
theorem isChildOf_of_key (numbered : Numbered db) (stored : folder ∈ db.driveFiles.rows) {file : DriveFile}
    {parentId : String} (parent : file.parentId = some parentId)
    (key : folder.data.key = (parentId, file.accountId)) :
    Database.isChildOf db folder.rowid file = true := by
  refine (isChildOf_iff_of_ne (numbered folder stored)).mpr ⟨folder, stored, rfl, ?_, congrArg Prod.snd key⟩
  rw [parent]
  exact congrArg some (congrArg Prod.fst key).symm

/-- A file is a child of one directory only. -/
theorem isChildOf_unique {file : DriveFile} {other : Nat} (one : Database.isChildOf db directory file = true)
    (two : Database.isChildOf db other file = true) : directory = other := by
  by_cases top : directory = rootInode
  · by_cases alsoTop : other = rootInode
    · rw [top, alsoTop]
    · rw [top, isChildOf_root] at one
      rcases (isChildOf_iff_of_ne alsoTop).mp two with ⟨parent, _, _, named, _⟩
      rw [one] at named
      cases named
  · rcases (isChildOf_iff_of_ne top).mp one with ⟨parent, stored, number, named, alike⟩
    by_cases alsoTop : other = rootInode
    · rw [alsoTop, isChildOf_root] at two
      rw [two] at named
      cases named
    · rcases (isChildOf_iff_of_ne alsoTop).mp two with ⟨second, present, place, again, equal⟩
      have ids : parent.data.id = second.data.id := by
        rw [named] at again
        exact Option.some.inj again
      have keys : parent.data.key = second.data.key := Prod.ext ids (alike.trans equal.symm)
      rw [← number, ← place, row_eq_of_key stored present keys]

/-- Every row is entered from one directory only. -/
theorem lists_unique {other : Nat} (one : Lists db directory inode) (two : Lists db other inode) :
    directory = other := by
  rcases lists_iff.mp one with ⟨row, member, number, _, child⟩
  rcases lists_iff.mp two with ⟨again, stored, place, _, childToo⟩
  rw [row_eq_of_rowid stored member (place.trans number.symm)] at childToo
  exact isChildOf_unique child childToo

/-- The root is listed nowhere. -/
theorem not_lists_root (numbered : Numbered db) : ¬ Lists db directory rootInode := by
  intro lists
  rcases lists_iff.mp lists with ⟨row, member, number, _⟩
  exact numbered row member number

end Listing

/-! ## A row changed in its place -/

section InPlace

variable {db : Database} {node : Row DriveFile} {change : DriveFile → DriveFile}
  {keeps : ∀ file, (change file).key = file.key}

/-- The database with the row with this number changed. -/
def changedAt (db : Database) (inode : Nat) (change : DriveFile → DriveFile)
    (keeps : ∀ file, (change file).key = file.key) : Database :=
  db.updateFiles (fun row => row.rowid = inode) change keeps

theorem mem_rows_changedAt {inode : Nat} {row : Row DriveFile} :
    row ∈ (changedAt db inode change keeps).driveFiles.rows ↔
      (row ∈ db.driveFiles.rows ∧ row.rowid ≠ inode) ∨
        ∃ before ∈ db.driveFiles.rows, before.rowid = inode ∧ row = { before with data := change before.data } := by
  have rows : (changedAt db inode change keeps).driveFiles.rows = db.driveFiles.rows.map fun row =>
      if decide (row.rowid = inode) then { row with data := change row.data } else row := rfl
  rw [rows, List.mem_map]
  constructor
  · rintro ⟨before, stored, same⟩
    split at same
    · next here => exact Or.inr ⟨before, stored, of_decide_eq_true here, same.symm⟩
    · next other =>
        subst same
        exact Or.inl ⟨stored, fun here => other (decide_eq_true here)⟩
  · rintro (⟨stored, other⟩ | ⟨before, stored, here, same⟩)
    · exact ⟨row, stored, if_neg fun here => other (of_decide_eq_true here)⟩
    · exact ⟨before, stored, (if_pos (decide_eq_true here)).trans same.symm⟩

/-- The rows keep their numbers and keys. -/
theorem exists_key_changedAt {inode number : Nat} {key : String × String} :
    (∃ row ∈ (changedAt db inode change keeps).driveFiles.rows, row.rowid = number ∧ row.data.key = key) ↔
      ∃ row ∈ db.driveFiles.rows, row.rowid = number ∧ row.data.key = key := by
  constructor
  · rintro ⟨row, member, place, named⟩
    rcases mem_rows_changedAt.mp member with ⟨stored, _⟩ | ⟨before, stored, _, same⟩
    · exact ⟨row, stored, place, named⟩
    · rw [same] at place named
      exact ⟨before, stored, place, (keeps before.data).symm.trans named⟩
  · rintro ⟨row, member, place, named⟩
    by_cases here : row.rowid = inode
    · exact ⟨_, mem_rows_changedAt.mpr (Or.inr ⟨row, member, here, rfl⟩), place, (keeps row.data).trans named⟩
    · exact ⟨row, mem_rows_changedAt.mpr (Or.inl ⟨member, here⟩), place, named⟩

theorem isChildOf_iff_exists_key {directory : Nat} (inside : directory ≠ rootInode) {file : DriveFile} :
    Database.isChildOf db directory file = true ↔ ∃ parentId, file.parentId = some parentId ∧
      ∃ row ∈ db.driveFiles.rows, row.rowid = directory ∧ row.data.key = (parentId, file.accountId) := by
  rw [isChildOf_iff_of_ne inside]
  constructor
  · rintro ⟨parent, stored, place, named, alike⟩
    exact ⟨parent.data.id, named, parent, stored, place, Prod.ext rfl alike⟩
  · rintro ⟨parentId, named, parent, stored, place, key⟩
    exact ⟨parent, stored, place, named.trans (congrArg some (congrArg Prod.fst key).symm), congrArg Prod.snd key⟩

theorem isChildOf_changedAt {inode directory : Nat} {file : DriveFile} :
    Database.isChildOf (changedAt db inode change keeps) directory file = true ↔
      Database.isChildOf db directory file = true := by
  by_cases top : directory = rootInode
  · rw [top, isChildOf_root, isChildOf_root]
  · rw [isChildOf_iff_exists_key top, isChildOf_iff_exists_key top]
    exact exists_congr fun parentId => and_congr_right fun _ => exists_key_changedAt

/-- The other rows are listed where they were. -/
theorem lists_changedAt_of_ne {inode directory other : Nat} (apart : other ≠ inode) :
    Lists (changedAt db inode change keeps) directory other ↔ Lists db directory other := by
  rw [lists_iff, lists_iff]
  constructor
  · rintro ⟨row, member, number, live, child⟩
    rcases mem_rows_changedAt.mp member with ⟨stored, _⟩ | ⟨before, _, here, same⟩
    · exact ⟨row, stored, number, live, isChildOf_changedAt.mp child⟩
    · rw [same] at number
      exact absurd (number.symm.trans here) apart
  · rintro ⟨row, member, number, live, child⟩
    refine ⟨row, mem_rows_changedAt.mpr (Or.inl ⟨member, ?_⟩), number, live, isChildOf_changedAt.mpr child⟩
    rw [number]
    exact apart

theorem numbered_changedAt {inode : Nat} (numbered : Numbered db) : Numbered (changedAt db inode change keeps) := by
  intro row member
  rcases mem_rows_changedAt.mp member with ⟨stored, _⟩ | ⟨before, stored, _, same⟩
  · exact numbered row stored
  · rw [same]
    exact numbered before stored

end InPlace

/-! ## A row that is trashed -/

section Trashed

variable {db : Database} {node : Row DriveFile}

/-- The database with the row with this number trashed. -/
def trashedAt (db : Database) (inode : Nat) : Database :=
  changedAt db inode DriveFile.trashed DriveFile.key_trashed

/-- No row that is not trashed has this one as its parent. -/
def Childless (db : Database) (file : DriveFile) : Prop :=
  ∀ row ∈ db.driveFiles.rows, row.data.isTrashed = false →
    row.data.accountId = file.accountId → row.data.parentId ≠ some file.id

theorem of_mem_trashedAt {inode : Nat} {row : Row DriveFile} (member : row ∈ (trashedAt db inode).driveFiles.rows)
    (live : row.data.isTrashed = false) : row ∈ db.driveFiles.rows ∧ row.rowid ≠ inode := by
  rcases mem_rows_changedAt.mp member with stored | ⟨before, _, _, same⟩
  · exact stored
  · rw [same] at live
    cases live

/-- The tree stays closed when a row is trashed that has no children. -/
theorem closed_trashedAt (member : node ∈ db.driveFiles.rows) (childless : Childless db node.data)
    (closed : Closed db) : Closed (trashedAt db node.rowid) := by
  intro row stored live parentId parent
  rcases of_mem_trashedAt stored live with ⟨before, _⟩
  rcases closed row before live parentId parent with ⟨folder, there, key, kept, isFolder⟩
  refine ⟨folder, mem_rows_changedAt.mpr (Or.inl ⟨there, fun same => ?_⟩), key, kept, isFolder⟩
  rw [row_eq_of_rowid there member same] at key
  refine childless row before live (congrArg Prod.snd key).symm (parent.trans ?_)
  exact congrArg some (congrArg Prod.fst key).symm

theorem allReached_trashedAt (numbered : Numbered db) (member : node ∈ db.driveFiles.rows)
    (childless : Childless db node.data) (reached : AllReached db) : AllReached (trashedAt db node.rowid) := by
  intro row stored live
  rcases of_mem_trashedAt stored live with ⟨before, apart⟩
  refine reach_of_removed (fun one two other lists => (lists_changedAt_of_ne other).mpr lists)
    (fun other lists => ?_) (reached row before live) apart
  rcases lists_iff.mp lists with ⟨child, present, _, alive, child_⟩
  rcases (isChildOf_iff_of_ne (numbered node member)).mp child_ with ⟨parent, there, number, named, alike⟩
  rw [row_eq_of_rowid there member number] at named alike
  exact childless child present alive alike.symm named

end Trashed

/-! ## A row that is moved -/

section Moved

variable {db : Database} {node : Row DriveFile} {now : Int} {newName : String} {newParentId : Option String}

theorem key_moved (now : Int) (newName : String) (newParentId : Option String) (file : DriveFile) :
    (moved now newName newParentId file).key = file.key := rfl

/-- The database with the row with this number renamed and under a new parent. -/
def movedAt (db : Database) (inode : Nat) (now : Int) (newName : String) (newParentId : Option String) : Database :=
  changedAt db inode (moved now newName newParentId) (key_moved now newName newParentId)

/-- Folders are the same before and after. -/
theorem hasFolder_movedAt {inode : Nat} {folderId accountId : String} :
    HasFolder (movedAt db inode now newName newParentId) folderId accountId ↔ HasFolder db folderId accountId := by
  constructor
  · rintro ⟨folder, member, key, live, isFolder⟩
    rcases mem_rows_changedAt.mp member with ⟨stored, _⟩ | ⟨before, stored, _, same⟩
    · exact ⟨folder, stored, key, live, isFolder⟩
    · rw [same] at key live isFolder
      exact ⟨before, stored, key, live, isFolder⟩
  · rintro ⟨folder, member, key, live, isFolder⟩
    by_cases here : folder.rowid = inode
    · exact ⟨_, mem_rows_changedAt.mpr (Or.inr ⟨folder, member, here, rfl⟩), key, live, isFolder⟩
    · exact ⟨folder, mem_rows_changedAt.mpr (Or.inl ⟨member, here⟩), key, live, isFolder⟩

theorem moved_mem (member : node ∈ db.driveFiles.rows) :
    ⟨node.rowid, moved now newName newParentId node.data⟩ ∈
      (movedAt db node.rowid now newName newParentId).driveFiles.rows :=
  mem_rows_changedAt.mpr (Or.inr ⟨node, member, rfl, rfl⟩)

/-- The tree stays closed exactly when the account of the moved file has a folder with the
new parent's id. -/
theorem closed_movedAt_iff (member : node ∈ db.driveFiles.rows) (live : node.data.isTrashed = false)
    (closed : Closed db) :
    Closed (movedAt db node.rowid now newName newParentId) ↔
      ∀ parentId, newParentId = some parentId → HasFolder db parentId node.data.accountId := by
  constructor
  · intro after parentId parent
    exact hasFolder_movedAt.mp (after _ (moved_mem member) live parentId parent)
  · intro has row stored alive parentId parent
    refine hasFolder_movedAt.mpr ?_
    rcases mem_rows_changedAt.mp stored with ⟨before, _⟩ | ⟨before, present, here, same⟩
    · exact closed row before alive parentId parent
    · rw [row_eq_of_rowid present member here] at same
      rw [same] at parent ⊢
      exact has parentId parent

/-- The folder that a move takes effect in, when it is not the root: that of the account of
the file.  It must not be below the file. -/
def Fits (db : Database) (node : Row DriveFile) (newParentId : Option String) : Prop :=
  ∀ parentId, newParentId = some parentId →
    ∃ folder ∈ db.driveFiles.rows, folder.data.key = (parentId, node.data.accountId) ∧
      folder.data.isTrashed = false ∧ folder.data.isFolder = true ∧
        ¬ ReflTransGen (Lists db) node.rowid folder.rowid

theorem Fits.hasFolder (fits : Fits db node newParentId) (parentId : String)
    (parent : newParentId = some parentId) : HasFolder db parentId node.data.accountId := by
  rcases fits parentId parent with ⟨folder, member, key, live, isFolder, _⟩
  exact ⟨folder, member, key, live, isFolder⟩

/-- Nothing leads back to the root. -/
theorem root_not_below (numbered : Numbered db) (member : node ∈ db.driveFiles.rows) :
    ¬ ReflTransGen (Lists db) node.rowid rootInode := by
  intro below
  cases ReflTransGen.cases_tail below with
  | inl same => exact numbered node member same.symm
  | inr last =>
      rcases last with ⟨directory, _, lists⟩
      exact not_lists_root numbered lists

/-- The moved row is listed where it was moved to. -/
theorem lists_moved (live : node.data.isTrashed = false) (member : node ∈ db.driveFiles.rows) {directory : Nat}
    (child : Database.isChildOf db directory (moved now newName newParentId node.data) = true) :
    Lists (movedAt db node.rowid now newName newParentId) directory node.rowid :=
  lists_iff.mpr ⟨_, moved_mem member, rfl, live, isChildOf_changedAt.mpr child⟩

theorem allReached_movedAt (numbered : Numbered db) (member : node ∈ db.driveFiles.rows)
    (live : node.data.isTrashed = false) (fits : Fits db node newParentId) (reached : AllReached db) :
    AllReached (movedAt db node.rowid now newName newParentId) := by
  have others : ∀ one two, two ≠ node.rowid → Lists db one two →
      Lists (movedAt db node.rowid now newName newParentId) one two :=
    fun one two apart lists => (lists_changedAt_of_ne apart).mpr lists
  have goes : ∀ inode, ReflTransGen (Lists db) rootInode inode →
      ReflTransGen (Lists (movedAt db node.rowid now newName newParentId)) rootInode inode := by
    intro inode before
    cases parent : newParentId with
    | none =>
        rw [parent] at others
        exact reach_of_moved others (lists_moved live member (isChildOf_root.mpr rfl)) ReflTransGen.refl
          (root_not_below numbered member) before
    | some parentId =>
        rcases fits parentId parent with ⟨folder, stored, key, kept, _, above⟩
        rw [parent] at others
        exact reach_of_moved others (lists_moved live member (isChildOf_of_key numbered stored rfl key))
          (reached folder stored kept) above before
  intro row stored alive
  rcases mem_rows_changedAt.mp stored with ⟨before, _⟩ | ⟨before, present, _, same⟩
  · exact goes row.rowid (reached row before alive)
  · rw [same] at alive ⊢
    exact goes before.rowid (reached before present alive)

/-- A row that was moved below itself is lost. -/
theorem fits_of_allReached (numbered : Numbered db) (member : node ∈ db.driveFiles.rows)
    (live : node.data.isTrashed = false) (closed : Closed (movedAt db node.rowid now newName newParentId))
    (reached : AllReached (movedAt db node.rowid now newName newParentId)) : Fits db node newParentId := by
  intro parentId parent
  have has := hasFolder_movedAt.mp (closed _ (moved_mem member) live parentId parent)
  rcases has with ⟨folder, stored, key, kept, isFolder⟩
  refine ⟨folder, stored, key, kept, isFolder, fun below => ?_⟩
  have held : ∀ one, Lists (movedAt db node.rowid now newName newParentId) one node.rowid → one = folder.rowid := by
    intro one lists
    refine lists_unique lists (lists_moved live member ?_)
    exact isChildOf_of_key numbered stored parent key
  refine not_reached_of_cycle (fun one two other apart after before => ?_) held below
    (root_not_below numbered member) ReflTransGen.refl
    (reached ⟨node.rowid, moved now newName newParentId node.data⟩ (moved_mem member) live)
  exact lists_unique ((lists_changedAt_of_ne apart).mp after) before

end Moved

/-! ## A row that is added -/

section Added

variable {db : Database} {file : DriveFile}

theorem rows_putFile_of_absent (absent : db.file file.id file.accountId = none) :
    (db.putFile file).driveFiles.rows = db.driveFiles.rows ++ [⟨db.driveFiles.nextRowid, file⟩] := by
  have free : ∀ row ∈ db.driveFiles.rows, row.data.key ≠ file.key := by
    refine (KeyedTable.lookupRow_eq_none_iff db.driveFiles file.key).mp ?_
    exact Option.map_eq_none_iff.mp absent
  rw [Database.putFile, KeyedTable.upsert, dif_pos free]
  rfl

theorem mem_rows_putFile (absent : db.file file.id file.accountId = none) {row : Row DriveFile} :
    row ∈ (db.putFile file).driveFiles.rows ↔
      row ∈ db.driveFiles.rows ∨ row = ⟨db.driveFiles.nextRowid, file⟩ := by
  rw [rows_putFile_of_absent absent, List.mem_append, List.mem_singleton]

theorem hasFolder_putFile (absent : db.file file.id file.accountId = none) {folderId accountId : String}
    (has : HasFolder db folderId accountId) : HasFolder (db.putFile file) folderId accountId := by
  rcases has with ⟨folder, member, facts⟩
  exact ⟨folder, (mem_rows_putFile absent).mpr (Or.inl member), facts⟩

theorem closed_putFile (absent : db.file file.id file.accountId = none)
    (parents : ∀ parentId, file.parentId = some parentId → HasFolder db parentId file.accountId)
    (closed : Closed db) : Closed (db.putFile file) := by
  intro row member live parentId parent
  refine hasFolder_putFile absent ?_
  rcases (mem_rows_putFile absent).mp member with stored | new
  · exact closed row stored live parentId parent
  · rw [new] at parent ⊢
    exact parents parentId parent

theorem numbered_putFile (absent : db.file file.id file.accountId = none) (numbered : Numbered db) :
    Numbered (db.putFile file) := by
  intro row member
  rcases (mem_rows_putFile absent).mp member with stored | new
  · exact numbered row stored
  · rw [new]
    exact Nat.succ_ne_zero _

theorem isChildOf_putFile (absent : db.file file.id file.accountId = none) {directory : Nat} {child : DriveFile}
    (before : Database.isChildOf db directory child = true) :
    Database.isChildOf (db.putFile file) directory child = true := by
  by_cases top : directory = rootInode
  · rw [top, isChildOf_root] at before ⊢
    exact before
  · rw [isChildOf_iff_of_ne top] at before ⊢
    rcases before with ⟨parent, stored, facts⟩
    exact ⟨parent, (mem_rows_putFile absent).mpr (Or.inl stored), facts⟩

theorem lists_putFile (absent : db.file file.id file.accountId = none) {directory inode : Nat}
    (before : Lists db directory inode) : Lists (db.putFile file) directory inode := by
  rw [lists_iff] at before ⊢
  rcases before with ⟨row, member, number, live, child⟩
  exact ⟨row, (mem_rows_putFile absent).mpr (Or.inl member), number, live, isChildOf_putFile absent child⟩

theorem allReached_putFile (numbered : Numbered db) (absent : db.file file.id file.accountId = none)
    (parents : ∀ parentId, file.parentId = some parentId → HasFolder db parentId file.accountId)
    (reached : AllReached db) : AllReached (db.putFile file) := by
  have goes : ∀ inode, ReflTransGen (Lists db) rootInode inode →
      ReflTransGen (Lists (db.putFile file)) rootInode inode :=
    fun inode before => ReflTransGen.mono (fun _ _ lists => lists_putFile absent lists) _ _ before
  intro row member live
  rcases (mem_rows_putFile absent).mp member with stored | new
  · exact goes row.rowid (reached row stored live)
  · have listed {directory : Nat} (child : Database.isChildOf db directory file = true) :
        Lists (db.putFile file) directory row.rowid :=
      lists_iff.mpr ⟨row, member, rfl, live, by
        rw [new]
        exact isChildOf_putFile absent child⟩
    cases parent : file.parentId with
    | none => exact ReflTransGen.single (listed (isChildOf_root.mpr parent))
    | some parentId =>
        rcases parents parentId parent with ⟨folder, there, key, kept, _⟩
        exact (goes folder.rowid (reached folder there kept)).tail
          (listed (isChildOf_of_key numbered there parent key))

end Added

end Tree
end GDriver
