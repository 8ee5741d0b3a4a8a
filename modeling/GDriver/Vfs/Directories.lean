import GDriver.Vfs.Linux

namespace GDriver
namespace Vfs

open Library Routine Db

/-!
# Looking around in the mounted file system

The callbacks that answer what is in a directory.  They change nothing.
-/

/-- The inode under which the kernel addresses the root of a mount. -/
def fuseRootId : Nat := 1

/-- All children of the directory with this inode, by name. -/
def Database.childrenByInode (db : Database) (parentInode : Nat) : List (Row DriveFile) :=
  (db.driveFiles.rows.filter fun row =>
    Database.isChildOf db parentInode row.data && !row.data.isTrashed).mergeSort
      fun one two => decide (one.data.name ≤ two.data.name)

theorem Database.mem_childrenByInode {db : Database} {parentInode : Nat} {row : Row DriveFile} :
    row ∈ Database.childrenByInode db parentInode ↔
      row ∈ db.driveFiles.rows ∧ Database.isChildOf db parentInode row.data = true ∧
        row.data.isTrashed = false := by
  rw [Database.childrenByInode, List.mem_mergeSort, List.mem_filter, Bool.and_eq_true, Bool.not_eq_true']

/-- List all children of a directory. -/
def listChildrenByInode (runs : Bool) (parentInode : Nat) : Routine String Database (List (Row DriveFile)) :=
  select runs fun db => Database.childrenByInode db parentInode

/-- Look up an entry of a directory. -/
def lookup (answers : CallbackAnswers) (parent : Nat) (name : Option String) :
    Routine Errno World FileAttr := do
  let name ← orErrno .enoent name
  let row ← orErrno .enoent (← orEio (lookupByParentAndName (answers.runs 0) parent name))
  pure (fileToAttr answers.now row)

/-- An entry of a listing, and where the listing goes on after it. -/
structure DirEntry where
  ino : Nat
  nextOffset : Nat
  isDirectory : Bool
  name : String
  deriving DecidableEq, Repr

/-- The entries of a directory: itself, its parent, and its children. -/
def dirEntries (ino : Nat) (children : List (Row DriveFile)) : List DirEntry :=
  ⟨ino, 1, true, "."⟩ :: ⟨rootInode, 2, true, ".."⟩ ::
    children.mapIdx fun index child => ⟨child.rowid, index + 3, child.data.isFolder, child.data.name⟩

/-- List a directory from an offset on, as far as the reply has room. -/
def readdir (answers : CallbackAnswers) (ino offset room : Nat) : Routine Errno World (List DirEntry) := do
  let children ← orEio (listChildrenByInode (answers.runs 0) ino)
  pure (((dirEntries ino children).drop offset).take room)

end Vfs
end GDriver
