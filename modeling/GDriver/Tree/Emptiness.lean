import GDriver.Tree.Calls

namespace GDriver
namespace Tree

open Library Routine Db Vfs

/-!
# Empty directories

A folder may be removed when it is empty.  What is in it is counted by the id of the folder alone, and
listed by its id and its account.  Where accounts share a folder, the two can differ.
-/

/-- The folder is found not to be empty exactly when it lists something, and can be removed exactly when
it does not. -/
structure EmptinessAgrees (world : World) (inode : Nat) : Prop where
  counted : Database.hasChildren world.db inode = true ↔ Database.childrenByInode world.db inode ≠ []
  removed : ∀ (answers : CallbackAnswers) (parent : Nat) (name : String) (row : Row DriveFile),
    (∀ statement, answers.runs statement = true) → Database.childNamed world.db parent name = some row →
      row.rowid = inode → row.data.isFolder = true →
        (outcome (rmdir answers parent (some name)) world = .ok () ↔ Database.childrenByInode world.db inode = [])

/-- If a row has the id of the directory as its parent, then one of the account of the directory has. -/
def OwnChildToo (db : Database) (inode : Nat) : Prop :=
  inode ≠ rootInode → ∀ directory ∈ db.driveFiles.rows, directory.rowid = inode →
    (∃ row ∈ db.driveFiles.rows, row.data.isTrashed = false ∧ row.data.parentId = some directory.data.id) →
      ∃ row ∈ db.driveFiles.rows, row.data.isTrashed = false ∧ row.data.parentId = some directory.data.id ∧
        row.data.accountId = directory.data.accountId

section Emptiness

variable {db : Database} {inode : Nat} {directory : Row DriveFile}

theorem childrenByInode_ne_nil_iff : Database.childrenByInode db inode ≠ [] ↔
    ∃ row ∈ db.driveFiles.rows, row.data.isTrashed = false ∧ Database.isChildOf db inode row.data = true := by
  rw [Ne, List.eq_nil_iff_forall_not_mem, not_forall]
  refine exists_congr fun row => ?_
  rw [not_not, Database.mem_childrenByInode]
  exact and_congr_right fun _ => and_comm

theorem hasChildren_root_iff : Database.hasChildren db rootInode = true ↔
    ∃ row ∈ db.driveFiles.rows, row.data.isTrashed = false ∧ row.data.parentId = none := by
  rw [Database.hasChildren, if_pos rfl, Table.records, List.any_map, List.any_eq_true]
  refine exists_congr fun row => and_congr_right fun _ => ?_
  rw [Function.comp_apply, Bool.and_eq_true, Bool.not_eq_true', Option.isNone_iff_eq_none]
  exact and_comm

/-- The rows of all accounts are counted. -/
theorem hasChildren_iff (inside : inode ≠ rootInode) : Database.hasChildren db inode = true ↔
    ∃ directory ∈ db.driveFiles.rows, directory.rowid = inode ∧
      ∃ row ∈ db.driveFiles.rows, row.data.isTrashed = false ∧ row.data.parentId = some directory.data.id := by
  rw [Database.hasChildren, if_neg inside]
  cases found : db.driveFiles.findRow? fun row => row.rowid = inode with
  | none =>
      refine iff_of_false (fun impossible => by cases impossible) ?_
      rintro ⟨directory, stored, number, _⟩
      have there := Table.rowAt_of_mem stored
      rw [number, Table.rowAt, found] at there
      cases there
  | some directory =>
      rcases Table.of_findRow?_eq_some found with ⟨stored, number⟩
      dsimp only
      rw [Table.records, List.any_map, List.any_eq_true]
      have counted (row : Row DriveFile) : ((fun file : DriveFile =>
          decide (file.parentId = some directory.data.id) && !file.isTrashed) ∘ Row.data) row = true ↔
            row.data.isTrashed = false ∧ row.data.parentId = some directory.data.id := by
        rw [Function.comp_apply, Bool.and_eq_true, Bool.not_eq_true', decide_eq_true_eq]
        exact and_comm
      constructor
      · rintro ⟨row, member, child⟩
        exact ⟨directory, stored, of_decide_eq_true number, row, member, (counted row).mp child⟩
      · rintro ⟨other, present, place, row, member, child⟩
        rw [row_eq_of_rowid present stored (place.trans (of_decide_eq_true number).symm)] at child
        exact ⟨row, member, (counted row).mpr child⟩

/-- The rows of the account of the directory are listed. -/
theorem lists_some_iff (inside : inode ≠ rootInode) : Database.childrenByInode db inode ≠ [] ↔
    ∃ directory ∈ db.driveFiles.rows, directory.rowid = inode ∧
      ∃ row ∈ db.driveFiles.rows, row.data.isTrashed = false ∧ row.data.parentId = some directory.data.id ∧
        row.data.accountId = directory.data.accountId := by
  rw [childrenByInode_ne_nil_iff]
  constructor
  · rintro ⟨row, member, live, child⟩
    rcases (isChildOf_iff_of_ne inside).mp child with ⟨directory, stored, number, parent, alike⟩
    exact ⟨directory, stored, number, row, member, live, parent, alike.symm⟩
  · rintro ⟨directory, stored, number, row, member, live, parent, alike⟩
    exact ⟨row, member, live, (isChildOf_iff_of_ne inside).mpr ⟨directory, stored, number, parent, alike.symm⟩⟩

/-- What is counted is what is listed exactly when no other account alone has something in the directory. -/
theorem hasChildren_agrees_iff : (Database.hasChildren db inode = true ↔ Database.childrenByInode db inode ≠ []) ↔
    OwnChildToo db inode := by
  by_cases top : inode = rootInode
  · rw [top]
    refine iff_of_true ?_ fun inside => absurd rfl inside
    rw [hasChildren_root_iff, childrenByInode_ne_nil_iff]
    refine exists_congr fun row => and_congr_right fun _ => and_congr_right fun _ => ?_
    rw [isChildOf_root]
  · rw [hasChildren_iff top, lists_some_iff top]
    constructor
    · rintro agree _ directory stored number child
      rcases agree.mp ⟨directory, stored, number, child⟩ with ⟨other, present, place, own⟩
      rw [row_eq_of_rowid present stored (place.trans number.symm)] at own
      exact own
    · intro own
      constructor
      · rintro ⟨directory, stored, number, child⟩
        exact ⟨directory, stored, number, own top directory stored number child⟩
      · rintro ⟨directory, stored, number, row, member, live, parent, _⟩
        exact ⟨directory, stored, number, row, member, live, parent⟩

/-- A folder that is found is removed exactly when nothing is counted in it. -/
theorem rmdir_ok_iff {answers : CallbackAnswers} {world : World} {parent : Nat} {name : String} {row : Row DriveFile}
    (runs : ∀ statement, answers.runs statement = true) (named : Database.childNamed world.db parent name = some row)
    (folder : row.data.isFolder = true) :
    outcome (rmdir answers parent (some name)) world = .ok () ↔ Database.hasChildren world.db row.rowid = false := by
  have looked : outcome (rmdir answers parent (some name)) world =
      outcome (orEio (Vfs.hasChildren (answers.runs 4) row.rowid) >>= fun counted =>
        refuseIf counted .enotempty >>= fun _ =>
        announce answers row.rowid .delete (fun _ => pure ()) >>= fun _ =>
          orEio (softDeleteByInode (answers.runs 3) row.rowid)) world := by
    refine (outcome_bind_orEio_select (answers.runs 0) (fun db => Database.childNamed db parent name) _ world).trans ?_
    rw [if_pos (runs 0)]
    have enters : refuseIf (!row.data.isFolder) .enotdir = pure () := by
      rw [folder]
      rfl
    rw [named]
    refine (congrArg (fun first => outcome (first >>= fun _ => _) world) enters).trans ?_
    rfl
  rw [looked, Vfs.hasChildren, outcome_bind_orEio_select, if_pos (runs 4)]
  cases Database.hasChildren world.db row.rowid with
  | true => exact iff_of_false (fun impossible => by cases impossible) (fun impossible => by cases impossible)
  | false =>
      refine iff_of_true ?_ rfl
      refine (outcome_bind_of_ok (outcome_announce fun _ _ => rfl) _).trans ?_
      rw [orEio, outcome_mapError, outcome_onDb, softDeleteByInode, updateInode, outcome_execute, if_pos (runs 3)]
      rfl

end Emptiness

/-- Counting and listing agree about a directory exactly when no other account alone has something in it. -/
theorem emptiness_agrees_iff (world : World) (inode : Nat) :
    EmptinessAgrees world inode ↔ OwnChildToo world.db inode := by
  rw [← hasChildren_agrees_iff]
  constructor
  · exact EmptinessAgrees.counted
  · intro counted
    refine ⟨counted, fun answers parent name row runs named number folder => ?_⟩
    rw [rmdir_ok_iff runs named folder, number, ← not_iff_not, Bool.not_eq_false]
    exact counted

/-- A folder of one account, and a file of another that has the id of the folder as its parent. -/
def sharedFolder : World :=
  World.around ((Database.fresh.putFile bobsFolder).putFile { annsNotes with parentId := some "work" })

/-- The folder lists nothing and cannot be removed. -/
theorem shared_folder_is_not_empty : ¬ EmptinessAgrees sharedFolder 1 := by
  intro agrees
  rcases agrees.counted.mp (by decide) with listed
  refine listed ?_
  rw [List.eq_nil_iff_forall_not_mem]
  intro row member
  have apart : ∀ row ∈ sharedFolder.db.driveFiles.rows,
      Database.isChildOf sharedFolder.db 1 row.data = false := by decide
  rcases Database.mem_childrenByInode.mp member with ⟨stored, child, _⟩
  rw [apart row stored] at child
  cases child

end Tree
end GDriver
