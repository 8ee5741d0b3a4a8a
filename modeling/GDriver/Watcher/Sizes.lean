import GDriver.Library.Like
import GDriver.Watcher.Reloads
import Mathlib.Algebra.Ring.Int.Defs

namespace GDriver
namespace Watcher

open Library Routine Db Ipc

/-!
# The size of a folder

A request asks for the size of a configured folder.  The rows are chosen by a pattern that is made
from the text of its path, whatever account they belong to, and trashed or not.
-/

/-- The sum of a column, where it has values.  It fails as soon as a partial sum does not fit 64
bits. -/
def sumColumn : List (Option Int) → Int → Option Int
  | [], total => some total
  | none :: rest, total => sumColumn rest total
  | some value :: rest, total =>
      if -9223372036854775808 ≤ total + value ∧ total + value < 9223372036854775808 then
        sumColumn rest (total + value)
      else none

/-- The rows whose path matches `path%`. -/
def matchesFolder (path : String) (file : DriveFile) : Bool :=
  file.localPath.any fun localPath => like localPath (path ++ "%")

/-- The total size of the rows whose path matches. -/
def totalSize (runs : Bool) (path : String) : Routine String Database Int := do
  match ← select runs fun db => sumColumn ((db.driveFiles.records.filter (matchesFolder path)).map DriveFile.size)
    0 with
  | some total => pure total
  | none => throw "integer overflow"

/-- Return the total size (in bytes) of files within a sync folder. -/
def handleFolderGetSize (runs : Nat → Bool) (id : Option String) : Routine RpcError Database Int :=
  match id with
  | none => throw (.invalidParams "id is required")
  | some text =>
      match parseI64 text with
      | none => throw (.invalidParams "id must be a numeric string")
      | some id => mapError .internalError do
          match ← select (runs 0) fun db => db.syncFolders.findRow? fun row => (row.rowid : Int) = id with
          | none => pure 0
          | some row => totalSize (runs 1) row.data.localPath

/-! ## What belongs to a folder -/

/-- A file of the folder's account in the folder, not in the trash. -/
def belongsTo (folder : SyncFolder) (file : DriveFile) : Bool :=
  file.accountId = folder.accountId && !file.isTrashed && file.localPath.any fun path => isInside folder.localPath path

/-- The size of the files of a folder. -/
def folderSize (folder : SyncFolder) (files : List DriveFile) : Int :=
  ((files.filter (belongsTo folder)).map fun file => file.size.getD 0).sum

/-- The pattern matches a file of another account, in the trash, or outside the folder. -/
def matchesWrongly (folder : SyncFolder) (file : DriveFile) : Bool :=
  matchesFolder folder.localPath file &&
    (file.accountId ≠ folder.accountId || file.isTrashed || !file.localPath.any fun path =>
      isInside folder.localPath path)

/-- The pattern does not match a file of the folder, whose path is written in another way. -/
def isMissed (folder : SyncFolder) (file : DriveFile) : Bool :=
  belongsTo folder file && !matchesFolder folder.localPath file

/-- No partial sum of the sizes leaves 64 bits. -/
def sumFits : List (Option Int) → Int → Prop
  | [], _ => True
  | none :: rest, total => sumFits rest total
  | some value :: rest, total =>
      (-9223372036854775808 ≤ total + value ∧ total + value < 9223372036854775808) ∧ sumFits rest (total + value)

instance decidableSumFits : (column : List (Option Int)) → (total : Int) → Decidable (sumFits column total)
  | [], _ => inferInstanceAs (Decidable True)
  | none :: rest, total => decidableSumFits rest total
  | some value :: rest, total =>
      have := decidableSumFits rest (total + value)
      inferInstanceAs (Decidable (_ ∧ _))

theorem sumColumn_eq_some_iff (column : List (Option Int)) (total value : Int) :
    sumColumn column total = some value ↔
      sumFits column total ∧ value = total + (column.map fun entry => entry.getD 0).sum := by
  induction column generalizing total with
  | nil =>
      rw [sumColumn, List.map_nil, List.sum_nil, Int.add_zero, Option.some_inj]
      exact ⟨fun same => ⟨trivial, same.symm⟩, fun both => both.2.symm⟩
  | cons entry rest inductionHypothesis =>
      cases entry with
      | none =>
          rw [sumColumn, inductionHypothesis, List.map_cons, List.sum_cons, Option.getD_none, Int.zero_add]
          rfl
      | some size =>
          rw [sumColumn, List.map_cons, List.sum_cons, Option.getD_some, ← Int.add_assoc]
          split
          · next fits =>
              rw [inductionHypothesis]
              exact ⟨fun both => ⟨⟨fits, both.1⟩, both.2⟩, fun both => ⟨both.1.2, both.2⟩⟩
          · next overflows =>
              refine iff_of_false (fun impossible => ?_) fun both => overflows both.1.1
              cases impossible

/-- What two selections sum up to differs by what only one of them has. -/
theorem sum_filter_add (first second : DriveFile → Bool) (value : DriveFile → Int) (files : List DriveFile) :
    ((files.filter first).map value).sum + ((files.filter fun file => second file && !first file).map value).sum =
      ((files.filter second).map value).sum + ((files.filter fun file => first file && !second file).map value).sum :=
        by
  induction files with
  | nil => rfl
  | cons file rest inductionHypothesis =>
      simp only [List.filter_cons]
      cases first file with
      | false =>
          cases second file with
          | false => exact inductionHypothesis
          | true =>
              simp only [Bool.false_eq_true, if_false, Bool.not_false, if_true, List.map_cons, List.sum_cons,
                Bool.not_true, Bool.and_self]
              omega
      | true =>
          cases second file with
          | false =>
              simp only [Bool.false_eq_true, if_false, Bool.not_false, if_true, List.map_cons, List.sum_cons,
                Bool.not_true, Bool.and_self]
              omega
          | true =>
              simp only [Bool.false_eq_true, if_false, Bool.and_false, if_true, List.map_cons, List.sum_cons,
                Bool.not_true]
              omega

theorem matchesWrongly_eq (folder : SyncFolder) (file : DriveFile) :
    matchesWrongly folder file = (matchesFolder folder.localPath file && !belongsTo folder file) := by
  rw [matchesWrongly, belongsTo]
  simp only [Bool.not_and, Bool.not_not, ne_eq, decide_not]

section Asking

variable {db : Database} {text : String} {id : Int} {row : Row SyncFolder}

theorem outcome_handleFolderGetSize (parsed : parseI64 text = some id)
    (found : db.syncFolders.findRow? (fun row => (row.rowid : Int) = id) = some row) :
    outcome (handleFolderGetSize (fun _ => true) (some text)) db =
      match sumColumn ((db.driveFiles.records.filter (matchesFolder row.data.localPath)).map DriveFile.size) 0 with
      | some total => .ok total
      | none => .error (.internalError "integer overflow") := by
  have reads : outcome (select true fun db : Database => db.syncFolders.findRow? fun row => (row.rowid : Int) = id) db =
      .ok (some row) := by
    rw [outcome_select, if_pos rfl, found]
  rw [handleFolderGetSize]
  simp only [parsed]
  rw [outcome_mapError, outcome_bind_of_ok reads, final_select]
  dsimp only
  rw [totalSize, outcome_bind_of_ok (by rw [outcome_select, if_pos rfl])]
  cases sumColumn ((db.driveFiles.records.filter (matchesFolder row.data.localPath)).map DriveFile.size) 0 with
  | none => rfl
  | some total => rfl

end Asking

/-- The answer is the size of the folder exactly if no partial sum leaves 64 bits and the files that
the pattern matches wrongly have the size of those that it misses. -/
theorem folder_size_iff (db : Database) (text : String) (id : Int) (row : Row SyncFolder)
    (parsed : parseI64 text = some id)
    (found : db.syncFolders.findRow? (fun row => (row.rowid : Int) = id) = some row) :
    outcome (handleFolderGetSize (fun _ => true) (some text)) db = .ok (folderSize row.data db.driveFiles.records) ↔
      sumFits ((db.driveFiles.records.filter (matchesFolder row.data.localPath)).map DriveFile.size) 0 ∧
        ((db.driveFiles.records.filter (matchesWrongly row.data)).map fun file => file.size.getD 0).sum =
          ((db.driveFiles.records.filter (isMissed row.data)).map fun file => file.size.getD 0).sum := by
  have sums := sum_filter_add (matchesFolder row.data.localPath) (belongsTo row.data) (fun file => file.size.getD 0)
    db.driveFiles.records
  have wrong : (fun file => matchesFolder row.data.localPath file && !belongsTo row.data file) =
      matchesWrongly row.data :=
    funext fun file => (matchesWrongly_eq row.data file).symm
  have missed : (fun file => belongsTo row.data file && !matchesFolder row.data.localPath file) = isMissed row.data :=
      rfl
  rw [wrong, missed] at sums
  have answers : outcome (handleFolderGetSize (fun _ => true) (some text)) db =
      .ok (folderSize row.data db.driveFiles.records) ↔
        sumColumn ((db.driveFiles.records.filter (matchesFolder row.data.localPath)).map DriveFile.size) 0 =
          some (folderSize row.data db.driveFiles.records) := by
    rw [outcome_handleFolderGetSize parsed found]
    cases sumColumn ((db.driveFiles.records.filter (matchesFolder row.data.localPath)).map DriveFile.size) 0 with
    | none => exact iff_of_false (fun impossible => (by cases impossible)) fun impossible => (by cases impossible)
    | some total => exact ⟨fun same => congrArg some (Except.ok.inj same), fun same =>
        congrArg Except.ok (Option.some.inj same)⟩
  rw [answers, sumColumn_eq_some_iff, Int.zero_add, List.map_map]
  refine and_congr_right fun _ => ?_
  rw [folderSize]
  have same : (fun entry : Option Int => entry.getD 0) ∘ DriveFile.size = fun file : DriveFile => file.size.getD 0 :=
      rfl
  rw [same]
  omega

/-! ## A folder beside another one -/

def docFolder : SyncFolder := ⟨"ann@example.com", "/home/ann/Doc", "drive", true⟩

/-- One configured folder and one file of five bytes of an account. -/
def sized (accountId path : String) : Database where
  accounts := KeyedTable.empty
  driveFiles := KeyedTable.empty.upsert ⟨"x", accountId, "x", "text/plain", none, some 5, none, none, none, false,
    false,
    some path, .cached, none⟩
  syncQueue := SyncQueue.empty
  syncTokens := KeyedTable.empty
  syncFolders := KeyedTable.empty.upsert docFolder
  syncErrors := Table.empty

/-- A file in the folder is counted. -/
theorem folder_size_iff_of_doc :
    outcome (handleFolderGetSize (fun _ => true) (some "1")) (sized "ann@example.com" "/home/ann/Doc/x") =
      .ok (folderSize docFolder (sized "ann@example.com" "/home/ann/Doc/x").driveFiles.records) :=
  (folder_size_iff (sized "ann@example.com" "/home/ann/Doc/x") "1" 1 ⟨1, docFolder⟩ (by decide) (by decide)).mpr
    ⟨by decide, by decide⟩

/-- A file of another account in a folder beside it is counted as well. -/
theorem folder_size_counts_sibling :
    ¬ ∀ (db : Database) (text : String) (id : Int) (row : Row SyncFolder), parseI64 text = some id →
      db.syncFolders.findRow? (fun row => (row.rowid : Int) = id) = some row →
        outcome (handleFolderGetSize (fun _ => true) (some text)) db =
          .ok (folderSize row.data db.driveFiles.records) := by
  intro counts
  have wrong := counts (sized "bob@example.com" "/home/ann/Documents/x") "1" 1 ⟨1, docFolder⟩ (by decide) (by decide)
  exact absurd wrong (by decide)

end Watcher
end GDriver
