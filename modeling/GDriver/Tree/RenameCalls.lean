import GDriver.Tree.Renames

namespace GDriver
namespace Tree

open Library Routine Db Vfs Local

/-!
# The callbacks that rename

On both systems a rename first reads, and then changes a row and announces the change.  On Windows
what has the new name is trashed in between, and nothing else is done about it.
-/

section Linux

variable {answers : CallbackAnswers} {parent newParent : Nat} {name newName : String} {world : World}
  {row : Row DriveFile}
  {paths : PathFunctions}

/-- What a change of a row leaves that was executed and announced. -/
theorem final_announced {ε : Type} {translate : String → ε} {announces : Unit → Routine ε World Unit}
    {newParentId : Option String} {ino : Nat} {runs : Bool}
    (answered : outcome (mapError translate (onDb (renameRow runs answers.now ino newName newParentId)) >>= announces)
      world = .ok ())
    (announced : ∀ state, final (announces ()) state =
      final (announce answers ino .rename (Windows.renameCacheFile paths (answers.failures 0) newName)) state) :
    final (mapError translate (onDb (renameRow runs answers.now ino newName newParentId)) >>= announces) world =
      relocated paths answers ino newName newParentId world := by
  rcases outcome_bind_eq_ok_iff.mp answered with ⟨_, executed, _⟩
  have change : final (renameRow runs answers.now ino newName newParentId) world.db =
      if runs then movedAt world.db ino answers.now newName newParentId else world.db := final_execute _ _ _
  have answer : outcome (renameRow runs answers.now ino newName newParentId) world.db =
      if runs then .ok () else .error databaseError := outcome_execute _ _ _
  rw [final_bind_of_ok executed, announced, final_mapError, final_onDb, change, relocated]
  rw [outcome_mapError, outcome_onDb, answer] at executed
  cases runs with
  | false => cases executed
  | true => rfl

/-- A rename that replies has found its row and its directory. -/
theorem of_rename (renamed : outcome (Vfs.rename answers parent (some name) newParent (some newName)) world = .ok ())
    (named : Database.childNamed world.db parent name = some row) :
    ∃ newParentId, LeadsTo world.db newParent newParentId ∧
      final (Vfs.rename answers parent (some name) newParent (some newName)) world =
        afterRename .unix answers row.rowid newName newParentId none world := by
  rw [Vfs.rename] at renamed ⊢
  rcases of_bind_of_reads rfl renamed with ⟨_, given, renamed, ends⟩
  cases given
  rw [ends]
  rcases of_bind_of_reads rfl renamed with ⟨_, given, renamed, ends⟩
  cases given
  rw [ends]
  have lookup : final (orEio (lookupByParentAndName (answers.runs 0) parent name)) world = world :=
    (@keeps_orEio_select Eq _ _ _ _ world).symm
  rcases of_bind_of_reads lookup renamed with ⟨found, looked, renamed, ends⟩
  rw [ends]
  rw [lookupByParentAndName] at looked
  rw [← of_outcome_orEio_select looked, named] at renamed ⊢
  rcases of_bind_of_reads rfl renamed with ⟨_, given, renamed, ends⟩
  cases given
  rw [ends]
  rcases of_bind_of_reads (@keeps_refuseIfTaken Eq inferInstance _ _ _ world).symm renamed with ⟨_, _, renamed, ends⟩
  rw [ends]
  rcases of_bind_of_reads (@keeps_newParentOf Eq inferInstance _ _ world).symm renamed with
    ⟨newParentId, leads, renamed, ends⟩
  rw [ends]
  refine ⟨newParentId, of_newDirectory (congrArg Except.toOption leads), ?_⟩
  exact final_announced renamed fun state => rfl

end Linux

/-- The row that a rename on Windows replaces. -/
def replacedBy (answers : CallbackAnswers) (newParent : Nat) (newName : String) (db : Database) : Option Nat :=
  if answers.runs 3 then (Database.childNamed db newParent newName).map Row.rowid else none

section OnWindows

variable {paths : PathFunctions} {answers : CallbackAnswers} {parent newParent : Nat} {name newName : String}
  {world : World} {row : Row DriveFile}

theorem final_walk (runs : Nat → Bool) (missing : Windows.NtStatus) (first : Nat) (components : List String)
    (inode : Nat) (world : World) : final (Windows.walk runs missing first components inode) world = world := by
  induction components generalizing first inode world with
  | nil => rfl
  | cons component rest inductionHypothesis =>
      rw [Windows.walk, final_bind_of_reader]
      · rw [Windows.orInternalError, final_mapError, final_onDb, lookupByParentAndName, final_select]
        rfl
      · intro found state
        cases found with
        | none => rfl
        | some row => exact inductionHypothesis (first + 1) row.rowid state

theorem final_replaceTarget {replaceIfExists : Bool}
    (replaced : outcome (Windows.replaceTarget answers newParent newName replaceIfExists) world = .ok ()) :
    final (Windows.replaceTarget answers newParent newName replaceIfExists) world =
      world.withDb (withReplaced (replacedBy answers newParent newName world.db) world.db) := by
  have looks : outcome (onDb (lookupByParentAndName (answers.runs 3) newParent newName)) world =
      if answers.runs 3 then .ok (Database.childNamed world.db newParent newName) else .error databaseError := by
    rw [outcome_onDb, lookupByParentAndName, outcome_select]
  have reads : final (onDb (lookupByParentAndName (answers.runs 3) newParent newName)) world = world := by
    rw [final_onDb, lookupByParentAndName, final_select]
    rfl
  rw [Windows.replaceTarget, outcome_bind_of_ok (outcome_observe _ _), final_observe, reads, looks] at replaced
  rw [Windows.replaceTarget, final_bind_of_ok (outcome_observe _ _), final_observe, reads, looks, replacedBy]
  cases runs : answers.runs 3 with
  | false => rfl
  | true =>
      rw [runs, if_pos rfl] at replaced
      rw [if_pos rfl, if_pos rfl]
      cases found : Database.childNamed world.db newParent newName with
      | none => rfl
      | some target =>
          rw [found] at replaced
          cases replaceIfExists with
          | false => cases replaced
          | true =>
              have change : final (softDeleteByInode (answers.runs 6) target.rowid) world.db =
                  if answers.runs 6 then trashedAt world.db target.rowid else world.db := final_execute _ _ _
              have answer : outcome (softDeleteByInode (answers.runs 6) target.rowid) world.db =
                  if answers.runs 6 then .ok () else .error databaseError := outcome_execute _ _ _
              change outcome (Windows.orInternalError (softDeleteByInode (answers.runs 6) target.rowid)) world =
                _ at replaced
              change final (Windows.orInternalError (softDeleteByInode (answers.runs 6) target.rowid)) world = _
              rw [Windows.orInternalError, outcome_mapError, outcome_onDb, answer] at replaced
              rw [Windows.orInternalError, final_mapError, final_onDb, change]
              cases executes : answers.runs 6 with
              | false =>
                  rw [executes] at replaced
                  cases replaced
              | true => rfl

theorem leadsTo_of_newParentOf {runs : Bool} {newParentId : Option String}
    (found : outcome (Windows.newParentOf runs newParent) world = .ok newParentId) :
    LeadsTo world.db newParent newParentId := by
  have same : newDirectory runs newParent world = (outcome (Windows.newParentOf runs newParent) world).toOption := by
    rw [newDirectory, Vfs.newParentOf, Windows.newParentOf]
    split
    · rfl
    · rw [outcome_bind_of_ok (outcome_observe _ _), outcome_bind_of_ok (outcome_observe _ _)]
      cases outcome (onDb (getParentInfo runs newParent)) world with
      | error failure => rfl
      | ok info =>
          cases info with
          | none => rfl
          | some place => rfl
  rw [found] at same
  exact of_newDirectory same

theorem final_newParentOf (runs : Bool) : final (Windows.newParentOf runs newParent) world = world := by
  rw [Windows.newParentOf]
  split
  · rfl
  · rw [final_bind_of_reader]
    · exact (@keeps_getParentInfo Eq _ runs newParent world).symm
    · intro info state
      split
      · rfl
      · rfl

/-- A rename that is done on Windows has found its row and its directory. -/
theorem of_renameOnWindows {fileName newFileName : String} {replaceIfExists : Bool}
    (renamed : outcome (Windows.rename paths answers fileName newFileName replaceIfExists) world = .ok ())
    (leaves : outcome (Windows.walk answers.runs .objectPathNotFound 7 (Windows.splitPath fileName).1 rootInode) world =
      .ok parent)
    (arrives : outcome (Windows.walk answers.runs .objectPathNotFound (7 + (Windows.splitPath fileName).1.length)
      (Windows.splitPath newFileName).1 rootInode) world = .ok newParent)
    (named : Database.childNamed world.db parent (Windows.splitPath fileName).2 = some row) :
    ∃ newParentId,
      LeadsTo (withReplaced (replacedBy answers newParent (Windows.splitPath newFileName).2 world.db) world.db)
          newParent newParentId ∧
        final (Windows.rename paths answers fileName newFileName replaceIfExists) world =
          afterRename paths answers row.rowid (Windows.splitPath newFileName).2 newParentId
            (replacedBy answers newParent (Windows.splitPath newFileName).2 world.db) world := by
  rw [Windows.rename] at renamed ⊢
  generalize Windows.splitPath fileName = old at *
  generalize Windows.splitPath newFileName = new at *
  rcases old with ⟨oldDirectory, oldName⟩
  rcases new with ⟨newDirectory, newName⟩
  dsimp only at renamed leaves arrives named ⊢
  rcases of_bind_of_reads (final_walk _ _ _ _ _ _) renamed with ⟨_, walked, renamed, ends⟩
  cases walked.symm.trans leaves
  rw [ends]
  rcases of_bind_of_reads (final_walk _ _ _ _ _ _) renamed with ⟨_, walked, renamed, ends⟩
  cases walked.symm.trans arrives
  rw [ends]
  have lookup : final (Windows.orInternalError (lookupByParentAndName (answers.runs 0) parent oldName)) world =
      world := by
    rw [Windows.orInternalError, final_mapError, final_onDb, lookupByParentAndName, final_select]
    rfl
  rcases of_bind_of_reads lookup renamed with ⟨found, looked, renamed, ends⟩
  rw [ends]
  have same : found = some row := by
    rw [Windows.orInternalError, outcome_mapError, outcome_onDb, lookupByParentAndName, outcome_select] at looked
    cases runs : answers.runs 0 with
    | false =>
        rw [runs] at looked
        cases looked
    | true =>
        rw [runs, if_pos rfl, named] at looked
        exact (Except.ok.inj looked).symm
  rw [same] at renamed ⊢
  rcases of_bind_of_reads rfl renamed with ⟨_, given, renamed, ends⟩
  cases given
  rw [ends]
  rcases outcome_bind_eq_ok_iff.mp renamed with ⟨_, replaced, renamed⟩
  rw [final_bind_of_ok replaced]
  rw [final_replaceTarget replaced] at renamed ⊢
  rcases of_bind_of_reads (final_newParentOf _) renamed with ⟨newParentId, leads, renamed, ends⟩
  rw [ends]
  refine ⟨newParentId, leadsTo_of_newParentOf leads, ?_⟩
  exact final_announced renamed fun state => final_mapError _ _ _

end OnWindows

theorem deleteWaits_afterRename {paths : PathFunctions} {answers : CallbackAnswers} {ino : Nat} {newName : String}
    {newParentId : Option String} {replaced : Option Nat} {world : World} {file : DriveFile} :
    DeleteWaits (afterRename paths answers ino newName newParentId replaced world).db file ↔
      DeleteWaits world.db file := by
  refine deleteWaits_relocated.trans ?_
  cases replaced with
  | none => rfl
  | some number => rfl

/-- What a rename is to do: its file is followed, and all others are spared. -/
def MovesOne (cacheDir : String) (parent : Nat) (name : String) (newParent : Nat) (newName : String)
    (row : Row DriveFile) (before after : World) : Prop :=
  FollowsFile (readOpened cacheDir row.rowid) .unix cacheDir parent name newParent newName row before after ∧
    SparesOthers .unix cacheDir row.rowid before after

/-- What a rename on Windows is to do: its file is followed, and what it replaces is deleted on Drive. -/
def MovesOneOnWindows (paths : PathFunctions) (cacheDir : String) (parent : Nat) (name : String) (newParent : Nat)
    (newName : String) (replaced : Option Nat) (row : Row DriveFile) (before after : World) : Prop :=
  FollowsFile (readOpenedOnWindows paths cacheDir row.rowid) paths cacheDir parent name newParent newName row
      before after ∧
    ∀ target ∈ before.db.driveFiles.rows, replaced = some target.rowid → DeleteWaits after.db target.data

/-- The file finds its new place and keeps its content, and what is moved in the cache is its own. -/
structure MovesFreely (answers : CallbackAnswers) (cacheDir : String) (parent : Nat) (name : String) (newParent : Nat)
    (newName : String) (row : Row DriveFile) (world : World) : Prop where
  place : FindsNewPlace parent name newParent newName none row world.db
  content : KeepsContent (Opens row.rowid) .unix cacheDir answers newName row.data world.disk
  own : MovesOwn .unix cacheDir answers newName row world

/-- The file finds its new place and keeps its content, and what it replaces is about to be deleted on
Drive already. -/
structure MovesFreelyOnWindows (paths : PathFunctions) (answers : CallbackAnswers) (cacheDir : String) (parent : Nat)
    (name : String) (newParent : Nat) (newName : String) (row : Row DriveFile) (world : World) : Prop where
  place : FindsNewPlace parent name newParent newName (replacedBy answers newParent newName world.db) row world.db
  content : KeepsContent (OpensOnWindows row.rowid) paths cacheDir answers newName row.data world.disk
  asked : ∀ target ∈ world.db.driveFiles.rows, replacedBy answers newParent newName world.db = some target.rowid →
    DeleteWaits world.db target.data

/-- The path functions on plain Windows paths. -/
def backslashed : PathFunctions where
  parent path := (splitAtLast '\\' path.toList).map fun parts => String.ofList parts.1
  join directory name := directory ++ "\\" ++ name

/-- Notes whose content is in the cloud only, with a stale copy in the cache, and plans that are in the
cache and about to be deleted on Drive. -/
def staleNotes (cache : String) : DriveFile :=
  localFile 0 "notes" "ann@example.com" "notes.txt" "text/plain" none (some (cache ++ "notes.txt")) .cloudOnly

def cachedPlans (cache : String) : DriveFile :=
  localFile 0 "plans" "ann@example.com" "plans.txt" "text/plain" none (some (cache ++ "plans.txt")) .cached

def deletePlans (cache : String) : SyncTask :=
  ⟨none, "ann@example.com", some "plans", .delete, some (cache ++ "plans.txt"), 5, .pending, 0, none, 0, 0⟩

def staleWorld (cache : String) : World :=
  ((World.around (((Database.fresh.putFile (staleNotes cache)).putFile (cachedPlans cache)).putTask
    (deletePlans cache))).putOnDisk (cache ++ "notes.txt") (some ⟨[1], 0⟩)).putOnDisk (cache ++ "plans.txt")
      (some ⟨[2], 0⟩)

theorem rows_staleWorld (cache : String) :
    (staleWorld cache).db.driveFiles.rows = [⟨1, staleNotes cache⟩, ⟨2, cachedPlans cache⟩] := rfl

/-- Files with these names are created in the mount. -/
def createsFiles (names : List String) : List Operation :=
  .sync (.connect true ⟨"ann@example.com", "ann@example.com", 0⟩) ::
    names.mapIdx fun index name => .vfs "/cache" (.allRun 5 index) (.create rootInode (some name))

/-- The notes are in the cache. -/
def createdNotes : World := (run (@System.exec Api.untimed) (createsFiles ["notes.txt"]) System.initial).world

def createdBoth : World :=
  (run (@System.exec Api.untimed) (createsFiles ["notes.txt", "plans.txt"]) System.initial).world

end Tree
end GDriver
