import GDriver.Library.Triple
import GDriver.Moves.Rows

namespace GDriver
namespace Accounts

open Library Routine Db Api Sync

/-!
# Rows and tasks of known accounts

Rows refer to an account, and the database sees to it.  Tasks only name one.  Whatever enqueues a
task takes the account from a row it has looked up, or has just stored; the watcher alone takes
it from the list of folders that it keeps.
-/

/-- The accounts have not changed, every row belongs to one of them, and so does every task that
was not there before. -/
structure Within (start db : Database) : Prop where
  accounts : db.accounts = start.accounts
  rows : ∀ row ∈ db.driveFiles.rows, start.hasAccount row.data.accountId = true
  tasks : ∀ taskId task, db.task taskId = some task → start.task taskId = none →
    start.hasAccount task.accountId = true

/-- Every row belongs to a stored account. -/
def RowsOwned (db : Database) : Prop :=
  ∀ row ∈ db.driveFiles.rows, db.hasAccount row.data.accountId = true

theorem within_self {db : Database} (owned : RowsOwned db) : Within db db where
  accounts := rfl
  rows := owned
  tasks taskId task found absent := by
    rw [absent] at found
    cases found

section Writes

variable {start db : Database}

theorem Within.hasAccount (within : Within start db) (accountId : String) :
    db.hasAccount accountId = start.hasAccount accountId := by
  rw [Database.hasAccount, within.accounts, Database.hasAccount]

theorem Within.file (within : Within start db) {fileId accountId : String} {file : Db.DriveFile}
    (found : db.file fileId accountId = some file) : start.hasAccount accountId = true := by
  rcases Option.map_eq_some_iff.mp found with ⟨row, there, same⟩
  have member := ((KeyedTable.lookupRow_eq_some_iff _ _ row).mp there).1
  rw [← (Database.holds_of_file found).2.2, ← same]
  exact within.rows row member

/-- The database accepts rows of stored accounts only. -/
theorem Within.accepted (within : Within start db) {file : Db.DriveFile} (accepts : db.acceptsFile file = true) :
    start.hasAccount file.accountId = true := by
  rw [Database.acceptsFile, Bool.or_eq_true] at accepts
  rcases accepts with there | account
  · rcases Option.isSome_iff_exists.mp there with ⟨before, found⟩
    exact within.file found
  · exact (within.hasAccount _).symm.trans account

/-- Changing rows in place leaves them with their accounts. -/
theorem within_updateFiles (within : Within start db) (selected : Row Db.DriveFile → Bool)
    (change : Db.DriveFile → Db.DriveFile) (keeps : ∀ file, (change file).key = file.key) :
    Within start (db.updateFiles selected change keeps) where
  accounts := within.accounts
  rows row member := by
    rcases List.mem_map.mp member with ⟨before, stored, same⟩
    rw [← same]
    split
    · have owner : (change before.data).accountId = before.data.accountId :=
        congrArg Prod.snd (keeps before.data)
      rw [owner]
      exact within.rows before stored
    · exact within.rows before stored
  tasks := within.tasks

theorem within_putFile (within : Within start db) {file : Db.DriveFile}
    (owned : start.hasAccount file.accountId = true) : Within start (db.putFile file) where
  accounts := within.accounts
  rows row member := by
    rcases (KeyedTable.mem_records_upsert db.driveFiles file row.data).mp (List.mem_map_of_mem member) with
      same | ⟨stored, _⟩
    · rw [same]
      exact owned
    · rcases List.mem_map.mp stored with ⟨before, there, same⟩
      rw [← same]
      exact within.rows before there
  tasks := within.tasks

theorem within_updateTask (within : Within start db) (taskId : Nat) {change : SyncTask → SyncTask}
    (keeps : ∀ task, (change task).id = task.id) (asks : ∀ task : SyncTask, task.AsksSame (change task)) :
    Within start (db.updateTask taskId change keeps) where
  accounts := within.accounts
  rows := within.rows
  tasks other found stored absent := by
    by_cases same : other = taskId
    · subst same
      rw [Database.task_updateTask_self] at stored
      rcases Option.map_eq_some_iff.mp stored with ⟨before, there, changed⟩
      rw [← changed, (asks before).accountId]
      exact within.tasks other before there absent
    · rw [Database.task_updateTask_of_ne db same] at stored
      exact within.tasks other found stored absent

theorem within_putTask (within : Within start db) {task : SyncTask}
    (owned : start.hasAccount task.accountId = true) : Within start (db.putTask task) where
  accounts := within.accounts
  rows := within.rows
  tasks taskId found stored absent := by
    rcases Database.task_putTask_cases stored with same | before
    · rw [same]
      exact owned
    · exact within.tasks taskId found before absent

end Writes

/-! ## Statements -/

section Statements

variable {start : Database}

theorem yields_select {α : Type} {runs : Bool} {read : Database → α} {fact : α → Prop}
    (knows : ∀ db, Within start db → fact (read db)) : Yields (Within start) fact (select runs read) := by
  intro db within
  rw [final_select, outcome_select]
  refine ⟨within, fun value answered => ?_⟩
  cases runs with
  | true =>
      cases answered
      exact knows db within
  | false => cases answered

theorem yields_execute {runs : Bool} {write : Database → Database}
    (keeps : ∀ db, Within start db → Within start (write db)) :
    Yields (Within start) (fun _ => True) (execute runs write) := by
  intro db within
  rw [final_execute]
  refine ⟨?_, fun _ _ => trivial⟩
  split
  · exact keeps db within
  · exact within

theorem yields_enqueue {runs : Bool} {task : SyncTask} (owned : start.hasAccount task.accountId = true) :
    Yields (Within start) (fun _ => True) (enqueue runs task) := by
  intro db within
  rw [final_enqueue]
  refine ⟨?_, fun _ _ => trivial⟩
  split
  · exact within_putTask within owned
  · exact within

/-- A row is only stored for an account that is there. -/
theorem yields_upsertFile {runs : Bool} {file : Db.DriveFile} :
    Yields (Within start) (fun _ => start.hasAccount file.accountId = true) (upsertFile runs file) := by
  intro db within
  have answered : outcome (upsertFile runs file) db =
      if runs && db.acceptsFile file then .ok () else .error databaseError := outcome_execute _ _ db
  rw [final_upsertFile, answered]
  by_cases stores : (runs && db.acceptsFile file) = true
  · have owned := within.accepted (Bool.and_eq_true_iff.mp stores).2
    rw [if_pos stores, if_pos stores]
    exact ⟨within_putFile within owned, fun _ _ => owned⟩
  · rw [if_neg stores, Bool.eq_false_iff.mpr stores]
    refine ⟨within, fun value impossible => ?_⟩
    cases impossible

theorem yields_insertFile {runs : Bool} {file : Db.DriveFile} :
    Yields (Within start) (fun _ => True) (Vfs.insertFile runs file) := by
  intro db within
  rw [Vfs.final_insertFile]
  refine ⟨?_, fun _ _ => trivial⟩
  split
  · next stores =>
      have owner := (Bool.and_eq_true_iff.mp stores).2
      rw [within.hasAccount] at owner
      exact within_putFile within owner
  · exact within

/-- The account of the first row of a scan. -/
theorem owned_findRow {db : Database} (within : Within start db) {wanted : Row Db.DriveFile → Bool}
    {row : Row Db.DriveFile} (found : db.driveFiles.findRow? wanted = some row) :
    start.hasAccount row.data.accountId = true :=
  within.rows row (Table.of_findRow?_eq_some found).1

theorem yields_getFileDetailsByInode {runs : Bool} {inode : Nat} :
    Yields (Within start) (fun found => ∀ details, found = some details → start.hasAccount details.accountId = true)
      (Vfs.getFileDetailsByInode runs inode) := by
  refine yields_select fun db within details found => ?_
  rcases Option.map_eq_some_iff.mp found with ⟨row, there, same⟩
  rw [← same]
  exact owned_findRow within there

end Statements

/-! ## Callbacks -/

section Callbacks

open Vfs

variable {start : Database}

/-- The same for the database of a world. -/
def WithinIn (start : Database) (world : World) : Prop :=
  Within start world.db

theorem yields_onDb {α : Type} {fact : α → Prop} {routine : Routine String Database α}
    (yields : Yields (Within start) fact routine) : Yields (WithinIn start) fact (onDb routine) :=
  yields_zoom (fun _ _ => rfl) yields

theorem yields_orEio {α : Type} {fact : α → Prop} {routine : Routine String Database α}
    (yields : Yields (Within start) fact routine) : Yields (WithinIn start) fact (orEio routine) :=
  yields_mapError (yields_onDb yields)

theorem yields_orErrno {α : Type} {fact : α → Prop} {errno : Errno} {found : Option α}
    (knows : ∀ value, found = some value → fact value) : Yields (WithinIn start) fact (orErrno errno found) := by
  cases found with
  | none => exact yields_throw
  | some value => exact yields_pure (knows value rfl)

/-- A part that leaves the database alone. -/
theorem yields_of_same {ε α : Type} {routine : Routine ε World α}
    (same : Keeps (fun world later : World => later.db = world.db) routine) :
    Yields (WithinIn start) (fun _ => True) routine := by
  intro world within
  refine ⟨?_, fun _ _ => trivial⟩
  rw [WithinIn, same world]
  exact within

instance : IsPreorder World (fun world later : World => later.db = world.db) where
  refl _ := rfl
  trans _ _ _ one two := two.trans one

theorem yields_requestContent (answers : CallbackAnswers) (cacheDir : String) (ino fh : Nat) :
    Yields (WithinIn start) (fun _ => True) (requestContent answers cacheDir ino fh) := by
  refine yields_bind (yields_of_same (keeps_validHandle _ _)) fun _ _ => ?_
  refine yields_bind (yields_orEio yields_getFileDetailsByInode) fun found knows => ?_
  refine yields_bind (yields_orErrno knows) fun details owned => ?_
  refine yields_bind (yields_of_same (keeps_inspect _)) fun present _ => ?_
  split
  · refine yields_bind (yields_of_same (keeps_callOrEio _)) fun _ _ => ?_
    exact yields_bind (yields_orEio (yields_enqueue owned)) fun _ _ => yields_pure trivial
  · exact yields_pure trivial

theorem yields_uploadIfModified (answers : CallbackAnswers) (ino fh : Nat) :
    Yields (WithinIn start) (fun _ => True) (uploadIfModified answers ino fh) := by
  refine yields_bind (yields_of_same (keeps_validHandle _ _)) fun handle _ => ?_
  refine yields_bind (yields_mapError (yields_onDb yields_getFileDetailsByInode)) fun found knows => ?_
  refine yields_bind (yields_orErrno knows) fun details owned => ?_
  split
  · exact yields_bind (yields_orEio (yields_enqueue owned)) fun _ _ => yields_pure trivial
  · exact yields_pure trivial

theorem yields_announce {answers : CallbackAnswers} {ino : Nat} {operation : TaskOperation}
    {andThen : Db.DriveFile → Routine Errno World Unit}
    (goesOn : ∀ details, Yields (WithinIn start) (fun _ => True) (andThen details)) :
    Yields (WithinIn start) (fun _ => True) (announce answers ino operation andThen) := by
  refine yields_bind (yields_observe (yields_onDb yields_getFileDetailsByInode)) fun known knows => ?_
  split
  · next details =>
      have owned := knows (some details) rfl details rfl
      exact yields_bind (yields_attempt (yields_onDb (yields_enqueue owned))) fun _ _ => goesOn details
  · exact yields_pure trivial

theorem yields_updateInode {runs : Bool} {ino : Nat} {change : Db.DriveFile → Db.DriveFile}
    {keeps : ∀ file, (change file).key = file.key} :
    Yields (Within start) (fun _ => True) (updateInode runs ino change keeps) :=
  yields_execute fun _ within => within_updateFiles within _ _ _

theorem yields_unlink (answers : CallbackAnswers) (parent : Nat) (name : Option String) :
    Yields (WithinIn start) (fun _ => True) (unlink answers parent name) := by
  refine yields_bind (yields_of_same (keeps_orErrno _ _)) fun name _ => ?_
  refine yields_bind (yields_of_same (keeps_orEio_select _ _)) fun row _ => ?_
  refine yields_bind (yields_of_same (keeps_orErrno _ _)) fun row _ => ?_
  refine yields_bind (yields_of_same (keeps_refuseIf _ _)) fun _ _ => ?_
  refine yields_bind (yields_announce fun details => ?_) fun _ _ => yields_orEio yields_updateInode
  split
  · exact yields_pure trivial
  · exact yields_of_same (keeps_attempt (keeps_removeFile (fun _ _ => rfl) _))

theorem yields_rmdir (answers : CallbackAnswers) (parent : Nat) (name : Option String) :
    Yields (WithinIn start) (fun _ => True) (rmdir answers parent name) := by
  refine yields_bind (yields_of_same (keeps_orErrno _ _)) fun name _ => ?_
  refine yields_bind (yields_of_same (keeps_orEio_select _ _)) fun row _ => ?_
  refine yields_bind (yields_of_same (keeps_orErrno _ _)) fun row _ => ?_
  refine yields_bind (yields_of_same (keeps_refuseIf _ _)) fun _ _ => ?_
  refine yields_bind (yields_of_same (keeps_orEio_select _ _)) fun taken _ => ?_
  refine yields_bind (yields_of_same (keeps_refuseIf _ _)) fun _ _ => ?_
  exact yields_bind (yields_announce fun _ => yields_pure trivial) fun _ _ => yields_orEio yields_updateInode

theorem yields_rename (answers : CallbackAnswers) (parent : Nat) (name : Option String) (newParent : Nat)
    (newName : Option String) :
    Yields (WithinIn start) (fun _ => True) (rename answers parent name newParent newName) := by
  refine yields_bind (yields_of_same (keeps_orErrno _ _)) fun name _ => ?_
  refine yields_bind (yields_of_same (keeps_orErrno _ _)) fun newName _ => ?_
  refine yields_bind (yields_of_same (keeps_orEio_select _ _)) fun row _ => ?_
  refine yields_bind (yields_of_same (keeps_orErrno _ _)) fun row _ => ?_
  refine yields_bind (yields_of_same (keeps_refuseIfTaken _ _ _)) fun _ _ => ?_
  refine yields_bind (yields_of_same (keeps_newParentOf _ _)) fun newParentId _ => ?_
  refine yields_bind (yields_orEio yields_updateInode) fun _ _ => yields_announce fun details => ?_
  rw [renameCacheFile]
  split
  · exact yields_pure trivial
  · split
    · exact yields_pure trivial
    · exact yields_of_same (keeps_attempt (keeps_renameFile (fun _ _ => rfl) (fun _ _ => rfl) _))

instance (start : Database) : IsPreorder World (fun world later => WithinIn start world → WithinIn start later) where
  refl _ within := within
  trans _ _ _ one two within := two (one within)

theorem within_callback (cacheDir : String) (answers : CallbackAnswers) (callback : Callback) :
    Keeps (fun world later => WithinIn start world → WithinIn start later) (callback.run cacheDir answers) := by
  have inserts {runs : Bool} {file : Db.DriveFile} :
      Keeps (fun world later => WithinIn start world → WithinIn start later) (onDb (insertFile runs file)) :=
    (yields_onDb yields_insertFile).keeps
  have updates {runs : Bool} {ino : Nat} {change : Db.DriveFile → Db.DriveFile}
      {keeps : ∀ file, (change file).key = file.key} :
      Keeps (fun world later => WithinIn start world → WithinIn start later)
        (onDb (updateInode runs ino change keeps)) :=
    (yields_onDb yields_updateInode).keeps
  cases callback with
  | openFile ino => exact keeps_attempt (keeps_openFile (fun _ _ within => within) _ _ _)
  | read ino fh => exact (yields_requestContent answers cacheDir ino fh).keeps
  | create parent name =>
      exact keeps_attempt (keeps_create (fun _ _ _ within => within) (fun _ _ within => within)
        (fun _ _ _ _ _ _ => inserts) _ _ _)
  | write ino fh offset data written =>
      exact keeps_attempt (keeps_write (fun _ _ _ within => within) (fun _ _ _ _ => updates) _ _ _ _ _ _)
  | flush ino fh => exact (yields_uploadIfModified answers ino fh).keeps
  | fsync ino fh => exact (yields_uploadIfModified answers ino fh).keeps
  | unlink parent name => exact (yields_unlink answers parent name).keeps
  | rename parent name newParent newName => exact (yields_rename answers parent name newParent newName).keeps
  | mkdir parent name => exact keeps_attempt (keeps_mkdir (fun _ _ _ _ _ _ => inserts) _ _)
  | rmdir parent name => exact (yields_rmdir answers parent name).keeps
  | release fh => exact fun _ within => within

end Callbacks

/-! ## Requests -/

section Requests

open Ipc Vfs

variable {start : Database}

/-- A choice along a list is one of its members. -/
theorem mem_of_foldl {α : Type} {choose : Option α → α → Option α}
    (chooses : ∀ best value, choose best value = some value ∨ choose best value = best) (values : List α)
    {best : Option α} {chosen : α} (found : values.foldl choose best = some chosen) :
    best = some chosen ∨ chosen ∈ values := by
  induction values generalizing best with
  | nil => exact Or.inl found
  | cons value rest inductionHypothesis =>
      rcases inductionHypothesis found with here | later
      · rcases chooses best value with same | same
        · rw [same] at here
          exact Or.inr (Option.some.inj here ▸ List.mem_cons_self)
        · exact Or.inl (same.symm.trans here)
      · exact Or.inr (List.mem_cons_of_mem value later)

theorem shorterPath_chooses (best : Option Db.DriveFile) (file : Db.DriveFile) :
    shorterPath best file = some file ∨ shorterPath best file = best := by
  cases best with
  | none => exact Or.inl rfl
  | some kept =>
      simp only [shorterPath]
      split
      · exact Or.inl rfl
      · exact Or.inr rfl

theorem usedLast_chooses (best : Option Account) (account : Account) :
    usedLast best account = some account ∨ usedLast best account = best := by
  cases best with
  | none => exact Or.inl rfl
  | some kept =>
      simp only [usedLast]
      split
      · exact Or.inl rfl
      · exact Or.inr rfl

theorem owned_records {db : Database} (within : Within start db) {file : Db.DriveFile}
    (member : file ∈ db.driveFiles.records) : start.hasAccount file.accountId = true := by
  rcases List.mem_map.mp member with ⟨row, stored, same⟩
  rw [← same]
  exact within.rows row stored

theorem yields_orInternal {α : Type} {fact : α → Prop} {routine : Routine String Database α}
    (yields : Yields (Within start) fact routine) : Yields (Within start) fact (orInternal routine) :=
  yields_mapError yields

theorem yields_orRpcError {α : Type} {fact : α → Prop} {error : RpcError} {found : Option α}
    (knows : ∀ value, found = some value → fact value) : Yields (Within start) fact (orRpcError error found) := by
  cases found with
  | none => exact yields_throw
  | some value => exact yields_pure (knows value rfl)

theorem yields_requiredParam {α : Type} {key : String} {param : Option α} :
    Yields (Within start) (fun _ => True) (requiredParam key param) :=
  yields_orRpcError fun _ _ => trivial

theorem yields_getFileByLocalPath {runs : Bool} {path : String} :
    Yields (Within start) (fun found => ∀ file, found = some file → start.hasAccount file.accountId = true)
      (getFileByLocalPath runs path) := by
  refine yields_select fun db within file found => ?_
  rcases Option.map_eq_some_iff.mp found with ⟨row, there, same⟩
  rw [← same]
  exact owned_findRow within there

theorem yields_findFileByRelativeSuffix {runs : Bool} {suffix : String} :
    Yields (Within start) (fun found => ∀ file, found = some file → start.hasAccount file.accountId = true)
      (findFileByRelativeSuffix runs suffix) := by
  refine yields_select fun db within file found => ?_
  rcases mem_of_foldl shorterPath_chooses _ found with impossible | member
  · cases impossible
  · exact owned_records within (List.mem_filter.mp member).1

/-- The file of a path belongs to a stored account. -/
theorem yields_resolveFileForPath (ctx : RouterContext) (answers : RpcAnswers) (path : String) :
    Yields (Within start) (fun file : Db.DriveFile => start.hasAccount file.accountId = true)
      (resolveFileForPath ctx answers path) := by
  refine yields_bind (yields_orInternal yields_getFileByLocalPath) fun found knows => ?_
  cases found with
  | some file => exact yields_pure (knows file rfl)
  | none =>
      refine yields_bind ?_ fun found knows => yields_orRpcError knows
      rw [resolvePathUnderMount]
      split
      · exact yields_pure fun _ impossible => by cases impossible
      · exact yields_pure fun _ impossible => by cases impossible
      · exact yields_orInternal yields_findFileByRelativeSuffix

theorem yields_updateRow {runs : Bool} {file : Db.DriveFile} {change : Db.DriveFile → Db.DriveFile}
    {keeps : ∀ row, (change row).key = row.key} :
    Yields (Within start) (fun _ => True) (updateRow runs file change keeps) :=
  yields_orInternal (yields_execute fun _ within => within_updateFiles within _ _ _)

theorem yields_getFirstAccountId {runs : Bool} :
    Yields (Within start) (fun found => ∀ accountId, found = some accountId → start.hasAccount accountId = true)
      (getFirstAccountId runs) := by
  refine yields_select fun db within accountId found => ?_
  rcases Option.map_eq_some_iff.mp found with ⟨account, chosen, same⟩
  rcases mem_of_foldl usedLast_chooses _ chosen with impossible | member
  · cases impossible
  · rw [← within.hasAccount, Database.hasAccount, ← same, (KeyedTable.mem_records_iff _ account).mp member]
    rfl

theorem yields_modify {answers : RpcAnswers} {file : Db.DriveFile}
    (owned : start.hasAccount file.accountId = true) (newName localPath : Option String) :
    Yields (Within start) (fun _ => True)
      (modifyName answers file newName >>= fun _ => modifyContent answers file localPath) := by
  have named : Yields (Within start) (fun _ => True) (modifyName answers file newName) := by
    cases newName with
    | none => exact yields_pure trivial
    | some newName =>
        refine yields_bind yields_updateRow fun _ _ => ?_
        exact yields_bind (yields_orInternal (yields_enqueue owned)) fun _ _ => yields_pure trivial
  refine yields_bind named fun _ _ => ?_
  cases localPath with
  | none => exact yields_pure trivial
  | some path =>
      refine yields_bind yields_updateRow fun _ _ => ?_
      exact yields_bind (yields_orInternal (yields_enqueue owned)) fun _ _ => yields_pure trivial

theorem within_request (ctx : RouterContext) (answers : RpcAnswers) (request : Rpc) {db : Database}
    (within : Within start db) : Within start (final (request.run ctx answers) db) := by
  cases request with
  | setOffline path enabled =>
      have yields : Yields (Within start) (fun _ => True) (handleFsSetOffline ctx answers path enabled) := by
        refine yields_bind yields_requiredParam fun path _ => ?_
        refine yields_bind (yields_orRpcError fun _ _ => trivial) fun enabled _ => ?_
        refine yields_bind (yields_resolveFileForPath ctx answers path) fun file _ => ?_
        refine yields_bind (yields_orInternal (yields_execute fun _ within => ?_)) fun _ _ => yields_pure trivial
        exact within_updateFiles within _ _ _
      exact (yields db within).1
  | clearCache =>
      have yields : Yields (Within start) (fun _ => True) (handleOfflineClearCache (answers.runs 0)) :=
        yields_orInternal (yields_execute fun _ within => within_updateFiles within _ _ _)
      exact (yields db within).1
  | fetchContents path =>
      have yields : Yields (Within start) (fun _ => True) (handleFpFetchContents ctx answers path) := by
        refine yields_bind yields_requiredParam fun path _ => ?_
        refine yields_bind (yields_resolveFileForPath ctx answers path) fun file owned => ?_
        exact yields_bind (yields_orInternal (yields_enqueue owned)) fun _ _ => yields_pure trivial
      exact (yields db within).1
  | createItem name isFolder localPath =>
      have yields : Yields (Within start) (fun _ => True) (handleFpCreateItem answers name isFolder localPath) := by
        refine yields_bind yields_requiredParam fun name _ => ?_
        refine yields_bind (yields_orInternal yields_getFirstAccountId) fun found knows => ?_
        refine yields_bind (yields_orRpcError knows) fun accountId owned => ?_
        split
        · exact yields_bind (yields_orInternal yields_insertFile) fun _ _ => yields_pure trivial
        · refine yields_bind (yields_orInternal yields_insertFile) fun _ _ => ?_
          cases localPath with
          | none => exact yields_pure trivial
          | some path => exact yields_bind (yields_orInternal (yields_enqueue owned)) fun _ _ => yields_pure trivial
      exact (yields db within).1
  | modifyItem path newName localPath =>
      have yields : Yields (Within start) (fun _ => True) (handleFpModifyItem ctx answers path newName localPath) := by
        refine yields_bind yields_requiredParam fun path _ => ?_
        exact yields_bind (yields_resolveFileForPath ctx answers path) fun file owned =>
          yields_modify owned newName localPath
      exact (yields db within).1
  | deleteItem path =>
      have yields : Yields (Within start) (fun _ => True) (handleFpDeleteItem ctx answers path) := by
        refine yields_bind yields_requiredParam fun path _ => ?_
        refine yields_bind (yields_resolveFileForPath ctx answers path) fun file owned => ?_
        refine yields_bind yields_updateRow fun _ _ => ?_
        exact yields_bind (yields_orInternal (yields_enqueue owned)) fun _ _ => yields_pure trivial
      exact (yields db within).1

end Requests

/-! ## Syncs -/

section Syncs

variable {start : Database} [Rfc3339]

instance (start : Database) : IsPreorder Database (fun db later => Within start db → Within start later) where
  refl _ within := within
  trans _ _ _ one two within := two (one within)

omit [Rfc3339] in
theorem yields_enqueueDownloadForChange (answers : ProcessChangeAnswers) {accountId : String}
    (owned : start.hasAccount accountId = true) (dbFile : Db.DriveFile) (syncMode : SyncMode) (mountPoint : String) :
    Yields (Within start) (fun _ => True)
      (enqueueDownloadForChange answers accountId dbFile syncMode mountPoint) :=
  yields_of_keeps (keeps_enqueueDownloadForChange_of fun _ _ within => within_putTask within owned)

/-- A change is about an account that is there, or enqueues nothing. -/
theorem yields_processChange (answers : ProcessChangeAnswers) (accountId : String) (change : Change)
    (syncMode : SyncMode) (mountPoint : String) :
    Yields (Within start) (fun _ => True) (processChange answers accountId change syncMode mountPoint) := by
  have looks (fileId : String) :
      Yields (Within start) (fun found => ∀ file, found = some file → start.hasAccount accountId = true)
        (getFileById answers.looksUp fileId accountId) := yields_select fun _ within _ found => within.file found
  rw [processChange]
  split
  · exact yields_pure trivial
  · next fileId _ =>
      split
      · refine yields_bind (yields_execute fun _ within => within_updateFiles within _ _ _) fun _ _ => ?_
        refine yields_bind (looks fileId) fun found knows => ?_
        cases found with
        | none => exact yields_pure trivial
        | some existing =>
            dsimp only
            split
            · exact yields_attempt (yields_enqueue (knows existing rfl))
            · exact yields_pure trivial
      · split
        · exact yields_pure trivial
        · next apiFile _ =>
            refine yields_bind (looks fileId) fun _ _ => ?_
            refine yields_bind yields_upsertFile fun _ owned => ?_
            have there : start.hasAccount accountId = true := owned
            split
            · split
              · exact yields_attempt (yields_enqueue there)
              · exact yields_pure trivial
            · split
              · exact yields_enqueueDownloadForChange answers there _ syncMode mountPoint
              · exact yields_enqueueDownloadForChange answers there _ syncMode mountPoint

omit [Rfc3339] in
theorem within_mirror (answers : MirrorAnswers) (accountId mountPoint : String) {db : Database}
    (within : Within start db) : Within start (final (enqueueMirrorDownloads answers accountId mountPoint) db) := by
  have owned (placement : Placement) (placed : placement ∈ placements answers accountId mountPoint db) :
      placement.file.accountId = accountId ∧ start.hasAccount placement.file.accountId = true := by
    rw [placements] at placed
    split at placed
    · have listed := (of_mem_placementsFrom placed).1
      rcases List.mem_filter.mp listed with ⟨member, holds⟩
      rw [Bool.and_eq_true, decide_eq_true_eq] at holds
      exact ⟨holds.1, owned_records within member⟩
    · cases placed
  refine @moves_enqueueMirrorDownloads (fun db later => Within start db → Within start later) _ answers accountId
    mountPoint db (fun placement placed db before => ?_) (fun placement placed _ db before => ?_) within
  · exact within_putFile before (owned placement placed).2
  · refine within_putTask before ?_
    have there := (owned placement placed).2
    rw [(owned placement placed).1] at there
    exact there

/-- A sync leaves rows and tasks with stored accounts, unless it connects or disconnects one. -/
theorem within_sync {work : SyncWork} (connects : ∀ runs account, work ≠ .connect runs account)
    (disconnects : ∀ runs accountId, work ≠ .disconnect runs accountId) {db : Database} (within : Within start db) :
    Within start (final work.run db) := by
  cases work with
  | connect runs account => exact absurd rfl (connects runs account)
  | disconnect runs accountId => exact absurd rfl (disconnects runs accountId)
  | storeToken runs now accountId token =>
      rw [SyncWork.run, final_setToken]
      split
      · exact ⟨within.accounts, within.rows, within.tasks⟩
      · exact within
  | listed runs accountId apiFile => exact (yields_upsertFile db within).1
  | change answers accountId reported syncMode mountPoint =>
      exact (yields_processChange answers accountId reported syncMode mountPoint db within).1
  | mirror answers accountId mountPoint => exact within_mirror answers accountId mountPoint within
  | resetMirror runs accountId =>
      have yields : Yields (Within start) (fun _ => True) (resetMirrorToStream runs accountId) :=
        yields_execute fun _ within => within_updateFiles within _ _ _
      exact (yields db within).1

end Syncs

/-! ## The engine -/

section Engine

variable {start : Database} [Rfc3339]

omit [Rfc3339] in
theorem allowsProcessing_within (taskId : Nat) :
    AllowsProcessing taskId fun world later => WithinIn start world → WithinIn start later where
  disk _ _ _ within := within
  send _ _ _ within := within
  task _ _ keeps asks within := within_updateTask within taskId keeps asks
  error _ _ within := ⟨within.accounts, within.rows, within.tasks⟩

/-- The engine stores rows of stored accounts, and no new tasks. -/
theorem within_engine (system : System) (step : EngineStep) (within : WithinIn start system.world) :
    WithinIn start (step.exec system).world := by
  have stores (world : World) (file : Db.DriveFile) (accepts : world.db.acceptsFile file = true)
      (before : WithinIn start world) : WithinIn start (world.withDb (world.db.putFile file)) :=
    within_putFile before (Within.accepted before accepts)
  refine @keeps_engine (fun world later => WithinIn start world → WithinIn start later) _ _ system step ?_
    allowsProcessing_within (fun world file _ _ _ => stores world _) (fun world file _ => stores world _) within
  intro picks answers task taskId _ _ _ identified
  refine keeps_beginTask_of_uploads identified (allowsProcessing_within taskId) (fun _ _ _ within => within)
    (fun _ world _ _ before => within_updateFiles before _ _ _) (fun _ => ?_) system.world
  refine keeps_processUpload_of identified (allowsProcessing_within taskId) stores
    fun server metadata content world before => ?_
  rw [WithinIn, store_eq]
  exact before

end Engine

end Accounts
end GDriver
