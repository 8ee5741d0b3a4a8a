import GDriver.Conflict.Detection
import GDriver.Metadata.Writes
import GDriver.Moves.Sync
import GDriver.Moves.Targets

namespace GDriver

open Library Routine Db Api Sync

/-!
# The rows that operations store

After an operation every file row is one from before, or one that the operation stores.
What an operation may store is a predicate on the state before it.
-/

/-- The row is stored under its key. -/
def Db.Database.Holds (db : Database) (file : Db.DriveFile) : Prop :=
  db.file file.id file.accountId = some file

theorem Db.Database.holds_of_file {db : Database} {fileId accountId : String} {file : Db.DriveFile}
    (found : db.file fileId accountId = some file) :
    db.Holds file ∧ file.id = fileId ∧ file.accountId = accountId := by
  have key : file.key = (fileId, accountId) := KeyedTable.key_of_lookup found
  have names := Prod.mk.inj key
  refine ⟨?_, names⟩
  rw [Database.Holds, names.1, names.2]
  exact found

/-- Every file row is one from before, or a stored one. -/
def RowsFrom (stored : Db.DriveFile → Prop) (db later : Database) : Prop :=
  ∀ fileId accountId file, later.file fileId accountId = some file →
    db.file fileId accountId = some file ∨ stored file

instance : IsPreorder Database Database.SameFiles where

/-! ## Single writes -/

section Writes

variable {stored : Db.DriveFile → Prop}

instance : IsPreorder Database (RowsFrom stored) where
  refl _ _ _ _ found := Or.inl found
  trans _ _ _ one two fileId accountId file found :=
    (two fileId accountId file found).elim (one fileId accountId file) Or.inr

variable {db later : Database}

theorem RowsFrom.of_same (same : Database.SameFiles db later) : RowsFrom stored db later := by
  intro fileId accountId file found
  rw [Database.file, same] at found
  exact Or.inl found

theorem RowsFrom.mono {other : Db.DriveFile → Prop} (weaker : ∀ file, stored file → other file)
    (rows : RowsFrom stored db later) : RowsFrom other db later :=
  fun fileId accountId file found => (rows fileId accountId file found).imp_right (weaker file)

theorem rowsFrom_putFile {file : Db.DriveFile} (stores : stored file) (db : Database) :
    RowsFrom stored db (db.putFile file) := by
  intro fileId accountId other found
  rw [Database.file_putFile] at found
  split at found
  · rw [← Option.some.inj found]
    exact Or.inr stores
  · exact Or.inl found

theorem rowsFrom_updateFiles {selected : Row Db.DriveFile → Bool} {change : Db.DriveFile → Db.DriveFile}
    {keeps : ∀ file, (change file).key = file.key}
    (stores : ∀ row : Row Db.DriveFile, db.Holds row.data → selected row = true → stored (change row.data)) :
    RowsFrom stored db (db.updateFiles selected change keeps) := by
  intro fileId accountId file found
  rw [Database.file_updateFiles] at found
  rcases Option.map_eq_some_iff.mp found with ⟨row, there, same⟩
  have before : db.file fileId accountId = some row.data := congrArg (Option.map Row.data) there
  split at same
  · next chosen =>
      rw [← same]
      exact Or.inr (stores row (Database.holds_of_file before).1 chosen)
  · rw [← same]
    exact Or.inl before

theorem rowsFrom_updateFileAt {id owner : String} {change : Db.DriveFile → Db.DriveFile}
    {keeps : ∀ file, (change file).key = file.key}
    (stores : ∀ file, db.file id owner = some file → stored (change file)) :
    RowsFrom stored db (db.updateFileAt id owner change keeps) := by
  intro fileId accountId file found
  rw [Database.file_updateFileAt] at found
  split at found
  · next same =>
      rcases Option.map_eq_some_iff.mp found with ⟨before, there, changed⟩
      rw [same.1, same.2] at there
      rw [← changed]
      exact Or.inr (stores before there)
  · exact Or.inl found

/-- A statement that stores rows of a kind. -/
theorem rowsFrom_execute {write : Database → Database} (runs : Bool)
    (stores : runs = true → RowsFrom stored db (write db)) :
    RowsFrom stored db (final (execute runs write) db) := by
  rw [final_execute]
  split
  · next executed => exact stores executed
  · exact Std.Refl.refl db

theorem rowsFrom_deleteAccount (runs : Bool) (accountId : String) :
    RowsFrom stored db (final (deleteAccount runs accountId) db) := by
  refine rowsFrom_execute runs fun _ fileId owner file found => Or.inl ?_
  rcases Option.map_eq_some_iff.mp found with ⟨row, there, same⟩
  have kept : (db.driveFiles.delete fun file => file.accountId = accountId).lookupRow (fileId, owner) =
      some row := there
  rw [KeyedTable.lookupRow_delete] at kept
  rw [Database.file, KeyedTable.lookup, (Option.filter_eq_some_iff.mp kept).1, ← same]
  rfl

theorem rowsFrom_upsertFile {file : Db.DriveFile} (runs : Bool) (stores : runs = true → stored file)
    (db : Database) : RowsFrom stored db (final (upsertFile runs file) db) := by
  rw [final_upsertFile]
  split
  · next both => exact rowsFrom_putFile (stores (Bool.and_eq_true_iff.mp both).1) db
  · exact Std.Refl.refl db

theorem sameFiles_enqueue (runs : Bool) (task : SyncTask) :
    Keeps Database.SameFiles (enqueue runs task) := by
  intro db
  rw [final_enqueue]
  split
  · exact Database.driveFiles_putTask db task
  · exact Std.Refl.refl db

end Writes

/-- What follows a write and leaves the rows alone. -/
theorem rowsFrom_bind {ε α β : Type} {first : Routine ε Database α} {second : α → Routine ε Database β}
    {stored : Db.DriveFile → Prop} {db : Database} (rows : RowsFrom stored db (final first db))
    (same : ∀ value, Keeps Database.SameFiles (second value)) :
    RowsFrom stored db (final (first >>= second) db) :=
  IsTrans.trans _ _ _ rows (RowsFrom.of_same (moves_bind first same db))

/-! ## The syncs -/

section Syncs

variable [Rfc3339]

/-- The rows that the work of a sync stores. -/
def SyncWork.Stores (db : Database) : SyncWork → Db.DriveFile → Prop
  | .listed runs accountId apiFile, file => runs = true ∧ file = mapApiFileToDb apiFile accountId
  | .change answers accountId reported _ _, file =>
      ∃ write, Metadata.changeWrite accountId reported = some write ∧
        Metadata.writeRuns answers db write = true ∧ write.act (db.cells write.key) = some file
  | .mirror answers accountId mountPoint, file =>
      ∃ placement ∈ placements answers accountId mountPoint db, file = placement.row
  | .resetMirror runs _, file => runs = true ∧ ∃ row, db.Holds row ∧ file = unmirrored row
  | _, _ => False

theorem rowsFrom_processChange (answers : ProcessChangeAnswers) (accountId : String) (reported : Change)
    (syncMode : SyncMode) (mountPoint : String) (db : Database) :
    RowsFrom (SyncWork.Stores db (.change answers accountId reported syncMode mountPoint)) db
      (final (processChange answers accountId reported syncMode mountPoint) db) := by
  have spec := Metadata.processChange_spec answers accountId reported syncMode mountPoint db
  refine IsTrans.trans _ _ _ ?_ (RowsFrom.of_same spec.writes.driveFiles)
  rw [Metadata.changeWritten]
  split
  · exact Std.Refl.refl db
  · next write asked =>
      split
      · next runs =>
          intro fileId owner file found
          have cells : (write.apply db).cells (fileId, owner) = some file := found
          rw [Metadata.FileWrite.cells_apply] at cells
          by_cases here : (fileId, owner) = write.key
          · rw [Metadata.FileWrite.updates.apply_of_addressed (congrArg some here.symm), here] at cells
            exact Or.inr ⟨write, asked, runs, cells⟩
          · rw [Metadata.FileWrite.updates.apply_of_not_addressed fun same =>
              here (Option.some.inj same).symm] at cells
            exact Or.inl cells
      · exact Std.Refl.refl db

/-- The row that a change stores is in the trash, or in the cloud only and without a path. -/
theorem stored_of_change {answers : ProcessChangeAnswers} {accountId : String} {reported : Change}
    (syncMode : SyncMode) (mountPoint : String) {db : Database} {file : Db.DriveFile}
    (stores : SyncWork.Stores db (.change answers accountId reported syncMode mountPoint) file) :
    file.isTrashed = true ∨ file.syncState = .cloudOnly ∧ file.localPath = none := by
  rcases stores with ⟨write, asked, _, acted⟩
  cases write with
  | trash fileId owner =>
      rcases Option.map_eq_some_iff.mp acted with ⟨row, _, same⟩
      rw [← same]
      exact Or.inl rfl
  | store stored =>
      rcases Metadata.of_changeWrite_store asked with ⟨apiFile, _, same⟩
      rw [← Option.some.inj acted, same]
      exact Or.inr ⟨rfl, rfl⟩

theorem rowsFrom_sync (work : SyncWork) (db : Database) : RowsFrom (work.Stores db) db (final work.run db) := by
  cases work with
  | connect runs account =>
      rw [SyncWork.run, final_insertAccount]
      split
      · exact RowsFrom.of_same rfl
      · exact Std.Refl.refl db
  | disconnect runs accountId => exact rowsFrom_deleteAccount runs accountId
  | storeToken runs now accountId token =>
      rw [SyncWork.run, final_setToken]
      split
      · exact RowsFrom.of_same rfl
      · exact Std.Refl.refl db
  | listed runs accountId apiFile => exact rowsFrom_upsertFile runs (fun executed => ⟨executed, rfl⟩) db
  | change answers accountId reported syncMode mountPoint =>
      exact rowsFrom_processChange answers accountId reported syncMode mountPoint db
  | mirror answers accountId mountPoint =>
      rw [SyncWork.run, final_attempt]
      refine moves_enqueueMirrorDownloads (fun placement placed db => ?_) fun placement _ _ db => ?_
      · exact rowsFrom_putFile ⟨placement, placed, rfl⟩ db
      · exact RowsFrom.of_same (Database.driveFiles_putTask db _)
  | resetMirror runs accountId =>
      refine rowsFrom_execute runs fun executed => rowsFrom_updateFiles fun row held _ => ?_
      exact ⟨executed, row.data, held, rfl⟩

end Syncs

/-! ## Requests -/

section Requests

open Ipc Vfs

variable (ctx : RouterContext) (answers : RpcAnswers) (db : Database)

/-- The row under the key of the file that a request is about. -/
def requestedRow (path : Option String) : Option Db.DriveFile :=
  (requestedFile ctx answers path db).bind fun file => db.file file.id file.accountId

/-- The row after a request has given it a name, if it carries one. -/
def namedAs (newName : Option String) (file : Db.DriveFile) : Db.DriveFile :=
  newName.elim file fun newName => renamed answers.now newName file

/-- A request that carries a name goes on to the content when both statements of the name
are executed. -/
def goesOnToContent (newName : Option String) : Bool :=
  newName.isNone || (answers.runs 2 && answers.runs 3)

/-- The rows that a request stores. -/
def Rpc.Stores : Rpc → Db.DriveFile → Prop
  | .setOffline path enabled, file =>
      answers.runs 2 = true ∧ ∃ row enable, requestedRow ctx answers db path = some row ∧
        enabled = some enable ∧ file = row.inState (offlineState enable)
  | .clearCache, file =>
      answers.runs 0 = true ∧ ∃ row, db.Holds row ∧ row.syncState = .offline ∧ row.isTrashed = false ∧
        file = row.inState .cached
  | .fetchContents _, _ => False
  | .createItem name isFolder localPath, file =>
      ∃ accountId newName, createdItemFor answers name db = some accountId ∧ name = some newName ∧
        db.file ("local-" ++ toString answers.nanos) accountId = none ∧
        file = if isFolder.getD false then
          localFile answers.now ("local-" ++ toString answers.nanos) accountId newName folderMimeType none
            none .cloudOnly
        else localFile answers.now ("local-" ++ toString answers.nanos) accountId newName
          (Ipc.guessMime newName) none localPath .modified
  | .modifyItem path newName localPath, file =>
      ∃ row, requestedRow ctx answers db path = some row ∧
        (newName.isSome = true ∧ file = namedAs answers newName row ∨
          ∃ target, localPath = some target ∧ answers.runs 4 = true ∧
            goesOnToContent answers newName = true ∧
            file = rewritten answers.now target (namedAs answers newName row))
  | .deleteItem path, file =>
      ∃ row, requestedRow ctx answers db path = some row ∧ file = discarded answers.now row

variable {ctx answers db}

theorem sameFiles_enqueueTask {α : Type} (task : SyncTask) (runs : Bool) (value : α) :
    Keeps Database.SameFiles (orInternal (enqueue runs task) >>= fun _ => pure value) :=
  keeps_bind (keeps_mapError (sameFiles_enqueue runs task)) fun _ => keeps_pure value

theorem rowsFrom_insertFile {stored : Db.DriveFile → Prop} {runs : Bool} {file : Db.DriveFile}
    (stores : db.file file.id file.accountId = none → stored file) :
    RowsFrom stored db (final (insertFile runs file) db) := by
  rw [final_insertFile]
  split
  · next accepted =>
      rw [Bool.and_eq_true, Bool.and_eq_true, Option.isNone_iff_eq_none] at accepted
      exact rowsFrom_putFile (stores accepted.1.2) db
  · exact Std.Refl.refl db

theorem requestedRow_of {path : String} {file : Db.DriveFile}
    (found : (outcome (resolveFileForPath ctx answers path) db).toOption = some file) :
    requestedRow ctx answers db (some path) = db.file file.id file.accountId := by
  rw [requestedRow, requestedFile, Option.bind_some, found, Option.bind_some]

theorem of_requestedRow {path : Option String} {row : Db.DriveFile}
    (found : requestedRow ctx answers db path = some row) :
    db.Holds row ∧ ∃ file, requestedFile ctx answers path db = some file ∧ file.key = row.key := by
  rcases Option.bind_eq_some_iff.mp found with ⟨file, requested, there⟩
  rcases Database.holds_of_file there with ⟨held, id, owner⟩
  exact ⟨held, file, requested, Prod.ext id.symm owner.symm⟩

theorem rowsFrom_handleFsSetOffline (path : Option String) (enabled : Option Bool) :
    RowsFrom (Rpc.Stores ctx answers db (.setOffline path enabled)) db
      (final (handleFsSetOffline ctx answers path enabled) db) := by
  simp only [handleFsSetOffline, requiredParam, final_bind_orRpcError, final_bind_resolveFileForPath]
  cases path with
  | none => exact Std.Refl.refl db
  | some path =>
      cases enabled with
      | none => exact Std.Refl.refl db
      | some enable =>
          simp only [Option.elim_some]
          cases found : (outcome (resolveFileForPath ctx answers path) db).toOption with
          | none => exact Std.Refl.refl db
          | some file =>
              rw [Option.elim_some, final_bind_pure, orInternal, final_mapError]
              refine rowsFrom_execute _ fun executed => rowsFrom_updateFileAt fun row there => ?_
              exact ⟨executed, row, enable, (requestedRow_of found).trans there, rfl, rfl⟩

theorem rowsFrom_handleFpCreateItem (name : Option String) (isFolder : Option Bool)
    (localPath : Option String) :
    RowsFrom (Rpc.Stores ctx answers db (.createItem name isFolder localPath)) db
      (final (handleFpCreateItem answers name isFolder localPath) db) := by
  cases created : createdItemFor answers name db with
  | none =>
      rw [final_handleFpCreateItem_of_none created]
      exact Std.Refl.refl db
  | some accountId =>
      rw [createdItemFor] at created
      split at created
      · next both =>
          rw [Bool.and_eq_true] at both
          rcases Option.isSome_iff_exists.mp both.2 with ⟨newName, named⟩
          rcases Option.join_eq_some_iff.mp created with found
          subst named
          have owner : createdItemFor answers (some newName) db = some accountId := by
            rw [createdItemFor, if_pos (Bool.and_eq_true_iff.mpr both), created]
          simp only [handleFpCreateItem, requiredParam, final_bind_orRpcError,
            final_bind_getFirstAccountId, found, Option.elim_some]
          split
          · next folder =>
              refine rowsFrom_bind ?_ fun _ => keeps_pure _
              rw [orInternal, final_mapError]
              exact rowsFrom_insertFile fun absent =>
                ⟨accountId, newName, owner, rfl, absent, (if_pos folder).symm⟩
          · next regular =>
              refine rowsFrom_bind ?_ fun _ => ?_
              · rw [orInternal, final_mapError]
                exact rowsFrom_insertFile fun absent =>
                  ⟨accountId, newName, owner, rfl, absent, (if_neg regular).symm⟩
              · cases localPath with
                | none => exact keeps_pure _
                | some path => exact sameFiles_enqueueTask _ _ _
      · cases created

theorem rowsFrom_updateRow {stored : Db.DriveFile → Prop} {runs : Bool} {file : Db.DriveFile}
    {change : Db.DriveFile → Db.DriveFile} {keeps : ∀ row, (change row).key = row.key}
    (stores : runs = true → ∀ row, db.file file.id file.accountId = some row → stored (change row)) :
    RowsFrom stored db (final (updateRow runs file change keeps) db) := by
  rw [updateRow, orInternal, final_mapError]
  exact rowsFrom_execute _ fun executed => rowsFrom_updateFileAt (stores executed)

/-- The row after its name was changed, when both statements were executed. -/
theorem of_outcome_modifyName {file : Db.DriveFile} {newName : Option String}
    (done : outcome (modifyName answers file newName) db = .ok ()) :
    goesOnToContent answers newName = true ∧
      (final (modifyName answers file newName) db).file file.id file.accountId =
        (db.file file.id file.accountId).map (namedAs answers newName) := by
  cases newName with
  | none => exact ⟨rfl, Option.map_id.symm ▸ rfl⟩
  | some newName =>
      rcases outcome_bind_eq_ok_iff.mp done with ⟨_, updated, rest⟩
      rcases outcome_bind_eq_ok_iff.mp rest with ⟨_, enqueued, _⟩
      have first : answers.runs 2 = true := by
        by_contra fails
        rw [Bool.eq_false_iff.mpr fails] at updated
        cases updated
      have second : answers.runs 3 = true := by
        by_contra fails
        rw [Bool.eq_false_iff.mpr fails] at enqueued
        cases enqueued
      have files : Database.SameFiles
          (final (updateRow (answers.runs 2) file (renamed answers.now newName) fun _ => rfl) db)
          (final (modifyName answers file (some newName)) db) :=
        moves_bind _ (fun _ => sameFiles_enqueueTask _ _ _) db
      have wrote : final (updateRow (answers.runs 2) file (renamed answers.now newName) fun _ => rfl) db =
          db.updateFileAt file.id file.accountId (renamed answers.now newName) fun _ => rfl := by
        simp only [updateRow, orInternal, final_mapError, final_execute, first, if_true]
      rw [wrote] at files
      refine ⟨Bool.and_eq_true_iff.mpr ⟨first, second⟩, ?_⟩
      refine (congrArg (fun table => table.lookup (file.id, file.accountId)) files).trans ?_
      exact (Database.file_updateFileAt db file.id file.accountId _ _ _ _).trans (if_pos ⟨rfl, rfl⟩)

theorem rowsFrom_modifyName {stored : Db.DriveFile → Prop} {file : Db.DriveFile} {newName : Option String}
    (stores : newName.isSome = true → ∀ row, db.file file.id file.accountId = some row →
      stored (namedAs answers newName row)) :
    RowsFrom stored db (final (modifyName answers file newName) db) := by
  cases newName with
  | none => exact Std.Refl.refl db
  | some newName =>
      exact rowsFrom_bind (rowsFrom_updateRow fun _ => stores rfl) fun _ => sameFiles_enqueueTask _ _ _

theorem rowsFrom_modifyContent {stored : Db.DriveFile → Prop} {file : Db.DriveFile} {localPath : Option String}
    (stores : ∀ target, localPath = some target → answers.runs 4 = true →
      ∀ row, db.file file.id file.accountId = some row → stored (rewritten answers.now target row)) :
    RowsFrom stored db (final (modifyContent answers file localPath) db) := by
  cases localPath with
  | none => exact Std.Refl.refl db
  | some target =>
      exact rowsFrom_bind (rowsFrom_updateRow (stores target rfl)) fun _ => sameFiles_enqueueTask _ _ _

theorem rowsFrom_handleFpModifyItem (path newName localPath : Option String) :
    RowsFrom (Rpc.Stores ctx answers db (.modifyItem path newName localPath)) db
      (final (handleFpModifyItem ctx answers path newName localPath) db) := by
  simp only [handleFpModifyItem, requiredParam, final_bind_orRpcError, final_bind_resolveFileForPath]
  cases path with
  | none => exact Std.Refl.refl db
  | some path =>
      rw [Option.elim_some]
      cases found : (outcome (resolveFileForPath ctx answers path) db).toOption with
      | none => exact Std.Refl.refl db
      | some file =>
          have about := requestedRow_of found
          have named : RowsFrom (Rpc.Stores ctx answers db (.modifyItem (some path) newName localPath)) db
              (final (modifyName answers file newName) db) :=
            rowsFrom_modifyName fun carries row there =>
              ⟨row, about.trans there, Or.inl ⟨carries, rfl⟩⟩
          rw [Option.elim_some, final_bind]
          cases done : outcome (modifyName answers file newName) db with
          | error failure => exact named
          | ok value =>
              rcases of_outcome_modifyName done with ⟨goesOn, rows⟩
              refine IsTrans.trans _ _ _ named (rowsFrom_modifyContent fun target carries executed row there => ?_)
              rw [rows] at there
              rcases Option.map_eq_some_iff.mp there with ⟨before, stored, same⟩
              rw [← same]
              exact ⟨before, about.trans stored, Or.inr ⟨target, carries, executed, goesOn, rfl⟩⟩

theorem rowsFrom_handleFpDeleteItem (path : Option String) :
    RowsFrom (Rpc.Stores ctx answers db (.deleteItem path)) db
      (final (handleFpDeleteItem ctx answers path) db) := by
  simp only [handleFpDeleteItem, requiredParam, final_bind_orRpcError, final_bind_resolveFileForPath]
  cases path with
  | none => exact Std.Refl.refl db
  | some path =>
      rw [Option.elim_some]
      cases found : (outcome (resolveFileForPath ctx answers path) db).toOption with
      | none => exact Std.Refl.refl db
      | some file =>
          rw [Option.elim_some]
          refine rowsFrom_bind (rowsFrom_updateRow fun _ row there => ?_) fun _ =>
            sameFiles_enqueueTask _ _ _
          exact ⟨row, (requestedRow_of found).trans there, rfl⟩

theorem rowsFrom_request (ctx : RouterContext) (answers : RpcAnswers) (request : Rpc) (db : Database) :
    RowsFrom (request.Stores ctx answers db) db (final (request.run ctx answers) db) := by
  cases request with
  | setOffline path enabled =>
      rw [Rpc.run, final_attempt]
      exact rowsFrom_handleFsSetOffline path enabled
  | clearCache =>
      rw [Rpc.run, handleOfflineClearCache, orInternal, final_mapError]
      refine rowsFrom_execute _ fun executed => rowsFrom_updateFiles fun row held chosen => ?_
      rw [Bool.and_eq_true, decide_eq_true_eq, Bool.not_eq_true'] at chosen
      exact ⟨executed, row.data, held, chosen.1, chosen.2, rfl⟩
  | fetchContents path =>
      rw [Rpc.run, final_attempt]
      exact RowsFrom.of_same (keeps_handleFpFetchContents
        (fun _ _ _ _ _ => sameFiles_enqueue _ _) ctx answers path db)
  | createItem name isFolder localPath =>
      rw [Rpc.run, final_attempt]
      exact rowsFrom_handleFpCreateItem name isFolder localPath
  | modifyItem path newName localPath => exact rowsFrom_handleFpModifyItem path newName localPath
  | deleteItem path => exact rowsFrom_handleFpDeleteItem path

end Requests

/-! ## Callbacks -/

/-- Every row of the world is one from before, or a stored one. -/
def RowsFromIn (stored : Db.DriveFile → Prop) (world later : World) : Prop :=
  RowsFrom stored world.db later.db

instance (stored : Db.DriveFile → Prop) : IsPreorder World (RowsFromIn stored) where
  refl _ _ _ _ found := Or.inl found
  trans _ _ _ one two fileId accountId file found :=
    (two fileId accountId file found).elim (one fileId accountId file) Or.inr

theorem rowsFromIn_bind {ε α β : Type} {first : Routine ε World α} {second : α → Routine ε World β}
    {stored : Db.DriveFile → Prop} {world : World} (rows : RowsFromIn stored world (final first world))
    (keeps : ∀ value, Keeps (RowsFromIn stored) (second value)) :
    RowsFromIn stored world (final (first >>= second) world) :=
  IsTrans.trans _ _ _ rows (moves_bind first keeps world)

/-- A relation that looks at the rows alone allows every write to a file and every request. -/
theorem allowsProcessing_rowsFromIn (taskId : Nat) (stored : Db.DriveFile → Prop) :
    AllowsProcessing taskId (RowsFromIn stored) where
  disk _ _ _ := RowsFrom.of_same rfl
  send _ _ _ := RowsFrom.of_same rfl
  task _ _ _ _ := RowsFrom.of_same rfl
  error _ _ := RowsFrom.of_same rfl

/-- Every row is one from before, or has been changed. -/
def ChangesRows (changed : Db.DriveFile → Db.DriveFile → Prop) (world later : World) : Prop :=
  ∀ fileId accountId file, later.db.file fileId accountId = some file →
    world.db.file fileId accountId = some file ∨
      ∃ row, world.db.file fileId accountId = some row ∧ changed row file

section Changes

variable {changed : Db.DriveFile → Db.DriveFile → Prop}

instance [IsTrans Db.DriveFile changed] : IsPreorder World (ChangesRows changed) where
  refl _ _ _ _ found := Or.inl found
  trans _ _ _ one two fileId accountId file found := by
    rcases two fileId accountId file found with same | ⟨between, there, second⟩
    · exact one fileId accountId file same
    · rcases one fileId accountId between there with same | ⟨row, before, first⟩
      · exact Or.inr ⟨between, same, second⟩
      · exact Or.inr ⟨row, before, IsTrans.trans _ _ _ first second⟩

theorem ChangesRows.rows {world later : World} (changes : ChangesRows changed world later) :
    RowsFromIn (fun file => ∃ row, world.db.Holds row ∧ changed row file) world later := by
  intro fileId accountId file found
  rcases changes fileId accountId file found with same | ⟨row, before, change⟩
  · exact Or.inl same
  · exact Or.inr ⟨row, (Database.holds_of_file before).1, change⟩

theorem changesRows_of_same {world later : World} (same : Database.SameFiles world.db later.db) :
    ChangesRows changed world later := by
  intro fileId accountId file found
  rw [Database.file, same] at found
  exact Or.inl found

theorem changesRows_enqueue (runs : Bool) (task : SyncTask) :
    Keeps (ChangesRows changed) (onDb (enqueue runs task)) := by
  intro world
  rw [final_onDb]
  exact changesRows_of_same (sameFiles_enqueue runs task world.db)

theorem changesRows_updateInode {change : Db.DriveFile → Db.DriveFile} {runs : Bool} {ino : Nat}
    {keeps : ∀ file, (change file).key = file.key} (changes : ∀ file, changed file (change file)) :
    Keeps (ChangesRows changed) (onDb (Vfs.updateInode runs ino change keeps)) := by
  intro world fileId accountId file found
  rw [final_onDb, World.withDb_db, Vfs.updateInode, final_execute] at found
  split at found
  · rw [Database.file_updateFiles] at found
    rcases Option.map_eq_some_iff.mp found with ⟨row, there, same⟩
    have before : world.db.file fileId accountId = some row.data := congrArg (Option.map Row.data) there
    split at same
    · rw [← same]
      exact Or.inr ⟨row.data, before, changes row.data⟩
    · rw [← same]
      exact Or.inl before
  · exact Or.inl found

theorem changesRows_updateFileAt {change : Db.DriveFile → Db.DriveFile}
    {keeps : ∀ file, (change file).key = file.key} (changes : ∀ file, changed file (change file))
    (id owner : String) (world : World) :
    ChangesRows changed world (world.withDb (world.db.updateFileAt id owner change keeps)) := by
  intro fileId accountId file found
  rw [World.withDb_db, Database.file_updateFileAt] at found
  split at found
  · rcases Option.map_eq_some_iff.mp found with ⟨row, there, same⟩
    rw [← same]
    exact Or.inr ⟨row, there, changes row⟩
  · exact Or.inl found

theorem allowsProcessing_changesRows (taskId : Nat) (changed : Db.DriveFile → Db.DriveFile → Prop) :
    AllowsProcessing taskId (ChangesRows changed) where
  disk _ _ _ := changesRows_of_same rfl
  send _ _ _ := changesRows_of_same rfl
  task _ _ _ _ := changesRows_of_same rfl
  error _ _ := changesRows_of_same rfl

end Changes

/-- The row was moved to the trash. -/
def Trashes (row file : Db.DriveFile) : Prop :=
  file = row.trashed

instance : IsTrans Db.DriveFile Trashes where
  trans _ _ _ one two := by
    rw [two, one]
    rfl

/-- The row was given a size and a time, and awaits upload. -/
def Resizes (row file : Db.DriveFile) : Prop :=
  ∃ size modifiedTime, file = Vfs.resized size modifiedTime row

instance : IsTrans Db.DriveFile Resizes where
  trans _ _ _ one two := by
    rcases one with ⟨_, _, first⟩
    rcases two with ⟨size, modifiedTime, second⟩
    refine ⟨size, modifiedTime, ?_⟩
    rw [second, first]
    rfl

/-- The row was given a name and a parent, and awaits upload. -/
def Renames (row file : Db.DriveFile) : Prop :=
  ∃ now newName newParentId, file = Vfs.moved now newName newParentId row

instance : IsTrans Db.DriveFile Renames where
  trans _ _ _ one two := by
    rcases one with ⟨_, _, _, first⟩
    rcases two with ⟨now, newName, newParentId, second⟩
    refine ⟨now, newName, newParentId, ?_⟩
    rw [second, first]
    rfl

section Callbacks

open Vfs

variable (cacheDir : String) (answers : CallbackAnswers) (world : World)

/-- The rows that a callback stores. -/
def Callback.Stores : Callback → Db.DriveFile → Prop
  | .create parent name, file =>
      ∃ owner newName, createdFor answers parent name world = some owner ∧ name = some newName ∧
        world.db.file file.id file.accountId = none ∧ file = createdRow cacheDir answers owner newName
  | .mkdir parent name, file =>
      ∃ owner newName, madeFor answers parent name world = some owner ∧ name = some newName ∧
        world.db.file file.id file.accountId = none ∧ file = madeRow answers owner newName
  | .write _ _ _ _ _, file => ∃ row, world.db.Holds row ∧ Resizes row file
  | .unlink _ _, file => ∃ row, world.db.Holds row ∧ Trashes row file
  | .rmdir _ _, file => ∃ row, world.db.Holds row ∧ Trashes row file
  | .rename _ _ _ _, file => ∃ row, world.db.Holds row ∧ Renames row file
  | _, _ => False

variable {cacheDir answers world}

theorem rowsFromIn_insert {stored : Db.DriveFile → Prop} {runs : Bool} {file : Db.DriveFile}
    (stores : world.db.file file.id file.accountId = none → stored file) :
    RowsFromIn stored world (final (orEio (insertFile runs file)) world) := by
  rw [orEio, final_mapError, final_onDb]
  exact rowsFrom_insertFile stores

theorem rowsFromIn_create (parent : Nat) (name : Option String) :
    RowsFromIn (Callback.Stores cacheDir answers world (.create parent name)) world
      (final (Vfs.create answers cacheDir parent name) world) := by
  cases created : createdFor answers parent name world with
  | none =>
      rw [final_create_of_none created]
      exact Std.Refl.refl world
  | some owner =>
      rcases @final_create_of_some _ _ _ _ cacheDir _ created with ⟨newName, named, _, opens⟩
      rw [opens]
      refine rowsFromIn_bind (rowsFromIn_insert fun absent =>
        ⟨owner, newName, created, named, absent, rfl⟩) fun ino => ?_
      refine keeps_bind (keeps_callOrEio _) fun _ => ?_
      refine keeps_bind (keeps_perform fun world => RowsFrom.of_same rfl) fun _ => ?_
      refine keeps_bind (keeps_inspect _) fun fh => ?_
      exact keeps_bind (keeps_perform fun world => RowsFrom.of_same rfl) fun _ => keeps_pure fh

theorem rowsFromIn_mkdir (parent : Nat) (name : Option String) :
    RowsFromIn (Callback.Stores cacheDir answers world (.mkdir parent name)) world
      (final (Vfs.mkdir answers parent name) world) := by
  cases made : madeFor answers parent name world with
  | none =>
      rw [final_mkdir_of_none made]
      exact Std.Refl.refl world
  | some owner =>
      rcases final_mkdir_of_some made with ⟨newName, named, _, inserts⟩
      rw [inserts]
      exact rowsFromIn_insert fun absent => ⟨owner, newName, made, named, absent, rfl⟩

theorem changesRows_removeFile {changed : Db.DriveFile → Db.DriveFile → Prop}
    [IsTrans Db.DriveFile changed] (failure : Option String) (path : String) :
    Keeps (ChangesRows changed) (removeFile failure path) :=
  keeps_removeFile (fun _ _ => changesRows_of_same rfl) failure

theorem rowsFromIn_enqueue (stored : Db.DriveFile → Prop) (runs : Bool) (task : SyncTask) :
    Keeps (RowsFromIn stored) (onDb (enqueue runs task)) := by
  intro world
  rw [final_onDb]
  exact RowsFrom.of_same (sameFiles_enqueue runs task world.db)

theorem rowsFromIn_callback (cacheDir : String) (answers : CallbackAnswers) (callback : Callback)
    (world : World) :
    RowsFromIn (callback.Stores cacheDir answers world) world
      (final (callback.run cacheDir answers) world) := by
  have trashes (runs : Bool) (ino : Nat) : Keeps (ChangesRows Trashes) (onDb (softDeleteByInode runs ino)) :=
    changesRows_updateInode fun _ => rfl
  cases callback with
  | openFile ino =>
      exact keeps_attempt (keeps_openFile (fun _ _ => RowsFrom.of_same rfl) _ _ _) world
  | read ino fh =>
      exact keeps_requestContent (fun _ _ _ _ _ => rowsFromIn_enqueue _ _ _) _ _ _ _ world
  | create parent name =>
      rw [Callback.run, final_attempt]
      exact rowsFromIn_create parent name
  | write ino fh offset data written =>
      have changes : ChangesRows Resizes world
          (final (Vfs.write answers ino fh offset data written) world) :=
        keeps_write (fun _ _ _ => changesRows_of_same rfl)
          (fun _ _ _ _ => changesRows_updateInode fun _ => ⟨_, _, rfl⟩) _ _ _ _ _ _ world
      exact changes.rows
  | flush ino fh => exact keeps_uploadIfModified (fun _ _ _ _ _ => rowsFromIn_enqueue _ _ _) _ _ _ world
  | fsync ino fh => exact keeps_uploadIfModified (fun _ _ _ _ _ => rowsFromIn_enqueue _ _ _) _ _ _ world
  | unlink parent name =>
      have changes : ChangesRows Trashes world (final (Vfs.unlink answers parent name) world) :=
        keeps_unlink (fun _ _ _ _ => changesRows_enqueue _ _) (fun _ _ => changesRows_removeFile _ _)
          (trashes _) _ _ world
      exact changes.rows
  | rename parent name newParent newName =>
      have changes : ChangesRows Renames world
          (final (Vfs.rename answers parent name newParent newName) world) :=
        keeps_rename (fun _ _ _ _ => changesRows_enqueue _ _)
          (fun _ _ _ _ => changesRows_updateInode fun _ => ⟨_, _, _, rfl⟩)
          (fun failure _ _ => keeps_renameFile (fun _ _ => changesRows_of_same rfl)
            (fun _ _ => changesRows_of_same rfl) failure) _ _ _ _ world
      exact changes.rows
  | mkdir parent name =>
      rw [Callback.run, final_attempt]
      exact rowsFromIn_mkdir parent name
  | rmdir parent name =>
      have changes : ChangesRows Trashes world (final (Vfs.rmdir answers parent name) world) :=
        keeps_rmdir (fun _ _ _ _ => changesRows_enqueue _ _)
          (trashes _) _ _ world
      exact changes.rows
  | release fh => exact RowsFrom.of_same rfl

end Callbacks

/-! ## The engine -/

section Engine

open Conflict

variable [Rfc3339]

/-- The rows that a conflict check stores when it finds a conflict: the row of the conflict copy, and
that of the file when the remote version is in place. -/
def ConflictStores (answers : ConflictAnswers) (task : SyncTask) (localPath : String) (world : World)
    (conflict : Db.DriveFile × Api.DriveFile) (file : Db.DriveFile) : Prop :=
  (∃ apiFile, answers.resolve.server.reply = .ok apiFile ∧ file = mapApiFileToDb apiFile task.accountId) ∨
    stage answers.resolve localPath world = .landed ∧ answers.resolve.upsertsRecord = true ∧
      ∃ landed, file = resolvedFile conflict.1 conflict.2 localPath landed

/-- The rows that an upload task stores. -/
def UploadStores (answers : TaskAnswers) (task : SyncTask) (world : World) (file : Db.DriveFile) : Prop :=
  (∃ apiFile, answers.upload.server.reply = .ok apiFile ∧ file = mapApiFileToDb apiFile task.accountId) ∨
    ∃ fileId localPath conflict, task.fileId = some fileId ∧ task.localPath = some localPath ∧
      detected answers.conflict task fileId localPath world = some conflict ∧
      ConflictStores answers.conflict task localPath world conflict file

/-- The rows that a task stores when it is begun. -/
def TaskStores (answers : TaskAnswers) (task : SyncTask) (world : World) (file : Db.DriveFile) : Prop :=
  answers.hasClient = true ∧
    (task.operation = .upload ∧ UploadStores answers task world file ∨
      task.operation = .delete ∧ ∃ row, world.db.Holds row ∧ Trashes row file)

/-- The rows that a step of the engine stores. -/
def EngineStep.Stores (system : System) : EngineStep → Db.DriveFile → Prop
  | .begin picks answers, file =>
      picks = true ∧ system.engine = .idle ∧ ∃ task, system.world.db.nextPending = some task ∧
        TaskStores answers task system.world file
  | .record answers, file =>
      ∃ download row, system.engine = .landed download ∧ download.driveFile = some row ∧
        answers.upserts = true ∧
        file = downloadedFile row download.localPath
          (mtimeOf answers.statsFile download.localPath system.world)
  | .recordDelete answers, file =>
      ∃ delete row, system.engine = .removed delete ∧ delete.driveFile = some row ∧
        answers.upserts = true ∧ file = evictedFile row
  | _, _ => False

section Conflicts

variable {answers : ConflictAnswers} {task : SyncTask} {taskId : Nat} {fileId localPath : String}
  {world : World}

theorem rowsFromIn_placeRemote {stored : Db.DriveFile → Prop} {resolve : ResolveAnswers}
    (stores : ∀ apiFile, resolve.server.reply = .ok apiFile →
      stored (mapApiFileToDb apiFile task.accountId)) (dbRecord : Db.DriveFile) :
    Keeps (RowsFromIn stored) (placeRemote resolve task dbRecord localPath) := by
  have moves (failure : Option String) (source target : String) :
      Keeps (RowsFromIn stored) (renameFile failure source target) :=
    keeps_renameFile (fun _ _ => RowsFrom.of_same rfl) (fun _ _ => RowsFrom.of_same rfl) failure
  refine keeps_bind (moves _ _ _) fun _ => ?_
  refine keeps_bind (keeps_readFile _ _) fun content => ?_
  refine keeps_bind (keeps_uploadConflictCopy (fun _ _ _ => RowsFrom.of_same rfl) (fun world _ _ => ?_)
    (fun world apiFile replied _ => rowsFrom_putFile (stores apiFile replied) world.db) _ _ _) fun _ => ?_
  · rw [store_eq]
    exact RowsFrom.of_same rfl
  refine keeps_bind (keeps_perform fun _ => RowsFrom.of_same rfl) fun _ => ?_
  exact keeps_bind (keeps_writeFetched fun _ _ _ => RowsFrom.of_same rfl) fun _ => moves _ _ _

omit [Rfc3339] in
theorem rowsFromIn_recordResolution (identified : task.id = some taskId) {stored : Db.DriveFile → Prop}
    {resolve : ResolveAnswers} {dbRecord : Db.DriveFile} {remoteFile : Api.DriveFile}
    (stores : resolve.upsertsRecord = true → ∀ landed, stored (resolvedFile dbRecord remoteFile localPath landed)) :
    Keeps (RowsFromIn stored) (recordResolution resolve task dbRecord localPath remoteFile) := by
  rw [recordResolution, identified, Option.getD_some]
  refine keeps_bind (keeps_inspect _) fun landed => ?_
  refine keeps_bind (fun world => ?_) fun _ =>
    keeps_updateTaskStatus (allowsProcessing_rowsFromIn taskId stored).toAllowsMarking _ _ _ _
  rw [final_onDb]
  exact rowsFrom_upsertFile _ (fun executed => stores executed landed) world.db

/-- A conflict check stores rows only when it finds a conflict. -/
theorem rowsFromIn_checkAndResolve (identified : task.id = some taskId) {stored : Db.DriveFile → Prop}
    (stores : ∀ conflict, detected answers task fileId localPath world = some conflict →
      ∀ file, ConflictStores answers task localPath world conflict file → stored file) :
    RowsFromIn stored world (final (checkAndResolve answers task fileId localPath) world) := by
  have checks := checked answers task fileId localPath world
  cases found : detected answers task fileId localPath world with
  | none =>
      rw [found] at checks
      rcases checks.2 with same | same
      · rw [same]
        exact Std.Refl.refl world
      · rw [same]
        exact RowsFrom.of_same rfl
  | some conflict =>
      rw [found] at checks
      have meets := stores conflict found
      rw [checks.2, resolveConflict_eq]
      generalize asked : World.send task.accountId (.get fileId) world = begun
      have sameRows : RowsFromIn stored world begun := by
        rw [← asked]
        exact RowsFrom.of_same rfl
      have sameStage : stage answers.resolve localPath begun = stage answers.resolve localPath world := by
        rw [← asked]
        rfl
      have placed := @placed_placeRemote _ answers.resolve task conflict.1 localPath begun
      have copies := @rowsFromIn_placeRemote _ task localPath stored answers.resolve
        (fun apiFile replied => meets _ (Or.inl ⟨apiFile, replied, rfl⟩)) conflict.1 begun
      refine IsTrans.trans _ _ _ sameRows ?_
      rw [final_bind]
      cases answered : outcome (placeRemote answers.resolve task conflict.1 localPath) begun with
      | error failure => exact copies
      | ok done =>
          refine IsTrans.trans _ _ _ copies (rowsFromIn_recordResolution identified (fun executed landed => ?_) _)
          refine meets _ (Or.inr ⟨?_, executed, landed, rfl⟩)
          have isOk := placed.isOk
          rw [answered, sameStage] at isOk
          exact of_decide_eq_true isOk.symm

end Conflicts

variable {answers : TaskAnswers} {task : SyncTask} {taskId : Nat} {world : World}

theorem rowsFromIn_processUpload (identified : task.id = some taskId) :
    RowsFromIn (UploadStores answers task world) world (final (processUpload answers task) world) := by
  have uploads : Keeps (RowsFromIn (UploadStores answers task world))
      (attempt (uploadFile answers.upload task) : Routine String World Unit) := by
    refine keeps_attempt (keeps_uploadFile identified (allowsProcessing_rowsFromIn taskId _).toAllowsAsking
      (fun world _ _ => ?_) fun world apiFile replied _ => ?_)
    · rw [store_eq]
      exact RowsFrom.of_same rfl
    · exact rowsFrom_putFile (Or.inl ⟨apiFile, replied, rfl⟩) world.db
  rw [processUpload]
  cases about : task.fileId with
  | none => exact uploads world
  | some fileId =>
      cases path : task.localPath with
      | none => exact uploads world
      | some localPath =>
          refine rowsFromIn_bind ?_ fun checked => ?_
          · rw [final_observe]
            exact rowsFromIn_checkAndResolve identified fun conflict found file stores =>
              Or.inr ⟨fileId, localPath, conflict, about, path, found, stores⟩
          · cases checked with
            | error failure => exact uploads
            | ok resolved =>
                cases resolved with
                | true => exact keeps_pure ()
                | false => exact uploads

/-- A task that is begun stores the rows of its upload, or trashes the row it deletes by path. -/
theorem rowsFromIn_beginTask (identified : task.id = some taskId) :
    RowsFromIn (TaskStores answers task world) world (final (beginTask answers task) world) := by
  by_cases deletes : task.operation = .delete
  · cases client : answers.hasClient with
    | false =>
        have stays : final (beginTask answers task) world = world :=
          congrArg System.world (settle_beginTask_of_no_client client (Or.inr deletes) world)
        rw [stays]
        exact Std.Refl.refl world
    | true =>
        have changes : ChangesRows Trashes world (final (beginTask answers task) world) := by
          rw [beginTask_delete client deletes]
          exact keeps_beginDelete identified (allowsProcessing_changesRows taskId Trashes).toAllowsAsking
            (fun _ _ _ => changesRows_of_same rfl)
            (fun world fileId accountId =>
              @changesRows_updateFileAt Trashes _ Db.DriveFile.key_trashed (fun _ => rfl) fileId accountId world)
            answers.delete world
        exact RowsFrom.mono (fun file trashed => ⟨client, Or.inr ⟨deletes, trashed⟩⟩) changes.rows
  · by_cases uploads : task.operation = .upload
    · cases client : answers.hasClient with
      | false =>
          rw [final_beginTask_upload_of_no_client client uploads]
          exact Std.Refl.refl world
      | true =>
          rw [final_beginTask_upload client uploads]
          exact RowsFrom.mono (fun file stores => ⟨client, Or.inl ⟨uploads, stores⟩⟩)
            (rowsFromIn_processUpload identified)
    · exact keeps_beginTask_of_uploads identified (allowsProcessing_rowsFromIn taskId _)
        (fun _ _ _ => RowsFrom.of_same rfl) (fun same => absurd same deletes)
        (fun same => absurd same uploads) world

theorem rowsFromIn_engine (system : System) (step : EngineStep) :
    RowsFromIn (step.Stores system) system.world (step.exec system).world := by
  have does := step.does system
  generalize step.exec system = later at does
  cases does with
  | nothing => exact Std.Refl.refl system.world
  | restart => exact Std.Refl.refl system.world
  | begin picked idle next identified =>
      exact RowsFrom.mono (fun file stores => ⟨picked, idle, _, next, stores⟩)
        (rowsFromIn_beginTask identified)
  | @land answers download engine =>
      exact keeps_landFetched (allowsProcessing_rowsFromIn download.taskId _) system.world
  | @record answers download engine =>
      have marks := allowsProcessing_rowsFromIn download.taskId (EngineStep.Stores system (.record answers))
      refine rowsFromIn_bind ?_ fun _ => keeps_updateTaskStatus marks.toAllowsMarking _ _ _ _
      cases held : download.driveFile with
      | none =>
          simp only [storeDownloaded, held]
          exact Std.Refl.refl system.world
      | some row =>
          simp only [storeDownloaded, held]
          rw [final_bind_of_ok (outcome_inspect _ _), final_inspect, final_attempt, final_onDb]
          exact rowsFrom_upsertFile _ (fun executed => ⟨download, row, engine, held, executed, rfl⟩)
            system.world.db
  | removeCopy engine =>
      exact keeps_removeLocalCopy (allowsProcessing_rowsFromIn 0 _).disk _ _ system.world
  | @recordDelete answers delete engine =>
      have marks := allowsProcessing_rowsFromIn delete.taskId
        (EngineStep.Stores system (.recordDelete answers))
      refine rowsFromIn_bind ?_ fun _ => keeps_updateTaskStatus marks.toAllowsMarking _ _ _ _
      cases held : delete.driveFile with
      | none =>
          simp only [storeEvicted, held]
          exact Std.Refl.refl system.world
      | some row =>
          simp only [storeEvicted, held]
          rw [final_attempt, final_onDb]
          exact rowsFrom_upsertFile _ (fun executed => ⟨delete, row, engine, held, executed, rfl⟩)
            system.world.db

/-! ## Every operation -/

/-- The rows that an operation stores. -/
def Stores (system : System) : Operation → Db.DriveFile → Prop
  | .sync work, file => work.Stores system.world.db file
  | .rpc ctx answers request, file => request.Stores ctx answers system.world.db file
  | .vfs cacheDir answers callback, file => callback.Stores cacheDir answers system.world file
  | .engine step, file => step.Stores system file
  | _, _ => False

/-- Every row after an operation is one from before, or one that the operation stores. -/
theorem rowsFrom_exec (system : System) (operation : Operation) :
    RowsFrom (Stores system operation) system.world.db (system.exec operation).world.db := by
  cases operation with
  | sync work => exact rowsFrom_sync work system.world.db
  | rpc ctx answers request => exact rowsFrom_request ctx answers request system.world.db
  | vfs cacheDir answers callback => exact rowsFromIn_callback cacheDir answers callback system.world
  | event path isDir kind folders now runs =>
      refine RowsFrom.of_same ?_
      simp only [System.exec, watch]
      split
      · exact Std.Refl.refl system.world.db
      · exact sameFiles_enqueue runs _ system.world.db
  | engine step => exact rowsFromIn_engine system step
  | user path file => exact RowsFrom.of_same rfl

end Engine

end GDriver
