import GDriver.Library.Run
import GDriver.Local.Present
import GDriver.Watcher.Sizes
import Mathlib.Data.Set.Insert

namespace GDriver
namespace Local

open Library Routine Db Api Ipc Sync

/-!
# Pinned files

A file is pinned while its row is in the state `offline`.  What requests ask for is a set of pinned files, to
which they add a file, from which they take one, or which they clear.  The rows follow this set in one
direction: other operations may end a pin, but none makes one.
-/

/-! ## What requests ask for -/

/-- A request that was carried out. -/
inductive PinRequest where
  | pin (key : String × String)
  | unpin (key : String × String)
  | clear

/-- The set of pinned files after a request. -/
def PinRequest.apply (pins : Set (String × String)) : PinRequest → Set (String × String)
  | .pin key => insert key pins
  | .unpin key => {other | other ∈ pins ∧ other ≠ key}
  | .clear => ∅

/-- The files that are pinned after requests, and none before them. -/
def pinsAfter (requests : List PinRequest) : Set (String × String) :=
  requests.foldl PinRequest.apply ∅

theorem pinsAfter_concat (requests : List PinRequest) (request : PinRequest) :
    pinsAfter (requests ++ [request]) = request.apply (pinsAfter requests) := by
  rw [pinsAfter, List.foldl_append]
  rfl

theorem PinRequest.apply_mono (request : PinRequest) {pins more : Set (String × String)} (fewer : pins ⊆ more) :
    request.apply pins ⊆ request.apply more := by
  cases request with
  | pin key => exact Set.insert_subset_insert fewer
  | unpin key => exact fun _ member => ⟨fewer member.1, member.2⟩
  | clear => exact Set.Subset.refl _

/-- What the requests ask for is asked for again when one more request is noted. -/
theorem pinsAfter_toList (requests : List PinRequest) (request : Option PinRequest) :
    pinsAfter (requests ++ request.toList) = request.elim (pinsAfter requests)
      (PinRequest.apply (pinsAfter requests)) := by
  cases request with
  | none => exact congrArg pinsAfter (List.append_nil _)
  | some request => exact pinsAfter_concat requests request

/-! ## What the rows say -/

/-- The file is pinned, and not in the trash. -/
structure IsPinned (file : Db.DriveFile) : Prop where
  state : file.syncState = .offline
  live : file.isTrashed = false

def pinnedFiles (db : Database) : Set (String × String) :=
  {key | ∃ file, db.file key.1 key.2 = some file ∧ IsPinned file}

section Rows

variable {file : Db.DriveFile}

theorem not_isPinned_of_state {state : SyncState} (stored : file.syncState = state) (other : state ≠ .offline) :
    ¬ IsPinned file :=
  fun pinned => other (stored.symm.trans pinned.state)

theorem not_isPinned_of_trashed (trashed : file.isTrashed = true) : ¬ IsPinned file := by
  intro pinned
  rw [pinned.live] at trashed
  cases trashed

end Rows

/-- The request that an operation carries out. -/
def pinRequest (system : System) : Operation → Option PinRequest
  | .rpc ctx answers (.setOffline path enabled) =>
      (requestedFile ctx answers path system.world.db).bind fun file => enabled.bind fun enabled =>
        if answers.runs 2 then some (if enabled then .pin file.key else .unpin file.key) else none
  | .rpc _ answers .clearCache => if answers.runs 0 then some .clear else none
  | _ => none

/-! ## The two requests -/

/-- A request to pin or to unpin writes the state of the file that it finds. -/
theorem final_setOffline (ctx : RouterContext) (answers : RpcAnswers) (path : Option String) (enabled : Option Bool)
    (db : Database) :
    final (handleFsSetOffline ctx answers path enabled) db =
      ((requestedFile ctx answers path db).bind fun file => enabled.map fun enabled =>
        final (setSyncState (answers.runs 2) file.id file.accountId (offlineState enabled)) db).getD db := by
  simp only [handleFsSetOffline, requiredParam, final_bind_orRpcError, final_bind_resolveFileForPath]
  cases path with
  | none => rfl
  | some path =>
      cases enabled with
      | none =>
          rw [requestedFile, Option.bind_some]
          cases (outcome (resolveFileForPath ctx answers path) db).toOption with
          | none => rfl
          | some file => rfl
      | some enabled =>
          rw [requestedFile, Option.bind_some, Option.elim_some, Option.elim_some]
          cases (outcome (resolveFileForPath ctx answers path) db).toOption with
          | none => rfl
          | some file =>
              rw [Option.elim_some, final_bind_pure, orInternal, final_mapError]
              rfl

/-- What a file has been pinned or unpinned to is all that changes. -/
theorem pinnedFiles_setSyncState (db : Database) (id accountId : String) (enabled : Bool) :
    pinnedFiles (final (setSyncState true id accountId (offlineState enabled)) db) ⊆
      (if enabled then PinRequest.pin (id, accountId) else .unpin (id, accountId)).apply (pinnedFiles db) := by
  rintro key ⟨file, found, pinned⟩
  rw [setSyncState, final_execute, if_pos rfl, Database.file_updateFileAt] at found
  split at found
  · next same =>
      rcases Option.map_eq_some_iff.mp found with ⟨row, there, changed⟩
      have here : key = (id, accountId) := Prod.ext same.1 same.2
      cases enabled with
      | true =>
          rw [here]
          exact Set.mem_insert _ _
      | false =>
          rw [← changed] at pinned
          exact (not_isPinned_of_state rfl (by decide : SyncState.cached ≠ .offline) pinned).elim
  · next other =>
      have before : key ∈ pinnedFiles db := ⟨file, found, pinned⟩
      cases enabled with
      | true => exact Set.mem_insert_of_mem _ before
      | false => exact ⟨before, fun same => other (by rw [same]; exact ⟨rfl, rfl⟩)⟩

/-- No file is pinned after the cache was cleared. -/
theorem pinnedFiles_clearCache (db : Database) : pinnedFiles (final (handleOfflineClearCache true) db) = ∅ := by
  rw [Set.eq_empty_iff_forall_notMem]
  rintro ⟨fileId, owner⟩ ⟨file, found, pinned⟩
  rw [handleOfflineClearCache, orInternal, final_mapError, final_execute, if_pos rfl,
    Database.file_updateFiles] at found
  rcases Option.map_eq_some_iff.mp found with ⟨row, there, same⟩
  split at same
  · rw [← same] at pinned
    exact not_isPinned_of_state rfl (by decide : SyncState.cached ≠ .offline) pinned
  · next left =>
      rw [← same] at pinned
      apply left
      rw [pinned.state, pinned.live]
      rfl

/-! ## One operation -/

section Operations

variable {file : Db.DriveFile}

variable [Rfc3339] {system : System}

/-- The syncs store no pinned row. -/
theorem not_isPinned_sync {work : SyncWork} (stores : Stores system (.sync work) file) : ¬ IsPinned file := by
  cases work with
  | connect runs account => cases stores
  | disconnect runs accountId => cases stores
  | storeToken runs now accountId token => cases stores
  | listed runs accountId apiFile =>
      rw [stores.2]
      exact not_isPinned_of_state rfl (by decide : SyncState.cloudOnly ≠ .offline)
  | change answers accountId reported syncMode mountPoint =>
      rcases stored_of_change syncMode mountPoint stores with trashed | ⟨cloudOnly, _⟩
      · exact not_isPinned_of_trashed trashed
      · exact not_isPinned_of_state cloudOnly (by decide)
  | mirror answers accountId mountPoint =>
      rcases stores with ⟨placement, placed, same⟩
      rw [placements] at placed
      split at placed
      · intro pinned
        rw [same] at pinned
        exact not_claimsCopy_of_needsMirroring (of_mem_placementsFrom placed).2.1
          ⟨pinned.live, Or.inr (Or.inr pinned.state)⟩
      · cases placed
  | resetMirror runs accountId =>
      rcases stores.2 with ⟨row, _, same⟩
      rw [same]
      exact not_isPinned_of_state rfl (by decide : SyncState.cloudOnly ≠ .offline)

/-- The mounted file system stores no pinned row. -/
theorem not_isPinned_vfs {cacheDir : String} {answers : Vfs.CallbackAnswers} {callback : Callback}
    (stores : Stores system (.vfs cacheDir answers callback) file) : ¬ IsPinned file := by
  cases callback with
  | create parent name =>
      rcases stores with ⟨owner, newName, _, _, _, same⟩
      rw [same]
      exact not_isPinned_of_state rfl (by decide : SyncState.modified ≠ .offline)
  | write ino fh offset data written =>
      rcases stores with ⟨row, _, size, modifiedTime, same⟩
      rw [same]
      exact not_isPinned_of_state rfl (by decide : SyncState.modified ≠ .offline)
  | mkdir parent name =>
      rcases stores with ⟨owner, newName, _, _, _, same⟩
      rw [same]
      exact not_isPinned_of_state rfl (by decide : SyncState.cloudOnly ≠ .offline)
  | unlink parent name =>
      rcases stores with ⟨row, _, same⟩
      rw [same]
      exact not_isPinned_of_trashed rfl
  | rmdir parent name =>
      rcases stores with ⟨row, _, same⟩
      rw [same]
      exact not_isPinned_of_trashed rfl
  | rename parent name newParent newName =>
      rcases stores with ⟨row, _, now, toName, newParentId, same⟩
      rw [same]
      exact not_isPinned_of_state rfl (by decide : SyncState.modified ≠ .offline)
  | openFile ino => cases stores
  | read ino fh => cases stores
  | flush ino fh => cases stores
  | fsync ino fh => cases stores
  | release fh => cases stores

/-- The engine stores no pinned row. -/
theorem not_isPinned_engine {step : EngineStep} (stores : Stores system (.engine step) file) : ¬ IsPinned file := by
  cases step with
  | begin picks answers =>
      rcases stores with ⟨_, _, task, _, _, uploads | deletes⟩
      · rcases uploads with ⟨_, ⟨apiFile, _, same⟩ | conflicts⟩
        · rw [same]
          exact not_isPinned_of_state rfl (by decide : SyncState.cloudOnly ≠ .offline)
        · rcases conflicts with ⟨fileId, localPath, conflict, _, _, _, ⟨apiFile, _, same⟩ | ⟨_, _, content, same⟩⟩
          · rw [same]
            exact not_isPinned_of_state rfl (by decide : SyncState.cloudOnly ≠ .offline)
          · rw [same]
            exact not_isPinned_of_state rfl (by decide : SyncState.cached ≠ .offline)
      · rcases deletes.2 with ⟨row, _, same⟩
        rw [same]
        exact not_isPinned_of_trashed rfl
  | land answers => cases stores
  | record answers =>
      rcases stores with ⟨download, row, _, _, _, same⟩
      rw [same]
      exact not_isPinned_of_state rfl (by decide : SyncState.cached ≠ .offline)
  | removeCopy answers => cases stores
  | recordDelete answers =>
      rcases stores with ⟨delete, row, _, _, _, same⟩
      rw [same]
      exact not_isPinned_of_state rfl (by decide : SyncState.cloudOnly ≠ .offline)
  | restart => cases stores

/-- Of the requests that neither pin a file nor clear the cache, only a change of a name stores a pinned row, and
then that of a file that was pinned before. -/
theorem pinned_before_of_rpc {ctx : RouterContext} {answers : RpcAnswers} {request : Rpc}
    (stores : Stores system (.rpc ctx answers request) file) (pinned : IsPinned file)
    (other : ∀ path enabled, request ≠ .setOffline path enabled) : file.key ∈ pinnedFiles system.world.db := by
  cases request with
  | setOffline path enabled => exact (other path enabled rfl).elim
  | clearCache =>
      rcases stores.2 with ⟨row, _, _, _, same⟩
      rw [same] at pinned
      exact (not_isPinned_of_state rfl (by decide : SyncState.cached ≠ .offline) pinned).elim
  | fetchContents about => cases stores
  | createItem name isFolder localPath =>
      rcases stores with ⟨accountId, newName, _, _, _, same⟩
      rw [same] at pinned
      split at pinned
      · exact (not_isPinned_of_state rfl (by decide : SyncState.cloudOnly ≠ .offline) pinned).elim
      · exact (not_isPinned_of_state rfl (by decide : SyncState.modified ≠ .offline) pinned).elim
  | modifyItem about newName localPath =>
      rcases stores with ⟨row, found, ⟨_, same⟩ | ⟨target, _, _, _, same⟩⟩
      · have held := (of_requestedRow found).1
        rw [same] at pinned ⊢
        cases newName with
        | none => exact ⟨row, held, pinned⟩
        | some newName => exact ⟨row, held, pinned.state, pinned.live⟩
      · rw [same] at pinned
        exact (not_isPinned_of_state rfl (by decide : SyncState.modified ≠ .offline) pinned).elim
  | deleteItem about =>
      rcases stores with ⟨row, _, same⟩
      rw [same] at pinned
      exact (not_isPinned_of_trashed rfl pinned).elim

/-- An operation that carries out no request to pin files pins none. -/
theorem pinnedFiles_subset {operation : Operation}
    (other : ∀ ctx answers path enabled, operation ≠ .rpc ctx answers (.setOffline path enabled)) :
    pinnedFiles (system.exec operation).world.db ⊆ pinnedFiles system.world.db := by
  rintro ⟨fileId, accountId⟩ ⟨file, found, pinned⟩
  rcases rowsFrom_exec system operation fileId accountId file found with before | stores
  · exact ⟨file, before, pinned⟩
  · have key : file.key = (fileId, accountId) := KeyedTable.key_of_lookup found
    cases operation with
    | sync work => exact (not_isPinned_sync stores pinned).elim
    | rpc ctx answers request =>
        rw [← key]
        exact pinned_before_of_rpc stores pinned fun path enabled same => other ctx answers path enabled (by rw [same])
    | vfs cacheDir answers callback => exact (not_isPinned_vfs stores pinned).elim
    | event path isDir kind folders now runs => cases stores
    | engine step => exact (not_isPinned_engine stores pinned).elim
    | user path content => cases stores

/-- After an operation no file is pinned but those that its request leaves or makes pinned. -/
theorem pinnedFiles_exec (system : System) (operation : Operation) :
    pinnedFiles (system.exec operation).world.db ⊆
      (pinRequest system operation).elim (pinnedFiles system.world.db)
        (PinRequest.apply (pinnedFiles system.world.db)) := by
  cases operation with
  | sync work => exact pinnedFiles_subset fun _ _ _ _ impossible => by cases impossible
  | rpc ctx answers request =>
      cases request with
      | setOffline path enabled =>
          change pinnedFiles (final (Rpc.run ctx answers (.setOffline path enabled)) system.world.db) ⊆ _
          rw [Rpc.run, final_attempt, final_setOffline, pinRequest]
          cases requestedFile ctx answers path system.world.db with
          | none => exact Set.Subset.refl _
          | some file =>
              cases enabled with
              | none => exact Set.Subset.refl _
              | some enabled =>
                  cases executed : answers.runs 2 with
                  | false => exact Set.Subset.refl _
                  | true => exact pinnedFiles_setSyncState system.world.db file.id file.accountId enabled
      | clearCache =>
          change pinnedFiles (final (Rpc.run ctx answers .clearCache) system.world.db) ⊆ _
          rw [Rpc.run, pinRequest]
          cases executed : answers.runs 0 with
          | false =>
              rw [handleOfflineClearCache, orInternal, final_mapError, final_execute, if_neg Bool.false_ne_true]
              exact Set.Subset.refl _
          | true =>
              rw [pinnedFiles_clearCache]
              exact Set.Subset.refl _
      | fetchContents path => exact pinnedFiles_subset fun _ _ _ _ impossible => by cases impossible
      | createItem name isFolder localPath => exact pinnedFiles_subset fun _ _ _ _ impossible => by cases impossible
      | modifyItem path newName localPath => exact pinnedFiles_subset fun _ _ _ _ impossible => by cases impossible
      | deleteItem path => exact pinnedFiles_subset fun _ _ _ _ impossible => by cases impossible
  | vfs cacheDir answers callback => exact pinnedFiles_subset fun _ _ _ _ impossible => by cases impossible
  | event path isDir kind folders now runs => exact pinnedFiles_subset fun _ _ _ _ impossible => by cases impossible
  | engine step => exact pinnedFiles_subset fun _ _ _ _ impossible => by cases impossible
  | user path content => exact pinnedFiles_subset fun _ _ _ _ impossible => by cases impossible

end Operations

/-! ## What the statistics count -/

section Statistics

/-- The sizes of the files in a state, and zero for every other file that is not in the trash. -/
def sizesIn (state : SyncState) (db : Database) : List (Option Int) :=
  (db.driveFiles.records.filter fun file => !file.isTrashed).map fun file =>
    if file.syncState = state then file.size else some 0

/-- A signed number of 64 bits as an unsigned one. -/
def asU64 (number : Int) : Nat :=
  (number % 18446744073709551616).toNat

/-- Sum the sizes of the pinned files, and of the cached ones. -/
def sumBytesBySyncState (runs : Bool) : Routine String Database (Nat × Nat) := do
  match ← select runs fun db =>
      (Watcher.sumColumn (sizesIn .offline db) 0, Watcher.sumColumn (sizesIn .cached db) 0) with
  | (some offlineBytes, some cacheBytes) => pure (asU64 offlineBytes, asU64 cacheBytes)
  | _ => throw "integer overflow"

/-- Return the storage statistics of pinned and cached files. -/
def handleOfflineGetStats (runs : Bool) : Routine RpcError Database (Nat × Nat) :=
  orInternal (sumBytesBySyncState runs)

theorem sumColumn_of_zeros {column : List (Option Int)} (zeros : ∀ entry ∈ column, entry = some 0) :
    Watcher.sumColumn column 0 = some 0 := by
  induction column with
  | nil => rfl
  | cons entry rest inductionHypothesis =>
      rw [zeros entry List.mem_cons_self, Watcher.sumColumn, if_pos (by decide)]
      exact inductionHypothesis fun later member => zeros later (List.mem_cons_of_mem _ member)

/-- Without a pinned file the statistics count no pinned bytes. -/
theorem offlineBytes_of_unpinned {db : Database} (unpinned : pinnedFiles db = ∅) {runs : Bool} {stats : Nat × Nat}
    (answers : outcome (handleOfflineGetStats runs) db = .ok stats) : stats.1 = 0 := by
  have zeros : ∀ entry ∈ sizesIn .offline db, entry = some 0 := by
    intro entry member
    rcases List.mem_map.mp member with ⟨file, inside, same⟩
    rcases List.mem_filter.mp inside with ⟨stored, live⟩
    have held := (KeyedTable.mem_records_iff db.driveFiles file).mp stored
    have other : file.syncState ≠ .offline := by
      intro offline
      have pinned : file.key ∈ pinnedFiles db := ⟨file, held, offline, Bool.not_eq_true' _ ▸ live⟩
      rw [unpinned] at pinned
      exact pinned
    rw [← same, if_neg other]
  have counts : outcome (handleOfflineGetStats true) db =
      (Watcher.sumColumn (sizesIn .cached db) 0).elim (.error (.internalError "integer overflow"))
        fun cacheBytes => .ok (0, asU64 cacheBytes) := by
    rw [handleOfflineGetStats, orInternal, outcome_mapError, sumBytesBySyncState,
      outcome_bind_of_ok (outcome_select true _ db), sumColumn_of_zeros zeros]
    cases Watcher.sumColumn (sizesIn .cached db) 0 with
    | none => rfl
    | some cacheBytes => rfl
  cases runs with
  | false => cases answers
  | true =>
      rw [counts] at answers
      cases bytes : Watcher.sumColumn (sizesIn .cached db) 0 with
      | none =>
          rw [bytes] at answers
          cases answers
      | some cacheBytes =>
          rw [bytes] at answers
          rw [← Except.ok.inj answers]

end Statistics

/-! ## Every run -/

/-- In every run no file is pinned but those for which the requests that were carried out ask; and when these
ask for none, the statistics count no pinned bytes. -/
theorem pins_come_from_requests [Rfc3339] (operations : List Operation) :
    let system := run System.exec operations System.initial
    let pins := pinsAfter (notes System.exec pinRequest operations System.initial)
    pinnedFiles system.world.db ⊆ pins ∧
      (pins = ∅ → ∀ runs stats, outcome (handleOfflineGetStats runs) system.world.db = .ok stats → stats.1 = 0) := by
  have preserved (noted : List PinRequest) (system : System) (operation : Operation)
      (asked : pinnedFiles system.world.db ⊆ pinsAfter noted) :
      pinnedFiles (system.exec operation).world.db ⊆ pinsAfter (noted ++ (pinRequest system operation).toList) := by
    have step := pinnedFiles_exec system operation
    rw [pinsAfter_toList]
    cases carried : pinRequest system operation with
    | none =>
        rw [carried] at step
        exact step.trans asked
    | some request =>
        rw [carried] at step
        exact step.trans (request.apply_mono asked)
  have initially : pinnedFiles System.initial.world.db ⊆ pinsAfter [] := by
    rintro key ⟨file, found, _⟩
    cases found
  have reached := run_with_notes preserved initially operations
  refine ⟨reached, fun nothing runs stats answers => ?_⟩
  rw [List.nil_append, nothing] at reached
  exact offlineBytes_of_unpinned (Set.subset_empty_iff.mp reached) answers

end Local
end GDriver
