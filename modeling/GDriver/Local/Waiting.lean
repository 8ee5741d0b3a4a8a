import GDriver.Local.Contents
import GDriver.Local.Present
import GDriver.Local.Writes
import GDriver.Moves.Rows

namespace GDriver
namespace Local

open Library Routine Db Api Sync Vfs

/-!
# Waiting for a download

A read that finds no local file enqueues a download and waits for it.  It does not look at the task
but at the row of the file, every now and then, and others change that row as well.  A download that
fails for good changes its task only.
-/

/-- The time after which a read gives up. -/
def downloadTimeoutMs : Nat := 30000

/-- One look at the row: what others have done before, whether the query runs, and how long the wait
has gone on. -/
structure Poll where
  meanwhile : List Operation
  runs : Bool
  elapsed : Nat

/-- Whether the row says that the file has been downloaded, or has not. -/
def polled (runs : Bool) (fileId accountId : String) : Routine String Database (Option Bool) := do
  let state ← select runs fun db => (db.file fileId accountId).map DriveFile.syncState
  match state with
  | some .cached | some .synced | some .offline => pure (some true)
  | some .error => pure (some false)
  | _ => pure none

/-- The first half of a read: the row of the file, the path of its content, and the download that is
enqueued if the content is not there. -/
structure Sought where
  details : Db.DriveFile
  localPath : String
  download : Option SyncTask

def seekContent (answers : CallbackAnswers) (cacheDir : String) (ino fh : Nat) : Routine Errno World Sought := do
  let _ ← validHandle ino fh
  let details ← orErrno .enoent (← orEio (getFileDetailsByInode (answers.runs 0) ino))
  let localPath := details.localPath.getD (cachePath cacheDir details.accountId details.id)
  let present ← inspect fun world => (world.disk localPath).isSome
  if details.syncState = .cloudOnly || !present then do
    callOrEio (answers.failures 0)
    let task ← orEio (enqueueDownloadTask (answers.runs 1) answers.now details.accountId details.id localPath)
    pure ⟨details, localPath, some task⟩
  else pure ⟨details, localPath, none⟩

/-- The second half of a read that has waited. -/
def readWaited (answers : CallbackAnswers) (localPath : String) (offset size : Nat) (waited : Except String Bool)
    (world : World) : Except Errno (List UInt8) :=
  match waited with
  | .ok true => outcome (readContent answers localPath offset size) world
  | _ => .error .eio

/-- A wait after its last look: the system it has met, the time it has taken, and how it has ended, if
it has. -/
structure Waited where
  system : System
  elapsed : Nat
  answer : Option (Except String Bool)

section Waiting

variable [Rfc3339]

/-- The system that a look meets. -/
def Poll.met (poll : Poll) (system : System) : System :=
  run System.exec poll.meanwhile system

/-- Look once, and end the wait if the row tells, or the time is up. -/
def Waited.poll (fileId accountId : String) (timeoutMs : Nat) (waited : Waited) (poll : Poll) : Waited :=
  match waited.answer with
  | some _ => waited
  | none =>
      { system := poll.met waited.system
        elapsed := poll.elapsed
        answer :=
          match outcome (polled poll.runs fileId accountId) (poll.met waited.system).world.db with
          | .error failure => some (.error failure)
          | .ok (some downloaded) => some (.ok downloaded)
          | .ok none => if timeoutMs ≤ poll.elapsed then some (.ok false) else none }

/-- Poll until a download task is completed or timeout is reached. -/
def waitForDownload (fileId accountId : String) (timeoutMs : Nat) (polls : List Poll) (system : System) : Waited :=
  run (Waited.poll fileId accountId timeoutMs) polls ⟨system, 0, none⟩

end Waiting

/-- A read seeks the content, waits if it has enqueued a download, and reads what is there. -/
theorem read_eq_seekContent (answers : CallbackAnswers) (cacheDir : String) (ino fh offset size : Nat)
    (wait : DownloadWait) :
    Vfs.read answers cacheDir ino fh offset size wait =
      seekContent answers cacheDir ino fh >>= fun sought =>
        match sought.download with
        | none => readContent answers sought.localPath offset size
        | some _ => fun world =>
            match wait.downloaded with
            | .ok true => readContent answers sought.localPath offset size (wait.meanwhile world)
            | _ => .error .eio (wait.meanwhile world) := by
  simp only [Vfs.read, seekContent, awaitContent, bind_assoc]
  refine bind_congr fun _ => bind_congr fun found => bind_congr fun details => ?_
  refine bind_congr fun present => ?_
  split
  · simp only [bind_assoc, pure_bind]
    refine bind_congr fun _ => bind_congr fun task => ?_
    funext world
    change EStateM.bind _ _ world = _
    rcases wait with ⟨meanwhile, _ | _ | _⟩
    · rfl
    · rfl
    · rfl
  · simp only [pure_bind]

theorem outcome_read_of_sought {answers : CallbackAnswers} {cacheDir : String} {ino fh offset size : Nat}
    {world : World}
    {sought : Sought} {task : SyncTask} (begun : outcome (seekContent answers cacheDir ino fh) world = .ok sought)
    (enqueued : sought.download = some task) (wait : DownloadWait) :
    outcome (Vfs.read answers cacheDir ino fh offset size wait) world =
      readWaited answers sought.localPath offset size wait.downloaded
        (wait.meanwhile (final (seekContent answers cacheDir ino fh) world)) := by
  rw [read_eq_seekContent, outcome_bind_of_ok begun, enqueued]
  dsimp only
  rcases wait with ⟨meanwhile, _ | _ | _⟩
  · rfl
  · rfl
  · rfl

/-! ## What is waited for -/

/-- What the row says of the download. -/
def rowSays (fileId accountId : String) (db : Database) : Option Bool :=
  match (db.file fileId accountId).map DriveFile.syncState with
  | some .cached | some .synced | some .offline => some true
  | some .error => some false
  | _ => none

theorem outcome_polled (runs : Bool) (fileId accountId : String) (db : Database) :
    outcome (polled runs fileId accountId) db =
      if runs then .ok (rowSays fileId accountId db) else .error databaseError := by
  rw [polled, outcome_bind, outcome_select]
  cases runs with
  | false => rfl
  | true =>
      rw [if_pos rfl, if_pos rfl, rowSays]
      cases (db.file fileId accountId).map DriveFile.syncState with
      | none => rfl
      | some state =>
          cases state with
          | cloudOnly => rfl
          | downloading => rfl
          | uploading => rfl
          | cached => rfl
          | offline => rfl
          | modified => rfl
          | synced => rfl
          | error => rfl

/-- The status of a task. -/
def taskStatus (taskId : Nat) (system : System) : Option TaskStatus :=
  (system.world.db.task taskId).map SyncTask.status

/-- The task is completed, and there is a file at its path. -/
def Arrived (taskId : Nat) (localPath : String) (system : System) : Prop :=
  taskStatus taskId system = some .completed ∧ (system.world.disk localPath).isSome = true

/-- What a read replies with, in the system that its wait has ended in: what is at the path of the
completed download, or an error for a download that has failed or is late, or for a call or a query of
the read itself. -/
def ReadFits (answers : CallbackAnswers) (taskId : Nat) (localPath : String) (offset size timeoutMs : Nat)
    (waited : Except String Bool) (state : Waited) : Except Errno (List UInt8) → Prop
  | .ok bytes =>
      taskStatus taskId state.system = some .completed ∧ ∃ file, state.system.world.disk localPath = some file ∧
        bytes = (file.bytes.drop offset).take size
  | .error _ =>
      taskStatus taskId state.system = some .failed ∨ timeoutMs ≤ state.elapsed ∨ (∃ failure, waited = .error failure) ∨
        ∃ index, (answers.failures index).isSome = true

section Condition

variable [Rfc3339] (answers : CallbackAnswers) (cacheDir : String) (ino fh offset size timeoutMs taskId : Nat)
  (sought : Sought) (world : World)

/-- The wait goes by the task: it ends with a yes only when the task is completed and its file is
there, with a no only when the task has failed or is late, and it does not go on after the task has
failed; and the read that has waited replies with the download, or with an error for it. -/
structure WaitsForTask (state : Waited) : Prop where
  arrived : state.answer = some (.ok true) → Arrived taskId sought.localPath state.system
  refused : state.answer = some (.ok false) → taskStatus taskId state.system = some .failed ∨ timeoutMs ≤ state.elapsed
  waits : state.answer = none → taskStatus taskId state.system ≠ some .failed
  reply : ∀ waited, state.answer = some waited →
    ReadFits answers taskId sought.localPath offset size timeoutMs waited state
      (outcome (Vfs.read answers cacheDir ino fh offset size ⟨fun _ => state.system.world, waited⟩) world)

/-- A look that a wait takes finds a row that says what the task does. -/
def RowFitsTask (state : Waited) (poll : Poll) : Prop :=
  state.answer = none → poll.runs = true →
    match rowSays sought.details.id sought.details.accountId (poll.met state.system).world.db with
    | some true => Arrived taskId sought.localPath (poll.met state.system)
    | some false => taskStatus taskId (poll.met state.system) = some .failed ∨ timeoutMs ≤ poll.elapsed
    | none => timeoutMs ≤ poll.elapsed ∨ taskStatus taskId (poll.met state.system) ≠ some .failed

end Condition

section Waits

variable {answers : CallbackAnswers} {cacheDir : String} {ino fh offset size timeoutMs taskId : Nat} {sought : Sought}
  {task : SyncTask} {world : World}

theorem outcome_bind_callOrEio {α : Type} (failure : Option String) (second : Unit → Routine Errno World α) :
    outcome (callOrEio failure >>= second) world =
      if failure.isSome then .error .eio else outcome (second ()) world := by
  cases failure with
  | none => rfl
  | some text => rfl

/-- A read from a file that is there fails only with one of its own calls. -/
theorem outcome_readContent {localPath : String} {file : DiskFile} (there : world.disk localPath = some file) :
    outcome (readContent answers localPath offset size) world = .ok ((file.bytes.drop offset).take size) ∨
      outcome (readContent answers localPath offset size) world = .error .eio ∧
        ∃ index, (answers.failures index).isSome = true := by
  rw [readContent, outcome_bind_callOrEio]
  split
  · next opens => exact Or.inr ⟨rfl, 1, opens⟩
  · rw [outcome_bind_of_ok (outcome_inspect _ _), final_inspect, there]
    change outcome (callOrEio (answers.failures 2) >>= fun _ => callOrEio (answers.failures 3) >>= fun _ =>
        pure ((file.bytes.drop offset).take size)) world = _ ∨ outcome (callOrEio (answers.failures 2) >>= fun _ =>
          callOrEio (answers.failures 3) >>= fun _ => pure ((file.bytes.drop offset).take size)) world = _ ∧ _
    rw [outcome_bind_callOrEio]
    split
    · next seeks => exact Or.inr ⟨rfl, 2, seeks⟩
    · rw [outcome_bind_callOrEio]
      split
      · next reads => exact Or.inr ⟨rfl, 3, reads⟩
      · exact Or.inl rfl

theorem readFits_readContent {state : Waited} (arrived : Arrived taskId sought.localPath state.system) :
    ReadFits answers taskId sought.localPath offset size timeoutMs (.ok true) state
      (outcome (readContent answers sought.localPath offset size) state.system.world) := by
  rcases Option.isSome_iff_exists.mp arrived.2 with ⟨file, there⟩
  rcases @outcome_readContent answers offset size _ _ _ there with reads | ⟨fails, own⟩
  · rw [reads]
    exact ⟨arrived.1, file, there, rfl⟩
  · rw [fails]
    exact Or.inr (Or.inr (Or.inr own))

/-- The reply follows from how the wait has ended. -/
theorem waitsForTask_iff (begun : outcome (seekContent answers cacheDir ino fh) world = .ok sought)
    (enqueued : sought.download = some task) (state : Waited) :
    WaitsForTask answers cacheDir ino fh offset size timeoutMs taskId sought world state ↔
      (state.answer = some (.ok true) → Arrived taskId sought.localPath state.system) ∧
        (state.answer = some (.ok false) →
          taskStatus taskId state.system = some .failed ∨ timeoutMs ≤ state.elapsed) ∧
        (state.answer = none → taskStatus taskId state.system ≠ some .failed) := by
  constructor
  · intro waits
    exact ⟨waits.arrived, waits.refused, waits.waits⟩
  · rintro ⟨arrived, refused, waits⟩
    refine ⟨arrived, refused, waits, ?_⟩
    intro waited ended
    rw [outcome_read_of_sought begun enqueued]
    dsimp only
    cases waited with
    | error failure => exact Or.inr (Or.inr (Or.inl ⟨failure, rfl⟩))
    | ok downloaded =>
        cases downloaded with
        | false => exact (refused ended).imp id Or.inl
        | true => exact readFits_readContent (arrived ended)

/-- The task that a read has enqueued is pending. -/
theorem pending_of_seekContent (begun : outcome (seekContent answers cacheDir ino fh) world = .ok sought)
    (enqueued : sought.download = some task) (numbered : task.id = some taskId) :
    ((final (seekContent answers cacheDir ino fh) world).db.task taskId).map SyncTask.status = some .pending := by
  unfold seekContent at begun ⊢
  rcases outcome_bind_eq_ok_iff.mp begun with ⟨handle, valid, afterHandle⟩
  rw [final_bind_of_ok valid]
  rcases outcome_bind_eq_ok_iff.mp afterHandle with ⟨found, looked, afterLook⟩
  rw [final_bind_of_ok looked]
  rcases outcome_bind_eq_ok_iff.mp afterLook with ⟨details, there, afterDetails⟩
  rw [final_bind_of_ok there]
  rcases outcome_bind_eq_ok_iff.mp afterDetails with ⟨present, seen, afterSeen⟩
  rw [final_bind_of_ok seen]
  split at afterSeen
  · next absent =>
      rw [if_pos absent]
      rcases outcome_bind_eq_ok_iff.mp afterSeen with ⟨_, made, afterMade⟩
      rw [final_bind_of_ok made]
      rcases outcome_bind_eq_ok_iff.mp afterMade with ⟨stored, stores, ends⟩
      rw [final_bind_of_ok stores]
      cases ends
      cases enqueued
      rw [orEio, outcome_mapError, outcome_onDb, enqueueDownloadTask, Vfs.enqueueTask, outcome_enqueue] at stores
      cases runs : answers.runs 1 with
      | false =>
          rw [runs] at stores
          cases stores
      | true =>
          rw [runs, if_pos rfl] at stores
          cases stores
          cases numbered
          rw [final_pure, orEio, final_mapError, final_onDb, enqueueDownloadTask, Vfs.enqueueTask, final_enqueue,
            if_pos rfl]
          exact congrArg (Option.map SyncTask.status) (Database.task_putTask_next _ _)
  · cases afterSeen
    cases enqueued

variable [Rfc3339]

/-- Whether a wait goes by its task after a look is what the row says. -/
theorem waitsForTask_poll_iff (begun : outcome (seekContent answers cacheDir ino fh) world = .ok sought)
    (enqueued : sought.download = some task) (state : Waited) (poll : Poll)
    (waits : WaitsForTask answers cacheDir ino fh offset size timeoutMs taskId sought world state) :
    WaitsForTask answers cacheDir ino fh offset size timeoutMs taskId sought world
        (state.poll sought.details.id sought.details.accountId timeoutMs poll) ↔
      RowFitsTask timeoutMs taskId sought state poll := by
  rw [waitsForTask_iff begun enqueued, RowFitsTask, Waited.poll]
  cases ended : state.answer with
  | some waited =>
      dsimp only
      rw [ended]
      have before := (waitsForTask_iff begun enqueued state).mp waits
      rw [ended] at before
      exact iff_of_true before fun impossible => by cases impossible
  | none =>
      dsimp only
      rw [outcome_polled]
      cases runs : poll.runs with
      | false =>
          refine iff_of_true ?_ fun _ impossible => by cases impossible
          exact ⟨fun impossible => (by cases impossible), fun impossible => (by cases impossible),
            fun impossible => (by cases impossible)⟩
      | true =>
          rw [if_pos rfl]
          cases rowSays sought.details.id sought.details.accountId (poll.met state.system).world.db with
          | some downloaded =>
              cases downloaded with
              | true =>
                  constructor
                  · exact fun fits _ _ => fits.1 rfl
                  · intro fits
                    exact ⟨fun _ => fits rfl rfl, fun impossible => (by cases impossible), fun impossible =>
                      (by cases impossible)⟩
              | false =>
                  constructor
                  · exact fun fits _ _ => fits.2.1 rfl
                  · intro fits
                    exact ⟨fun impossible => (by cases impossible), fun _ => fits rfl rfl, fun impossible =>
                      (by cases impossible)⟩
          | none =>
              dsimp only
              by_cases late : timeoutMs ≤ poll.elapsed
              · rw [if_pos late]
                refine iff_of_true ?_ fun _ _ => Or.inl late
                exact ⟨fun impossible => (by cases impossible), fun _ => Or.inr late, fun impossible =>
                  (by cases impossible)⟩
              · rw [if_neg late]
                constructor
                · exact fun fits _ _ => Or.inr (fits.2.2 rfl)
                · intro fits
                  exact ⟨fun impossible => (by cases impossible), fun impossible => (by cases impossible),
                    fun _ => (fits rfl rfl).resolve_left late⟩

/-- A read that has enqueued a download waits for it, and replies with it or with an error for it, at
every look exactly if every look that it takes finds a row that says what the task does. -/
theorem read_waits_iff (begun : outcome (seekContent answers cacheDir ino fh) world = .ok sought)
    (enqueued : sought.download = some task) (numbered : task.id = some taskId) (engine : EngineState)
    (polls : List Poll) :
    Throughout (Waited.poll sought.details.id sought.details.accountId downloadTimeoutMs)
        (WaitsForTask answers cacheDir ino fh offset size downloadTimeoutMs taskId sought world) polls
        ⟨⟨final (seekContent answers cacheDir ino fh) world, engine⟩, 0, none⟩ ↔
      Along (Waited.poll sought.details.id sought.details.accountId downloadTimeoutMs)
        (RowFitsTask downloadTimeoutMs taskId sought) polls
        ⟨⟨final (seekContent answers cacheDir ino fh) world, engine⟩, 0, none⟩ := by
  refine @throughout_iff_along _ _ (Waited.poll _ _ downloadTimeoutMs) (RowFitsTask downloadTimeoutMs taskId sought)
    (fun _ => True) _ (fun _ _ _ => trivial) (fun state poll _ waits => ?_) _ trivial ?_ polls
  · exact waitsForTask_poll_iff begun enqueued state poll waits
  · refine (waitsForTask_iff begun enqueued _).mpr ⟨fun impossible => ?_, fun impossible => ?_, fun _ => ?_⟩
    · cases impossible
    · cases impossible
    · have pending := pending_of_seekContent begun enqueued numbered
      rw [taskStatus, pending]
      exact fun impossible => by cases impossible

end Waits

/-! ## Reads of the notes -/

/-- Ann's notes are known and open, and not there. -/
def opensNotes : List Operation := [
  .sync (.connect true ⟨"ann@example.com", "ann@example.com", 0⟩),
  .sync (.listed true "ann@example.com" (Api.DriveFile.named "notes" "notes.txt")),
  .vfs "/cache" (CallbackAnswers.allRun 5 1) (.openFile 1)]

/-- The notes have been placed and set offline, are open, and not there. -/
def opensOfflineNotes : List Operation :=
  setsPlacedOffline ++ [.vfs "/cache" (CallbackAnswers.allRun 8 1) (.openFile 1)]

/-- The read of the notes seeks their content. -/
def seekNotes : Routine Errno World Sought :=
  seekContent (CallbackAnswers.allRun 10 1) "/cache" 1 1

/-- The server refuses the content of the notes. -/
def refusesNotes : Operation :=
  .engine (.begin true { downloading ⟨[], 0⟩ with
    download := { DownloadAnswers.allRun ⟨[], 0⟩ 20 with
      fetched := ⟨none, some "503 Service Unavailable", fun impossible => by cases impossible⟩ } })

/-- The content that the read seeks after these operations is waited for at these looks. -/
def NotesWaited (operations : List Operation) (taskId : Nat) (polls : List Poll) (sought : Sought) : Prop :=
  Throughout (@Waited.poll untimed sought.details.id sought.details.accountId downloadTimeoutMs)
    (@WaitsForTask (CallbackAnswers.allRun 10 1) "/cache" 1 1 0 4096 downloadTimeoutMs taskId sought
      (run (@System.exec untimed) operations System.initial).world) polls
    ⟨⟨final seekNotes (run (@System.exec untimed) operations System.initial).world, .idle⟩, 0, none⟩

theorem read_waits_iff_of_downloaded :
    ∃ sought, outcome seekNotes (run (@System.exec untimed) opensNotes System.initial).world = .ok sought ∧
      NotesWaited opensNotes 1 [⟨[], true, 100⟩,
        ⟨[.engine (.begin true (downloading ⟨[1], 10⟩)), .engine (.land (downloading ⟨[1], 10⟩).download),
          .engine (.record (downloading ⟨[1], 10⟩).download)], true, 200⟩] sought := by
  refine ⟨_, rfl, (@read_waits_iff (CallbackAnswers.allRun 10 1) "/cache" 1 1 0 4096 1 _ _ _ untimed rfl rfl rfl .idle
    _).mpr ⟨fun _ _ => Or.inr ?_, fun _ _ => ?_, trivial⟩⟩
  · decide
  · exact ⟨by decide, by decide⟩

/-- A wait for notes that are set offline ends at once, with nothing downloaded, and a wait for notes
that the server refuses goes on after the last attempt. -/
theorem waits_go_by_row :
    (∃ sought, outcome seekNotes (run (@System.exec untimed) opensOfflineNotes System.initial).world = .ok sought ∧
        ¬ NotesWaited opensOfflineNotes 2 [⟨[], true, 0⟩] sought) ∧
      ∃ sought, outcome seekNotes (run (@System.exec untimed) opensNotes System.initial).world = .ok sought ∧
        ¬ NotesWaited opensNotes 1 [⟨List.replicate 4 refusesNotes, true, 100⟩] sought := by
  constructor
  · refine ⟨_, rfl, fun waits => ?_⟩
    have completed := (waits.2.arrived rfl).1
    revert completed
    decide
  · refine ⟨_, rfl, fun waits => waits.2.waits rfl ?_⟩
    decide

/-! ## Rows in error -/

/-- No row is in the state of an error. -/
def NoErrorRow (db : Database) : Prop :=
  ∀ file, db.Holds file → file.syncState ≠ .error

section Errors

variable [Rfc3339] {system : System} {file : Db.DriveFile}

theorem ne_error_of_sync {work : SyncWork} (clean : NoErrorRow system.world.db)
    (stores : Stores system (.sync work) file) : file.syncState ≠ .error := by
  cases work with
  | connect runs account => cases stores
  | disconnect runs accountId => cases stores
  | storeToken runs now accountId token => cases stores
  | listed runs accountId apiFile =>
      rw [stores.2]
      exact fun impossible => by cases impossible
  | change answers accountId reported syncMode mountPoint =>
      rcases stores with ⟨write, asked, _, acted⟩
      cases write with
      | trash fileId owner =>
          rcases Option.map_eq_some_iff.mp acted with ⟨row, held, same⟩
          rw [← same]
          exact clean row (Database.holds_of_file held).1
      | store stored =>
          rcases Metadata.of_changeWrite_store asked with ⟨apiFile, _, same⟩
          rw [← Option.some.inj acted, same]
          exact fun impossible => by cases impossible
  | mirror answers accountId mountPoint =>
      rcases stores with ⟨placement, placed, same⟩
      rw [same]
      exact clean placement.file (Database.holds_of_file (stored_of_mem_placements placed)).1
  | resetMirror runs accountId =>
      rcases stores.2 with ⟨row, _, same⟩
      rw [same]
      exact fun impossible => by cases impossible

theorem ne_error_of_rpc {ctx : Ipc.RouterContext} {answers : Ipc.RpcAnswers} {request : Rpc}
    (clean : NoErrorRow system.world.db) (stores : Stores system (.rpc ctx answers request) file) :
    file.syncState ≠ .error := by
  cases request with
  | setOffline about enabled =>
      rcases stores.2 with ⟨row, enable, _, _, same⟩
      rw [same]
      cases enable with
      | false => exact fun impossible => by cases impossible
      | true => exact fun impossible => by cases impossible
  | clearCache =>
      rcases stores.2 with ⟨row, held, offline, live, same⟩
      rw [same]
      exact fun impossible => by cases impossible
  | fetchContents about => cases stores
  | createItem name isFolder localPath =>
      rcases stores with ⟨accountId, newName, _, _, _, same⟩
      rw [same]
      split
      · exact fun impossible => by cases impossible
      · exact fun impossible => by cases impossible
  | modifyItem about newName localPath =>
      rcases stores with ⟨row, found, ⟨_, same⟩ | ⟨target, _, _, _, same⟩⟩
      · rw [same]
        cases newName with
        | none => exact clean row (of_requestedRow found).1
        | some newName => exact clean row (of_requestedRow found).1
      · rw [same]
        exact fun impossible => by cases impossible
  | deleteItem about =>
      rcases stores with ⟨row, found, same⟩
      rw [same]
      exact clean row (of_requestedRow found).1

theorem ne_error_of_vfs {cacheDir : String} {answers : CallbackAnswers} {callback : Callback}
    (clean : NoErrorRow system.world.db) (stores : Stores system (.vfs cacheDir answers callback) file) :
    file.syncState ≠ .error := by
  cases callback with
  | create parent name =>
      rcases stores with ⟨owner, newName, _, _, _, same⟩
      rw [same]
      exact fun impossible => by cases impossible
  | mkdir parent name =>
      rcases stores with ⟨owner, newName, _, _, _, same⟩
      rw [same]
      exact fun impossible => by cases impossible
  | write ino fh offset data written =>
      rcases stores with ⟨row, _, size, modifiedTime, same⟩
      rw [same]
      exact fun impossible => by cases impossible
  | unlink parent name =>
      rcases stores with ⟨row, held, same⟩
      rw [same]
      exact clean row held
  | rmdir parent name =>
      rcases stores with ⟨row, held, same⟩
      rw [same]
      exact clean row held
  | rename parent name newParent newName =>
      rcases stores with ⟨row, _, now, toName, newParentId, same⟩
      rw [same]
      exact fun impossible => by cases impossible
  | openFile ino => cases stores
  | read ino fh => cases stores
  | flush ino fh => cases stores
  | fsync ino fh => cases stores
  | release fh => cases stores

theorem ne_error_of_engine {step : EngineStep} (clean : NoErrorRow system.world.db)
    (stores : Stores system (.engine step) file) : file.syncState ≠ .error := by
  cases step with
  | begin picks answers =>
      rcases stores with ⟨_, _, task, _, _, ⟨_, ⟨apiFile, _, same⟩ | conflicts⟩ | ⟨_, row, held, same⟩⟩
      · rw [same]
        exact fun impossible => by cases impossible
      · rcases conflicts with ⟨fileId, localPath, conflict, _, _, _, ⟨apiFile, _, same⟩ | ⟨_, _, content, same⟩⟩
        · rw [same]
          exact fun impossible => by cases impossible
        · rw [same]
          exact fun impossible => by cases impossible
      · rw [same]
        exact clean row held
  | record answers =>
      rcases stores with ⟨download, row, _, _, _, same⟩
      rw [same]
      exact fun impossible => by cases impossible
  | recordDelete answers =>
      rcases stores with ⟨delete, row, _, _, _, same⟩
      rw [same]
      exact fun impossible => by cases impossible
  | land answers => cases stores
  | removeCopy answers => cases stores
  | restart => cases stores

/-- No operation puts a row in error. -/
theorem noErrorRow_exec (operation : Operation) (clean : NoErrorRow system.world.db) :
    NoErrorRow (system.exec operation).world.db := by
  intro file held
  rcases rowsFrom_exec system operation file.id file.accountId file held with before | stores
  · exact clean file before
  · cases operation with
    | sync work => exact ne_error_of_sync clean stores
    | rpc ctx answers request => exact ne_error_of_rpc clean stores
    | vfs cacheDir answers callback => exact ne_error_of_vfs clean stores
    | engine step => exact ne_error_of_engine clean stores
    | event path isDir kind folders now runs => cases stores
    | user path content => cases stores

/-- From the first start on no row is ever in error. -/
theorem noErrorRow_throughout (operations : List Operation) :
    Throughout System.exec (fun system => NoErrorRow system.world.db) operations System.initial := by
  have nothing : NoErrorRow System.initial.world.db := by
    intro file held _
    cases held
  exact @throughout_of_along _ _ System.exec (fun _ _ => True) _
    (fun _ operation _ clean => noErrorRow_exec operation clean)
    _ _ (along_true operations System.initial) nothing

omit [Rfc3339] in
theorem rowSays_ne_false {fileId accountId : String} {db : Database} (clean : NoErrorRow db) :
    rowSays fileId accountId db ≠ some false := by
  rw [rowSays]
  cases found : db.file fileId accountId with
  | none => exact fun impossible => by cases impossible
  | some row =>
      have other := clean row (Database.holds_of_file found).1
      rw [Option.map_some]
      cases state : row.syncState with
      | error => exact absurd state other
      | cloudOnly => exact fun impossible => by cases impossible
      | downloading => exact fun impossible => by cases impossible
      | uploading => exact fun impossible => by cases impossible
      | cached => exact fun impossible => by cases impossible
      | offline => exact fun impossible => by cases impossible
      | modified => exact fun impossible => by cases impossible
      | synced => exact fun impossible => by cases impossible

/-- Where no row is in error, a wait ends with a no only when the time is up. -/
theorem late_of_refused {fileId accountId : String} {timeoutMs : Nat} {polls : List Poll}
    (clean : NoErrorRow system.world.db)
    (refused : (waitForDownload fileId accountId timeoutMs polls system).answer = some (.ok false)) :
    timeoutMs ≤ (waitForDownload fileId accountId timeoutMs polls system).elapsed := by
  have preserved (state : Waited) (poll : Poll)
      (before : NoErrorRow state.system.world.db ∧ (state.answer = some (.ok false) → timeoutMs ≤ state.elapsed)) :
      NoErrorRow (state.poll fileId accountId timeoutMs poll).system.world.db ∧
        ((state.poll fileId accountId timeoutMs poll).answer = some (.ok false) →
          timeoutMs ≤ (state.poll fileId accountId timeoutMs poll).elapsed) := by
    rw [Waited.poll]
    cases ended : state.answer with
    | some waited => exact before
    | none =>
        have met : NoErrorRow (poll.met state.system).world.db :=
          @run_preserves _ _ System.exec (fun system => NoErrorRow system.world.db)
            (fun _ operation clean => noErrorRow_exec operation clean) _ before.1 poll.meanwhile
        refine ⟨met, fun refused => ?_⟩
        dsimp only at refused
        rw [outcome_polled] at refused
        cases runs : poll.runs with
        | false =>
            rw [runs] at refused
            cases refused
        | true =>
            rw [runs, if_pos rfl] at refused
            cases told : rowSays fileId accountId (poll.met state.system).world.db with
            | some downloaded =>
                rw [told] at refused
                cases refused
                exact absurd told (rowSays_ne_false met)
            | none =>
                rw [told] at refused
                dsimp only at refused
                split at refused
                · next late => exact late
                · cases refused
  have started : NoErrorRow system.world.db ∧ ((none : Option (Except String Bool)) = some (.ok false) →
      timeoutMs ≤ 0) :=
    ⟨clean, fun impossible => (by cases impossible)⟩
  have whole := @run_preserves _ _ (Waited.poll fileId accountId timeoutMs) _ preserved ⟨system, 0, none⟩ started polls
  exact whole.2 refused

/-- From the first start on, a wait ends with a no only when the time is up, whatever becomes of the
task before. -/
theorem refused_only_late (operations : List Operation) {fileId accountId : String} {timeoutMs : Nat}
    {polls : List Poll}
    (refused : (waitForDownload fileId accountId timeoutMs polls (run System.exec operations System.initial)).answer =
      some (.ok false)) :
    timeoutMs ≤ (waitForDownload fileId accountId timeoutMs polls
      (run System.exec operations System.initial)).elapsed :=
  late_of_refused (noErrorRow_throughout operations).last refused

end Errors

end Local
end GDriver
