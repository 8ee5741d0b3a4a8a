import GDriver.Accounts.Tasks
import GDriver.Local.Restores
import GDriver.Local.Owners
import GDriver.Moves.Stored

namespace GDriver
namespace Mirror

open Library Routine Db Api Sync Local Accounts

/-!
# From Mirror to Stream

The switch resets the rows of all accounts in one statement each, and the queue goes on as it
was.  A download that the mirror has asked for is still carried out, and makes its row cached
again.  The reset asks a row for its path only, so it takes the pin of a pinned file as well.
-/

/-- The path is inside an enabled sync folder of the account. -/
def InSyncFolder (folders : List SyncFolder) (accountId path : String) : Prop :=
  ∃ folder ∈ folders, folder.isEnabled = true ∧ folder.accountId = accountId ∧
    Watcher.isInside folder.localPath path = true

/-- The file is pinned for offline access. -/
structure IsPinned (file : Db.DriveFile) : Prop where
  live : file.isTrashed = false
  offline : file.syncState = .offline

instance (file : Db.DriveFile) : Decidable (IsPinned file) :=
  decidable_of_iff (file.isTrashed = false ∧ file.syncState = .offline)
    ⟨fun both => ⟨both.1, both.2⟩, fun pinned => ⟨pinned.live, pinned.offline⟩⟩

/-- Rows are in the cloud only unless they are pinned or inside a sync folder, and every file
that was pinned before the switch is pinned still, with its path, or in the trash. -/
structure StreamSettled (origin db : Database) : Prop where
  released : ∀ file, db.Holds file → file.isFolder = false → file.isTrashed = false → file.syncState ≠ .offline →
    (∀ path, file.localPath = some path → ¬ InSyncFolder origin.syncFolders.records file.accountId path) →
    file.syncState = .cloudOnly ∧ file.localPath = none
  pinned : ∀ row, origin.Holds row → IsPinned row → ∃ later, db.file row.id row.accountId = some later ∧
    (later.isTrashed = true ∨ later.syncState = .offline ∧ later.localPath = row.localPath)

/-- The reset of every account. -/
def resets (db : Database) : List Operation :=
  db.accounts.records.map fun account => .sync (.resetMirror true account.id)

/-- An operation, or a new configuration of the sync folders. -/
inductive SwitchStep where
  | whole (operation : Operation)
  | configure (folders : KeyedTable SyncFolder.key)

def SwitchStep.exec [Rfc3339] (system : System) : SwitchStep → System
  | .whole operation => system.exec operation
  | .configure folders => system.onDb { system.world.db with syncFolders := folders }

/-- The state after the switch. -/
def afterSwitch [Rfc3339] (system : System) : System :=
  run System.exec (resets system.world.db) system

/-- No pinned file has a path that the reset would take, and no other file is waiting for
something without a path. -/
structure ReadyForStream (db : Database) : Prop where
  pins : ∀ row, db.Holds row → IsPinned row → row.isFolder = true ∨ row.localPath = none
  bare : ∀ row, db.Holds row → row.isFolder = false → row.isTrashed = false → row.localPath = none →
    row.syncState = .cloudOnly ∨ row.syncState = .offline

/-- The steps that drain the queue: those of the engine and the writes of the polls. -/
def Drains : Operation → Prop
  | .engine _ => True
  | .sync (.change ..) => True
  | .sync (.storeToken ..) => True
  | _ => False

/-- A step that drains the queue deletes no row. -/
theorem Drains.stays {operation : Operation} (drains : Drains operation) (accountId : String) :
    operation ≠ .sync (.disconnect true accountId) := by
  intro same
  rw [same] at drains
  cases drains

/-! ## The reset -/

/-- The row after the reset of some accounts. -/
def resetBy (accounts : List Account) (file : Db.DriveFile) : Db.DriveFile :=
  if accounts.any (fun account => leavesMirror account.id file) then unmirrored file else file

theorem not_leavesMirror_unmirrored (accountId : String) (file : Db.DriveFile) :
    leavesMirror accountId (unmirrored file) = false := by
  rw [leavesMirror]
  exact Bool.and_false _

theorem resetBy_cons (account : Account) (rest : List Account) (file : Db.DriveFile) :
    resetBy (account :: rest) file =
      resetBy rest (if leavesMirror account.id file then unmirrored file else file) := by
  rw [resetBy, List.any_cons]
  cases leaves : leavesMirror account.id file with
  | false => rfl
  | true =>
      have stays : rest.any (fun account => leavesMirror account.id (unmirrored file)) = false := by
        rw [List.any_eq_false]
        intro other _
        rw [not_leavesMirror_unmirrored]
        exact Bool.false_ne_true
      rw [if_pos rfl, Bool.true_or, if_pos rfl, resetBy, if_neg (by rw [stays]; exact Bool.false_ne_true)]

/-- The account of an owned row is among the accounts. -/
theorem exists_account {db : Database} (owned : RowsOwned db) {row : Db.DriveFile} (held : db.Holds row) :
    ∃ account ∈ db.accounts.records, account.id = row.accountId := by
  rcases Option.map_eq_some_iff.mp held with ⟨stored, there, same⟩
  have member := ((KeyedTable.lookupRow_eq_some_iff _ _ stored).mp there).1
  have known := owned stored member
  rw [same, Database.hasAccount] at known
  rcases Option.isSome_iff_exists.mp known with ⟨account, found⟩
  exact ⟨account, ((KeyedTable.lookup_eq_some_iff _ _ _).mp found).1, KeyedTable.key_of_lookup found⟩

section Draining

variable [Rfc3339]

/-- The step drains the queue, gives a path to no row outside the sync folders, and stores the row
of a pinned file only to put it into the trash. -/
structure LeavesSettled (origin : Database) (system : System) (operation : Operation) : Prop where
  drains : Drains operation
  outside : ∀ key path, Local.Gives system operation key path → InSyncFolder origin.syncFolders.records key.2 path
  pins : ∀ file, Stores system operation file → ∀ row, origin.Holds row → IsPinned row → file.key = row.key →
    file.isTrashed = true

/-- What the resets leave of the row of a file. -/
theorem file_resets (accounts : List Account) (system : System) (fileId accountId : String) :
    (run System.exec (accounts.map fun account => .sync (.resetMirror true account.id)) system).world.db.file
        fileId accountId =
      (system.world.db.file fileId accountId).map (resetBy accounts) := by
  induction accounts generalizing system with
  | nil =>
      have same : resetBy [] = id := rfl
      rw [same, Option.map_id]
      rfl
  | cons account rest inductionHypothesis =>
      rw [List.map_cons, run_cons, inductionHypothesis]
      have reset : (system.exec (.sync (.resetMirror true account.id))).world.db =
          system.world.db.updateFiles (fun row => leavesMirror account.id row.data) unmirrored key_unmirrored := by
        change final (resetMirrorToStream true account.id) system.world.db = _
        rw [resetMirrorToStream, final_execute, if_pos rfl]
      rw [reset, Database.file_updateFiles, Option.map_map, Database.file, KeyedTable.lookup, Option.map_map]
      congr 1
      funext row
      rw [Function.comp, Function.comp, resetBy_cons]

theorem holds_afterSwitch {system : System} {file : Db.DriveFile} (held : (afterSwitch system).world.db.Holds file) :
    ∃ row, system.world.db.Holds row ∧ file = resetBy system.world.db.accounts.records row := by
  rw [Database.Holds, afterSwitch, resets, file_resets] at held
  rcases Option.map_eq_some_iff.mp held with ⟨row, found, same⟩
  exact ⟨row, (Database.holds_of_file found).1, same.symm⟩

/-- Right after the switch everything is settled. -/
theorem settled_afterSwitch {system : System} (owned : RowsOwned system.world.db)
    (ready : ReadyForStream system.world.db) :
    StreamSettled system.world.db (afterSwitch system).world.db := by
  constructor
  · intro file held regular live unpinned _
    rcases holds_afterSwitch held with ⟨row, before, same⟩
    rw [resetBy] at same
    split at same
    · rw [same]
      exact ⟨rfl, rfl⟩
    · next stays =>
        rw [same] at regular live unpinned ⊢
        rcases exists_account owned before with ⟨account, member, its⟩
        have path : row.localPath = none := by
          rw [← Option.not_isSome_iff_eq_none]
          intro placed
          apply stays
          refine List.any_eq_true.mpr ⟨account, member, ?_⟩
          rw [leavesMirror, its, live, regular, placed, decide_eq_true rfl]
          rfl
        exact ⟨(ready.bare row before regular live path).resolve_right unpinned, path⟩
  · intro row held pin
    have kept : resetBy system.world.db.accounts.records row = row := by
      rw [resetBy, if_neg]
      rw [List.any_eq_true]
      rintro ⟨account, _, leaves⟩
      rw [leavesMirror, Bool.and_eq_true, Bool.and_eq_true] at leaves
      rcases ready.pins row held pin with folder | bare
      · rw [folder] at leaves
        exact Bool.false_ne_true leaves.1.2
      · rw [bare] at leaves
        exact Bool.false_ne_true leaves.2
    refine ⟨row, ?_, Or.inr ⟨pin.offline, rfl⟩⟩
    rw [afterSwitch, resets, file_resets, held, Option.map_some, kept]

/-! ## The drain -/

/-- Where nothing is pinned, a step that drains the queue need only give its paths inside the sync
folders. -/
theorem leavesSettled_of_unpinned {origin : Database} {system : System} {operation : Operation}
    (unpinned : ∀ row, origin.Holds row → ¬ IsPinned row) (drains : Drains operation)
    (outside : ∀ key path, Local.Gives system operation key path → InSyncFolder origin.syncFolders.records key.2 path) :
    LeavesSettled origin system operation :=
  ⟨drains, outside, fun _ _ row held pin => absurd pin (unpinned row held)⟩

/-- A row that is stored while the queue is drained is in the trash or in the cloud only, or has
been given its path. -/
theorem stored_of_drains {system : System} {operation : Operation} {file : Db.DriveFile} (drains : Drains operation)
    (stores : Stores system operation file) :
    file.isTrashed = true ∨ (file.syncState = .cloudOnly ∧ file.localPath = none) ∨
      ∃ path, file.localPath = some path ∧ Local.Gives system operation file.key path := by
  cases live : file.isTrashed with
  | true => exact Or.inl rfl
  | false =>
      refine Or.inr ?_
      cases operation with
      | engine step =>
          cases step with
          | begin picks answers =>
              rcases stores with ⟨picked, idle, task, next, client, uploads | deletes⟩
              · rcases uploads with ⟨asks, ⟨apiFile, _, same⟩ | conflicts⟩
                · rw [same]
                  exact Or.inl ⟨rfl, rfl⟩
                · rcases conflicts with ⟨fileId, localPath, conflict, about, target, found,
                    ⟨apiFile, _, same⟩ | ⟨landed, executed, content, same⟩⟩
                  · rw [same]
                    exact Or.inl ⟨rfl, rfl⟩
                  · rw [same] at live ⊢
                    exact Or.inr ⟨localPath, rfl, picked, idle, client, task, fileId, conflict, next, asks, about,
                      target, found, landed, executed, rfl, live⟩
              · rcases deletes.2 with ⟨row, _, same⟩
                rw [same] at live
                cases live
          | record answers =>
              rcases stores with ⟨download, row, engine, held, executed, same⟩
              rw [same] at live ⊢
              exact Or.inr ⟨download.localPath, rfl, download, row, engine, held, rfl, live, executed, rfl⟩
          | recordDelete answers =>
              rcases stores with ⟨delete, row, _, _, _, same⟩
              rw [same]
              exact Or.inl ⟨rfl, rfl⟩
          | land answers => cases stores
          | removeCopy answers => cases stores
          | restart => cases stores
      | sync work =>
          cases work with
          | change answers accountId reported syncMode mountPoint =>
              rcases stored_of_change syncMode mountPoint stores with trashed | released
              · rw [live] at trashed
                cases trashed
              · exact Or.inl released
          | storeToken runs now accountId token => cases stores
          | _ => cases drains
      | _ => cases drains

/-- What is settled stays settled. -/
theorem StreamSettled.exec {origin : Database} {system : System} {operation : Operation}
    (leaves : LeavesSettled origin system operation) (settled : StreamSettled origin system.world.db) :
    StreamSettled origin (system.exec operation).world.db := by
  constructor
  · intro file held regular live unpinned outside
    rcases rowsFrom_exec system operation _ _ file held with before | stores
    · exact settled.released file before regular live unpinned outside
    · rcases stored_of_drains leaves.drains stores with trashed | released | ⟨path, placed, gives⟩
      · rw [live] at trashed
        cases trashed
      · exact released
      · exact absurd (leaves.outside file.key path gives) (outside path placed)
  · intro row held pin
    rcases settled.pinned row held pin with ⟨before, found, keeps⟩
    have present : (system.world.db.file row.id row.accountId).isSome = true := by
      rw [found]
      rfl
    rcases Option.isSome_iff_exists.mp (keepsRow_exec (leaves.drains.stays row.accountId) present) with ⟨after, reached⟩
    refine ⟨after, reached, ?_⟩
    rcases rowsFrom_exec system operation _ _ after reached with same | stores
    · cases found.symm.trans same
      exact keeps
    · have key := (Database.holds_of_file reached).2
      exact Or.inl (leaves.pins after stores row held pin (Prod.ext key.1 key.2))

theorem rowsOwned_run (steps : List SwitchStep) : RowsOwned (run SwitchStep.exec steps System.initial).world.db := by
  have initially : RowsOwned System.initial.world.db := by
    intro row member
    cases member
  have keeps (system : System) (step : SwitchStep) (owned : RowsOwned system.world.db) :
      RowsOwned (step.exec system).world.db := by
    cases step with
    | whole operation => exact rowsOwned_exec owned (.whole operation)
    | configure folders => exact owned
  exact run_preserves keeps initially steps

/-- After any run and a switch to Stream everything is settled, and stays so while the queue is
drained, as long as no pinned file had a path, no row was waiting without one, no download or
resolved conflict is recorded outside the sync folders, and no row of a pinned file is stored. -/
theorem switch_settles {before : List SwitchStep} {drain : List Operation}
    (ready : ReadyForStream (run SwitchStep.exec before System.initial).world.db)
    (leaves : Along System.exec (LeavesSettled (run SwitchStep.exec before System.initial).world.db) drain
      (afterSwitch (run SwitchStep.exec before System.initial))) :
    Throughout System.exec
      (fun system => StreamSettled (run SwitchStep.exec before System.initial).world.db system.world.db) drain
      (afterSwitch (run SwitchStep.exec before System.initial)) := by
  have keeps (system : System) (operation : Operation)
      (leaves : LeavesSettled (run SwitchStep.exec before System.initial).world.db system operation)
      (settled : StreamSettled (run SwitchStep.exec before System.initial).world.db system.world.db) :
      StreamSettled (run SwitchStep.exec before System.initial).world.db (system.exec operation).world.db :=
    settled.exec leaves
  exact @throughout_of_along _ _ System.exec _ (fun system => StreamSettled _ system.world.db) keeps _ _ leaves
    (settled_afterSwitch (rowsOwned_run before) ready)

end Draining

/-- The folder `/mnt` of ann@example.com is synced. -/
def mountFolders : KeyedTable SyncFolder.key :=
  KeyedTable.empty.upsert ⟨"ann@example.com", "/mnt", "drive", true⟩

/-- The mirror has asked for the notes, and the engine has not begun. -/
def awaitedNotes : List SwitchStep :=
  (mirroredNotes.take 3).map SwitchStep.whole

/-- The mirror has asked for the notes, and their folder is synced. -/
def notesInFolder : List SwitchStep :=
  awaitedNotes ++ [.configure mountFolders]

/-- The state in which the notes in the synced folder have been asked for. -/
def awaitedInFolder : System :=
  run (@SwitchStep.exec untimed) notesInFolder System.initial

/-- The engine downloads the notes. -/
def downloadsNotes : List Operation :=
  mirroredNotes.drop 3

/-- The state after the switch and some steps of the download. -/
def downloadingNotes (steps : Nat) : System :=
  run (@System.exec untimed) (downloadsNotes.take steps) (@afterSwitch untimed awaitedInFolder)

theorem of_awaitedInFolder {row : Db.DriveFile} (held : awaitedInFolder.world.db.Holds row) :
    row.syncState = .cloudOnly ∧ ¬ IsPinned row := by
  have all : ∀ row ∈ awaitedInFolder.world.db.driveFiles.records, row.syncState = .cloudOnly ∧ ¬ IsPinned row := by
    decide
  exact all row ((KeyedTable.mem_records_iff _ row).mpr held)

theorem readyForStream_awaitedInFolder : ReadyForStream awaitedInFolder.world.db where
  pins _ held pin := absurd pin (of_awaitedInFolder held).2
  bare _ held _ _ _ := Or.inl (of_awaitedInFolder held).1

/-- A task that is no upload gives no path when it begins. -/
theorem not_gives_beginsLater {key : String × String} {path : String} :
    ¬ Local.Gives (downloadingNotes 0) beginsLater key path := by
  rintro ⟨_, _, _, task, _, _, next, uploads, _⟩
  have downloads : (downloadingNotes 0).world.db.nextPending.map SyncTask.operation = some .download := by
    decide
  rw [next, Option.map_some, uploads] at downloads
  cases downloads

/-- The path of a file that has been renamed into place. -/
def landedPath : EngineState → Option String
  | .landed download => some download.localPath
  | _ => none

/-- The download is recorded inside the folder. -/
theorem gives_record {answers : DownloadAnswers} {key : String × String} {path : String}
    (gives : Local.Gives (downloadingNotes 2) (.engine (.record answers)) key path) :
    InSyncFolder awaitedInFolder.world.db.syncFolders.records key.2 path := by
  rcases gives with ⟨download, row, landed, found, same, _, _, there⟩
  have held : (heldRow (downloadingNotes 2).engine).map Db.DriveFile.accountId = some "ann@example.com" := by
    decide
  have placed : landedPath (downloadingNotes 2).engine = some "/mnt/notes.txt" := by
    decide
  rw [landed, heldRow, found] at held
  rw [landed, landedPath, there] at placed
  cases placed
  refine ⟨⟨"ann@example.com", "/mnt", "drive", true⟩, ?_, rfl, ?_, ?_⟩
  · decide
  · rw [← same]
    exact (Option.some.inj held).symm
  · decide

theorem leavesSettled_downloadsNotes :
    Along (@System.exec untimed) (@LeavesSettled untimed awaitedInFolder.world.db) downloadsNotes
      (@afterSwitch untimed awaitedInFolder) := by
  have unpinned (row : Db.DriveFile) (held : awaitedInFolder.world.db.Holds row) : ¬ IsPinned row :=
    (of_awaitedInFolder held).2
  exact ⟨@leavesSettled_of_unpinned untimed _ _ _ unpinned trivial fun _ _ gives => (not_gives_beginsLater gives).elim,
    @leavesSettled_of_unpinned untimed _ _ _ unpinned trivial fun _ _ gives => gives.elim,
    @leavesSettled_of_unpinned untimed _ _ _ unpinned trivial fun _ _ gives => gives_record gives, trivial⟩

theorem switch_settles_of_folder :
    Throughout (@System.exec untimed)
      (fun system => StreamSettled awaitedInFolder.world.db system.world.db) downloadsNotes
      (@afterSwitch untimed awaitedInFolder) :=
  @switch_settles untimed notesInFolder downloadsNotes readyForStream_awaitedInFolder leavesSettled_downloadsNotes

/-- The notes are mirrored, and the user pins them. -/
def pinnedNotes : List SwitchStep :=
  mirroredNotes.map SwitchStep.whole ++ [.whole (.rpc ⟨"/mnt", none, "/cache"⟩ (Ipc.RpcAnswers.allRun 15 1)
    (.setOffline (some "/mnt/notes.txt") (some true)))]

/-- The switch after these steps, and the drain of the queue. -/
def drained (before : List SwitchStep) (drain : List Operation) : System :=
  run (@System.exec untimed) drain (@afterSwitch untimed (run (@SwitchStep.exec untimed) before System.initial))

/-- A download that is pending at the switch makes its row cached again, and a pinned file that
has been downloaded is released. -/
theorem switch_unsettled :
    ((drained awaitedNotes downloadsNotes).world.db.nextPending = none ∧
        ¬ StreamSettled (run (@SwitchStep.exec untimed) awaitedNotes System.initial).world.db
          (drained awaitedNotes downloadsNotes).world.db) ∧
      (drained pinnedNotes []).world.db.nextPending = none ∧
        ¬ StreamSettled (run (@SwitchStep.exec untimed) pinnedNotes System.initial).world.db
          (drained pinnedNotes []).world.db := by
  refine ⟨⟨by decide, ?_⟩, by decide, ?_⟩
  · intro settled
    have cached : (drained awaitedNotes downloadsNotes).world.db.file "notes" "ann@example.com" = some notesRow := by
      decide
    have bare : (run (@SwitchStep.exec untimed) awaitedNotes System.initial).world.db.syncFolders.records = [] := by
      decide
    have outside (path : String) (_ : notesRow.localPath = some path) :
        ¬ InSyncFolder (run (@SwitchStep.exec untimed) awaitedNotes System.initial).world.db.syncFolders.records
          notesRow.accountId path := by
      rintro ⟨folder, member, _⟩
      rw [bare] at member
      cases member
    have released := settled.released notesRow cached rfl rfl (by decide) outside
    revert released
    decide
  · intro settled
    have pinned : (run (@SwitchStep.exec untimed) pinnedNotes System.initial).world.db.file "notes" "ann@example.com" =
        some { notesRow with syncState := .offline } := by
      decide
    rcases settled.pinned { notesRow with syncState := .offline } pinned ⟨rfl, rfl⟩ with ⟨later, found, keeps⟩
    have reset : (drained pinnedNotes []).world.db.file "notes" "ann@example.com" = some (unmirrored notesRow) := by
      decide
    cases reset.symm.trans found
    revert keeps
    decide

end Mirror
end GDriver
