import GDriver.Local.Restores

namespace GDriver
namespace Local

open Library Routine Db Api Sync

/-!
# Losses that Drive reports

Drive reports the loss of a file in one of two ways.  A removal trashes the row and enqueues a
task that looks the row up, removes its local copy and clears its path; the task goes on when
the removal fails.  A record in the trash is stored as it is, and it has no path: the copy is
left on disk, and nothing knows of it any more.
-/

/-- The change reports that a file is lost: as a removal, or by a record in the trash. -/
def ReportsLoss (fileId : String) (reported : Change) : Prop :=
  reported.fileId = some fileId ∧
    (reported.removed.getD false = true ∨
      ∃ apiFile, reported.file = some apiFile ∧ apiFile.id = some fileId ∧ apiFile.trashed = some true)

/-- The task of the loss is completed only when there is no file at the path that the row had,
and the row does not give the path up before. -/
structure RemovedFromDisk (loss : Deletion) (system : System) : Prop where
  completed : (∀ task, system.world.db.task loss.taskId = some task → task.status = .completed) →
    Gone loss system.world
  cleared : ∀ row, system.world.db.file loss.file.id loss.file.accountId = some row →
    row.localPath ≠ loss.file.localPath → Gone loss system.world

/-- The task of the loss waits to be begun. -/
def Waits (loss : Deletion) (system : System) : Prop :=
  NotBegun loss system ∧ AwaitsRemoval loss system

/-- The step leaves the row in the trash and with its path until the copy has been removed, puts
no file at the path once the task has been begun, its removal of the copy succeeds, and the
account stays. -/
structure LeavesRemoval [Rfc3339] (loss : Deletion) (system : System) (operation : Operation) : Prop where
  rows : ∀ row, Stores system operation row → row.key = loss.file.key →
    row.isTrashed = true ∧ (row.localPath = loss.file.localPath ∨
      row.localPath = none ∧ ¬ NotBegun loss system ∧ ¬ AwaitsRemoval loss system)
  puts : ∀ path, loss.file.localPath = some path → Puts system operation (placeOf path) → Waits loss system
  removes : ∀ answers delete path, operation = .engine (.removeCopy answers) →
    system.engine = .removing delete → delete.taskId = loss.taskId → delete.localPath = some path →
      (system.world.disk path).isSome = true → answers.removeFailure = none
  stays : operation ≠ .sync (.disconnect true loss.file.accountId)

/-- The task is on its way, and the row gives its path up only once there is no file at it. -/
structure OnItsWay (loss : Deletion) (system : System) : Prop where
  away : KeptAway loss system
  path : ∃ row, system.world.db.file loss.file.id loss.file.accountId = some row ∧
    (row.localPath = loss.file.localPath ∨ ¬ NotBegun loss system ∧ Gone loss system.world)

/-! ## What the change does -/

section Change

variable [Rfc3339] {answers : ProcessChangeAnswers} {reported : Change} {syncMode : SyncMode} {mountPoint : String}
  {db : Database} {row : Db.DriveFile}

/-- A reported removal that is handled trashes the row and asks for the removal of its copy. -/
theorem final_removal (stored : db.file row.id row.accountId = some row) (held : row.localPath.isSome = true)
    (about : reported.fileId = some row.id) (removed : reported.removed.getD false = true)
    (handled : outcome (processChange answers row.accountId reported syncMode mountPoint) db = .ok ()) :
    final (processChange answers row.accountId reported syncMode mountPoint) db =
      final (enqueueTask answers row.accountId row.id .delete row.trashed)
        (db.updateFileAt row.id row.accountId DriveFile.trashed DriveFile.key_trashed) := by
  have trashed : (db.updateFileAt row.id row.accountId DriveFile.trashed DriveFile.key_trashed).file row.id
      row.accountId = some row.trashed := by
    rw [Database.file_updateFileAt, if_pos ⟨rfl, rfl⟩, stored]
    rfl
  simp only [processChange, about, removed, if_true] at handled ⊢
  rw [outcome_bind, outcome_markTrashed, final_markTrashed] at handled
  rw [final_bind, outcome_markTrashed, final_markTrashed]
  cases marks : answers.marks with
  | false =>
      rw [marks] at handled
      cases handled
  | true =>
      simp only [marks, if_true] at handled ⊢
      rw [outcome_bind, outcome_getFileById] at handled
      rw [final_bind, outcome_getFileById, final_getFileById, trashed]
      cases looksUp : answers.looksUp with
      | false =>
          rw [looksUp] at handled
          cases handled
      | true =>
          have path : row.trashed.localPath.isSome = true := held
          simp only [if_true, path]

/-- A reported record in the trash that is handled is stored without a path, and nothing is
asked for. -/
theorem final_trashed {apiFile : Api.DriveFile} (about : reported.fileId = some row.id)
    (kept : reported.removed.getD false = false) (record : reported.file = some apiFile)
    (trashed : apiFile.trashed = some true)
    (handled : outcome (processChange answers row.accountId reported syncMode mountPoint) db = .ok ()) :
    final (processChange answers row.accountId reported syncMode mountPoint) db =
      db.putFile (mapApiFileToDb apiFile row.accountId) := by
  have pathless : (mapApiFileToDb apiFile row.accountId).localPath.isSome = false := rfl
  simp only [processChange, about, kept, record, trashed, if_true, pathless, Bool.false_eq_true, if_false]
    at handled ⊢
  rw [outcome_bind, outcome_getFileById, final_getFileById] at handled
  rw [final_bind, outcome_getFileById, final_getFileById]
  cases looksUp : answers.looksUp with
  | false =>
      rw [looksUp] at handled
      cases handled
  | true =>
      simp only [looksUp, if_true] at handled ⊢
      rw [outcome_bind, outcome_upsertFile] at handled
      rw [final_bind_pure, final_upsertFile]
      cases stores : answers.upserts && db.acceptsFile (mapApiFileToDb apiFile row.accountId) with
      | false =>
          rw [stores] at handled
          cases handled
      | true => rfl

end Change

section Reported

variable [Rfc3339] {system : System} {answers : ProcessChangeAnswers} {reported : Change} {syncMode : SyncMode}
  {mountPoint : String} {row : Db.DriveFile}

/-- The operation that processes a change of the account. -/
abbrev reports (answers : ProcessChangeAnswers) (row : Db.DriveFile) (reported : Change) (syncMode : SyncMode)
    (mountPoint : String) : Operation :=
  .sync (.change answers row.accountId reported syncMode mountPoint)

omit [Rfc3339] in
theorem gone_iff {taskId : Nat} {world : World} {path : String} (held : row.localPath = some path) :
    Gone ⟨row, taskId⟩ world ↔ world.disk path = none := by
  constructor
  · intro gone
    exact gone path held
  · intro absent other same
    rw [held] at same
    rw [← Option.some.inj same]
    exact absent

/-- Once a loss has been handled, nothing is wrong yet exactly when there is no file at the path,
or it is a removal whose task was enqueued. -/
theorem removedFromDisk_reports_iff {path : String}
    (stored : system.world.db.file row.id row.accountId = some row) (held : row.localPath = some path)
    (loss : ReportsLoss row.id reported)
    (handled : outcome (processChange answers row.accountId reported syncMode mountPoint) system.world.db = .ok ()) :
    RemovedFromDisk ⟨row, system.world.db.nextTaskId⟩
        (system.exec (reports answers row reported syncMode mountPoint)) ↔
      system.world.disk path = none ∨ (reported.removed.getD false = true ∧ answers.enqueues = true) := by
  have local_ : row.localPath.isSome = true := by
    rw [held]
    rfl
  have disk : (system.exec (reports answers row reported syncMode mountPoint)).world.disk = system.world.disk := rfl
  have db : (system.exec (reports answers row reported syncMode mountPoint)).world.db =
      final (processChange answers row.accountId reported syncMode mountPoint) system.world.db := rfl
  have absent := Database.task_nextTaskId system.world.db
  cases removed : reported.removed.getD false with
  | true =>
      have reached := final_removal stored local_ loss.1 removed handled
      rw [enqueueTask, final_attempt, final_enqueue] at reached
      cases enqueues : answers.enqueues with
      | true =>
          refine iff_of_true ⟨fun completed => ?_, fun later found differs => ?_⟩ (Or.inr ⟨rfl, rfl⟩)
          · rw [db, reached, enqueues, if_pos rfl] at completed
            cases completed _ (Database.task_putTask_next _ _)
          · have trashed : later = row.trashed := by
              rw [db, reached, enqueues, if_pos rfl, Database.file_putTask, Database.file_updateFileAt,
                if_pos ⟨rfl, rfl⟩, stored] at found
              exact (Option.some.inj found).symm
            rw [trashed] at differs
            exact (differs rfl).elim
      | false =>
          have unasked : (system.exec (reports answers row reported syncMode mountPoint)).world.db.task
              system.world.db.nextTaskId = none := by
            rw [db, reached, enqueues, if_neg Bool.false_ne_true, Database.task_updateFileAt]
            exact absent
          constructor
          · intro fine
            refine Or.inl ((gone_iff held).mp (fine.completed fun task found => ?_))
            rw [unasked] at found
            cases found
          · rintro (nothing | ⟨_, impossible⟩)
            · have gone : Gone ⟨row, system.world.db.nextTaskId⟩
                  (system.exec (reports answers row reported syncMode mountPoint)).world := (gone_iff held).mpr nothing
              exact ⟨fun _ => gone, fun _ _ _ => gone⟩
            · cases impossible
  | false =>
      rcases loss.2 with impossible | ⟨apiFile, record, named, trashed⟩
      · rw [removed] at impossible
        cases impossible
      · have reached := final_trashed loss.1 removed record trashed handled
        have unasked : (system.exec (reports answers row reported syncMode mountPoint)).world.db.task
            system.world.db.nextTaskId = none := by
          rw [db, reached, Database.task_putFile]
          exact absent
        constructor
        · intro fine
          refine Or.inl ((gone_iff held).mp (fine.completed fun task found => ?_))
          rw [unasked] at found
          cases found
        · rintro (nothing | ⟨impossible, _⟩)
          · have gone : Gone ⟨row, system.world.db.nextTaskId⟩
                (system.exec (reports answers row reported syncMode mountPoint)).world := (gone_iff held).mpr nothing
            exact ⟨fun _ => gone, fun _ _ _ => gone⟩
          · cases impossible

/-- The task of a removal is on its way to the copy. -/
theorem onItsWay_reports {path : String} (inFlight : InFlightStored system)
    (stored : system.world.db.file row.id row.accountId = some row) (held : row.localPath = some path)
    (about : reported.fileId = some row.id) (removed : reported.removed.getD false = true)
    (enqueues : answers.enqueues = true)
    (handled : outcome (processChange answers row.accountId reported syncMode mountPoint) system.world.db = .ok ()) :
    OnItsWay ⟨row, system.world.db.nextTaskId⟩ (system.exec (reports answers row reported syncMode mountPoint)) := by
  have local_ : row.localPath.isSome = true := by
    rw [held]
    rfl
  have db : (system.exec (reports answers row reported syncMode mountPoint)).world.db =
      final (processChange answers row.accountId reported syncMode mountPoint) system.world.db := rfl
  have reached := final_removal stored local_ about removed handled
  rw [enqueueTask, final_attempt, final_enqueue, enqueues, if_pos rfl] at reached
  have found : (system.exec (reports answers row reported syncMode mountPoint)).world.db.file row.id row.accountId =
      some row.trashed := by
    rw [db, reached, Database.file_putTask, Database.file_updateFileAt, if_pos ⟨rfl, rfl⟩, stored]
    rfl
  refine ⟨@keptAway_of_deleted _ _ _ _ row.trashed inFlight rfl rfl found rfl rfl ?_, row.trashed, found, Or.inl rfl⟩
  rw [db, reached]
  exact ⟨_, Database.task_putTask_next _ _, rfl, rfl, rfl, rfl⟩

end Reported

/-! ## The run after it -/

section Steps

variable [Rfc3339] {loss : Deletion} {system : System} {operation : Operation}

theorem LeavesRemoval.leavesDeleted (leaves : LeavesRemoval loss system operation) :
    LeavesDeleted loss system operation where
  rows row stores key := by
    rcases leaves.rows row stores key with ⟨trashed, path⟩
    exact ⟨trashed, path.imp_right fun cleared => ⟨cleared.1, cleared.2.1⟩⟩
  puts removed path target put := removed (leaves.puts path target put).2
  removes := leaves.removes
  stays := leaves.stays

theorem onItsWay_exec (leaves : LeavesRemoval loss system operation) (onItsWay : OnItsWay loss system) :
    OnItsWay loss (system.exec operation) := by
  have away := onItsWay.away
  have later := keptAway_exec away leaves.leavesDeleted
  have stays (begun : ¬ NotBegun loss system) (gone : Gone loss system.world) :
      ¬ NotBegun loss (system.exec operation) ∧ Gone loss (system.exec operation).world :=
    ⟨fun waits => begun (notBegun_of_exec away waits),
      gone_of_untouched gone fun path target put => begun (leaves.puts path target put).1⟩
  refine ⟨later, ?_⟩
  rcases later.row with ⟨after, reached, _⟩
  refine ⟨after, reached, ?_⟩
  rcases rowsFrom_exec system operation _ _ after reached with before | stores
  · rcases onItsWay.path with ⟨row, stored, path⟩
    cases stored.symm.trans before
    exact path.imp_right fun cleared => stays cleared.1 cleared.2
  · have key := (Database.holds_of_file reached).2
    rcases leaves.rows after stores (Prod.ext key.1 key.2) with ⟨_, kept | ⟨_, begun, removed⟩⟩
    · exact Or.inl kept
    · exact Or.inr (stays begun (away.gone removed))

omit [Rfc3339] in
theorem OnItsWay.removedFromDisk (onItsWay : OnItsWay loss system) : RemovedFromDisk loss system where
  completed completed := by
    rcases onItsWay.away.task with ⟨task, stored, _⟩
    apply onItsWay.away.gone
    rintro ⟨other, found, open_, _⟩
    rw [completed other found] at open_
    rcases open_ with impossible | impossible
    · cases impossible
    · cases impossible
  cleared row found differs := by
    rcases onItsWay.path with ⟨other, stored, path | ⟨_, gone⟩⟩
    · cases stored.symm.trans found
      exact (differs path).elim
    · exact gone

/-- Once a loss has been handled, nothing is wrong yet exactly when there is no file at the path,
or it is a removal whose task was enqueued.  After such a removal the copy goes before its task
is completed and before the row gives the path up, as long as every step leaves the removal to
the task. -/
theorem loss_reaches_disk {answers : ProcessChangeAnswers} {reported : Change} {syncMode : SyncMode}
    {mountPoint : String} {row : Db.DriveFile} {before : List Operation} {path : String}
    (stored : (run System.exec before System.initial).world.db.file row.id row.accountId = some row)
    (held : row.localPath = some path) (loss : ReportsLoss row.id reported)
    (handled : outcome (processChange answers row.accountId reported syncMode mountPoint)
      (run System.exec before System.initial).world.db = .ok ()) :
    (RemovedFromDisk ⟨row, (run System.exec before System.initial).world.db.nextTaskId⟩
        ((run System.exec before System.initial).exec (reports answers row reported syncMode mountPoint)) ↔
      (run System.exec before System.initial).world.disk path = none ∨
        (reported.removed.getD false = true ∧ answers.enqueues = true)) ∧
    (reported.removed.getD false = true → answers.enqueues = true → ∀ after,
      Along System.exec (LeavesRemoval ⟨row, (run System.exec before System.initial).world.db.nextTaskId⟩) after
        ((run System.exec before System.initial).exec (reports answers row reported syncMode mountPoint)) →
      Throughout System.exec (RemovedFromDisk ⟨row, (run System.exec before System.initial).world.db.nextTaskId⟩)
        after ((run System.exec before System.initial).exec (reports answers row reported syncMode mountPoint))) := by
  refine ⟨removedFromDisk_reports_iff stored held loss handled, fun removed enqueues after leaves => ?_⟩
  let about : Deletion := ⟨row, (run System.exec before System.initial).world.db.nextTaskId⟩
  have first : OnItsWay about
      ((run System.exec before System.initial).exec (reports answers row reported syncMode mountPoint)) :=
    onItsWay_reports (inFlightStored_run before) stored held loss.1 removed enqueues handled
  have keeps (system : System) (operation : Operation) (leaves : LeavesRemoval about system operation)
      (onItsWay : OnItsWay about system) : OnItsWay about (system.exec operation) := onItsWay_exec leaves onItsWay
  have onItsWay : Throughout System.exec (OnItsWay about) after
      ((run System.exec before System.initial).exec (reports answers row reported syncMode mountPoint)) :=
    @throughout_of_along _ _ System.exec _ _ keeps _ _ leaves first
  exact onItsWay.mono fun _ way => way.removedFromDisk

end Steps

/-- Drive reports the notes with a record in the trash. -/
def notesTrashed : Change where
  fileId := some "notes"
  removed := some false
  file := some { Api.DriveFile.named "notes" "notes.txt" with trashed := some true }

/-- The state in which a loss of the mirrored notes has been handled. -/
def afterLoss (reported : Change) : System :=
  @System.exec untimed (run (@System.exec untimed) mirroredNotes System.initial)
    (reports (ProcessChangeAnswers.allRun 15) notesRow reported .mirror "/mnt")

/-- The state after the first steps of the task that the reported removal has enqueued. -/
def removingLost (steps : Nat) : System :=
  run (@System.exec untimed) (removesNotes.take steps) (afterLoss notesRemoved)

/-- The row as the reported removal left it. -/
def lostNotes : Db.DriveFile :=
  notesRow.trashed

theorem leavesRemoval_begins : @LeavesRemoval untimed ⟨notesRow, 2⟩ (removingLost 0) beginsLater := by
  have found : (removingLost 0).world.db.file "notes" "ann@example.com" = some lostNotes := by
    decide
  refine @LeavesRemoval.mk untimed _ _ _ ?_ ?_ ?_ nofun
  · intro row stores key
    rcases @of_trashes ⟨notesRow, 2⟩ _ _ _ found (@trashes_of_delete _ untimed _ _ _ (by decide) stores) key with
      ⟨trashed, path⟩
    exact ⟨trashed, Or.inl path⟩
  · intro path target put
    exact (not_puts_of_delete (by decide) put).elim
  · intro answers delete path
    nofun

theorem leavesRemoval_removes :
    @LeavesRemoval untimed ⟨notesRow, 2⟩ (removingLost 1) (.engine (.removeCopy (DeleteAnswers.allRun 20))) := by
  refine @LeavesRemoval.mk untimed _ _ _ ?_ ?_ ?_ nofun
  · intro row stores
    cases stores
  · intro path target put
    cases put
  · intro answers delete path same _ _ _ _
    cases same
    rfl

theorem leavesRemoval_records :
    @LeavesRemoval untimed ⟨notesRow, 2⟩ (removingLost 2) (.engine (.recordDelete (DeleteAnswers.allRun 20))) := by
  refine @LeavesRemoval.mk untimed _ _ _ ?_ ?_ ?_ nofun
  · rintro row ⟨delete, before, engine, held, _, same⟩ _
    have trashed := trashed_of_heldRow (by decide) engine held
    have begun : ¬ NotBegun ⟨notesRow, 2⟩ (removingLost 2) := by
      decide
    rw [same]
    refine ⟨trashed, Or.inr ⟨rfl, begun, ?_⟩⟩
    rintro ⟨task, stored, stage, removing⟩
    rcases removing (by decide) with ⟨other, still⟩
    cases engine.symm.trans still
  · intro path target put
    cases put
  · intro answers delete path
    nofun

/-- A removal leaves the copy to the task it has enqueued, and the task removes it: it is completed,
and there is no file at the path. -/
theorem loss_reaches_disk_of_removal :
    (RemovedFromDisk ⟨notesRow, 2⟩ (afterLoss notesRemoved) ↔
      (run (@System.exec untimed) mirroredNotes System.initial).world.disk "/mnt/notes.txt" = none ∨
        (notesRemoved.removed.getD false = true ∧ (ProcessChangeAnswers.allRun 15).enqueues = true)) ∧
    Throughout (@System.exec untimed) (RemovedFromDisk ⟨notesRow, 2⟩) removesNotes (afterLoss notesRemoved) ∧
    ((removingLost 0).world.disk "/mnt/notes.txt").isSome = true ∧
    ((removingLost 3).world.db.task 2).map SyncTask.status = some .completed ∧
    (removingLost 3).world.disk "/mnt/notes.txt" = none := by
  have reaches := @loss_reaches_disk untimed (ProcessChangeAnswers.allRun 15) notesRemoved .mirror "/mnt" notesRow
    mirroredNotes "/mnt/notes.txt" (by decide) rfl ⟨rfl, Or.inl rfl⟩ rfl
  refine ⟨reaches.1, ?_, by decide, by decide, by decide⟩
  exact reaches.2 rfl rfl removesNotes ⟨leavesRemoval_begins, leavesRemoval_removes, leavesRemoval_records, trivial⟩

/-- A record in the trash leaves the copy where it is and no path in the row; and so does a
removal whose task fails to remove the copy. -/
theorem lost_notes_stay_on_disk :
    ¬ RemovedFromDisk ⟨notesRow, 2⟩ (afterLoss notesTrashed) ∧
      ¬ RemovedFromDisk ⟨notesRow, 2⟩ (run (@System.exec untimed) [beginsLater,
        .engine (.removeCopy { DeleteAnswers.allRun 20 with removeFailure := some "permission denied" }),
        .engine (.recordDelete (DeleteAnswers.allRun 20))] (afterLoss notesRemoved)) := by
  constructor
  · intro fine
    have unasked : (afterLoss notesTrashed).world.db.task 2 = none := by
      decide
    have there : ((afterLoss notesTrashed).world.disk "/mnt/notes.txt").isSome = true := by
      decide
    rw [fine.completed (fun task found => nomatch unasked.symm.trans found) "/mnt/notes.txt" rfl] at there
    cases there
  · intro fine
    generalize reached : run (@System.exec untimed) _ (afterLoss notesRemoved) = system at fine
    have completed : (system.world.db.task 2).map SyncTask.status = some .completed := by
      rw [← reached]
      decide
    have there : (system.world.disk "/mnt/notes.txt").isSome = true := by
      rw [← reached]
      decide
    have done (task : SyncTask) (found : system.world.db.task 2 = some task) : task.status = .completed := by
      rw [found] at completed
      exact Option.some.inj completed
    rw [fine.completed done "/mnt/notes.txt" rfl] at there
    cases there

end Local
end GDriver
