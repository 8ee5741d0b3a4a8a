import GDriver.Library.Run
import GDriver.Moves.Engine
import GDriver.Moves.Mount
import GDriver.Moves.Sync

namespace GDriver

open Library Routine Db Api Sync

/-!
# What operations leave of the queue

A task that is in the queue stays there, and goes on asking for the same.  Its
status is changed by the engine alone, while it works on the task.  A request
that was sent stays sent.
-/

/-- Every task is still there and asks for the same, and a new one is pending.  Only
the task that the engine is busy with may have changed. -/
structure KeepsTasks (busy : Option Nat) (db later : Database) : Prop where
  kept : ∀ taskId task, db.task taskId = some task →
    ∃ after, later.task taskId = some after ∧ task.AsksSame after ∧
      (busy ≠ some taskId → after = task)
  fresh : ∀ taskId task, busy ≠ some taskId → later.task taskId = some task →
    db.task taskId = none → task.status = .pending

theorem KeepsTasks.of_same {busy : Option Nat} {db later : Database}
    (same : later.syncQueue = db.syncQueue) : KeepsTasks busy db later := by
  have tasks (taskId : Nat) : later.task taskId = db.task taskId := by
    simp only [Database.task, same]
  constructor
  · intro taskId task found
    exact ⟨task, (tasks taskId).trans found, SyncTask.AsksSame.refl task, fun _ => rfl⟩
  · intro taskId task _ reached absent
    rw [tasks, absent] at reached
    cases reached

instance (busy : Option Nat) : IsPreorder Database (KeepsTasks busy) where
  refl _ := KeepsTasks.of_same rfl
  trans first second third one two := by
    constructor
    · intro taskId task found
      rcases one.kept taskId task found with ⟨between, there, asks, stays⟩
      rcases two.kept taskId between there with ⟨after, reached, asksOn, staysOn⟩
      exact ⟨after, reached, asks.trans asksOn, fun idle => (staysOn idle).trans (stays idle)⟩
    · intro taskId task idle reached absent
      cases there : second.task taskId with
      | none => exact two.fresh taskId task idle reached there
      | some between =>
          rcases two.kept taskId between there with ⟨after, same, _, stays⟩
          rw [reached] at same
          rw [Option.some.inj same, stays idle]
          exact one.fresh taskId between idle there absent

theorem keepsTasks_putTask (busy : Option Nat) (db : Database) {task : SyncTask}
    (pending : task.status = .pending) : KeepsTasks busy db (db.putTask task) where
  kept _ stored found :=
    ⟨stored, Database.task_putTask_of_some found task, SyncTask.AsksSame.refl stored, fun _ => rfl⟩
  fresh taskId stored _ reached absent := by
    rcases Database.task_putTask_cases reached with same | before
    · rw [same]
      exact pending
    · rw [absent] at before
      cases before

/-- The task the engine works on may change its status. -/
theorem keepsTasks_updateTask (db : Database) (taskId : Nat) {change : SyncTask → SyncTask}
    (keeps : ∀ task, (change task).id = task.id) (asks : ∀ task : SyncTask, task.AsksSame (change task)) :
    KeepsTasks (some taskId) db (db.updateTask taskId change keeps) := by
  constructor
  · intro other task found
    by_cases same : other = taskId
    · subst same
      refine ⟨change task, ?_, asks task, fun idle => absurd rfl idle⟩
      rw [Database.task_updateTask_self, found]
      rfl
    · refine ⟨task, ?_, SyncTask.AsksSame.refl task, fun _ => rfl⟩
      rw [Database.task_updateTask_of_ne db same]
      exact found
  · intro other task idle reached absent
    have different : other ≠ taskId := fun same => idle (congrArg some same.symm)
    rw [Database.task_updateTask_of_ne db different, absent] at reached
    cases reached

/-- The queues are the same. -/
def SameQueue (db later : Database) : Prop :=
  later.syncQueue = db.syncQueue

instance : IsPreorder Database SameQueue where
  refl _ := rfl
  trans _ _ _ one two := Eq.trans two one

/-- The queues of both worlds are the same. -/
def SameQueueIn (world later : World) : Prop :=
  SameQueue world.db later.db

instance : IsPreorder World SameQueueIn where
  refl _ := rfl
  trans _ _ _ one two := Eq.trans two one

/-- The relation is about the queue, and allows new tasks. -/
structure AllowsTasks (allowed : Database → Database → Prop) : Prop where
  same : ∀ db later, later.syncQueue = db.syncQueue → allowed db later
  enqueue : ∀ db task, task.IsNew → allowed db (db.putTask task)

theorem AllowsTasks.toSync {allowed : Database → Database → Prop} (allows : AllowsTasks allowed) :
    AllowsSync allowed where
  rows _ _ := allows.same _ _ rfl
  enqueue := allows.enqueue

theorem AllowsTasks.toEdits {allowed : Database → Database → Prop} (allows : AllowsTasks allowed) :
    AllowsEdits allowed where
  enqueues := allows.enqueue
  inserts _ _ _ _ _ _ _ _ _ := allows.same _ _ rfl
  updates _ _ _ _ _ := allows.same _ _ rfl

theorem allowsTasks_keepsTasks (busy : Option Nat) : AllowsTasks (KeepsTasks busy) where
  same _ _ := KeepsTasks.of_same
  enqueue db _ new := keepsTasks_putTask busy db new.pending

/-- The queue goes on as above, and every request that was sent stays sent. -/
structure Proceeds (busy : Option Nat) (world later : World) : Prop where
  tasks : KeepsTasks busy world.db later.db
  sent : ∀ request ∈ world.requests, request ∈ later.requests

instance (busy : Option Nat) : IsPreorder World (Proceeds busy) where
  refl world := ⟨Std.Refl.refl world.db, fun _ sent => sent⟩
  trans _ _ _ one two :=
    ⟨IsTrans.trans _ _ _ one.tasks two.tasks, fun request sent => two.sent request (one.sent request sent)⟩

theorem Proceeds.of_tasks {busy : Option Nat} {world : World} {db : Database}
    (keeps : KeepsTasks busy world.db db) : Proceeds busy world (world.withDb db) :=
  ⟨keeps, fun _ sent => sent⟩

theorem allowsStoring_proceeds (taskId : Nat) : AllowsStoring taskId (Proceeds (some taskId)) where
  disk _ _ _ := ⟨KeepsTasks.of_same rfl, fun _ sent => sent⟩
  send _ _ _ := ⟨KeepsTasks.of_same rfl, fun _ sent => List.mem_append_left _ sent⟩
  task world _ keeps asks := Proceeds.of_tasks (keepsTasks_updateTask world.db taskId keeps asks)
  error _ _ := Proceeds.of_tasks (KeepsTasks.of_same rfl)
  rows _ _ := Proceeds.of_tasks (KeepsTasks.of_same rfl)
  drive _ _ := ⟨KeepsTasks.of_same rfl, fun _ sent => sent⟩

/-- The task that an operation works on. -/
def busyTask (system : System) : Operation → Option Nat
  | .engine step =>
      match step, system.engine with
      | .begin _ _, .idle => system.world.db.nextPending.bind SyncTask.id
      | .land _, .fetched download => some download.taskId
      | .record _, .landed download => some download.taskId
      | .removeCopy _, .removing delete => some delete.taskId
      | .recordDelete _, .removed delete => some delete.taskId
      | _, _ => none
  | _ => none

/-- What an operation is busy with is a task the engine was in the middle of, or
the one it begins. -/
theorem busyTask_cases {system : System} {operation : Operation} {taskId : Nat}
    (busy : busyTask system operation = some taskId) :
    inFlight system.engine = some taskId ∨
      ∃ picks answers task, operation = .engine (.begin picks answers) ∧ system.engine = .idle ∧
        system.world.db.nextPending = some task ∧ task.id = some taskId := by
  cases operation with
  | engine step =>
      cases engine : system.engine with
      | idle =>
          cases step with
          | begin picks answers =>
              simp only [busyTask, engine] at busy
              rcases Option.bind_eq_some_iff.mp busy with ⟨task, next, identified⟩
              exact Or.inr ⟨picks, answers, task, rfl, rfl, next, identified⟩
          | _ => simp only [busyTask, engine, reduceCtorEq] at busy
      | fetched download =>
          cases step with
          | land answers =>
              simp only [busyTask, engine] at busy
              exact Or.inl busy
          | _ => simp only [busyTask, engine, reduceCtorEq] at busy
      | landed download =>
          cases step with
          | record answers =>
              simp only [busyTask, engine] at busy
              exact Or.inl busy
          | _ => simp only [busyTask, engine, reduceCtorEq] at busy
      | removing delete =>
          cases step with
          | removeCopy answers =>
              simp only [busyTask, engine] at busy
              exact Or.inl busy
          | _ => simp only [busyTask, engine, reduceCtorEq] at busy
      | removed delete =>
          cases step with
          | recordDelete answers =>
              simp only [busyTask, engine] at busy
              exact Or.inl busy
          | _ => simp only [busyTask, engine, reduceCtorEq] at busy
  | _ => cases busy

section Operations

theorem allowsCallbacks_proceeds (busy : Option Nat) :
    AllowsCallbacks (KeepsTasks busy) (Proceeds busy) where
  lifts _ _ keeps := Proceeds.of_tasks keeps
  disk _ _ _ := ⟨KeepsTasks.of_same rfl, fun _ sent => sent⟩
  opens _ _ := ⟨KeepsTasks.of_same rfl, fun _ sent => sent⟩
  releases _ _ := ⟨KeepsTasks.of_same rfl, fun _ sent => sent⟩

theorem proceeds_callback (cacheDir : String) (answers : Vfs.CallbackAnswers)
    (callback : Callback) : Keeps (Proceeds none) (callback.run cacheDir answers) :=
  keeps_callback (allowsTasks_keepsTasks none).toEdits (allowsCallbacks_proceeds none) cacheDir answers callback

section Outside

variable {allowed : Database → Database → Prop} [IsPreorder Database allowed] (allows : AllowsTasks allowed)
include allows

theorem keeps_watch (path : String) (isDir : Bool) (kind : Watcher.EventKind) (folders : List Watcher.WatchedFolder)
    (now : Int) (runs : Bool) : Keeps allowed (watch path isDir kind folders now runs) := by
  rw [watch]
  split
  · exact keeps_pure ()
  · next task watched =>
      exact keeps_attempt (keeps_enqueue_of_allows allows.toSync _ (Watcher.isNew_of_eventToTask watched))

variable [Rfc3339]

theorem keeps_sync (work : SyncWork) : Keeps allowed work.run := by
  cases work with
  | connect runs account =>
      intro db
      rw [SyncWork.run, final_insertAccount]
      split
      · exact allows.same _ _ rfl
      · exact Std.Refl.refl db
  | disconnect runs accountId => exact keeps_execute _ fun db => allows.same _ _ rfl
  | storeToken runs now accountId token =>
      intro db
      rw [SyncWork.run, final_setToken]
      split
      · exact allows.same _ _ rfl
      · exact Std.Refl.refl db
  | listed runs accountId apiFile => exact keeps_upsertFile allows.toSync _ _
  | change answers accountId reported syncMode mountPoint =>
      exact keeps_processChange allows.toSync _ _ _ _ _
  | mirror answers accountId mountPoint =>
      exact keeps_attempt (keeps_enqueueMirrorDownloads allows.toSync _ _ _)
  | resetMirror runs accountId => exact keeps_execute _ fun db => allows.same _ _ rfl

end Outside

variable [Rfc3339]

/-- A step of the engine changes nothing, or it works on one task and is related accordingly. -/
theorem engine_storing {allowed : Nat → World → World → Prop} [∀ taskId, IsPreorder World (allowed taskId)]
    (allows : ∀ taskId, AllowsStoring taskId (allowed taskId)) (system : System) (step : EngineStep) :
    (step.exec system).world = system.world ∨
      ∃ taskId, busyTask system (.engine step) = some taskId ∧ allowed taskId system.world
        (step.exec system).world := by
  have does := step.does system
  generalize step.exec system = later at does
  cases does with
  | nothing => exact Or.inl rfl
  | restart => exact Or.inl rfl
  | @begin picks answers task taskId picked idle next identified =>
      simp only [busyTask, idle, next, Option.bind_some]
      exact Or.inr ⟨taskId, identified, keeps_beginTask identified (allows taskId) answers system.world⟩
  | @land answers download engine =>
      simp only [busyTask, engine]
      exact Or.inr ⟨_, rfl, keeps_landFetched (allows download.taskId).toAllowsProcessing system.world⟩
  | @record answers download engine =>
      have allowsOne := allows download.taskId
      simp only [busyTask, engine]
      exact Or.inr ⟨_, rfl, keeps_recordDownload (fun world _ _ _ _ => allowsOne.rows world _)
        allowsOne.toAllowsMarking answers system.world⟩
  | @removeCopy answers delete engine =>
      simp only [busyTask, engine]
      exact Or.inr ⟨_, rfl, keeps_removeLocalCopy (allows delete.taskId).disk answers delete system.world⟩
  | @recordDelete answers delete engine =>
      have allowsOne := allows delete.taskId
      simp only [busyTask, engine]
      exact Or.inr ⟨_, rfl, keeps_recordRemoteDelete (fun world _ _ _ => allowsOne.rows world _)
        allowsOne.toAllowsMarking answers system.world⟩

theorem proceeds_engine (system : System) (step : EngineStep) :
    Proceeds (busyTask system (.engine step)) system.world (step.exec system).world := by
  rcases engine_storing allowsStoring_proceeds system step with same | ⟨taskId, busy, proceeds⟩
  · rw [same]
    exact Std.Refl.refl system.world
  · rw [busy]
    exact proceeds

/-- What every operation leaves of the queue and of the requests. -/
theorem proceeds_exec (system : System) (operation : Operation) :
    Proceeds (busyTask system operation) system.world (system.exec operation).world := by
  cases operation with
  | sync work => exact Proceeds.of_tasks (keeps_sync (allowsTasks_keepsTasks none) work _)
  | rpc ctx answers request =>
      exact Proceeds.of_tasks (keeps_request (allowsTasks_keepsTasks none).toEdits ctx answers request _)
  | vfs cacheDir answers callback => exact proceeds_callback cacheDir answers callback system.world
  | event path isDir kind folders now runs =>
      exact Proceeds.of_tasks (keeps_watch (allowsTasks_keepsTasks none) path isDir kind folders now runs _)
  | engine step => exact proceeds_engine system step
  | user path file => exact ⟨KeepsTasks.of_same rfl, fun _ sent => sent⟩

/-! ## The task in flight -/

/-- The engine is in the middle of the same as before, unless the operation works on its task. -/
theorem engine_exec_of_not_busy {system : System} {operation : Operation} {taskId : Nat}
    (idle : busyTask system operation ≠ some taskId)
    (within : inFlight (system.exec operation).engine = some taskId) :
    (system.exec operation).engine = system.engine := by
  cases operation with
  | engine step =>
      have does := step.does system
      change inFlight (step.exec system).engine = some taskId at within
      change (step.exec system).engine = system.engine
      generalize step.exec system = later at does within
      cases does with
      | nothing => rfl
      | restart => cases within
      | @begin picks answers task other picked resting next identified =>
          rcases answered_of_settle rfl within with ⟨engine, answered, inside⟩
          have same := (stopsWithin_beginTask answers task _ engine taskId answered inside).1
          simp only [busyTask, resting, next, Option.bind_some] at idle
          exact absurd same idle
      | @land answers download engine =>
          rcases answered_of_settle rfl within with ⟨later, answered, inside⟩
          simp only [busyTask, engine] at idle
          rcases of_outcome_landFetched answered with same | same
          · rw [same] at inside
            exact absurd inside idle
          · rw [same] at inside
            cases inside
      | record engine => cases within
      | @removeCopy answers delete engine =>
          simp only [busyTask, engine] at idle
          exact absurd within idle
      | recordDelete engine => cases within
  | sync work => rfl
  | rpc ctx answers request => rfl
  | vfs cacheDir answers callback => rfl
  | event path isDir kind folders now runs => rfl
  | user path file => rfl

/-- The task that the engine is in the middle of is in the queue. -/
def InFlightStored (system : System) : Prop :=
  ∀ taskId, inFlight system.engine = some taskId → (system.world.db.task taskId).isSome = true

theorem inFlightStored_exec {system : System} {operation : Operation} (stored : InFlightStored system) :
    InFlightStored (system.exec operation) := by
  intro taskId within
  have there : (system.world.db.task taskId).isSome = true := by
    by_cases busy : busyTask system operation = some taskId
    · rcases busyTask_cases busy with before | ⟨_, _, task, _, _, next, identified⟩
      · exact stored taskId before
      · rcases Database.of_nextPending next with ⟨number, numbered, found, _⟩
        cases identified.symm.trans numbered
        rw [found]
        rfl
    · rw [engine_exec_of_not_busy busy within] at within
      exact stored taskId within
  rcases Option.isSome_iff_exists.mp there with ⟨task, found⟩
  rcases (proceeds_exec system operation).tasks.kept taskId task found with ⟨after, reached, _, _⟩
  rw [reached]
  rfl

theorem inFlightStored_run (operations : List Operation) :
    InFlightStored (run System.exec operations System.initial) := by
  have initially : InFlightStored System.initial := by
    intro taskId within
    cases within
  exact run_preserves (fun _ _ stored => inFlightStored_exec stored) initially operations

end Operations

end GDriver
