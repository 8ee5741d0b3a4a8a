import Mathlib.Data.List.Count
import GDriver.Queue.Flight
import GDriver.Queue.Turns

namespace GDriver
namespace Queue

open Library Routine Db Api Sync

/-!
# The budget of a task

The retry count of a task is the number of its failures that were handled, until the fourth one
marks it as failed instead.  The handlers compute the count from the task as it was when it was
taken, so it has to be as it was then whenever a failure is handled.
-/

/-- The part of a task that its budget is about. -/
structure Standing where
  status : TaskStatus
  retryCount : Int

def standing (task : SyncTask) : Standing :=
  ⟨task.status, task.retryCount⟩

def standingView : TaskView Standing where
  sees := standing
  mark status before := { before with status := status }
  again status retryCount _ := ⟨status, retryCount⟩
  sees_mark _ _ _ _ := rfl
  sees_again _ _ _ _ _ := rfl

/-- A failure is handled when the statement of its handler is executed. -/
def failures : Marking Nat where
  mark status count := if status = .failed then count + 1 else count
  again _ _ count := count + 1

/-- So many failures of the task were handled. -/
structure Standing.Within (now : Standing) (handled : Nat) : Prop where
  atLeast : 0 ≤ now.retryCount
  atMost : now.retryCount ≤ maxRetries
  counted : (handled : Int) = now.retryCount + if now.status = .failed then 1 else 0
  last : now.status = .failed → now.retryCount = maxRetries

/-- After an attempt a failure was handled or not, and the count is as before if the task is still
in progress. -/
structure Standing.After (task : SyncTask) (handled : Nat) (now : Standing) (failed : Nat) : Prop where
  within : now.Within (handled + failed)
  once : failed ≤ 1
  waits : now.status = .inProgress → now.retryCount = task.retryCount

/-- An attempt on a task with this many handled failures. -/
theorem budgetTogether {task : SyncTask} {handled : Nat} (counted : (handled : Int) = task.retryCount)
    (atMost : task.retryCount ≤ maxRetries) :
    Together standingView.toMarking failures task
      (fun now failed => now.status ≠ .failed ∧ now.retryCount = task.retryCount ∧ failed = 0)
      (Standing.After task handled) where
  marks status now failed other running := by
    rcases running with ⟨_, same, none⟩
    refine ⟨other, same, ?_⟩
    rw [none]
    exact if_neg other
  ends now failed running := by
    rcases running with ⟨open_, same, none⟩
    rw [none]
    constructor
    · constructor
      · omega
      · omega
      · rw [if_neg open_]
        omega
      · intro impossible
        exact absurd impossible open_
    · exact Nat.zero_le 1
    · exact fun _ => same
  fails now failed last running := by
    rcases running with ⟨_, same, none⟩
    rw [none]
    have atLast : now.retryCount = maxRetries := by omega
    constructor
    · constructor
      · exact atLast ▸ (by decide : 0 ≤ maxRetries)
      · exact Int.le_of_eq atLast
      · change ((handled + 1 : Nat) : Int) = now.retryCount + 1
        omega
      · exact fun _ => atLast
    · exact Nat.le_refl 1
    · intro impossible
      cases impossible
  again now failed more running := by
    rcases running with ⟨_, _, none⟩
    rw [none]
    constructor
    · constructor
      · change 0 ≤ task.retryCount + 1
        omega
      · change task.retryCount + 1 ≤ maxRetries
        omega
      · change ((handled + 1 : Nat) : Int) = task.retryCount + 1 + 0
        omega
      · intro impossible
        cases impossible
    · exact Nat.le_refl 1
    · intro impossible
      cases impossible

/-! ## New tasks -/

/-- The tasks stay as they are, and new ones have not been tried. -/
structure AddsTasks (db later : Database) : Prop where
  kept : ∀ taskId task, db.task taskId = some task → later.task taskId = some task
  fresh : ∀ taskId task, later.task taskId = some task → db.task taskId = none → task.IsNew

theorem AddsTasks.of_same {db later : Database} (same : later.syncQueue = db.syncQueue) : AddsTasks db later := by
  have tasks (taskId : Nat) : later.task taskId = db.task taskId := by
    simp only [Database.task, same]
  constructor
  · exact fun taskId task found => (tasks taskId).trans found
  · intro taskId task reached absent
    rw [tasks, absent] at reached
    cases reached

instance : IsPreorder Database AddsTasks where
  refl _ := AddsTasks.of_same rfl
  trans first second third one two := by
    constructor
    · exact fun taskId task found => two.kept taskId task (one.kept taskId task found)
    · intro taskId task reached absent
      cases there : second.task taskId with
      | none => exact two.fresh taskId task reached there
      | some between =>
          have same := two.kept taskId between there
          rw [reached] at same
          rw [Option.some.inj same]
          exact one.fresh taskId between there absent

theorem allowsTasks_addsTasks : AllowsTasks AddsTasks where
  same _ _ := AddsTasks.of_same
  enqueue db task new := by
    constructor
    · exact fun taskId stored found => Database.task_putTask_of_some found task
    · intro taskId stored reached absent
      rcases Database.task_putTask_cases reached with same | before
      · rw [same]
        exact ⟨new.pending, new.untried⟩
      · rw [absent] at before
        cases before

/-- The queue of a world only gets new tasks. -/
def AddsTasksIn (world later : World) : Prop :=
  AddsTasks world.db later.db

instance : IsPreorder World AddsTasksIn where
  refl world := Std.Refl.refl world.db
  trans _ _ _ one two := @IsTrans.trans _ AddsTasks _ _ _ _ one two

theorem allowsCallbacks_addsTasks : AllowsCallbacks AddsTasks AddsTasksIn where
  lifts _ _ adds := adds
  disk _ _ _ := AddsTasks.of_same rfl
  opens _ _ := AddsTasks.of_same rfl
  releases _ _ := AddsTasks.of_same rfl

section Steps

variable [Rfc3339] {system : System}

/-- A step of the engine leaves all tasks alone but its own. -/
theorem leavesOthers_engine (system : System) (step : EngineStep) {other : Nat}
    (idle : busyTask system (.engine step) ≠ some other) :
    (step.exec system).world.db.task other = system.world.db.task other := by
  rcases engine_storing allowsStoring_leavesOthers system step with same | ⟨taskId, busy, leaves⟩
  · rw [same]
  · apply leaves
    intro same
    rw [busy, same] at idle
    exact idle rfl

/-- A task that an operation does not work on was there before, or is new. -/
theorem of_task_exec {operation : Operation} {taskId : Nat} {task : SyncTask}
    (idle : busyTask system operation ≠ some taskId)
    (reached : (system.exec operation).world.db.task taskId = some task) :
    system.world.db.task taskId = some task ∨ (system.world.db.task taskId = none ∧ task.IsNew) := by
  have grows (adds : AddsTasks system.world.db (system.exec operation).world.db) :
      system.world.db.task taskId = some task ∨ (system.world.db.task taskId = none ∧ task.IsNew) := by
    cases before : system.world.db.task taskId with
    | none => exact Or.inr ⟨rfl, adds.fresh taskId task reached before⟩
    | some stored => exact Or.inl ((adds.kept taskId stored before).symm.trans reached)
  have allows := allowsTasks_addsTasks
  cases operation with
  | sync work => exact grows (keeps_sync allows work _)
  | rpc ctx answers request => exact grows (keeps_request allows.toEdits ctx answers request _)
  | vfs cacheDir answers callback =>
      exact grows (keeps_callback allows.toEdits allowsCallbacks_addsTasks cacheDir answers callback system.world)
  | event path isDir kind folders now runs => exact grows (keeps_watch allows path isDir kind folders now runs _)
  | engine step => exact Or.inl ((leavesOthers_engine system step idle).symm.trans reached)
  | user path file => exact Or.inl reached

/-- The download that is fetched after a task was begun is the download of that task. -/
theorem task_of_beginTask {answers : TaskAnswers} {task : SyncTask} {world : World} {download : Download}
    (answered : outcome (beginTask answers task) world = .ok (.fetched download)) :
    download.task = task ∧ task.id = some download.taskId := by
  rw [beginTask] at answered
  split at answered
  · rcases outcome_bind_eq_ok_iff.mp answered with ⟨started, begun, rest⟩
    cases started with
    | none => cases rest
    | some begunDownload =>
        have from_ := startDownload_of_ok begun
        dsimp only at rest
        rw [outcome_bind_of_ok (outcome_observe _ _)] at rest
        split at rest
        · rcases outcome_bind_eq_ok_iff.mp rest with ⟨_, _, idle⟩
          cases idle
        · cases rest
          exact ⟨from_.same, from_.identified⟩
  · split at answered
    · rw [beginDelete] at answered
      split at answered
      · rcases outcome_bind_eq_ok_iff.mp answered with ⟨_, _, rest⟩
        rcases outcome_bind_eq_ok_iff.mp rest with ⟨_, _, removing⟩
        cases removing
      · rcases outcome_bind_eq_ok_iff.mp answered with ⟨_, _, idle⟩
        cases idle
    · rcases outcome_bind_eq_ok_iff.mp answered with ⟨_, _, idle⟩
      cases idle

/-! ## Runs -/

/-- The task of which an operation handles a failure. -/
def failureOf (system : System) : Operation → Option Nat
  | .engine step => if failures.after system step 0 = 0 then none else busyTask system (.engine step)
  | _ => none

/-- How many failures of a task a run from the first start handles. -/
def handledFailures (taskId : Nat) (operations : List Operation) : Nat :=
  (notes System.exec failureOf operations System.initial).count taskId

/-- The failures that were handled are accounted for in the queue, and the engine has fetched a download
for a task whose count is still the one it knows. -/
structure Budgeted (noted : List Nat) (system : System) : Prop where
  runs : InFlightRuns system
  stored : ∀ taskId task, system.world.db.task taskId = some task → (standing task).Within (noted.count taskId)
  absent : ∀ taskId, system.world.db.task taskId = none → noted.count taskId = 0
  known : ∀ download task, system.engine = .fetched download → system.world.db.task download.taskId = some task →
    task.retryCount = download.task.retryCount

omit [Rfc3339] in
theorem budgeted_initial : Budgeted [] System.initial where
  runs := inFlightRuns_initial
  stored _ _ found := by cases found
  absent _ _ := rfl
  known _ _ fetched _ := by cases fetched

/-- The standing of a task after the step of the engine that works on it. -/
theorem Budgeted.after {noted : List Nat} {step : EngineStep} {taskId : Nat} {task : SyncTask}
    (budgeted : Budgeted noted system) (busy : busyTask system (.engine step) = some taskId)
    (found : system.world.db.task taskId = some task) :
    Standing.After task (noted.count taskId) (standingView.after system step (standing task))
      (failures.after system step 0) := by
  have within := budgeted.stored taskId task found
  have open_ : task.status ≠ .failed := by
    intro failed
    rcases busyTask_cases busy with flying | ⟨_, _, begun, _, _, next, identified⟩
    · have running := budgeted.runs taskId flying
      rw [HasStatus, found, Option.map_some, failed] at running
      cases running
    · have waits := hasStatus_of_next next identified
      rw [HasStatus, found, Option.map_some, failed] at waits
      cases waits
  have counted : ((noted.count taskId : Nat) : Int) = task.retryCount := by
    rw [within.counted, standing, if_neg open_, Int.add_zero]
  have together := budgetTogether counted within.atMost
  have running : (standing task).status ≠ .failed ∧ (standing task).retryCount = task.retryCount ∧ 0 = 0 :=
    ⟨open_, rfl, rfl⟩
  rcases system with ⟨world, engine⟩
  cases engine with
  | idle =>
      cases step with
      | begin picks answers =>
          rcases Option.bind_eq_some_iff.mp busy with ⟨begun, next, identified⟩
          rcases Database.of_nextPending next with ⟨number, numbered, stored, _⟩
          cases identified.symm.trans numbered
          cases stored.symm.trans found
          cases picks with
          | true =>
              simp only [Marking.after, next]
              exact together.beginTask answers world running
          | false => exact together.ends _ _ running
      | _ => cases busy
  | fetched download =>
      cases step with
      | land answers =>
          cases busy
          have same := budgeted.known download task rfl found
          rw [same] at counted
          have atMost : download.task.retryCount ≤ maxRetries := same ▸ within.atMost
          have ended := @Together.landFetched _ _ _ _ _ _ _ (budgetTogether counted atMost) (standing task) 0 answers
            world ⟨open_, same, rfl⟩
          exact ⟨ended.within, ended.once, fun status => (ended.waits status).trans same.symm⟩
      | _ => cases busy
  | landed download =>
      cases step with
      | record answers => exact together.closed _ running
      | _ => cases busy
  | removing delete =>
      cases step with
      | removeCopy answers => exact together.ends _ _ running
      | _ => cases busy
  | removed delete =>
      cases step with
      | recordDelete answers => exact together.closed _ running
      | _ => cases busy

/-- The stored task after the step of the engine that works on it. -/
theorem Budgeted.reached {noted : List Nat} {step : EngineStep} {taskId : Nat} {task after : SyncTask}
    (budgeted : Budgeted noted system) (busy : busyTask system (.engine step) = some taskId)
    (found : system.world.db.task taskId = some task) (reached : (step.exec system).world.db.task taskId = some after) :
    Standing.After task (noted.count taskId) (standing after) (failures.after system step 0) := by
  have has : HasView standingView taskId (standing task) system.world := congrArg (Option.map standing) found
  have left := hasView_exec has busy
  rw [HasView, reached, Option.map_some] at left
  rw [show standing after = standingView.after system step (standing task) from Option.some.inj left]
  exact budgeted.after busy found

omit [Rfc3339] in
/-- A task that the engine works on is stored. -/
theorem Budgeted.present {noted : List Nat} {operation : Operation} {taskId : Nat} (budgeted : Budgeted noted system)
    (busy : busyTask system operation = some taskId) : ∃ task, system.world.db.task taskId = some task := by
  rcases busyTask_cases busy with flying | ⟨_, _, begun, _, _, next, identified⟩
  · rcases Option.map_eq_some_iff.mp (budgeted.runs taskId flying) with ⟨task, found, _⟩
    exact ⟨task, found⟩
  · rcases Database.of_nextPending next with ⟨number, numbered, stored, _⟩
    cases identified.symm.trans numbered
    exact ⟨begun, stored⟩

/-- A fetched download knows the count of its task, also after a step of the engine. -/
theorem Budgeted.known_engine {noted : List Nat} {step : EngineStep} {download : Download} {after : SyncTask}
    (budgeted : Budgeted noted system) (fetched : (step.exec system).engine = .fetched download)
    (reached : (step.exec system).world.db.task download.taskId = some after) :
    after.retryCount = download.task.retryCount := by
  have runs := inFlightRuns_engine budgeted.runs step
  have does := step.does system
  generalize next : step.exec system = later at does fetched reached runs
  cases does with
  | nothing => exact budgeted.known download after fetched reached
  | restart => cases fetched
  | @begin picks answers task taskId picked idle first identified =>
      have running := runs download.taskId (by rw [fetched]; rfl)
      have answered : outcome (beginTask answers task) system.world = .ok (.fetched download) := by
        rw [settle] at fetched
        dsimp only at fetched
        split at fetched
        · next engine ended => rw [ended, fetched]
        · cases fetched
      rcases task_of_beginTask answered with ⟨same, numbered⟩
      rcases Database.of_nextPending first with ⟨number, also, stored, _⟩
      cases numbered.symm.trans also
      have busy : busyTask system (.engine (.begin picks answers)) = some download.taskId := by
        simp only [busyTask, idle, first, Option.bind_some, numbered]
      rw [← next] at reached running
      have ended := budgeted.reached busy stored reached
      rw [HasStatus, reached, Option.map_some] at running
      rw [same]
      exact ended.waits (Option.some.inj running)
  | @land answers other engine =>
      rw [settle] at fetched
      dsimp only at fetched
      split at fetched
      · next landed ended =>
          rw [fetched] at ended
          rcases of_outcome_landFetched ended with impossible | impossible
          · cases impossible
          · cases impossible
      · cases fetched
  | record engine => cases fetched
  | removeCopy engine => cases fetched
  | recordDelete engine => cases fetched

/-- What is handled for a task is handled by the engine working on it. -/
theorem busy_of_failureOf {operation : Operation} {taskId : Nat} (failed : failureOf system operation = some taskId) :
    busyTask system operation = some taskId := by
  cases operation with
  | engine step =>
      rw [failureOf] at failed
      split at failed
      · cases failed
      · exact failed
  | _ => cases failed

/-- The notes about a task that an operation does not work on stay as many. -/
theorem count_of_not_busy {noted : List Nat} {operation : Operation} {taskId : Nat}
    (idle : busyTask system operation ≠ some taskId) :
    (noted ++ (failureOf system operation).toList).count taskId = noted.count taskId := by
  rw [List.count_append]
  cases failed : failureOf system operation with
  | none => rfl
  | some other =>
      have different : other ≠ taskId := by
        intro same
        rw [same] at failed
        exact idle (busy_of_failureOf failed)
      rw [Option.toList_some, List.count_singleton, if_neg (by simpa using different), Nat.add_zero]

theorem count_of_busy {noted : List Nat} {step : EngineStep} {taskId : Nat}
    (busy : busyTask system (.engine step) = some taskId) (once : failures.after system step 0 ≤ 1) :
    (noted ++ (failureOf system (.engine step)).toList).count taskId =
      noted.count taskId + failures.after system step 0 := by
  rw [List.count_append, failureOf]
  split
  · next none =>
      rw [none]
      rfl
  · next some =>
      have one : failures.after system step 0 = 1 := by omega
      rw [busy, one, Option.toList_some, List.count_singleton_self]

/-- An operation leaves the failures accounted for. -/
theorem budgeted_exec {noted : List Nat} {operation : Operation} (budgeted : Budgeted noted system) :
    Budgeted (noted ++ (failureOf system operation).toList) (system.exec operation) := by
  have proceeds := proceeds_exec system operation
  constructor
  · exact inFlightRuns_exec budgeted.runs operation
  · intro taskId after reached
    by_cases busy : busyTask system operation = some taskId
    · cases operation with
      | engine step =>
          rcases budgeted.present busy with ⟨task, found⟩
          have ended := budgeted.reached busy found reached
          rw [count_of_busy busy ended.once]
          exact ended.within
      | _ => cases busy
    · rw [count_of_not_busy busy]
      rcases of_task_exec busy reached with before | ⟨absent, new⟩
      · exact budgeted.stored taskId after before
      · rw [budgeted.absent taskId absent]
        have open_ : after.status ≠ .failed := by
          rw [new.pending]
          decide
        constructor
        · exact Int.le_of_eq new.untried.symm
        · change after.retryCount ≤ maxRetries
          rw [new.untried]
          decide
        · rw [standing, if_neg open_, new.untried]
          rfl
        · exact fun failed => absurd failed open_
  · intro taskId gone
    have absent : system.world.db.task taskId = none := by
      cases before : system.world.db.task taskId with
      | none => rfl
      | some task =>
          rcases proceeds.tasks.kept taskId task before with ⟨after, reached, _⟩
          rw [gone] at reached
          cases reached
    have idle : busyTask system operation ≠ some taskId := by
      intro busy
      rcases budgeted.present busy with ⟨task, found⟩
      rw [absent] at found
      cases found
    rw [count_of_not_busy idle]
    exact budgeted.absent taskId absent
  · intro download after fetched reached
    have stays (rests : busyTask system operation = none) (same : (system.exec operation).engine = system.engine) :
        after.retryCount = download.task.retryCount := by
      rw [same] at fetched
      rcases Option.map_eq_some_iff.mp (budgeted.runs download.taskId (by rw [fetched]; rfl)) with ⟨task, found, _⟩
      rcases proceeds.tasks.kept download.taskId task found with ⟨kept, there, _, unchanged⟩
      rw [there] at reached
      rw [← Option.some.inj reached, unchanged (by rw [rests]; exact fun impossible => by cases impossible)]
      exact budgeted.known download task fetched found
    cases operation with
    | engine step => exact budgeted.known_engine fetched reached
    | sync work => exact stays rfl rfl
    | rpc ctx answers request => exact stays rfl rfl
    | vfs cacheDir answers callback => exact stays rfl rfl
    | event path isDir kind folders now executes => exact stays rfl rfl
    | user path file => exact stays rfl rfl

theorem budgeted_run (operations : List Operation) :
    Budgeted (notes System.exec failureOf operations System.initial) (run System.exec operations System.initial) := by
  have preserved (noted : List Nat) (system : System) (operation : Operation) (budgeted : Budgeted noted system) :
      Budgeted (noted ++ (failureOf system operation).toList) (system.exec operation) := budgeted_exec budgeted
  exact run_with_notes preserved budgeted_initial operations

/-! ## Closed tasks -/

/-- The task is stored like this, and what the engine is in the middle of is in progress. -/
def ClosedAs (taskId : Nat) (task : SyncTask) (system : System) : Prop :=
  system.world.db.task taskId = some task ∧ InFlightRuns system

/-- Nothing changes a completed or failed task. -/
theorem closedAs_exec {taskId : Nat} {task : SyncTask} (final_ : task.status = .completed ∨ task.status = .failed)
    {operation : Operation} (closed_ : ClosedAs taskId task system) :
    ClosedAs taskId task (system.exec operation) := by
  rcases closed_ with ⟨found, runs⟩
  have idle : busyTask system operation ≠ some taskId := by
    intro busy
    rcases busyTask_cases busy with flying | ⟨_, _, begun, _, _, next, identified⟩
    · have running := runs taskId flying
      rw [HasStatus, found, Option.map_some, Option.some.injEq] at running
      rw [running] at final_
      exact absurd final_ (by decide)
    · have waits := hasStatus_of_next next identified
      rw [HasStatus, found, Option.map_some, Option.some.injEq] at waits
      rw [waits] at final_
      exact absurd final_ (by decide)
  rcases (proceeds_exec system operation).tasks.kept taskId task found with ⟨after, reached, _, same⟩
  rw [same idle] at reached
  exact ⟨reached, inFlightRuns_exec runs operation⟩

/-- What the queue keeps of the budgets in the run that has carried out these operations. -/
structure KeepsBudgets (operations : List Operation) : Prop where
  bounded : ∀ taskId task, (run System.exec operations System.initial).world.db.task taskId = some task →
    0 ≤ task.retryCount ∧ task.retryCount ≤ 3
  handled : ∀ taskId, handledFailures taskId operations ≤ 4
  fails : ∀ taskId task, (run System.exec operations System.initial).world.db.task taskId = some task →
    (task.status = .failed ↔ handledFailures taskId operations = 4)
  stays : ∀ taskId task, (run System.exec operations System.initial).world.db.task taskId = some task →
    task.status = .completed ∨ task.status = .failed → ∀ later,
      (run System.exec (operations ++ later) System.initial).world.db.task taskId = some task ∧
      ∀ picks next, outcome (nextPendingTask picks)
        (run System.exec (operations ++ later) System.initial).world.db = .ok (some next) → next.id ≠ some taskId

/-- Every run keeps the retry counts between 0 and 3, handles at most four failures of a task, marks it
as failed exactly at the fourth, and never takes or changes a completed or failed task again. -/
theorem retries_bounded (operations : List Operation) : KeepsBudgets operations := by
  have budgeted := budgeted_run operations
  constructor
  · intro taskId task found
    have within := budgeted.stored taskId task found
    exact ⟨within.atLeast, within.atMost⟩
  · intro taskId
    cases found : (run System.exec operations System.initial).world.db.task taskId with
    | none =>
        rw [handledFailures, budgeted.absent taskId found]
        decide
    | some task =>
        have within := budgeted.stored taskId task found
        have counted := within.counted
        have atMost : (standing task).retryCount ≤ 3 := within.atMost
        rw [handledFailures]
        split at counted
        · omega
        · omega
  · intro taskId task found
    have within := budgeted.stored taskId task found
    have counted := within.counted
    have atMost : (standing task).retryCount ≤ 3 := within.atMost
    rw [handledFailures]
    constructor
    · intro failed
      have last : (standing task).retryCount = 3 := within.last failed
      rw [if_pos (show (standing task).status = .failed from failed)] at counted
      omega
    · intro four
      by_contra open_
      rw [if_neg (show (standing task).status ≠ .failed from open_)] at counted
      omega
  · intro taskId task found final_ later
    have closed_ : ClosedAs taskId task (run System.exec (operations ++ later) System.initial) := by
      rw [run_append]
      exact run_preserves (fun _ _ closed_ => closedAs_exec final_ closed_) ⟨found, budgeted.runs⟩ later
    refine ⟨closed_.1, ?_⟩
    intro picks next answered same
    rw [nextPendingTask, outcome_select] at answered
    split at answered
    · have waits := hasStatus_of_next (Except.ok.inj answered) same
      rw [HasStatus, closed_.1, Option.map_some, Option.some.injEq] at waits
      rw [waits] at final_
      exact absurd final_ (by decide)
    · cases answered

end Steps

end Queue
end GDriver
