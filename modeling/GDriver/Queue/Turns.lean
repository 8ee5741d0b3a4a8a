import GDriver.Library.Run
import GDriver.Library.Serving
import GDriver.Queue.Order
import GDriver.Queue.Status
import GDriver.Sync.Loop
import GDriver.System

namespace GDriver
namespace Queue

open Library Routine Db Api Sync

/-!
# The turns of one call

One call of the engine serves the first of the waiting line in each of its turns.  A
task whose status has changed leaves the line.  A task without a client stays where
it is, and so does one that is queued again for another attempt: it is served again in
the next turn, and everybody behind it waits.
-/

/-- Only the account of a task decides whether there is a client for it. -/
def withClients (clients : String → Bool) (answers : PendingAnswers) : PendingAnswers where
  picks := answers.picks
  tasks turn task := { answers.tasks turn task with hasClient := clients task.accountId }

section Turns

variable [Rfc3339]

/-- The tasks that are taken, turn by turn. -/
def takenTasks : Nat → PendingAnswers → World → List SyncTask
  | 0, _, _ => []
  | turns + 1, answers, world =>
      match outcome (onDb (nextPendingTask (answers.picks 0))) world with
      | .ok (some task) =>
          task :: takenTasks turns answers.later (final (processTask (answers.tasks 0 task) task) world)
      | _ => []

/-- Whether the task that is taken leaves the line, turn by turn: whether its status is
another one after its processing. -/
def departures : Nat → PendingAnswers → World → List Bool
  | 0, _, _ => []
  | turns + 1, answers, world =>
      match outcome (onDb (nextPendingTask (answers.picks 0))) world with
      | .ok (some task) =>
          decide (taskStatus (answers.tasks 0 task) task world ≠ .pending) ::
            departures turns answers.later (final (processTask (answers.tasks 0 task) task) world)
      | _ => []

/-- Every pending task with a client is taken by one call. -/
def AttemptsAll (clients : String → Bool) (answers : PendingAnswers) (world : World) : Prop :=
  ∀ task, Waits world.db task → clients task.accountId = true →
    ∃ taken ∈ takenTasks 10 (withClients clients answers) world, taken.id = task.id

/-- Process tasks one after the other. -/
def processAll : PendingAnswers → List SyncTask → World → World
  | _, [], world => world
  | answers, task :: rest, world =>
      processAll answers.later rest (final (processTask (answers.tasks 0 task) task) world)

/-- No processor stops the loop: its error is logged only. -/
theorem outcome_processTask (answers : TaskAnswers) (task : SyncTask) (world : World) :
    outcome (processTask answers task) world = .ok () := by
  have unknown : outcome (processUnknown answers task) world = .ok () := by
    rw [processUnknown]
    cases task.id with
    | none => rfl
    | some taskId => exact (outcome_onDb _ world).trans (outcome_attempt _ _)
  have upload : outcome (processUpload answers task) world = .ok () := by
    rw [processUpload]
    split
    · next fileId localPath _ _ =>
        rw [outcome_bind_of_ok (outcome_observe _ _)]
        cases outcome (checkAndResolve answers.conflict task fileId localPath) world with
        | error failure => exact outcome_attempt _ _
        | ok resolved =>
            cases resolved with
            | true => exact outcome_pure _ _
            | false => exact outcome_attempt _ _
    · exact outcome_attempt _ _
  rw [processTask]
  cases task.operation with
  | upload =>
      cases answers.hasClient with
      | true => exact upload
      | false => exact outcome_pure _ _
  | download => cases answers.hasClient <;> rfl
  | photosBackup => cases answers.hasClient <;> rfl
  | delete => cases answers.hasClient <;> rfl
  | rename => exact unknown
  | move => exact unknown

/-- A call does what the processing of the tasks it takes does. -/
theorem final_processTurns (turns : Nat) (answers : PendingAnswers) (world : World) :
    final (processTurns turns answers) world =
      processAll answers (takenTasks turns answers world) world := by
  induction turns generalizing answers world with
  | zero => rfl
  | succ turns inductionHypothesis =>
      have stays : final (onDb (nextPendingTask (answers.picks 0))) world = world := by
        rw [final_onDb, nextPendingTask, final_select]
        rfl
      rw [processTurns, final_bind_of_ok (outcome_observe _ _), final_observe, stays, takenTasks]
      cases outcome (onDb (nextPendingTask (answers.picks 0))) world with
      | error failure => rfl
      | ok next =>
          cases next with
          | none => rfl
          | some task =>
              exact (final_bind_of_ok (outcome_processTask _ _ _) _).trans (inductionHypothesis _ _)

/-! ## One turn -/

/-- The tasks with other numbers are the same. -/
def LeavesOthers (taskId : Nat) (world later : World) : Prop :=
  ∀ other, other ≠ taskId → later.db.task other = world.db.task other

omit [Rfc3339] in
instance (taskId : Nat) : IsPreorder World (LeavesOthers taskId) where
  refl _ _ _ := rfl
  trans _ _ _ one two other different := (two other different).trans (one other different)

omit [Rfc3339] in
theorem allowsStoring_leavesOthers (taskId : Nat) : AllowsStoring taskId (LeavesOthers taskId) where
  disk _ _ _ _ _ := rfl
  send _ _ _ _ _ := rfl
  task world change keeps _ _ different := Database.task_updateTask_of_ne world.db different change keeps
  error _ _ _ _ := rfl
  rows _ _ _ _ := rfl
  drive _ _ _ _ := rfl

section Turn

variable {answers : TaskAnswers} {task : SyncTask} {taskId : Nat} {world : World}
  (identified : task.id = some taskId) (stored : world.db.task taskId = some task)
  (pending : task.status = .pending)
include identified stored pending

/-- A turn leaves its task stored in the status computed for it, asking for the same, and
all other tasks as they are. -/
theorem task_after_turn :
    ∃ after, (final (processTask answers task) world).db.task taskId = some after ∧
      task.AsksSame after ∧ after.status = taskStatus answers task world := by
  have proceeds : Proceeds (some taskId) world (final (processTask answers task) world) :=
    keeps_processTask identified (allowsStoring_proceeds taskId) answers world
  have waits : HasStatus taskId .pending world := by
    rw [HasStatus, stored, Option.map_some, pending]
  have status := hasStatus_processTask identified waits answers
  rcases proceeds.tasks.kept taskId task stored with ⟨after, reached, asks, _⟩
  rw [HasStatus, reached, Option.map_some] at status
  exact ⟨after, reached, asks, Option.some.inj status⟩

/-- After a turn the other tasks wait as before, and its own exactly if it is pending
again. -/
theorem waits_after_turn {other : SyncTask} :
    Waits (final (processTask answers task) world).db other ↔
      (other.id ≠ some taskId ∧ Waits world.db other) ∨
        (other.id = some taskId ∧ taskStatus answers task world = .pending ∧
          (final (processTask answers task) world).db.task taskId = some other) := by
  have others : LeavesOthers taskId world (final (processTask answers task) world) :=
    keeps_processTask identified (allowsStoring_leavesOthers taskId) answers world
  rcases @task_after_turn _ answers task taskId world identified stored pending with
    ⟨after, reached, _, status⟩
  constructor
  · rintro ⟨otherId, found, waits⟩
    by_cases same : otherId = taskId
    · subst same
      refine Or.inr ⟨Database.id_of_task found, ?_, found⟩
      rw [reached] at found
      rw [← status, Option.some.inj found, waits]
    · refine Or.inl ⟨?_, otherId, (others otherId same).symm.trans found, waits⟩
      rw [Database.id_of_task found]
      exact fun equal => same (Option.some.inj equal)
  · rintro (⟨different, otherId, found, waits⟩ | ⟨_, again, found⟩)
    · refine ⟨otherId, (others otherId ?_).trans found, waits⟩
      intro same
      rw [← same] at different
      exact different (Database.id_of_task found)
    · refine ⟨taskId, found, ?_⟩
      rw [reached] at found
      rw [← Option.some.inj found, status, again]

/-- A turn takes its task out of the waiting line, or puts it back to the place where it
was. -/
theorem servingOrder_after_turn {rest : List SyncTask} (line : servingOrder world.db = task :: rest) :
    ∃ again, again.id = task.id ∧ task.AsksSame again ∧
      servingOrder (final (processTask answers task) world).db =
        if taskStatus answers task world ≠ .pending then rest else again :: rest := by
  rcases @task_after_turn _ answers task taskId world identified stored pending with
    ⟨again, reached, asks, status⟩
  have number : again.id = task.id := by
    rw [Database.id_of_task reached, identified]
  have distinct : (task :: rest).Nodup := line ▸ nodup_servingOrder world.db
  have ordered : (task :: rest).Pairwise ServedBefore := line ▸ pairwise_servingOrder world.db
  rcases List.nodup_cons.mp distinct with ⟨once, others⟩
  rcases List.pairwise_cons.mp ordered with ⟨before, later⟩
  have waiting (other : SyncTask) : other ∈ task :: rest ↔ Waits world.db other := by
    rw [← line]
    exact mem_servingOrder_iff
  -- The other tasks of the line are those with other numbers.
  have remain (other : SyncTask) : other ∈ rest ↔ other.id ≠ some taskId ∧ Waits world.db other := by
    constructor
    · intro member
      have waits := (waiting other).mp (List.mem_cons_of_mem _ member)
      refine ⟨?_, waits⟩
      intro same
      have equal := waits.eq_of_number ((waiting task).mp List.mem_cons_self)
        (by rw [same, identified])
      exact once (equal ▸ member)
    · rintro ⟨different, waits⟩
      rcases List.mem_cons.mp ((waiting other).mpr waits) with same | member
      · rw [same] at different
        exact absurd identified different
      · exact member
  refine ⟨again, number, asks, ?_⟩
  split
  · next leaves =>
      refine servingOrder_eq others later fun other => ?_
      rw [waits_after_turn identified stored pending, remain other]
      constructor
      · exact Or.inl
      · rintro (other | ⟨_, stays, _⟩)
        · exact other
        · exact absurd stays leaves
  · next stays =>
      have absent : again ∉ rest := by
        intro member
        exact ((remain again).mp member).1 (number.trans identified)
      have first : ∀ other ∈ rest, ServedBefore again other := by
        intro other member
        have same := before other member
        simp only [ServedBefore, asks.priority, asks.createdAt, number] at same ⊢
        exact same
      refine servingOrder_eq (List.nodup_cons.mpr ⟨absent, others⟩)
        (List.pairwise_cons.mpr ⟨first, later⟩) fun other => ?_
      rw [waits_after_turn identified stored pending, List.mem_cons, remain other, reached]
      constructor
      · rintro (same | other)
        · rw [same]
          exact Or.inr ⟨number.trans identified, not_not.mp stays, rfl⟩
        · exact Or.inl other
      · rintro (other | ⟨_, _, same⟩)
        · exact Or.inr other
        · exact Or.inl (Option.some.inj same).symm

end Turn

/-! ## All turns of a call -/

omit [Rfc3339] in
theorem outcome_nextPendingTask (runs : Bool) (world : World) :
    outcome (onDb (nextPendingTask runs)) world =
      if runs then .ok (servingOrder world.db).head? else .error databaseError := by
  rw [outcome_onDb, nextPendingTask, outcome_select, nextPending_eq]

/-- The tasks that are taken are those served in a line in which those leave whose status
is another one after their processing. -/
theorem ids_takenTasks (turns : Nat) (answers : PendingAnswers) (world : World) :
    (takenTasks turns answers world).map SyncTask.id =
      served (departures turns answers world) ((servingOrder world.db).map SyncTask.id) := by
  induction turns generalizing answers world with
  | zero => rfl
  | succ turns inductionHypothesis =>
      rw [takenTasks, departures, outcome_nextPendingTask]
      cases answers.picks 0 with
      | false => rfl
      | true =>
          cases line : servingOrder world.db with
          | nil => rfl
          | cons task rest =>
              rcases of_servingOrder_cons line with ⟨taskId, stored, pending, identified⟩
              rcases @servingOrder_after_turn _ (answers.tasks 0 task) task taskId world identified
                stored pending rest line with ⟨again, number, _, after⟩
              rw [if_pos rfl, List.head?_cons, List.map_cons, List.map_cons, served,
                inductionHypothesis, after]
              by_cases leaves : taskStatus (answers.tasks 0 task) task world ≠ .pending
              · rw [if_pos leaves, if_pos (decide_eq_true leaves)]
              · rw [if_neg leaves, if_neg (by rw [decide_eq_true_iff]; exact leaves), List.map_cons,
                  number]

/-- Every pending task with a client is taken exactly if, in the turns of the call, enough
tasks leave the waiting line before it. -/
theorem attemptsAll_iff (clients : String → Bool) (answers : PendingAnswers) (world : World) :
    AttemptsAll clients answers world ↔
      ∀ position task, (servingOrder world.db)[position]? = some task →
        clients task.accountId = true →
          position < reach (departures 10 (withClients clients answers) world) := by
  have taken (task : SyncTask) :
      (∃ taken ∈ takenTasks 10 (withClients clients answers) world, taken.id = task.id) ↔
        ∃ position < reach (departures 10 (withClients clients answers) world),
          ((servingOrder world.db).map SyncTask.id)[position]? = some task.id := by
    rw [← mem_served_iff, ← ids_takenTasks, List.mem_map]
  constructor
  · intro attempts position task found client
    have waits := mem_servingOrder_iff.mp (List.mem_of_getElem? found)
    rcases (taken task).mp (attempts task waits client) with ⟨other, within, same⟩
    rw [List.getElem?_map] at same
    rcases Option.map_eq_some_iff.mp same with ⟨served, there, number⟩
    have equal : served = task :=
      (mem_servingOrder_iff.mp (List.mem_of_getElem? there)).eq_of_number waits
        (congrArg (fun id => id.getD 0) number)
    subst equal
    have length := (List.getElem?_eq_some_iff.mp found).1
    rw [(List.getElem?_inj length (nodup_servingOrder world.db)).mp (found.trans there.symm)]
    exact within
  · intro within task waits client
    rcases List.mem_iff_getElem?.mp (mem_servingOrder_iff.mpr waits) with ⟨position, found⟩
    refine (taken task).mpr ⟨position, within position task found client, ?_⟩
    rw [List.getElem?_map, found]
    rfl

/-! ## Blocked lines -/

/-- The operations that the engine cannot do without a client. -/
def NeedsClient (task : SyncTask) : Prop :=
  task.operation ≠ .rename ∧ task.operation ≠ .move

theorem taskStatus_of_no_client {answers : TaskAnswers} {task : SyncTask} (needs : NeedsClient task)
    (missing : answers.hasClient = false) (world : World) : taskStatus answers task world = .pending := by
  rw [taskStatus, missing]
  cases operation : task.operation with
  | upload => rfl
  | download => rfl
  | photosBackup => rfl
  | delete => rfl
  | rename => exact absurd operation needs.1
  | move => exact absurd operation needs.2

/-- Nobody behind a task without a client is reached. -/
theorem reach_le_of_no_client {clients : String → Bool} (turns : Nat) (answers : PendingAnswers)
    (world : World) {position : Nat} {task : SyncTask}
    (found : (servingOrder world.db)[position]? = some task) (needs : NeedsClient task)
    (missing : clients task.accountId = false) :
    reach (departures turns (withClients clients answers) world) ≤ position + 1 := by
  induction turns generalizing answers world position task with
  | zero => exact Nat.zero_le _
  | succ turns inductionHypothesis =>
      rw [departures, outcome_nextPendingTask]
      cases (withClients clients answers).picks 0 with
      | false => exact Nat.zero_le _
      | true =>
          cases line : servingOrder world.db with
          | nil => exact Nat.zero_le _
          | cons head rest =>
              rw [line] at found
              rcases of_servingOrder_cons line with ⟨taskId, stored, pending, identified⟩
              rcases @servingOrder_after_turn _ ((withClients clients answers).tasks 0 head) head taskId
                world identified stored pending rest line with ⟨again, number, asks, after⟩
              rw [if_pos rfl, List.head?_cons, reach]
              by_cases leaves : taskStatus ((withClients clients answers).tasks 0 head) head world ≠ .pending
              · rw [if_pos leaves] at after
                rw [decide_eq_true leaves, Bool.toNat_true]
                cases position with
                | zero =>
                    cases Option.some.inj found
                    exact absurd (taskStatus_of_no_client needs missing world) leaves
                | succ position =>
                    have behind := inductionHypothesis answers.later
                      (final (processTask ((withClients clients answers).tasks 0 head) head) world)
                      (by rw [after]; exact found) needs missing
                    change max 1 (1 + reach (departures turns (withClients clients answers.later) _)) ≤ _
                    omega
              · rw [if_neg leaves] at after
                rw [decide_eq_false leaves, Bool.toNat_false]
                have behind : reach (departures turns (withClients clients answers.later)
                    (final (processTask ((withClients clients answers).tasks 0 head) head) world)) ≤
                      position + 1 := by
                  cases position with
                  | zero =>
                      cases Option.some.inj found
                      refine @inductionHypothesis answers.later _ 0 again ?_ ?_ ?_
                      · rw [after]
                        rfl
                      · rw [NeedsClient, asks.operation]
                        exact needs
                      · rw [asks.accountId]
                        exact missing
                  | succ position =>
                      refine inductionHypothesis answers.later _ ?_ needs missing
                      rw [after]
                      exact found
                change max 1 (0 + reach (departures turns (withClients clients answers.later) _)) ≤ _
                omega

/-- When every turn takes its task out of the line, a call has a turn for each of the first
tasks. -/
theorem length_departures {turns : Nat} {answers : PendingAnswers} {world : World}
    (picks : ∀ turn, answers.picks turn = true)
    (all : ∀ leaves ∈ departures turns answers world, leaves = true) :
    (departures turns answers world).length = min turns (servingOrder world.db).length := by
  induction turns generalizing answers world with
  | zero => exact (Nat.zero_min _).symm
  | succ turns inductionHypothesis =>
      rw [departures, outcome_nextPendingTask, picks 0] at all ⊢
      cases line : servingOrder world.db with
      | nil => rfl
      | cons task rest =>
          rcases of_servingOrder_cons line with ⟨taskId, stored, pending, identified⟩
          rcases @servingOrder_after_turn _ (answers.tasks 0 task) task taskId world identified
            stored pending rest line with ⟨again, _, _, after⟩
          rw [line, if_pos rfl, List.head?_cons] at all
          have leaves := of_decide_eq_true (all _ List.mem_cons_self)
          rw [if_pos leaves] at after
          rw [if_pos rfl, List.head?_cons, List.length_cons, List.length_cons,
            inductionHypothesis (fun turn => picks (turn + 1)) fun later member =>
              all later (List.mem_cons_of_mem _ member), after]
          omega

/-- At most ten tasks are all reached when every turn takes its task out of the line. -/
theorem length_le_reach {answers : PendingAnswers} {world : World}
    (few : (servingOrder world.db).length ≤ 10) (picks : ∀ turn, answers.picks turn = true)
    (all : ∀ leaves ∈ departures 10 answers world, leaves = true) :
    (servingOrder world.db).length ≤ reach (departures 10 answers world) := by
  rw [reach_of_all_leave all, length_departures picks all]
  omega

end Turns

/-! ## Two accounts -/

/-- ann@example.com and bob@example.com mirror a file each, ann first. -/
def mirrorsBoth : List Operation := [
  .sync (.connect true ⟨"ann@example.com", "ann@example.com", 0⟩),
  .sync (.listed true "ann@example.com" (Api.DriveFile.named "notes" "notes.txt")),
  .sync (.mirror (MirrorAnswers.allRun 9 1) "ann@example.com" "/mnt"),
  .sync (.connect true ⟨"bob@example.com", "bob@example.com", 0⟩),
  .sync (.listed true "bob@example.com" (Api.DriveFile.named "plans" "plans.txt")),
  .sync (.mirror (MirrorAnswers.allRun 9 2) "bob@example.com" "/mnt")]

/-- Every task can be fetched, and its download goes well if there is a client. -/
def downloadsAll : PendingAnswers where
  picks := fun _ => true
  tasks := fun _ _ => TaskAnswers.allRun ⟨none, .error "no upload", []⟩ ⟨[1], 10⟩ 5

/-- Two tasks are pending, and only the token of ann is not valid: in all ten turns the
engine takes the task of ann, and never that of bob. -/
theorem older_task_blocks_other_account :
    ¬ @AttemptsAll untimed (fun accountId => accountId = "bob@example.com") downloadsAll
      (run (@System.exec untimed) mirrorsBoth System.initial).world := by
  let mirrored := (run (@System.exec untimed) mirrorsBoth System.initial).world
  have taken : (@takenTasks untimed 10 (withClients (fun accountId => accountId = "bob@example.com")
      downloadsAll) mirrored).map SyncTask.id = List.replicate 10 (some 1) := by
    decide
  have waiting : (mirrored.db.task 2).map (fun task => (task.accountId, task.status)) =
      some ("bob@example.com", .pending) := by
    decide
  intro attempts
  rcases Option.map_eq_some_iff.mp waiting with ⟨task, stored, values⟩
  rcases Prod.ext_iff.mp values with ⟨account, pending⟩
  rcases attempts task ⟨2, stored, pending⟩ (decide_eq_true account) with ⟨other, member, number⟩
  have first : other.id ∈ List.replicate 10 (some 1) := by
    rw [← taken]
    exact List.mem_map_of_mem member
  rw [number, Database.id_of_task stored, List.mem_replicate] at first
  cases first.2

end Queue
end GDriver
