import GDriver.Queue.Turns

namespace GDriver
namespace Queue

open Library Routine Db Api Sync

/-!
# Attempts within one call

A task whose attempt has failed waits again at the place where it was, which is the first of
the line.  The next turn of the same call takes it again.
-/

/-- The number of failed attempts is looked at, and nothing else. -/
def retryView : TaskView Int where
  sees := SyncTask.retryCount
  mark _ retryCount := retryCount
  again _ retryCount _ := retryCount
  sees_mark _ _ _ _ := rfl
  sees_again _ _ _ _ _ := rfl

/-- One turn of a call: the task that is taken, what its processing meets, and the world then. -/
structure Turn where
  task : SyncTask
  answers : TaskAnswers
  world : World

/-- The turn attempts its task; without a client the task is only deferred. -/
def Turn.attempts (turn : Turn) : Bool :=
  turn.answers.hasClient || turn.task.operation = .rename || turn.task.operation = .move

section Turns

variable [Rfc3339]

/-- The turn leaves its task pending. -/
def Turn.leavesPending (turn : Turn) : Bool :=
  taskStatus turn.answers turn.task turn.world = .pending

/-- The turns of one call that take a task. -/
def turnsTaken : Nat → PendingAnswers → World → List Turn
  | 0, _, _ => []
  | turns + 1, answers, world =>
      match outcome (onDb (nextPendingTask (answers.picks 0))) world with
      | .ok (some task) =>
          ⟨task, answers.tasks 0 task, world⟩ ::
            turnsTaken turns answers.later (final (processTask (answers.tasks 0 task) task) world)
      | _ => []

/-- The numbers of the tasks that are attempted, turn by turn. -/
def attemptedIds (turns : Nat) (answers : PendingAnswers) (world : World) : List (Option Nat) :=
  ((turnsTaken turns answers world).filter Turn.attempts).map fun turn => turn.task.id

/-- A call attempts each task at most once, and raises its retry count by at most one. -/
structure OneAttempt (answers : PendingAnswers) (world : World) : Prop where
  once : (attemptedIds 10 answers world).Nodup
  raised : ∀ taskId before after, world.db.task taskId = some before →
    (final (processPendingTasks answers) world).db.task taskId = some after →
      after.retryCount ≤ before.retryCount + 1

/-- No turn attempts anything after an attempt has left its task pending. -/
def SettlesAttempts (answers : PendingAnswers) (world : World) : Prop :=
  (turnsTaken 10 answers world).Pairwise fun earlier later =>
    earlier.attempts = true → earlier.leavesPending = true → later.attempts = false

/-- The first of the line is taken. -/
theorem turnsTaken_of_line {turns : Nat} {answers : PendingAnswers} {world : World} {task : SyncTask}
    {rest : List SyncTask} (picks : answers.picks 0 = true) (line : servingOrder world.db = task :: rest) :
    turnsTaken (turns + 1) answers world =
      ⟨task, answers.tasks 0 task, world⟩ ::
        turnsTaken turns answers.later (final (processTask (answers.tasks 0 task) task) world) := by
  rw [turnsTaken, outcome_nextPendingTask, picks, if_pos rfl, line]
  rfl

/-- Nothing is taken when the next task cannot be fetched or nobody waits. -/
theorem turnsTaken_eq_nil {turns : Nat} {answers : PendingAnswers} {world : World}
    (nobody : answers.picks 0 = false ∨ servingOrder world.db = []) : turnsTaken turns answers world = [] := by
  cases turns with
  | zero => rfl
  | succ turns =>
      rw [turnsTaken, outcome_nextPendingTask]
      cases picks : answers.picks 0 with
      | false => rfl
      | true =>
          rcases nobody with impossible | line
          · rw [picks] at impossible
            cases impossible
          · rw [line]
            rfl

/-- The turns of a call, seen from the first: there is none, or it takes the first of the line. -/
theorem turnsTaken_cases (turns : Nat) (answers : PendingAnswers) (world : World) :
    turnsTaken (turns + 1) answers world = [] ∨
      ∃ task rest taskId, servingOrder world.db = task :: rest ∧ world.db.task taskId = some task ∧
        task.status = .pending ∧ task.id = some taskId ∧
        turnsTaken (turns + 1) answers world =
          ⟨task, answers.tasks 0 task, world⟩ ::
            turnsTaken turns answers.later (final (processTask (answers.tasks 0 task) task) world) := by
  cases picks : answers.picks 0 with
  | false => exact Or.inl (turnsTaken_eq_nil (Or.inl picks))
  | true =>
      cases line : servingOrder world.db with
      | nil => exact Or.inl (turnsTaken_eq_nil (Or.inr line))
      | cons task rest =>
          rcases of_servingOrder_cons line with ⟨taskId, stored, pending, identified⟩
          exact Or.inr ⟨task, rest, taskId, rfl, stored, pending, identified, turnsTaken_of_line picks line⟩

/-- A turn that only defers its task changes nothing. -/
theorem final_processTask_of_deferred {answers : TaskAnswers} {task : SyncTask} {world : World}
    (deferred : (Turn.mk task answers world).attempts = false) :
    final (processTask answers task) world = world ∧ taskStatus answers task world = .pending := by
  rw [Turn.attempts, Bool.or_eq_false_iff, Bool.or_eq_false_iff, decide_eq_false_iff_not,
    decide_eq_false_iff_not] at deferred
  rcases deferred with ⟨⟨client, renames⟩, moves⟩
  dsimp only at client renames moves
  rw [processTask, taskStatus, client]
  cases operation : task.operation with
  | upload => exact ⟨rfl, rfl⟩
  | download => exact ⟨rfl, rfl⟩
  | photosBackup => exact ⟨rfl, rfl⟩
  | delete => exact ⟨rfl, rfl⟩
  | rename => exact absurd operation renames
  | move => exact absurd operation moves

/-- The first of the line after its turn, when it stays there. -/
theorem line_after_turn {answers : TaskAnswers} {task : SyncTask} {taskId : Nat} {world : World}
    {rest : List SyncTask} (stored : world.db.task taskId = some task) (pending : task.status = .pending)
    (line : servingOrder world.db = task :: rest) :
    ∃ again, again.id = task.id ∧ servingOrder (final (processTask answers task) world).db =
      if (Turn.mk task answers world).leavesPending then again :: rest else rest := by
  rcases servingOrder_after_turn (Database.id_of_task stored) stored pending line with ⟨again, number, _, after⟩
  refine ⟨again, number, after.trans ?_⟩
  rw [Turn.leavesPending]
  by_cases stays : taskStatus answers task world = .pending
  · rw [if_neg (not_not.mpr stays), if_pos (decide_eq_true stays)]
  · rw [if_pos stays, if_neg (by rw [decide_eq_true_iff]; exact stays)]

/-- Every task that is taken was in the line. -/
theorem id_mem_line (turns : Nat) (answers : PendingAnswers) (world : World) :
    ∀ turn ∈ turnsTaken turns answers world, turn.task.id ∈ (servingOrder world.db).map SyncTask.id := by
  induction turns generalizing answers world with
  | zero =>
      intro turn member
      cases member
  | succ turns inductionHypothesis =>
      intro turn member
      rcases turnsTaken_cases turns answers world with none | ⟨task, rest, taskId, line, stored, pending, _, taken⟩
      · rw [none] at member
        cases member
      · rw [taken] at member
        rw [line, List.map_cons]
        rcases List.mem_cons.mp member with first | later
        · rw [first]
          exact List.mem_cons_self
        · rcases @line_after_turn _ (answers.tasks 0 task) _ _ _ _ stored pending line with ⟨again, number, after⟩
          have inside := inductionHypothesis _ _ turn later
          rw [after] at inside
          split at inside
          · rw [List.map_cons, number] at inside
            exact inside
          · exact List.mem_cons_of_mem _ inside

/-- Turns take the first of the line until it leaves, so it is attempted if anybody is. -/
theorem first_mem_attemptedIds {turns : Nat} {answers : PendingAnswers} {world : World} {first : SyncTask}
    {rest : List SyncTask} (line : servingOrder world.db = first :: rest)
    (attempted : ∃ turn ∈ turnsTaken turns answers world, turn.attempts = true) :
    first.id ∈ attemptedIds turns answers world := by
  induction turns generalizing answers world first with
  | zero =>
      rcases attempted with ⟨turn, member, _⟩
      cases member
  | succ turns inductionHypothesis =>
      rcases attempted with ⟨turn, member, attempts⟩
      rcases turnsTaken_cases turns answers world with none | ⟨task, others, taskId, same, stored, pending, _, taken⟩
      · rw [none] at member
        cases member
      · rw [line] at same
        cases same
        rw [attemptedIds, taken]
        rw [taken] at member
        cases now : (Turn.mk first (answers.tasks 0 first) world).attempts with
        | true =>
            rw [List.filter_cons_of_pos now]
            exact List.mem_cons_self
        | false =>
            rw [List.filter_cons_of_neg (by rw [now]; exact Bool.false_ne_true)]
            rcases final_processTask_of_deferred now with ⟨unchanged, _⟩
            rw [unchanged] at member ⊢
            apply inductionHypothesis line
            rcases List.mem_cons.mp member with here | later
            · rw [here, now] at attempts
              cases attempts
            · exact ⟨turn, later, attempts⟩

omit [Rfc3339] in
/-- No two tasks of the line have one number. -/
theorem nodup_ids (db : Database) : ((servingOrder db).map SyncTask.id).Nodup := by
  refine (List.nodup_map_iff_inj_on (nodup_servingOrder db)).mpr ?_
  intro task member other there same
  exact (mem_servingOrder_iff.mp member).eq_of_number (mem_servingOrder_iff.mp there)
    (congrArg (fun id => id.getD 0) same)

/-- The turns attempt nobody twice exactly if no attempt follows one that leaves its task pending. -/
theorem nodup_attemptedIds_iff (turns : Nat) (answers : PendingAnswers) (world : World) :
    (attemptedIds turns answers world).Nodup ↔
      (turnsTaken turns answers world).Pairwise fun earlier later =>
        earlier.attempts = true → earlier.leavesPending = true → later.attempts = false := by
  induction turns generalizing answers world with
  | zero => exact iff_of_true List.nodup_nil List.Pairwise.nil
  | succ turns inductionHypothesis =>
      rcases turnsTaken_cases turns answers world with none | ⟨task, rest, taskId, line, stored, pending, _, taken⟩
      · rw [attemptedIds, none]
        exact iff_of_true List.nodup_nil List.Pairwise.nil
      · have later := inductionHypothesis answers.later (final (processTask (answers.tasks 0 task) task) world)
        rcases @line_after_turn _ (answers.tasks 0 task) _ _ _ _ stored pending line with ⟨again, number, after⟩
        rw [attemptedIds, taken, List.pairwise_cons, ← later]
        cases now : (Turn.mk task (answers.tasks 0 task) world).attempts with
        | false =>
            rw [List.filter_cons_of_neg (by rw [now]; exact Bool.false_ne_true)]
            constructor
            · intro distinct
              exact ⟨fun _ _ impossible => (by cases impossible), distinct⟩
            · exact And.right
        | true =>
            rw [List.filter_cons_of_pos now, List.map_cons, List.nodup_cons]
            refine and_congr_left fun _ => ?_
            cases stays : (Turn.mk task (answers.tasks 0 task) world).leavesPending with
            | false =>
                -- The task has left the line, and is taken no more.
                refine iff_of_true ?_ fun _ _ _ impossible => by cases impossible
                intro member
                rcases List.mem_map.mp member with ⟨turn, filtered, same⟩
                have inside := id_mem_line _ _ _ turn (List.mem_filter.mp filtered).1
                rw [after, stays, if_neg Bool.false_ne_true, same] at inside
                have distinct := nodup_ids world.db
                rw [line, List.map_cons, List.nodup_cons] at distinct
                exact distinct.1 inside
            | true =>
                rw [stays, if_pos rfl] at after
                constructor
                · intro once turn member _ _
                  by_contra attempts
                  rw [Bool.not_eq_false] at attempts
                  have repeated := first_mem_attemptedIds after ⟨turn, member, attempts⟩
                  rw [number] at repeated
                  exact once repeated
                · intro none member
                  rcases List.mem_map.mp member with ⟨turn, filtered, _⟩
                  rcases List.mem_filter.mp filtered with ⟨inside, attempts⟩
                  rw [none turn inside rfl rfl] at attempts
                  cases attempts

/-! ## Retry counts -/

omit [Rfc3339] in
/-- A failure raises the retry count by one, and nothing else does. -/
theorem raisedByFailure (task : SyncTask) :
    Together retryView.toMarking retryView.toMarking task (fun retryCount _ => retryCount = task.retryCount)
      (fun retryCount _ => retryCount ≤ task.retryCount + 1) where
  marks _ _ _ _ same := same
  ends retryCount _ same := by
    rw [same]
    omega
  fails retryCount _ _ same := by
    change retryCount ≤ task.retryCount + 1
    rw [same]
    omega
  again _ _ _ _ := Int.le_refl _

/-- A turn raises the retry count of its task by at most one, and only by an attempt. -/
theorem retryCount_after_turn {answers : TaskAnswers} {task after : SyncTask} {taskId : Nat} {world : World}
    (stored : world.db.task taskId = some task)
    (reached : (final (processTask answers task) world).db.task taskId = some after) :
    after.retryCount ≤ task.retryCount + (if (Turn.mk task answers world).attempts then 1 else 0) := by
  cases attempts : (Turn.mk task answers world).attempts with
  | false =>
      rw [(final_processTask_of_deferred attempts).1, stored] at reached
      cases reached
      exact Int.le_add_of_nonneg_right (Int.le_refl 0)
  | true =>
      have seen : HasView retryView taskId task.retryCount world := by
        rw [HasView, stored]
        rfl
      have left := hasView_processTask (Database.id_of_task stored) seen answers
      rw [HasView, reached, Option.map_some] at left
      have bounded := @Together.processTask _ _ _ _ _ _ _
          (raisedByFailure task) task.retryCount task.retryCount _ answers
        world rfl
      have same : after.retryCount = retryView.processTask answers task world task.retryCount := Option.some.inj left
      rw [if_pos rfl, same]
      exact bounded

/-- A call goes on after a turn, and ends when there is none. -/
theorem final_processTurns_cases (turns : Nat) (answers : PendingAnswers) (world : World) :
    (turnsTaken (turns + 1) answers world = [] → final (processTurns (turns + 1) answers) world = world) ∧
      ∀ turn later, turnsTaken (turns + 1) answers world = turn :: later →
        final (processTurns (turns + 1) answers) world =
          final (processTurns turns answers.later) (final (processTask turn.answers turn.task) world) := by
  have stays : final (onDb (nextPendingTask (answers.picks 0))) world = world := by
    rw [final_onDb, nextPendingTask, final_select]
    rfl
  rw [processTurns, final_bind_of_ok (outcome_observe _ _), final_observe, stays, turnsTaken]
  cases outcome (onDb (nextPendingTask (answers.picks 0))) world with
  | error failure =>
      refine ⟨fun _ => rfl, ?_⟩
      intro turn later impossible
      cases impossible
  | ok next =>
      cases next with
      | none =>
          refine ⟨fun _ => rfl, ?_⟩
          intro turn later impossible
          cases impossible
      | some task =>
          refine ⟨fun impossible => (by cases impossible), ?_⟩
          intro turn later taken
          cases taken
          exact final_bind_of_ok (outcome_processTask _ _ _) _

/-- A call raises the retry count of a task at most as often as it attempts the task. -/
theorem retryCount_after_turns {turns : Nat} {answers : PendingAnswers} {world : World} {taskId : Nat}
    {before after : SyncTask} (stored : world.db.task taskId = some before)
    (reached : (final (processTurns turns answers) world).db.task taskId = some after) :
    after.retryCount ≤ before.retryCount + (attemptedIds turns answers world).count (some taskId) := by
  induction turns generalizing answers world before with
  | zero =>
      have same : before = after := Option.some.inj (stored.symm.trans reached)
      rw [same]
      exact Int.le_add_of_nonneg_right (Int.natCast_nonneg _)
  | succ turns inductionHypothesis =>
      rcases final_processTurns_cases turns answers world with ⟨ends, goesOn⟩
      rcases turnsTaken_cases turns answers world with none | ⟨task, rest, number, line, found, _, identified, taken⟩
      · rw [ends none, stored] at reached
        cases reached
        exact Int.le_add_of_nonneg_right (Int.natCast_nonneg _)
      · rw [goesOn _ _ taken] at reached
        have others : LeavesOthers number world (final (processTask (answers.tasks 0 task) task) world) :=
          keeps_processTask identified (allowsStoring_leavesOthers number) _ world
        have kept : Proceeds (some number) world (final (processTask (answers.tasks 0 task) task) world) :=
          keeps_processTask identified (allowsStoring_proceeds number) _ world
        rcases kept.tasks.kept taskId before stored with ⟨between, there, _, _⟩
        have later := inductionHypothesis there reached
        rw [attemptedIds, taken]
        by_cases itself : taskId = number
        · rw [itself] at stored there later ⊢
          cases stored.symm.trans found
          have raised := retryCount_after_turn found there
          cases now : (Turn.mk before (answers.tasks 0 before) world).attempts with
          | true =>
              rw [now, if_pos rfl] at raised
              rw [List.filter_cons_of_pos now, List.map_cons, List.count_cons, if_pos (by simpa using identified)]
              rw [attemptedIds] at later
              omega
          | false =>
              rw [now, if_neg Bool.false_ne_true] at raised
              rw [List.filter_cons_of_neg (by rw [now]; exact Bool.false_ne_true)]
              rw [attemptedIds] at later
              omega
        · have same : between = before := by
            have untouched := others taskId itself
            rw [there, stored] at untouched
            exact Option.some.inj untouched
          rw [same] at later
          refine later.trans ?_
          have more : (attemptedIds turns answers.later (final (processTask (answers.tasks 0 task) task) world)).count
                (some taskId) ≤
              (((⟨task, answers.tasks 0 task, world⟩ :: turnsTaken turns answers.later
                (final (processTask (answers.tasks 0 task) task) world)).filter Turn.attempts).map
                  fun turn => turn.task.id).count (some taskId) := by
            apply List.Sublist.count_le
            exact ((List.sublist_cons_self _ _).filter _).map _
          omega

/-- One call attempts every task at most once, and raises its retry count by at most one, exactly
if none of its turns attempts anything after an attempt that has left its task pending. -/
theorem oneAttempt_iff (answers : PendingAnswers) (world : World) :
    OneAttempt answers world ↔ SettlesAttempts answers world := by
  constructor
  · intro one
    exact (nodup_attemptedIds_iff 10 answers world).mp one.once
  · intro settles
    have once := (nodup_attemptedIds_iff 10 answers world).mpr settles
    refine ⟨once, ?_⟩
    intro taskId before after stored reached
    have raised := retryCount_after_turns stored reached
    have single := List.nodup_iff_count_le_one.mp once (some taskId)
    omega

end Turns

/-- A note is written to a watched folder of ann@example.com. -/
def noteWritten : List Operation := [
  .sync (.connect true ⟨"ann@example.com", "ann@example.com", 0⟩),
  .event "/docs/note.txt" false .create [⟨"/docs", "ann@example.com", "drive"⟩] 1 true]

/-- There is a client in every turn, every statement is executed, and no upload succeeds. -/
def uploadsNothing : PendingAnswers where
  picks := fun _ => true
  tasks := fun _ _ => TaskAnswers.allRun ⟨none, .error "no upload", []⟩ ⟨[1], 10⟩ 5

/-- One call attempts the note four times, and gives it up. -/
theorem call_uses_all_retries :
    ¬ @OneAttempt untimed uploadsNothing (run (@System.exec untimed) noteWritten System.initial).world ∧
      (((final (@processPendingTasks untimed uploadsNothing)
        (run (@System.exec untimed) noteWritten System.initial).world).db.task 1).map SyncTask.status =
          some .failed) := by
  have attempted : @attemptedIds untimed 10 uploadsNothing
      (run (@System.exec untimed) noteWritten System.initial).world = List.replicate 4 (some 1) := by
    decide
  refine ⟨fun one => ?_, by decide⟩
  have once := @OneAttempt.once untimed _ _ one
  rw [attempted] at once
  exact absurd once (by decide)

end Queue
end GDriver
