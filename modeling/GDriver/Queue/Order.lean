import GDriver.Db.Queue
import Mathlib.Data.List.Sort

namespace GDriver
namespace Queue

open Library Routine Db

/-!
# The order in which pending tasks are served

The next task is the pending one with the lowest priority number, the oldest of
these, and the one stored first among equally old ones.  The pending tasks in this
order form the waiting line of the engine.
-/

/-- One task is served before another: by priority, age and number. -/
def ServedBefore (first second : SyncTask) : Prop :=
  first.priority < second.priority ∨ (first.priority = second.priority ∧
    (first.createdAt < second.createdAt ∨ (first.createdAt = second.createdAt ∧
      first.id.getD 0 ≤ second.id.getD 0)))

instance : DecidableRel ServedBefore := fun first second =>
  inferInstanceAs (Decidable (first.priority < second.priority ∨
    (first.priority = second.priority ∧ (first.createdAt < second.createdAt ∨
      (first.createdAt = second.createdAt ∧ first.id.getD 0 ≤ second.id.getD 0)))))

instance : Std.Total ServedBefore where
  total first second := by
    simp only [ServedBefore]
    omega

instance : IsTrans SyncTask ServedBefore where
  trans first second third one two := by
    simp only [ServedBefore] at one two ⊢
    omega

theorem ServedBefore.number {first second : SyncTask} (one : ServedBefore first second)
    (two : ServedBefore second first) : first.id.getD 0 = second.id.getD 0 := by
  simp only [ServedBefore] at one two
  omega

/-- A task is in the queue and pending. -/
def Waits (db : Database) (task : SyncTask) : Prop :=
  ∃ taskId, db.task taskId = some task ∧ task.status = .pending

/-- The pending tasks as they are stored. -/
def pendingTasks (db : Database) : List SyncTask :=
  db.syncQueue.records.filter fun task => task.status = .pending

/-- The pending tasks in the order in which they are served. -/
def servingOrder (db : Database) : List SyncTask :=
  (pendingTasks db).insertionSort ServedBefore

section Order

variable {db : Database} {task : SyncTask}

theorem mem_pendingTasks_iff : task ∈ pendingTasks db ↔ Waits db task := by
  constructor
  · intro member
    rcases List.mem_filter.mp member with ⟨stored, pending⟩
    rcases List.mem_map.mp stored with ⟨row, there, same⟩
    exact ⟨row.rowid, Option.map_eq_some_iff.mpr ⟨row, Table.rowAt_of_mem there, same⟩,
      of_decide_eq_true pending⟩
  · rintro ⟨taskId, found, pending⟩
    rcases Option.map_eq_some_iff.mp found with ⟨row, there, same⟩
    refine List.mem_filter.mpr ⟨List.mem_map.mpr ⟨row, ?_, same⟩, decide_eq_true pending⟩
    exact (Table.of_findRow?_eq_some there).1

theorem mem_servingOrder_iff : task ∈ servingOrder db ↔ Waits db task :=
  (List.mem_insertionSort ServedBefore).trans mem_pendingTasks_iff

/-- The first of the line is stored under its number, and pending. -/
theorem of_servingOrder_cons {rest : List SyncTask} (line : servingOrder db = task :: rest) :
    ∃ taskId, db.task taskId = some task ∧ task.status = .pending ∧ task.id = some taskId := by
  have waits : Waits db task := by
    rw [← mem_servingOrder_iff, line]
    exact List.mem_cons_self
  rcases waits with ⟨taskId, stored, pending⟩
  exact ⟨taskId, stored, pending, Database.id_of_task stored⟩

theorem pairwise_servingOrder (db : Database) : (servingOrder db).Pairwise ServedBefore :=
  List.pairwise_insertionSort ServedBefore _

/-- Tasks are stored in the order of their numbers. -/
theorem ascending_pendingTasks (db : Database) :
    (pendingTasks db).Pairwise fun first second => first.id.getD 0 < second.id.getD 0 := by
  refine List.Pairwise.filter _ (List.pairwise_map.mpr ?_)
  have ascending := db.syncQueue.ascending
  refine ascending.imp_of_mem ?_
  intro first second stored later ordered
  rw [db.syncQueue.numbered first stored, db.syncQueue.numbered second later]
  exact ordered

theorem nodup_servingOrder (db : Database) : (servingOrder db).Nodup := by
  have distinct : (pendingTasks db).Nodup :=
    (ascending_pendingTasks db).imp fun ordered same => absurd (congrArg (fun task => task.id.getD 0) same)
    (Nat.ne_of_lt ordered)
  exact (List.perm_insertionSort ServedBefore _).nodup_iff.mpr distinct

/-- Two stored tasks with one number are the same. -/
theorem Waits.eq_of_number {other : SyncTask} (waits : Waits db task) (also : Waits db other)
    (same : task.id.getD 0 = other.id.getD 0) : task = other := by
  rcases waits with ⟨taskId, found, _⟩
  rcases also with ⟨otherId, there, _⟩
  rw [Database.id_of_task found, Database.id_of_task there, Option.getD_some, Option.getD_some] at same
  rw [same, there] at found
  exact (Option.some.inj found).symm

/-- A list without repetitions that holds the pending tasks in order is the waiting
line. -/
theorem servingOrder_eq {tasks : List SyncTask} (distinct : tasks.Nodup)
    (ordered : tasks.Pairwise ServedBefore) (members : ∀ task, task ∈ tasks ↔ Waits db task) :
    servingOrder db = tasks := by
  have perm : (servingOrder db).Perm tasks :=
    (List.perm_ext_iff_of_nodup (nodup_servingOrder db) distinct).mpr fun task =>
      mem_servingOrder_iff.trans (members task).symm
  refine perm.eq_of_pairwise ?_ (pairwise_servingOrder db) ordered
  intro first second member other one two
  exact Waits.eq_of_number (mem_servingOrder_iff.mp member) ((members second).mp other)
    (one.number two)

/-- The task that a scan settles on is served before all others. -/
theorem servedFirst_least {tasks : List SyncTask} {best found : SyncTask}
    (ascending : (best :: tasks).Pairwise fun first second => first.id.getD 0 < second.id.getD 0)
    (served : tasks.foldl servedFirst (some best) = some found) :
    ∀ task ∈ best :: tasks, ServedBefore found task := by
  induction tasks generalizing best with
  | nil =>
      cases served
      intro task member
      rw [List.mem_singleton.mp member]
      exact (Std.Total.total found found).elim id id
  | cons head rest inductionHypothesis =>
      rw [List.foldl_cons, servedFirst] at served
      rcases List.pairwise_cons.mp ascending with ⟨first, later⟩
      split at served
      · next better =>
          have least := inductionHypothesis later served
          have before : ServedBefore head best := by
            simp only [ServedBefore]
            omega
          intro task member
          rcases List.mem_cons.mp member with same | other
          · rw [same]
            exact IsTrans.trans _ _ _ (least head List.mem_cons_self) before
          · exact least task other
      · next better =>
          have least := inductionHypothesis (List.pairwise_cons.mpr
            ⟨fun task member => first task (List.mem_cons_of_mem _ member),
              (List.pairwise_cons.mp later).2⟩) served
          have before : ServedBefore best head := by
            have numbers := first head List.mem_cons_self
            simp only [ServedBefore]
            omega
          intro task member
          rcases List.mem_cons.mp member with same | other
          · rw [same]
            exact least best List.mem_cons_self
          · rcases List.mem_cons.mp other with same | further
            · rw [same]
              exact IsTrans.trans _ _ _ (least best List.mem_cons_self) before
            · exact least task (List.mem_cons_of_mem _ further)

/-- A scan that has found a task goes on having one. -/
theorem servedFirst_foldl_some (tasks : List SyncTask) (best : SyncTask) :
    ∃ found, tasks.foldl servedFirst (some best) = some found := by
  induction tasks generalizing best with
  | nil => exact ⟨best, rfl⟩
  | cons head rest inductionHypothesis =>
      rw [List.foldl_cons, servedFirst]
      split
      · exact inductionHypothesis head
      · exact inductionHypothesis best

/-- The next task is the first of the waiting line. -/
theorem nextPending_eq (db : Database) : db.nextPending = (servingOrder db).head? := by
  have scan : db.nextPending = (pendingTasks db).foldl servedFirst none := rfl
  have ascending := ascending_pendingTasks db
  have inLine (task : SyncTask) : task ∈ servingOrder db ↔ task ∈ pendingTasks db :=
    List.mem_insertionSort ServedBefore
  have ordered := pairwise_servingOrder db
  cases stored : pendingTasks db with
  | nil =>
      have empty : servingOrder db = [] := by
        rw [servingOrder, stored]
        rfl
      rw [scan, stored, empty]
      rfl
  | cons first rest =>
      rcases servedFirst_foldl_some rest first with ⟨found, served⟩
      rw [stored] at ascending inLine
      have least := servedFirst_least ascending served
      have member : found ∈ first :: rest := by
        rcases servedFirst_foldl rest (some first) served with same | later
        · rw [← Option.some.inj same]
          exact List.mem_cons_self
        · exact List.mem_cons_of_mem _ later
      rw [scan, stored, List.foldl_cons, servedFirst, served]
      cases line : servingOrder db with
      | nil =>
          rw [line] at inLine
          cases (inLine found).mpr member
      | cons head others =>
          rw [line] at inLine ordered
          have before := least head ((inLine head).mp List.mem_cons_self)
          have waits (task : SyncTask) (within : task ∈ first :: rest) : Waits db task := by
            rw [← mem_pendingTasks_iff, stored]
            exact within
          rcases List.mem_cons.mp ((inLine found).mpr member) with same | behind
          · rw [same]
            rfl
          · have after := (List.pairwise_cons.mp ordered).1 found behind
            have same := (waits found member).eq_of_number
              (waits head ((inLine head).mp List.mem_cons_self)) (before.number after)
            rw [same]
            rfl

end Order

end Queue
end GDriver
