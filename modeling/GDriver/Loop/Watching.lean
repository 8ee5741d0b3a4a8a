import GDriver.Library.Run
import GDriver.Moves.Loop
import GDriver.Moves.Tasks

namespace GDriver
namespace Loop

open Library Routine Db Api Sync Watcher

/-!
# From the watcher to the queue

A run of the daemon is followed together with the tasks that the watcher has built
when it flushed.  Between the flush and the queue a task waits in the channel.  It
is lost on the way when it finds the channel full, and when the loop receives it
while the engine is paused or while the queue cannot be written.  As long as none
of this happens, every task that was built waits in the channel or is a row.
-/

/-- Every task is still in the queue and asks for the same. -/
def GoesOnAsking (db later : Database) : Prop :=
  ∀ taskId task, db.task taskId = some task →
    ∃ after, later.task taskId = some after ∧ task.AsksSame after

instance : IsPreorder Database GoesOnAsking where
  refl db := fun taskId task found => ⟨task, found, SyncTask.AsksSame.refl task⟩
  trans first second third one two := by
    intro taskId task found
    rcases one taskId task found with ⟨between, there, asks⟩
    rcases two taskId between there with ⟨after, reached, asksOn⟩
    exact ⟨after, reached, asks.trans asksOn⟩

theorem GoesOnAsking.of_keepsTasks {busy : Option Nat} {db later : Database}
    (keeps : KeepsTasks busy db later) : GoesOnAsking db later := by
  intro taskId task found
  rcases keeps.kept taskId task found with ⟨after, reached, asks, _⟩
  exact ⟨after, reached, asks⟩

theorem GoesOnAsking.of_same {db later : Database} (same : later.syncQueue = db.syncQueue) :
    GoesOnAsking db later :=
  GoesOnAsking.of_keepsTasks (KeepsTasks.of_same same : KeepsTasks none db later)

theorem goesOnAsking_putTask (db : Database) (task : SyncTask) :
    GoesOnAsking db (db.putTask task) :=
  fun _ stored found =>
    ⟨stored, Database.task_putTask_of_some found task, SyncTask.AsksSame.refl stored⟩

/-- The same for the databases of two worlds. -/
def GoesOnAskingIn (world later : World) : Prop :=
  GoesOnAsking world.db later.db

instance : IsPreorder World GoesOnAskingIn where
  refl world := Std.Refl.refl world.db
  trans first second third one two :=
    (IsTrans.trans first.db second.db third.db one two : GoesOnAsking first.db third.db)

theorem allowsLoop_goesOnAsking : AllowsLoop GoesOnAsking GoesOnAskingIn where
  tasks taskId :=
    { task := fun world _ keeps asks =>
        GoesOnAsking.of_keepsTasks (keepsTasks_updateTask world.db taskId keeps asks)
      error := fun _ _ => GoesOnAsking.of_same rfl
      disk := fun _ _ _ => GoesOnAsking.of_same rfl
      send := fun _ _ _ => GoesOnAsking.of_same rfl
      rows := fun _ _ => GoesOnAsking.of_same rfl
      drive := fun _ _ => GoesOnAsking.of_same rfl }
  lifts _ _ goesOn := goesOn
  sync :=
    { rows := fun _ _ => GoesOnAsking.of_same rfl
      enqueue := fun db task _ => goesOnAsking_putTask db task }
  watched := goesOnAsking_putTask
  tokens _ _ := GoesOnAsking.of_same rfl

/-- The task is a row of the queue. -/
def Queued (task : SyncTask) (db : Database) : Prop :=
  ∃ taskId stored, db.task taskId = some stored ∧ task.AsksSame stored

theorem Queued.of_goesOn {task : SyncTask} {db later : Database} (goesOn : GoesOnAsking db later)
    (queued : Queued task db) : Queued task later := by
  rcases queued with ⟨taskId, stored, found, asks⟩
  rcases goesOn taskId stored found with ⟨after, reached, asksOn⟩
  exact ⟨taskId, after, reached, asks.trans asksOn⟩

theorem queued_putTask (db : Database) (task : SyncTask) : Queued task (db.putTask task) :=
  ⟨db.nextTaskId, _, Database.task_putTask_next db task, ⟨rfl, rfl, rfl, rfl, rfl, rfl⟩⟩

/-- The daemon, and the tasks that its watcher has built so far. -/
structure Watching where
  daemon : Daemon
  built : List SyncTask

def Watching.start (world : World) (cfg : VfsPreferences) : Watching where
  daemon := Daemon.start world cfg
  built := []

/-- The tasks that the watcher builds in a step. -/
def builtIn (daemon : Daemon) : DaemonStep → List SyncTask
  | .flush view entries =>
      if entries.isPerm daemon.debouncing then dueTasks view daemon.folders entries else []
  | _ => []

/-- Carry out a step, noting the tasks that it builds. -/
def Watching.exec [Rfc3339] (state : Watching) (step : DaemonStep) : Watching where
  daemon := state.daemon.exec step
  built := state.built ++ builtIn state.daemon step

/-- Every task that was built is a row of the queue, or waits in the channel. -/
def NoneLost (state : Watching) : Prop :=
  ∀ task ∈ state.built, task ∈ state.daemon.watched ∨ Queued task state.daemon.loop.world.db

/-- There is room in the channel for what the watcher sends, and what the loop
receives is stored: the engine is not paused, and the queue can be written. -/
def KeepsUp (state : Watching) : DaemonStep → Prop
  | .flush view entries =>
      state.daemon.watched.length + (builtIn state.daemon (.flush view entries)).length ≤
        Daemon.watchedCapacity
  | .receiveTask answers =>
      state.daemon.watched ≠ [] →
        state.daemon.loop.course.state ≠ .paused ∧ answers.enqueues = true
  | _ => True

/-- Messages that find room in a channel are all in it afterwards. -/
theorem foldl_trySend {α : Type} {capacity : Nat} {channel messages : List α}
    (room : channel.length + messages.length ≤ capacity) :
    messages.foldl (trySend capacity) channel = channel ++ messages := by
  induction messages generalizing channel with
  | nil => exact (List.append_nil channel).symm
  | cons message rest inductionHypothesis =>
      rw [List.length_cons] at room
      have fits : channel.length < capacity := by omega
      have sent : trySend capacity channel message = channel ++ [message] := by
        rw [trySend, if_pos fits]
      have left : (channel ++ [message]).length + rest.length ≤ capacity := by
        rw [List.length_append, List.length_singleton]
        omega
      rw [List.foldl_cons, sent, inductionHypothesis left, List.append_assoc, List.singleton_append]

/-- What is in a channel stays in it, whether the messages find room or not. -/
theorem mem_foldl_trySend {α : Type} {capacity : Nat} {channel : List α} {message : α} (there : message ∈ channel)
    (messages : List α) : message ∈ messages.foldl (trySend capacity) channel := by
  induction messages generalizing channel with
  | nil => exact there
  | cons first rest inductionHypothesis =>
      refine inductionHypothesis ?_
      rw [trySend]
      split
      · exact List.mem_append_left _ there
      · exact there

section Steps

variable [Rfc3339]

/-- What the loop receives and stores is a row afterwards. -/
theorem queued_handleWatcherTask {loop : SyncLoop} {answers : WatcherAnswers}
    (running : loop.course.state ≠ .paused) (stores : answers.enqueues = true) (task : SyncTask) :
    Queued task (handleWatcherTask answers task loop).world.db := by
  have answered : outcome (onDb (enqueue answers.enqueues task)) loop.world =
      .ok { task with id := some loop.world.db.nextTaskId } := by
    rw [outcome_onDb, outcome_enqueue, stores, if_pos rfl]
  have put : Queued task (final (onDb (enqueue answers.enqueues task)) loop.world).db := by
    rw [final_onDb, World.withDb_db, final_enqueue, stores, if_pos rfl]
    exact queued_putTask loop.world.db task
  simp only [handleWatcherTask, if_neg running, answered]
  exact put.of_goesOn (keeps_processTurns allowsLoop_goesOnAsking.tasks 10 answers.pending _)

/-- What waits in the channel stays there, unless the loop receives it. -/
theorem watched_exec {daemon : Daemon} {step : DaemonStep} {task : SyncTask}
    (waits : task ∈ daemon.watched) :
    task ∈ (daemon.exec step).watched ∨
      ∃ answers rest, step = .receiveTask answers ∧ daemon.watched = task :: rest := by
  cases step with
  | pause =>
      rw [Daemon.exec, Daemon.watched_send]
      exact Or.inl waits
  | resume =>
      rw [Daemon.exec, Daemon.watched_send]
      exact Or.inl waits
  | setSyncMode newMode => exact Or.inl waits
  | sendSwitch position =>
      rw [Daemon.exec, Daemon.watched_sendSwitch]
      exact Or.inl waits
  | savePrefs saves prefs =>
      rw [Daemon.exec, Daemon.handlePrefsSave]
      split
      · exact Or.inl waits
      · exact Or.inl waits
  | hear now kind paths => exact Or.inl waits
  | flush view entries =>
      rw [Daemon.exec, Daemon.flush]
      split
      · exact Or.inl (mem_foldl_trySend waits _)
      · exact Or.inl waits
  | watchFolders folders => exact Or.inl waits
  | scan other =>
      rw [Daemon.exec, Daemon.scan]
      split
      · exact Or.inl (List.mem_append_left _ waits)
      · exact Or.inl waits
  | receiveCommand answers =>
      rw [Daemon.exec, Daemon.receiveCommand]
      split
      · exact Or.inl waits
      · exact Or.inl waits
  | tick answers => exact Or.inl waits
  | receiveTask answers =>
      rw [Daemon.exec]
      cases channel : daemon.watched with
      | nil =>
          rw [channel] at waits
          cases waits
      | cons first rest =>
          rw [channel] at waits
          rcases List.mem_cons.mp waits with same | later
          · rw [same]
            exact Or.inr ⟨answers, rest, rfl, rfl⟩
          · rw [Daemon.receiveTask_of_cons channel]
            exact Or.inl later
  | elsewhere operation =>
      rcases Daemon.elsewhere_spec operation daemon with ⟨world, same⟩
      rw [Daemon.exec, same]
      exact Or.inl waits

/-- Every step leaves the queue as it is, or adds to it. -/
theorem goesOnAsking_exec (daemon : Daemon) (step : DaemonStep) :
    GoesOnAsking daemon.loop.world.db (daemon.exec step).loop.world.db :=
  allowed_exec allowsLoop_goesOnAsking
    (fun world operation _ =>
      GoesOnAsking.of_keepsTasks (proceeds_exec ⟨world, .idle⟩ operation).tasks) daemon step

theorem noneLost_exec {state : Watching} {step : DaemonStep} (keepsUp : KeepsUp state step)
    (before : NoneLost state) : NoneLost (state.exec step) := by
  intro task member
  rcases List.mem_append.mp member with known | fresh
  · rcases before task known with waits | queued
    · rcases @watched_exec _ _ step _ waits with still | ⟨answers, rest, same, first⟩
      · exact Or.inl still
      · subst same
        have some : state.daemon.watched ≠ [] := by
          rw [first]
          exact List.cons_ne_nil task rest
        rcases keepsUp some with ⟨running, stores⟩
        refine Or.inr ?_
        simp only [Watching.exec, Daemon.exec, Daemon.receiveTask_of_cons first, Daemon.withLoop]
        exact queued_handleWatcherTask running stores task
    · exact Or.inr (queued.of_goesOn (goesOnAsking_exec state.daemon step))
  · cases step with
    | flush view entries =>
        have room := keepsUp
        simp only [KeepsUp, builtIn] at room fresh
        by_cases complete : entries.isPerm state.daemon.debouncing = true
        · rw [if_pos complete] at room fresh
          refine Or.inl ?_
          simp only [Watching.exec, Daemon.exec, Daemon.flush, if_pos complete]
          rw [foldl_trySend room]
          exact List.mem_append_right _ fresh
        · rw [if_neg complete] at fresh
          cases fresh
    | _ => cases fresh

/-- In every run from the start in which the channel has room for what the watcher
sends and what the loop receives is stored: every task that the watcher has built
is a row of the queue, or still waits in the channel. -/
theorem built_tasks_are_queued {world : World} {cfg : VfsPreferences} {steps : List DaemonStep}
    (keepsUp : Along Watching.exec KeepsUp steps (Watching.start world cfg)) :
    NoneLost (run Watching.exec steps (Watching.start world cfg)) := by
  refine run_of_along (fun _ _ condition before => noneLost_exec condition before) keepsUp ?_
  intro task member
  cases member

end Steps

/-- A file is created in a watched folder, and its task is sent. -/
def createdNotes : List DaemonStep := [
  .watchFolders [⟨"/home/ann/Drive", "ann@example.com", "drive"⟩],
  .hear 0 .create ["/home/ann/Drive/notes.txt"],
  .flush ⟨300, fun _ => false, 20⟩ [⟨0, "/home/ann/Drive/notes.txt", .create⟩]]

/-- The loop receives a task, and does not get to process it. -/
def receivesOnly : DaemonStep :=
  .receiveTask ⟨true, ⟨fun _ => false, fun _ _ =>
    TaskAnswers.allRun ⟨none, .error "no upload", []⟩ ⟨[1], 10⟩ 20⟩⟩

/-- The task of the created file becomes a row. -/
theorem built_tasks_are_queued_of_notes :
    (run (@Watching.exec untimed) (createdNotes ++ [receivesOnly])
        (Watching.start (World.around Database.fresh) ⟨.stream, "/mnt"⟩)).daemon.watched = [] ∧
      NoneLost (run (@Watching.exec untimed) (createdNotes ++ [receivesOnly])
        (Watching.start (World.around Database.fresh) ⟨.stream, "/mnt"⟩)) := by
  refine ⟨rfl, @built_tasks_are_queued untimed _ _ _ ?_⟩
  refine ⟨trivial, trivial, ?_, ?_, trivial⟩
  · change (_ : Nat) ≤ 128
    decide
  · intro _
    exact ⟨by decide, rfl⟩

/-- While the engine is paused, the task is dropped. -/
theorem paused_engine_drops_task :
    ¬ NoneLost (run (@Watching.exec untimed)
      (createdNotes ++ [.pause, .receiveCommand SwitchAnswers.allRun, receivesOnly])
      (Watching.start (World.around Database.fresh) ⟨.stream, "/mnt"⟩)) := by
  intro kept
  rcases kept (Sync.pendingTask 20 "ann@example.com" none .upload
    (some "/home/ann/Drive/notes.txt") 5) (by decide) with waits | ⟨taskId, stored, found, _⟩
  · cases waits
  · cases found

end Loop
end GDriver
