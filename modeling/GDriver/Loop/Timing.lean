import GDriver.Loop.Echo
import GDriver.Watcher.Windows

namespace GDriver
namespace Loop

open Library Db Api Sync Watcher

/-!
# The time of a window

A path is followed through a run of the daemon.  Its window opens with the first event that
is reported of it while nothing is held back, and it takes all events that follow.  The window
outlives the ticks after which an entry for the path is still held back, and is closed by the
tick that takes the entry out of the map.
-/

/-- A stretch of time in which a path is held back. -/
structure Window where
  /-- The time of its first event. -/
  first : Nat
  /-- What was reported in it, in order. -/
  kinds : List EventKind
  /-- The ticks that it has outlived. -/
  passed : List Nat
  deriving DecidableEq, Repr

/-- A window that a tick has closed, and the tasks that were built from it. -/
structure Flushed where
  window : Window
  closedAt : Nat
  tasks : List SyncTask
  deriving DecidableEq, Repr

/-- The daemon, with what happened to one path so far. -/
structure Timing where
  daemon : Daemon
  /-- The time of the last event or tick. -/
  latest : Nat
  waiting : Option Window
  /-- The windows that were closed, the oldest first. -/
  flushed : List Flushed
  heard : List EventKind
  built : List SyncTask

/-- Nothing is known of the path yet. -/
def Timing.start (daemon : Daemon) : Timing where
  daemon := daemon
  latest := 0
  waiting := none
  flushed := []
  heard := []
  built := []

/-- An event opens a window, or belongs to the one that is open. -/
def Window.heard (now : Nat) (waiting : Option Window) (kind : EventKind) : Option Window :=
  match waiting with
  | none => some ⟨now, [kind], []⟩
  | some window => some { window with kinds := window.kinds ++ [kind] }

/-- The tasks for the path. -/
def tasksFor (path : String) (tasks : List SyncTask) : List SyncTask :=
  tasks.filter fun task => task.localPath = some path

/-- Whether an entry for the path is held back. -/
def holdsBack (path : String) (pending : List DebounceEntry) : Bool :=
  pending.any fun entry => entry.path = path

/-- A tick closes the window unless the path is still held back after it. -/
def Timing.ticked (path : String) (now : Nat) (tasks : List SyncTask) (after : Daemon) (timing : Timing) : Timing :=
  let built := timing.built ++ tasks
  match timing.waiting with
  | none => { timing with daemon := after, latest := now, built := built }
  | some window =>
      if holdsBack path after.debouncing then
        { timing with
          daemon := after
          latest := now
          waiting := some { window with passed := window.passed ++ [now] }
          built := built }
      else
        { timing with
          daemon := after
          latest := now
          waiting := none
          flushed := timing.flushed ++ [⟨window, now, tasks⟩]
          built := built }

/-- Carry out a step, and follow the path.  A tick looks at the map in the order in which the
map gives out its entries. -/
def Timing.exec [Rfc3339] (path : String) (timing : Timing) (step : DaemonStep) : Timing :=
  let after := timing.daemon.exec step
  match step with
  | .hear now kind paths =>
      let kinds := FsEvent.kindsOn path ⟨now, kind, paths⟩
      { timing with
        daemon := after
        latest := now
        waiting := kinds.foldl (Window.heard now) timing.waiting
        heard := timing.heard ++ kinds }
  | .flush view entries =>
      if entries.isPerm timing.daemon.debouncing then
        timing.ticked path view.now (tasksFor path (builtIn timing.daemon (.flush view entries))) after
      else { timing with daemon := after }
  | _ => { timing with daemon := after }

/-- The time of an event or of a tick. -/
def timeOf : DaemonStep → Option Nat
  | .hear now _ _ => some now
  | .flush view _ => some view.now
  | _ => none

/-- Events and ticks come in the order of their times. -/
def InOrder (timing : Timing) (step : DaemonStep) : Prop :=
  ∀ time ∈ timeOf step, timing.latest ≤ time

instance (timing : Timing) (step : DaemonStep) : Decidable (InOrder timing step) :=
  inferInstanceAs (Decidable (∀ time ∈ timeOf step, timing.latest ≤ time))

/-- The window was closed by the first tick that came late enough, with at most one task. -/
structure Flushed.OnTime (flushed : Flushed) : Prop where
  nonempty : flushed.window.kinds ≠ []
  late : flushed.window.first + debounceMs ≤ flushed.closedAt
  earlier : ∀ tick ∈ flushed.window.passed, tick < flushed.window.first + debounceMs
  once : flushed.tasks.length ≤ 1

/-- The entry for the path while the window is open. -/
def Window.entries (path : String) (window : Window) : List DebounceEntry :=
  window.kinds.getLast?.toList.map fun kind => ⟨window.first, path, kind⟩

/-- The times at which the windows of the path were opened. -/
def Timing.openings (timing : Timing) : List Nat :=
  timing.flushed.map (fun flushed => flushed.window.first) ++ (timing.waiting.map Window.first).toList

/-- The path is held back while its window is open, every window was flushed at the first tick
that came late enough, an open window has met no such tick, and every event and every task
belongs to one window. -/
structure OnTime (path : String) (timing : Timing) : Prop where
  held : timing.daemon.debouncing.filter (fun entry => entry.path = path) =
    timing.waiting.elim [] (Window.entries path)
  nonempty : ∀ window, timing.waiting = some window → window.kinds ≠ []
  outlived : ∀ window, timing.waiting = some window → ∀ tick ∈ window.passed, tick < window.first + debounceMs
  flushed : ∀ flushed ∈ timing.flushed, flushed.OnTime
  heard : timing.heard = timing.flushed.flatMap (fun flushed => flushed.window.kinds) ++
    timing.waiting.elim [] Window.kinds
  built : timing.built = timing.flushed.flatMap Flushed.tasks
  apart : timing.openings.Pairwise fun earlier later => earlier + debounceMs ≤ later
  past : ∀ flushed ∈ timing.flushed, flushed.closedAt ≤ timing.latest

/-! ## Events -/

/-- What the map holds back for the path while a window of it is open. -/
structure Held (path : String) (waiting : Option Window) (pending : List DebounceEntry) : Prop where
  held : pending.filter (fun entry => entry.path = path) = waiting.elim [] (Window.entries path)
  nonempty : ∀ window, waiting = some window → window.kinds ≠ []

section Hearing

variable {now : Nat} {kind : EventKind} {pending : List DebounceEntry} {path : String} {waiting : Option Window}

/-- A window that something was reported in has one entry, with the kind of the last report. -/
theorem Window.entries_eq {window : Window} (nonempty : window.kinds ≠ []) :
    window.entries path = [⟨window.first, path, window.kinds.getLast nonempty⟩] := by
  rw [Window.entries, List.getLast?_eq_some_getLast nonempty]
  rfl

/-- Marking the entries of a path with a kind leaves them entries of their paths. -/
theorem filter_marked (other : String) :
    (pending.map fun entry => if entry.path = other then { entry with kind := kind } else entry).filter
        (fun entry => entry.path = path) =
      (pending.filter fun entry => entry.path = path).map fun entry =>
        if entry.path = other then { entry with kind := kind } else entry := by
  rw [List.filter_map]
  congr 1
  apply List.filter_congr
  intro entry _
  rw [Function.comp]
  split
  · rfl
  · rfl

theorem filter_note_of_ne {other : String} (differs : other ≠ path) :
    (note now kind pending other).filter (fun entry => entry.path = path) =
      pending.filter fun entry => entry.path = path := by
  rw [note]
  split
  · rw [filter_marked]
    have unmarked : ∀ entry ∈ pending.filter (fun entry => entry.path = path),
        (if entry.path = other then { entry with kind := kind } else entry) = id entry := by
      intro entry member
      have on : entry.path = path := of_decide_eq_true (List.mem_filter.mp member).2
      rw [if_neg (by rw [on]; exact differs.symm)]
      rfl
    rw [List.map_congr_left unmarked, List.map_id]
  · rw [List.filter_append, List.filter_cons_of_neg (by simpa using differs), List.filter_nil, List.append_nil]

/-- An event on another path leaves what is held back for this one. -/
theorem Held.note_of_ne {other : String} (differs : other ≠ path) (before : Held path waiting pending) :
    Held path waiting (note now kind pending other) where
  held := (filter_note_of_ne differs).trans before.held
  nonempty := before.nonempty

/-- An event on the path opens its window, or is taken by the window that is open. -/
theorem Held.note_self (before : Held path waiting pending) :
    Held path (Window.heard now waiting kind) (note now kind pending path) := by
  have held := before.held
  cases waiting with
  | none =>
      have absent : ¬ (pending.any fun entry => entry.path = path) = true := by
        rw [List.any_eq_true]
        rintro ⟨entry, member, on⟩
        have kept : entry ∈ pending.filter fun entry => entry.path = path := List.mem_filter.mpr ⟨member, on⟩
        rw [held] at kept
        cases kept
      constructor
      · rw [note, if_neg absent, List.filter_append, held, List.filter_cons_of_pos (by simp)]
        rfl
      · intro window opened
        rw [← Option.some.inj opened]
        exact List.cons_ne_nil kind []
  | some window =>
      rw [Option.elim_some, Window.entries_eq (before.nonempty window rfl)] at held
      have present : (pending.any fun entry => entry.path = path) = true := by
        have member : ⟨window.first, path, window.kinds.getLast (before.nonempty window rfl)⟩ ∈
            pending.filter fun entry => entry.path = path := by
          rw [held]
          exact List.mem_singleton_self _
        rcases List.mem_filter.mp member with ⟨inside, on⟩
        exact List.any_eq_true.mpr ⟨_, inside, on⟩
      constructor
      · rw [note, if_pos present, filter_marked, held, List.map_singleton, if_pos rfl, Window.heard, Option.elim_some,
          Window.entries, List.getLast?_concat]
        rfl
      · intro later opened
        rw [← Option.some.inj opened]
        exact List.append_ne_nil_of_right_ne_nil _ (List.cons_ne_nil _ _)

/-- The paths of an event, one after the other. -/
theorem Held.notePaths (before : Held path waiting pending) (paths : List String) :
    Held path ((FsEvent.kindsOn path ⟨now, kind, paths⟩).foldl (Window.heard now) waiting)
      (paths.foldl (note now kind) pending) := by
  induction paths generalizing waiting pending with
  | nil => exact before
  | cons other rest inductionHypothesis =>
      rw [List.foldl_cons, FsEvent.kindsOn]
      dsimp only
      by_cases itself : other = path
      · rw [List.filter_cons_of_pos (by simpa using itself), List.map_cons, List.foldl_cons, itself]
        exact inductionHypothesis before.note_self
      · rw [List.filter_cons_of_neg (by simpa using itself)]
        exact inductionHypothesis (before.note_of_ne itself)

/-- An open window takes everything that is reported. -/
theorem foldl_heard_some (window : Window) (kinds : List EventKind) :
    kinds.foldl (Window.heard now) (some window) = some { window with kinds := window.kinds ++ kinds } := by
  induction kinds generalizing window with
  | nil => rw [List.append_nil, List.foldl_nil]
  | cons kind rest inductionHypothesis =>
      rw [List.foldl_cons, Window.heard, inductionHypothesis, List.append_assoc, List.singleton_append]

/-- The first of several reports opens the window. -/
theorem foldl_heard_none (kind : EventKind) (rest : List EventKind) :
    (kind :: rest).foldl (Window.heard now) none = some ⟨now, kind :: rest, []⟩ := by
  rw [List.foldl_cons, Window.heard, foldl_heard_some]
  rfl

end Hearing

/-! ## Ticks -/

section Ticking

variable {view : FlushView} {folders : List WatchedFolder} {entries pending : List DebounceEntry} {path : String}

theorem dueTasks_cons (entry : DebounceEntry) :
    dueTasks view folders (entry :: entries) =
      (if isDue view.now entry then
        (eventToTask entry.path (view.isDir entry.path) entry.kind folders view.clock).toList else []) ++
        dueTasks view folders entries := by
  rw [dueTasks]
  by_cases due : isDue view.now entry = true
  · rw [List.filter_cons_of_pos due, if_pos due, List.filterMap_cons]
    cases eventToTask entry.path (view.isDir entry.path) entry.kind folders view.clock with
    | none => rfl
    | some task => rfl
  · rw [List.filter_cons_of_neg due, if_neg due]
    rfl

/-- The tasks for a path are the tasks of its entries. -/
theorem tasksFor_dueTasks (entries : List DebounceEntry) :
    tasksFor path (dueTasks view folders entries) =
      dueTasks view folders (entries.filter fun entry => entry.path = path) := by
  induction entries with
  | nil => rfl
  | cons entry rest inductionHypothesis =>
      have split_ (first second : List SyncTask) :
          tasksFor path (first ++ second) = tasksFor path first ++ tasksFor path second :=
        List.filter_append first second
      rw [dueTasks_cons, split_, inductionHypothesis]
      by_cases on : entry.path = path
      · rw [List.filter_cons_of_pos (by simpa using on), dueTasks_cons]
        congr 1
        apply List.filter_eq_self.mpr
        intro task member
        split at member
        · have gives := Option.mem_toList.mp member
          rw [(of_eventToTask gives).2.1, on]
          exact decide_eq_true rfl
        · cases member
      · rw [List.filter_cons_of_neg (by simpa using on)]
        have none_ : tasksFor path (if isDue view.now entry then
            (eventToTask entry.path (view.isDir entry.path) entry.kind folders view.clock).toList else []) = [] := by
          apply List.filter_eq_nil_iff.mpr
          intro task member about
          split at member
          · have gives := Option.mem_toList.mp member
            rw [(of_eventToTask gives).2.1] at about
            exact on (Option.some.inj (of_decide_eq_true about))
          · cases member
        rw [none_, List.nil_append]

theorem holdsBack_filter (keep : DebounceEntry → Bool) :
    holdsBack path (entries.filter keep) = (entries.filter fun entry => entry.path = path).any keep := by
  rw [holdsBack, List.any_filter, List.any_filter]
  simp only [Bool.and_comm]

theorem isDue_iff {now : Nat} {entry : DebounceEntry} : isDue now entry = true ↔
    entry.firstSeen + debounceMs ≤ now := by
  rw [isDue, decide_eq_true_eq, debounceMs]
  omega

/-- A tick takes the entry of an open window out of the map when the window is old enough, with
at most one task, and leaves it there otherwise, with none. -/
theorem Held.tick {window : Window} (before : Held path (some window) pending) (order : entries.Perm pending) :
    (window.first + debounceMs ≤ view.now →
        holdsBack path (entries.filter fun entry => !isDue view.now entry) = false ∧
          (entries.filter fun entry => !isDue view.now entry).filter (fun entry => entry.path = path) = [] ∧
          (tasksFor path (dueTasks view folders entries)).length ≤ 1) ∧
      (view.now < window.first + debounceMs →
        holdsBack path (entries.filter fun entry => !isDue view.now entry) = true ∧
          (entries.filter fun entry => !isDue view.now entry).filter (fun entry => entry.path = path) =
            window.entries path ∧
          tasksFor path (dueTasks view folders entries) = []) := by
  have one := @Window.entries_eq path window (before.nonempty window rfl)
  have kept : entries.filter (fun entry => entry.path = path) = window.entries path := by
    have permuted := order.filter fun entry => entry.path = path
    rw [before.held, Option.elim_some, one] at permuted
    rw [one]
    exact List.perm_singleton.mp permuted
  rw [holdsBack_filter, tasksFor_dueTasks, List.filter_comm, kept, one, dueTasks_cons]
  constructor
  · intro late
    have due := (@isDue_iff view.now ⟨window.first, path, window.kinds.getLast (before.nonempty window rfl)⟩).mpr late
    rw [List.any_cons, List.any_nil, List.filter_cons_of_neg (by rw [due]; decide), due, if_pos rfl]
    refine ⟨rfl, rfl, ?_⟩
    rw [List.length_append, Option.length_toList]
    split
    · exact Nat.le_refl 1
    · exact Nat.zero_le 1
  · intro early
    have fresh : isDue view.now ⟨window.first, path, window.kinds.getLast (before.nonempty window rfl)⟩ = false := by
      rw [Bool.eq_false_iff, Ne, isDue_iff]
      exact Nat.not_le.mpr early
    rw [List.any_cons, fresh, List.filter_cons_of_pos (by rw [fresh]; rfl), if_neg Bool.false_ne_true]
    exact ⟨rfl, rfl, rfl⟩

/-- A tick finds nothing of a path that is not held back. -/
theorem Held.tick_none (before : Held path none pending) (order : entries.Perm pending) :
    (entries.filter fun entry => !isDue view.now entry).filter (fun entry => entry.path = path) = [] ∧
      tasksFor path (dueTasks view folders entries) = [] := by
  have kept : entries.filter (fun entry => entry.path = path) = [] := by
    have permuted := order.filter fun entry => entry.path = path
    rw [before.held] at permuted
    exact permuted.eq_nil
  rw [tasksFor_dueTasks, List.filter_comm, kept]
  exact ⟨rfl, rfl⟩

end Ticking

/-! ## Runs -/

section Runs

variable {timing : Timing} {path : String}

theorem OnTime.toHeld (before : OnTime path timing) : Held path timing.waiting timing.daemon.debouncing :=
  ⟨before.held, before.nonempty⟩

/-- No window is open, so nothing is said of it. -/
theorem of_none_eq_some {property : Window → Prop} : ∀ window, (none : Option Window) = some window →
    property window := by
  intro window opened
  cases opened

/-- What leaves the map alone leaves the windows alone. -/
theorem OnTime.of_debouncing (before : OnTime path timing) {after : Daemon}
    (same : after.debouncing = timing.daemon.debouncing) : OnTime path { timing with daemon := after } :=
  { before with held := same ▸ before.held }

/-- A closed window ended before the last event or tick. -/
theorem OnTime.first_le (before : OnTime path timing) :
    ∀ flushed ∈ timing.flushed, flushed.window.first + debounceMs ≤ timing.latest :=
  fun flushed member => Nat.le_trans (before.flushed flushed member).late (before.past flushed member)

variable [Rfc3339]

/-- An event is taken by the window of its path. -/
theorem OnTime.hear (before : OnTime path timing) {now : Nat} (kind : EventKind) (paths : List String)
    (ordered : timing.latest ≤ now) : OnTime path (timing.exec path (.hear now kind paths)) := by
  have held : Held path ((FsEvent.kindsOn path ⟨now, kind, paths⟩).foldl (Window.heard now) timing.waiting)
      (paths.foldl (note now kind) timing.daemon.debouncing) := before.toHeld.notePaths paths
  have past : ∀ flushed ∈ timing.flushed, flushed.closedAt ≤ now :=
    fun flushed member => Nat.le_trans (before.past flushed member) ordered
  have heard := before.heard
  have apart := before.apart
  have outlived := before.outlived
  rw [Timing.exec]
  cases waiting : timing.waiting with
  | none =>
      rw [waiting] at held heard
      cases kinds : FsEvent.kindsOn path ⟨now, kind, paths⟩ with
      | nil =>
          rw [kinds] at held
          refine ⟨held.held, held.nonempty, of_none_eq_some, before.flushed, ?_, before.built, ?_, past⟩
          · simpa using heard
          · rw [Timing.openings, waiting] at apart
            exact apart
      | cons first rest =>
          rw [kinds, foldl_heard_none] at held
          rw [foldl_heard_none]
          refine ⟨held.held, held.nonempty, ?_, before.flushed, ?_, before.built, ?_, past⟩
          · intro window opened tick passed
            rw [← Option.some.inj opened] at passed
            cases passed
          · simpa using heard
          · rw [Timing.openings, waiting, Option.map_none, Option.toList_none, List.append_nil] at apart
            rw [Timing.openings, Option.map_some, Option.toList_some]
            refine List.pairwise_append.mpr ⟨apart, List.pairwise_singleton _ _, ?_⟩
            intro opening member later last
            rcases List.mem_map.mp member with ⟨flushed, closed, same⟩
            rw [List.mem_singleton.mp last, ← same]
            exact Nat.le_trans (before.first_le flushed closed) ordered
  | some window =>
      rw [waiting, foldl_heard_some] at held
      rw [waiting] at heard
      rw [foldl_heard_some]
      refine ⟨held.held, held.nonempty, ?_, before.flushed, ?_, before.built, ?_, past⟩
      · intro later opened
        rw [← Option.some.inj opened]
        exact outlived window waiting
      · rw [heard, Option.elim_some, Option.elim_some, List.append_assoc]
      · rw [Timing.openings, waiting] at apart
        exact apart

/-- A tick closes the window of the path if it comes late enough, and is outlived otherwise. -/
theorem OnTime.tick (before : OnTime path timing) {view : FlushView} {entries : List DebounceEntry}
    (order : entries.isPerm timing.daemon.debouncing = true) (ordered : timing.latest ≤ view.now) :
    OnTime path (timing.exec path (.flush view entries)) := by
  have permuted := List.isPerm_iff.mp order
  have past : ∀ flushed ∈ timing.flushed, flushed.closedAt ≤ view.now :=
    fun flushed member => Nat.le_trans (before.past flushed member) ordered
  have held := before.toHeld
  have left : (timing.daemon.exec (.flush view entries)).debouncing =
      entries.filter fun entry => !isDue view.now entry := by
    rw [Daemon.exec, Daemon.flush, if_pos order]
  have heard := before.heard
  have built := before.built
  have apart := before.apart
  have outlived := before.outlived
  simp only [Timing.exec, builtIn, if_pos order, Timing.ticked, left]
  cases waiting : timing.waiting with
  | none =>
      rw [waiting] at held heard
      rcases @Held.tick_none view timing.daemon.folders _ _ _ held permuted with ⟨gone, idle⟩
      refine ⟨(congrArg _ left).trans gone, of_none_eq_some, of_none_eq_some, before.flushed, heard, ?_, ?_, past⟩
      · rw [idle, List.append_nil]
        exact built
      · rw [Timing.openings, waiting] at apart
        exact apart
  | some window =>
      rw [waiting] at held heard
      rw [Timing.openings, waiting] at apart
      have nonempty := held.nonempty window rfl
      have passed := outlived window waiting
      rcases @Held.tick view timing.daemon.folders _ _ _ _ held permuted with ⟨late, early⟩
      by_cases due : window.first + debounceMs ≤ view.now
      · rcases late due with ⟨leaves, gone, once⟩
        simp only [leaves, Bool.false_eq_true, if_false]
        refine ⟨(congrArg _ left).trans gone, of_none_eq_some, of_none_eq_some, ?_, ?_, ?_, ?_, ?_⟩
        · intro flushed member
          rcases List.mem_append.mp member with closed | now
          · exact before.flushed flushed closed
          · rw [List.mem_singleton.mp now]
            exact ⟨nonempty, due, passed, once⟩
        · rw [List.flatMap_append, List.flatMap_singleton, Option.elim_none, List.append_nil]
          exact heard
        · rw [List.flatMap_append, List.flatMap_singleton, built]
        · rw [Timing.openings, List.map_append, Option.map_none, Option.toList_none, List.append_nil]
          exact apart
        · intro flushed member
          rcases List.mem_append.mp member with closed | now
          · exact past flushed closed
          · rw [List.mem_singleton.mp now]
      · have sooner := Nat.lt_of_not_le due
        rcases early sooner with ⟨stays, kept, idle⟩
        simp only [stays, if_true]
        refine ⟨(congrArg _ left).trans kept, ?_, ?_, before.flushed, heard, ?_, apart, past⟩
        · intro later opened
          rw [← Option.some.inj opened]
          exact nonempty
        · intro later opened
          rw [← Option.some.inj opened]
          intro tick member
          rcases List.mem_append.mp member with outlasted | now
          · exact passed tick outlasted
          · rw [List.mem_singleton.mp now]
            exact sooner
        · rw [idle, List.append_nil]
          exact built

theorem onTime_exec {step : DaemonStep} (ordered : InOrder timing step) (before : OnTime path timing) :
    OnTime path (timing.exec path step) := by
  cases step with
  | hear now kind paths => exact before.hear kind paths (ordered now rfl)
  | flush view entries =>
      by_cases order : entries.isPerm timing.daemon.debouncing = true
      · exact before.tick order (ordered view.now rfl)
      · rw [Timing.exec, if_neg order]
        apply before.of_debouncing
        rw [Daemon.exec, Daemon.flush, if_neg order]
  | watchFolders folders => exact before.of_debouncing rfl
  | _ => exact before.of_debouncing (sameWatcher_exec rfl).debouncing

omit [Rfc3339] in
theorem onTime_start {daemon : Daemon} (idle : daemon.debouncing = []) : OnTime path (Timing.start daemon) where
  held := congrArg _ idle
  nonempty := of_none_eq_some
  outlived := of_none_eq_some
  flushed _ member := (List.not_mem_nil member).elim
  heard := rfl
  built := rfl
  apart := List.Pairwise.nil
  past _ member := (List.not_mem_nil member).elim

/-- In every run whose events and ticks come in the order of their times: each window of a path is
closed by the first tick that comes late enough, with at most one task. -/
theorem on_time_throughout (path : String) {daemon : Daemon} (idle : daemon.debouncing = []) {steps : List DaemonStep}
    (ordered : Along (Timing.exec path) InOrder steps (Timing.start daemon)) :
    Throughout (Timing.exec path) (OnTime path) steps (Timing.start daemon) := by
  have preserved (timing : Timing) (step : DaemonStep) (ordered : InOrder timing step) (before : OnTime path timing) :
      OnTime path (timing.exec path step) := onTime_exec ordered before
  exact throughout_of_along preserved ordered (onTime_start idle)

/-- Following a path does not change the run. -/
theorem daemon_run (path : String) (steps : List DaemonStep) (timing : Timing) :
    (run (Timing.exec path) steps timing).daemon = run Daemon.exec steps timing.daemon := by
  induction steps generalizing timing with
  | nil => rfl
  | cons step rest inductionHypothesis =>
      have here : (timing.exec path step).daemon = timing.daemon.exec step := by
        cases step with
        | flush view entries =>
            rw [Timing.exec]
            split
            · rw [Timing.ticked]
              cases timing.waiting with
              | none => rfl
              | some window =>
                  dsimp only
                  split
                  · rfl
                  · rfl
            · rfl
        | _ => rfl
      rw [run_cons, run_cons, inductionHypothesis, here]

end Runs

/-- A file is written on and on; the ticks do not wait for an end of that. -/
def writesOn : List DaemonStep := [
  .hear 10 .create ["/mnt/a"], .hear 100 .modifyData ["/mnt/a"],
  .flush ⟨200, fun _ => false, 5⟩ [⟨10, "/mnt/a", .modifyData⟩], .hear 305 .modifyData ["/mnt/a"],
  .flush ⟨320, fun _ => false, 5⟩ [⟨10, "/mnt/a", .modifyData⟩], .hear 330 .modifyData ["/mnt/a"],
  .flush ⟨630, fun _ => false, 5⟩ [⟨330, "/mnt/a", .modifyData⟩]]

theorem on_time_writesOn :
    Throughout (@Timing.exec untimed "/mnt/a") (OnTime "/mnt/a") writesOn (Timing.start watchingMnt) ∧
      (run (@Timing.exec untimed "/mnt/a") writesOn (Timing.start watchingMnt)).flushed.map
        (fun flushed => (flushed.window, flushed.closedAt, flushed.tasks.length)) =
          [(⟨10, [.create, .modifyData, .modifyData], [200]⟩, 320, 1), (⟨330, [.modifyData], []⟩, 630, 1)] :=
  ⟨@on_time_throughout untimed "/mnt/a" watchingMnt rfl writesOn (by decide), by decide⟩

end Loop
end GDriver
