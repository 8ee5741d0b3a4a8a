import GDriver.Watcher.Debounce

namespace GDriver
namespace Watcher

open Db

/-!
# Debounce windows

The events on a path that fall into one window become one entry, which keeps the time of
the first of them and the kind of the last.  What an earlier event reported is forgotten.
-/

/-- An event of the file system, with the time when the watcher hears of it. -/
structure FsEvent where
  now : Nat
  kind : EventKind
  paths : List String
  deriving DecidableEq, Repr

/-- Note one event for each of its paths. -/
def noteEvent (pending : List DebounceEntry) (event : FsEvent) : List DebounceEntry :=
  event.paths.foldl (note event.now event.kind) pending

/-- Note the events one after the other. -/
def collect (events : List FsEvent) (pending : List DebounceEntry) : List DebounceEntry :=
  events.foldl noteEvent pending

/-- What one event reports of a path, once for each time it names the path. -/
def FsEvent.kindsOn (path : String) (event : FsEvent) : List EventKind :=
  (event.paths.filter fun other => other = path).map fun _ => event.kind

/-- What the events report of a path, in order. -/
def kindsOn (path : String) (events : List FsEvent) : List EventKind :=
  events.flatMap (FsEvent.kindsOn path)

/-- What is held back for a path: nothing, or entries of one kind. -/
structure Holding (path : String) (shown : Option EventKind) (pending : List DebounceEntry) : Prop where
  noted : shown.isSome → ∃ entry ∈ pending, entry.path = path
  kind : ∀ entry ∈ pending, entry.path = path → shown = some entry.kind

/-- Nothing is held back for a path without an entry. -/
theorem holding_none {path : String} {pending : List DebounceEntry}
    (fresh : ∀ entry ∈ pending, entry.path ≠ path) : Holding path none pending where
  noted := by
    intro some
    cases some
  kind := by
    intro entry member on
    exact absurd on (fresh entry member)

section Note

variable {path : String} {shown : Option EventKind} {pending : List DebounceEntry} {now : Nat} {kind : EventKind}

/-- An event on the path leaves its kind with the path, whatever was held back for it. -/
theorem holding_note_self (pending : List DebounceEntry) :
    Holding path (some kind) (note now kind pending path) := by
  rw [note]
  split
  · next known =>
      rw [List.any_eq_true] at known
      rcases known with ⟨entry, member, same⟩
      constructor
      · intro _
        have itself : entry.path = path := of_decide_eq_true same
        exact ⟨{ entry with kind := kind }, List.mem_map.mpr ⟨entry, member, if_pos itself⟩, itself⟩
      · intro later inside on
        rcases List.mem_map.mp inside with ⟨before, _, changed⟩
        by_cases itself : before.path = path
        · rw [if_pos itself] at changed
          rw [← changed]
        · rw [if_neg itself] at changed
          rw [changed] at itself
          exact absurd on itself
  · next unknown =>
      constructor
      · intro _
        exact ⟨⟨now, path, kind⟩, List.mem_append_right _ List.mem_cons_self, rfl⟩
      · intro later inside on
        rcases List.mem_append.mp inside with before | added
        · apply absurd _ unknown
          rw [List.any_eq_true]
          exact ⟨later, before, decide_eq_true on⟩
        · rw [List.mem_singleton] at added
          rw [added]

/-- An event on another path changes nothing for this one. -/
theorem mem_note_of_ne {other : String} (differs : other ≠ path) {entry : DebounceEntry} (on : entry.path = path) :
    entry ∈ note now kind pending other ↔ entry ∈ pending := by
  rw [note]
  split
  · rw [List.mem_map]
    constructor
    · rintro ⟨before, member, changed⟩
      split at changed
      · next itself =>
          rw [← changed] at on
          exact absurd (itself.symm.trans on) differs
      · rw [← changed]
        exact member
    · intro member
      have elsewhere : entry.path ≠ other := by
        rw [on]
        exact differs.symm
      exact ⟨entry, member, if_neg elsewhere⟩
  · rw [List.mem_append, List.mem_singleton]
    constructor
    · rintro (member | added)
      · exact member
      · rw [added] at on
        exact absurd on differs
    · exact Or.inl

theorem Holding.note_of_ne {other : String} (differs : other ≠ path) (holding : Holding path shown pending) :
    Holding path shown (note now kind pending other) := by
  constructor
  · intro some
    rcases holding.noted some with ⟨entry, member, on⟩
    exact ⟨entry, (mem_note_of_ne differs on).mpr member, on⟩
  · intro entry member on
    exact holding.kind entry ((mem_note_of_ne differs on).mp member) on

/-- Of two things that may be noted the later one counts. -/
theorem getLast?_cons_or {α : Type} (first : α) (rest : List α) (shown : Option α) :
    (first :: rest).getLast?.or shown = rest.getLast?.or (some first) := by
  rw [List.getLast?_cons]
  cases rest.getLast? with
  | none => rfl
  | some last => rfl

/-- The paths of an event, one after the other. -/
theorem Holding.notePaths (holding : Holding path shown pending) (paths : List String) :
    Holding path (((paths.filter fun other => other = path).map fun _ => kind).getLast?.or shown)
      (paths.foldl (note now kind) pending) := by
  induction paths generalizing shown pending with
  | nil => exact holding
  | cons other rest inductionHypothesis =>
      rw [List.foldl_cons]
      by_cases itself : other = path
      · rw [List.filter_cons_of_pos (by simpa using itself), List.map_cons, getLast?_cons_or, itself]
        exact inductionHypothesis (holding_note_self pending)
      · rw [List.filter_cons_of_neg (by simpa using itself)]
        exact inductionHypothesis (holding.note_of_ne itself)

end Note

/-- After the events of a window the path is held back with the kind of the last of them. -/
theorem Holding.collect {path : String} {shown : Option EventKind} {pending : List DebounceEntry}
    (holding : Holding path shown pending) (events : List FsEvent) :
    Holding path ((kindsOn path events).getLast?.or shown) (collect events pending) := by
  induction events generalizing shown pending with
  | nil => exact holding
  | cons event rest inductionHypothesis =>
      have noted : Holding path ((event.kindsOn path).getLast?.or shown) (noteEvent pending event) :=
        holding.notePaths event.paths
      have later := inductionHypothesis noted
      rw [kindsOn, List.flatMap_cons, List.getLast?_append, Option.or_assoc]
      exact later

/-- Whether an event of this kind on its own gives a task, when the path is no directory. -/
def Emits (view : FlushView) (folders : List WatchedFolder) (path : String) (kind : EventKind) : Prop :=
  (eventToTask path false kind folders view.clock).isSome

instance (view : FlushView) (folders : List WatchedFolder) (path : String) (kind : EventKind) :
    Decidable (Emits view folders path kind) :=
  inferInstanceAs (Decidable (_ = true))

/-- The tasks for a path are those of its due entries. -/
theorem of_mem_dueTasks {view : FlushView} {folders : List WatchedFolder} {entries : List DebounceEntry}
    {path : String} (file : view.isDir path = false) {task : SyncTask} (member : task ∈ dueTasks view folders entries)
    (about : task.localPath = some path) :
    ∃ entry ∈ entries, isDue view.now entry = true ∧ entry.path = path ∧
      eventToTask path false entry.kind folders view.clock = some task := by
  rcases List.mem_filterMap.mp member with ⟨entry, kept, gives⟩
  rcases List.mem_filter.mp kept with ⟨inside, due⟩
  have on : entry.path = path := by
    have same := (of_eventToTask gives).2.1
    rw [about] at same
    exact (Option.some.inj same).symm
  rw [on, file] at gives
  exact ⟨entry, inside, due, on, gives⟩

/-- A flush gives a task for a path that is no directory exactly when an entry for it is due
whose kind gives one. -/
theorem exists_dueTask_iff {view : FlushView} {folders : List WatchedFolder} {entries : List DebounceEntry}
    {path : String} (file : view.isDir path = false) :
    (∃ task ∈ dueTasks view folders entries, task.localPath = some path) ↔
      ∃ entry ∈ entries, isDue view.now entry ∧ entry.path = path ∧ Emits view folders path entry.kind := by
  constructor
  · rintro ⟨task, member, named⟩
    rcases of_mem_dueTasks file member named with ⟨entry, inside, ripe, on, gives⟩
    exact ⟨entry, inside, ripe, on, Option.isSome_of_mem gives⟩
  · rintro ⟨entry, inside, ripe, on, emits⟩
    rcases Option.isSome_iff_exists.mp emits with ⟨task, gives⟩
    refine ⟨task, List.mem_filterMap.mpr ⟨entry, List.mem_filter.mpr ⟨inside, ripe⟩, ?_⟩,
      (of_eventToTask gives).2.1⟩
    rw [on, file]
    exact gives

/-!
## What a flush loses

Each window is flushed once its first event is old enough; the kinds of the events in
between are not kept, so a change of permissions after a change of the contents hides it.
-/

/-- When some event of the window gives a task on its own, the flush gives one for the path
exactly when the last event of the window does. -/
theorem flush_emits_iff {view : FlushView} {folders : List WatchedFolder} {path : String}
    {pending entries : List DebounceEntry} {events : List FsEvent}
    (fresh : ∀ entry ∈ pending, entry.path ≠ path) (held : entries.Perm (collect events pending))
    (due : ∀ entry ∈ entries, entry.path = path → isDue view.now entry) (file : view.isDir path = false) :
    ((∃ kind ∈ kindsOn path events, Emits view folders path kind) →
        ∃ task ∈ dueTasks view folders entries, task.localPath = some path) ↔
      ((∃ kind ∈ kindsOn path events, Emits view folders path kind) →
        ∃ kind, (kindsOn path events).getLast? = some kind ∧ Emits view folders path kind) := by
  have holding := (holding_none fresh).collect events
  rw [Option.or_none] at holding
  apply imp_congr_right
  intro _
  rw [exists_dueTask_iff file]
  constructor
  · rintro ⟨entry, inside, _, on, emits⟩
    exact ⟨entry.kind, holding.kind entry (held.mem_iff.mp inside) on, emits⟩
  · rintro ⟨kind, last, emits⟩
    rcases holding.noted (Option.isSome_of_mem last) with ⟨entry, member, on⟩
    have inside := held.mem_iff.mpr member
    have same : some kind = some entry.kind := last.symm.trans (holding.kind entry member on)
    rw [Option.some.inj same] at emits
    exact ⟨entry, inside, due entry inside on, on, emits⟩

def exampleFolders : List WatchedFolder :=
  [⟨"/home/ann/Docs", "ann", "drive"⟩]

def exampleView : FlushView where
  now := 400
  isDir := fun _ => false
  clock := 1000

/-- The contents of a file are written and then its permissions change. -/
def writeThenChmod : List FsEvent :=
  [⟨10, .modifyData, ["/home/ann/Docs/a.txt"]⟩, ⟨20, .modifyMetadata, ["/home/ann/Docs/a.txt"]⟩]

/-- The permissions change and then the contents are written. -/
def chmodThenWrite : List FsEvent :=
  [⟨10, .modifyMetadata, ["/home/ann/Docs/a.txt"]⟩, ⟨20, .modifyData, ["/home/ann/Docs/a.txt"]⟩]

/-- A write whose event comes last in its window gives a task. -/
theorem flush_emits_write :
    (∀ entry ∈ collect chmodThenWrite [], entry.path = "/home/ann/Docs/a.txt" → isDue exampleView.now entry) ∧
      ∃ task ∈ dueTasks exampleView exampleFolders (collect chmodThenWrite []),
        task.localPath = some "/home/ann/Docs/a.txt" := by
  have due : ∀ entry ∈ collect chmodThenWrite [], entry.path = "/home/ann/Docs/a.txt" →
      isDue exampleView.now entry := by
    decide
  refine ⟨due, (flush_emits_iff (by simp) (List.Perm.refl _) due rfl).mpr ?_ ⟨.modifyData, ?_, ?_⟩⟩
  · intro _
    exact ⟨.modifyData, by decide, by decide⟩
  · decide
  · decide

/-- A write followed by a change of permissions gives none. -/
theorem flush_loses_write :
    ¬ ((∃ kind ∈ kindsOn "/home/ann/Docs/a.txt" writeThenChmod,
          Emits exampleView exampleFolders "/home/ann/Docs/a.txt" kind) →
        ∃ task ∈ dueTasks exampleView exampleFolders (collect writeThenChmod []),
          task.localPath = some "/home/ann/Docs/a.txt") := by
  decide

end Watcher
end GDriver
