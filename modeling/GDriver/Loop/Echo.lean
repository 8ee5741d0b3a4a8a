import GDriver.Loop.Watching
import Mathlib.Data.List.Induction

namespace GDriver
namespace Loop

open Library Db Api Sync Watcher

/-!
# Own writes in a watched folder

A download that goes into a watched folder is reported to the watcher like any other
change.  The watcher looks at the path and at what was reported last, and at nothing that
would tell who wrote.
-/

/-- What the daemon does to the files of a folder. -/
inductive FileOperation where
  | create (path : String)
  | write (path : String)
  | rename (source target : String)
  | remove (path : String)
  deriving DecidableEq, Repr

def FileOperation.paths : FileOperation → List String
  | .create path => [path]
  | .write path => [path]
  | .rename source target => [source, target]
  | .remove path => [path]

/-- A download that arrives: its chunks are written to the temporary file, which is renamed. -/
def downloadOperations (localPath : String) (chunks : Nat) : List FileOperation :=
  (.create (tmpPath localPath) :: List.replicate chunks (.write (tmpPath localPath))) ++
    [.rename (tmpPath localPath) localPath]

/-- A download that fails: the temporary file is cleaned up. -/
def failedDownloadOperations (localPath : String) (chunks : Nat) : List FileOperation :=
  (.create (tmpPath localPath) :: List.replicate chunks (.write (tmpPath localPath))) ++
    [.remove (tmpPath localPath)]

/-- The resolution of a conflict: the local file becomes the conflict copy, and the remote
version is downloaded. -/
def conflictOperations (timestamp localPath : String) (chunks : Nat) : List FileOperation :=
  .rename localPath (conflictPath timestamp localPath) :: downloadOperations localPath chunks

/-- A resolution that stops before it downloads: the conflict copy is not read, or the remote version
is not answered. -/
def stoppedConflictOperations (timestamp localPath : String) : List FileOperation :=
  [.rename localPath (conflictPath timestamp localPath)]

/-- What is reported for the operations on files: a new name for both names of a renamed file, and
the removal of a removed one. -/
structure Documented (reports : FileOperation → List (EventKind × String)) : Prop where
  about : ∀ operation, ∀ event ∈ reports operation, event.2 ∈ operation.paths
  renamed : ∀ source target, ∀ path ∈ [source, target],
    (EventKind.modifyName, path) ∈ reports (.rename source target)
  renames : ∀ source target, ∀ event ∈ reports (.rename source target), event.1 = .modifyName
  removed : ∀ path, (EventKind.removeFile, path) ∈ reports (.remove path)
  removes : ∀ path, ∀ event ∈ reports (.remove path), event.1 = .removeFile

/-! ## What was heard last -/

/-- The events that a step brings to the watcher. -/
def heardIn : DaemonStep → List (EventKind × String)
  | .hear _ kind paths => paths.map fun path => (kind, path)
  | _ => []

/-- The event of a list that is the last one for a path. -/
def lastFor (path : String) (events : List (EventKind × String)) : Option EventKind :=
  ((events.filter fun event => event.2 = path).getLast?).map Prod.fst

theorem lastFor_append (path : String) (first second : List (EventKind × String)) :
    lastFor path (first ++ second) = (lastFor path second).or (lastFor path first) := by
  rw [lastFor, lastFor, lastFor, List.filter_append, List.getLast?_append]
  cases ((second.filter fun event => event.2 = path).getLast?) with
  | none => rfl
  | some event => rfl

theorem lastFor_of_notMem {path : String} {events : List (EventKind × String)}
    (absent : ∀ event ∈ events, event.2 ≠ path) : lastFor path events = none := by
  have none_ : (events.filter fun event => event.2 = path) = [] :=
    List.filter_eq_nil_iff.mpr fun event member => by simpa using absent event member
  rw [lastFor, none_]
  rfl

/-- When all events of a path are of one kind, and there are some, that is the last one. -/
theorem lastFor_of_forall {path : String} {kind : EventKind} {events : List (EventKind × String)}
    (some_ : ∃ event ∈ events, event.2 = path)
    (all : ∀ event ∈ events, event.2 = path → event.1 = kind) : lastFor path events = some kind := by
  rw [lastFor]
  cases last : (events.filter fun event => event.2 = path).getLast? with
  | none =>
      rcases some_ with ⟨event, member, about⟩
      have empty := List.getLast?_eq_none_iff.mp last
      exact absurd about (by simpa using List.filter_eq_nil_iff.mp empty event member)
  | some event =>
      have member := List.mem_filter.mp (List.mem_of_getLast? last)
      rw [Option.map_some, all event member.1 (by simpa using member.2)]

/-! ## What is held back -/

section Noting

variable {now : Nat} {kind : EventKind} {pending : List DebounceEntry} {path other : String}

/-- The watcher holds an entry back for the path. -/
def Holds (path : String) (kind : EventKind) (pending : List DebounceEntry) : Prop :=
  ∃ entry ∈ pending, entry.path = path ∧ entry.kind = kind

theorem holds_note_self : Holds path kind (note now kind pending path) := by
  rw [note]
  split
  · next known =>
      rcases List.any_eq_true.mp known with ⟨entry, member, same⟩
      refine ⟨{ entry with kind := kind }, ?_, by simpa using same, rfl⟩
      refine List.mem_map.mpr ⟨entry, member, ?_⟩
      rw [if_pos (by simpa using same)]
  · exact ⟨⟨now, path, kind⟩, List.mem_append_right _ (List.mem_singleton_self _), rfl, rfl⟩

theorem holds_note_of_ne {before : EventKind} (different : path ≠ other)
    (holds : Holds path before pending) : Holds path before (note now kind pending other) := by
  rcases holds with ⟨entry, member, same, held⟩
  rw [note]
  split
  · refine ⟨entry, List.mem_map.mpr ⟨entry, member, ?_⟩, same, held⟩
    rw [if_neg]
    rw [same]
    exact different
  · exact ⟨entry, List.mem_append_left _ member, same, held⟩

theorem holds_foldl_note {paths : List String} (heard : path ∈ paths) :
    Holds path kind (paths.foldl (note now kind) pending) := by
  induction paths using List.reverseRecOn with
  | nil => cases heard
  | append_singleton earlier last inductionHypothesis =>
      rw [List.foldl_append, List.foldl_cons, List.foldl_nil]
      by_cases same : path = last
      · rw [same]
        exact holds_note_self
      · have before : path ∈ earlier := by
          rcases List.mem_append.mp heard with here | there
          · exact here
          · exact absurd (List.mem_singleton.mp there) same
        exact holds_note_of_ne same (inductionHypothesis before)

theorem holds_foldl_note_of_notMem {paths : List String} {before : EventKind} (unheard : path ∉ paths)
    (holds : Holds path before pending) : Holds path before (paths.foldl (note now kind) pending) := by
  induction paths generalizing pending with
  | nil => exact holds
  | cons first rest inductionHypothesis =>
      rw [List.mem_cons, not_or] at unheard
      exact inductionHypothesis unheard.2 (holds_note_of_ne unheard.1 holds)

/-- An entry is as old as one of the events it was made of. -/
theorem firstSeen_of_note {entry : DebounceEntry} (member : entry ∈ note now kind pending path) :
    entry.firstSeen = now ∨ ∃ old ∈ pending, old.firstSeen = entry.firstSeen := by
  rw [note] at member
  split at member
  · rcases List.mem_map.mp member with ⟨old, there, same⟩
    refine Or.inr ⟨old, there, ?_⟩
    rw [← same]
    split
    · rfl
    · rfl
  · rcases List.mem_append.mp member with there | new
    · exact Or.inr ⟨entry, there, rfl⟩
    · rw [List.mem_singleton.mp new]
      exact Or.inl rfl

theorem firstSeen_of_foldl_note {paths : List String} {entry : DebounceEntry}
    (member : entry ∈ paths.foldl (note now kind) pending) :
    entry.firstSeen = now ∨ ∃ old ∈ pending, old.firstSeen = entry.firstSeen := by
  induction paths generalizing pending with
  | nil => exact Or.inr ⟨entry, member, rfl⟩
  | cons first rest inductionHypothesis =>
      rcases inductionHypothesis member with new | ⟨old, there, same⟩
      · exact Or.inl new
      · rcases firstSeen_of_note there with new | ⟨older, before, again⟩
        · exact Or.inl (same.symm.trans new)
        · exact Or.inr ⟨older, before, again.trans same⟩

end Noting

/-! ## What comes out of the watcher -/

/-- An event of this kind asks for something. -/
def Interesting (kind : EventKind) : Prop :=
  ∀ isPhotos, operationFor isPhotos kind ≠ none

theorem interesting_modifyName : Interesting .modifyName := by
  intro isPhotos
  exact Option.some_ne_none _

theorem interesting_removeFile : Interesting .removeFile := by
  intro isPhotos
  exact Option.some_ne_none _

/-- The watcher holds the same entries back, and watches the same folders. -/
structure SameWatcher (daemon later : Daemon) : Prop where
  debouncing : later.debouncing = daemon.debouncing
  folders : later.folders = daemon.folders

/-- Whether a step concerns the watcher. -/
def concernsWatcher : DaemonStep → Bool
  | .hear .. => true
  | .flush .. => true
  | .watchFolders .. => true
  | _ => false

theorem sameWatcher_send (command : SyncCommand) (daemon : Daemon) :
    SameWatcher daemon (daemon.send command) := by
  rw [Daemon.send]
  split
  · exact ⟨rfl, rfl⟩
  · exact ⟨rfl, rfl⟩

section Steps

variable [Rfc3339] {daemon : Daemon} {step : DaemonStep}

/-- The other steps of the daemon leave the watcher alone. -/
theorem sameWatcher_exec (other : concernsWatcher step = false) : SameWatcher daemon (daemon.exec step) := by
  cases step with
  | pause => exact sameWatcher_send _ daemon
  | resume => exact sameWatcher_send _ daemon
  | setSyncMode newMode => exact ⟨rfl, rfl⟩
  | sendSwitch position =>
      rw [Daemon.exec, Daemon.sendSwitch]
      split
      · exact ⟨rfl, rfl⟩
      · next newMode _ =>
          have sent := sameWatcher_send (.switchMode newMode) daemon
          split
          · exact ⟨sent.debouncing, sent.folders⟩
          · exact ⟨rfl, rfl⟩
  | savePrefs saves prefs =>
      rw [Daemon.exec, Daemon.handlePrefsSave]
      split
      · exact ⟨rfl, rfl⟩
      · exact ⟨rfl, rfl⟩
  | hear now kind paths => cases other
  | flush view entries => cases other
  | watchFolders folders => cases other
  | scan task =>
      rw [Daemon.exec, Daemon.scan]
      split
      · exact ⟨rfl, rfl⟩
      · exact ⟨rfl, rfl⟩
  | receiveCommand answers =>
      rw [Daemon.exec, Daemon.receiveCommand]
      split
      · exact ⟨rfl, rfl⟩
      · exact ⟨rfl, rfl⟩
  | tick answers => exact ⟨rfl, rfl⟩
  | receiveTask answers =>
      rw [Daemon.exec, Daemon.receiveTask]
      split
      · exact ⟨rfl, rfl⟩
      · exact ⟨rfl, rfl⟩
  | elsewhere operation =>
      rw [Daemon.exec, Daemon.elsewhere]
      split
      · exact ⟨rfl, rfl⟩
      · exact ⟨rfl, rfl⟩

/-- Only events and flushes change what the watcher holds back. -/
theorem debouncing_exec (fixed : ∀ folders, step ≠ .watchFolders folders) :
    (∃ now kind paths, step = .hear now kind paths ∧
      (daemon.exec step).debouncing = paths.foldl (note now kind) daemon.debouncing) ∨
    (∃ view entries, step = .flush view entries ∧ entries.isPerm daemon.debouncing = true ∧
      (daemon.exec step).debouncing = entries.filter fun entry => !isDue view.now entry) ∨
    heardIn step = [] ∧ (daemon.exec step).debouncing = daemon.debouncing := by
  cases concerns : concernsWatcher step with
  | false =>
      refine Or.inr (Or.inr ⟨?_, (sameWatcher_exec concerns).debouncing⟩)
      cases step with
      | hear now kind paths => cases concerns
      | _ => rfl
  | true =>
      cases step with
      | hear now kind paths => exact Or.inl ⟨now, kind, paths, rfl, rfl⟩
      | flush view entries =>
          rw [Daemon.exec, Daemon.flush]
          split
          · next permuted => exact Or.inr (Or.inl ⟨view, entries, rfl, permuted, rfl⟩)
          · exact Or.inr (Or.inr ⟨rfl, rfl⟩)
      | watchFolders folders => exact absurd rfl (fixed folders)
      | _ => cases concerns

/-- The watched folders stay the same until others are added. -/
theorem folders_exec (fixed : ∀ folders, step ≠ .watchFolders folders) :
    (daemon.exec step).folders = daemon.folders := by
  cases concerns : concernsWatcher step with
  | false => exact (sameWatcher_exec concerns).folders
  | true =>
      cases step with
      | hear now kind paths => rfl
      | flush view entries =>
          rw [Daemon.exec, Daemon.flush]
          split
          · rfl
          · rfl
      | watchFolders folders => exact absurd rfl (fixed folders)
      | _ => cases concerns

end Steps

/-! ## Runs -/

section Runs

variable [Rfc3339] {daemon : Daemon} {path : String}

/-- No folders are added in the run, and the path is that of a file whenever it is looked at. -/
structure Undisturbed (path : String) (steps : List DaemonStep) : Prop where
  fixed : ∀ step ∈ steps, ∀ folders, step ≠ .watchFolders folders
  file : ∀ view entries, .flush view entries ∈ steps → view.isDir path = false

/-- What the watcher built no task for. -/
def Unnoticed (path : String) (state : Watching) : Prop :=
  ∀ task ∈ state.built, task.localPath ≠ some path

theorem folders_run {steps : List DaemonStep} (fixed : ∀ step ∈ steps, ∀ folders, step ≠ .watchFolders folders) :
    (run Watching.exec steps ⟨daemon, []⟩).daemon.folders = daemon.folders := by
  induction steps using List.reverseRecOn with
  | nil => rfl
  | append_singleton earlier last inductionHypothesis =>
      rw [run_append]
      refine (folders_exec (fixed last (List.mem_append_right _ (List.mem_singleton_self _)))).trans ?_
      exact inductionHypothesis fun step member => fixed step (List.mem_append_left _ member)

omit [Rfc3339] in
/-- A due entry of a file in a watched folder becomes a task when it asks for something. -/
theorem exists_dueTask {view : FlushView} {folders : List WatchedFolder} {entries : List DebounceEntry}
    {entry : DebounceEntry} (member : entry ∈ entries) (due : isDue view.now entry = true)
    (file : view.isDir entry.path = false) (owned : findOwningFolder entry.path folders ≠ none)
    (interesting : Interesting entry.kind) :
    ∃ task ∈ dueTasks view folders entries, task.localPath = some entry.path := by
  rcases Option.ne_none_iff_exists'.mp owned with ⟨folder, owner⟩
  rcases Option.ne_none_iff_exists'.mp (interesting (folder.folderType = "photos")) with
    ⟨operation, asked⟩
  have made : eventToTask entry.path (view.isDir entry.path) entry.kind folders view.clock =
      some (pendingTask view.clock folder.accountId none operation (some entry.path) 5) := by
    rw [eventToTask, file, if_neg Bool.false_ne_true, owner]
    dsimp only
    rw [asked, Option.map_some]
  refine ⟨_, List.mem_filterMap.mpr ⟨entry, ?_, made⟩, rfl⟩
  exact List.mem_filter.mpr ⟨member, due⟩

omit [Rfc3339] in
/-- An event is heard of the paths that it names. -/
theorem lastFor_hear (now : Nat) (event : EventKind) (paths : List String) :
    lastFor path (heardIn (.hear now event paths)) = if path ∈ paths then some event else none := by
  split
  · next member =>
      refine lastFor_of_forall ⟨(event, path), List.mem_map.mpr ⟨path, member, rfl⟩, rfl⟩ ?_
      intro other otherMember _
      rcases List.mem_map.mp otherMember with ⟨_, _, made⟩
      rw [← made]
  · next absent =>
      refine lastFor_of_notMem fun other otherMember about => ?_
      rcases List.mem_map.mp otherMember with ⟨_, there, made⟩
      rw [← made] at about
      exact absent (about ▸ there)

omit [Rfc3339] in
/-- What a flush builds nothing for is held back still. -/
theorem holds_flush {view : FlushView} {folders : List WatchedFolder} {entries pending : List DebounceEntry}
    {kind : EventKind} (holds : Holds path kind pending) (permuted : entries.isPerm pending = true)
    (file : view.isDir path = false) (owned : findOwningFolder path folders ≠ none) (interesting : Interesting kind)
    (unbuilt : ∀ task ∈ dueTasks view folders entries, task.localPath ≠ some path) :
    Holds path kind (entries.filter fun entry => !isDue view.now entry) := by
  rcases holds with ⟨entry, member, about, held⟩
  have there : entry ∈ entries := (List.isPerm_iff.mp permuted).mem_iff.mpr member
  refine ⟨entry, List.mem_filter.mpr ⟨there, ?_⟩, about, held⟩
  cases due : isDue view.now entry with
  | false => rfl
  | true =>
      rw [← about] at file owned
      rw [← held] at interesting
      rcases exists_dueTask there due file owned interesting with ⟨task, made, target⟩
      rw [about] at target
      exact absurd target (unbuilt task made)

/-- As long as nothing was built for a file in a watched folder, an entry with what was heard of it
last is held back. -/
theorem holds_of_unnoticed {steps : List DaemonStep} (undisturbed : Undisturbed path steps)
    (owned : findOwningFolder path daemon.folders ≠ none)
    (unnoticed : Unnoticed path (run Watching.exec steps ⟨daemon, []⟩)) {kind : EventKind}
    (heard : lastFor path (steps.flatMap heardIn) = some kind) (interesting : Interesting kind) :
    Holds path kind (run Watching.exec steps ⟨daemon, []⟩).daemon.debouncing := by
  induction steps using List.reverseRecOn with
  | nil => cases heard
  | append_singleton earlier last inductionHypothesis =>
      have here : last ∈ earlier ++ [last] := List.mem_append_right _ (List.mem_singleton_self _)
      have before : Undisturbed path earlier :=
        ⟨fun step member => undisturbed.fixed step (List.mem_append_left _ member),
          fun view entries member => undisturbed.file view entries (List.mem_append_left _ member)⟩
      have watched := @folders_run _ daemon earlier before.fixed
      rw [run_append] at unnoticed ⊢
      rw [List.flatMap_append, lastFor_append, List.flatMap_singleton] at heard
      generalize run Watching.exec earlier ⟨daemon, []⟩ = state at unnoticed inductionHypothesis watched ⊢
      have unnoticedBefore : Unnoticed path state := fun task member =>
        unnoticed task (List.mem_append_left _ member)
      have holds := inductionHypothesis before unnoticedBefore
      have unbuilt (task : SyncTask) (member : task ∈ builtIn state.daemon last) :
          task.localPath ≠ some path := unnoticed task (List.mem_append_right _ member)
      change Holds path kind (state.daemon.exec last).debouncing
      rcases @debouncing_exec _ state.daemon last (undisturbed.fixed last here) with
        ⟨now, event, paths, same, debouncing⟩ | ⟨view, entries, same, permuted, debouncing⟩ | ⟨silent, debouncing⟩
      · rw [debouncing]
        rw [same, lastFor_hear] at heard
        by_cases member : path ∈ paths
        · rw [if_pos member, Option.some_or] at heard
          rw [← Option.some.inj heard]
          exact holds_foldl_note member
        · rw [if_neg member, Option.none_or] at heard
          exact holds_foldl_note_of_notMem member (holds heard)
      · have silent : lastFor path (heardIn (.flush view entries)) = none := rfl
        rw [same, silent, Option.none_or] at heard
        rw [same, builtIn, if_pos permuted] at unbuilt
        rw [debouncing]
        rw [watched] at unbuilt
        exact holds_flush (holds heard) permuted (undisturbed.file view entries (same ▸ here)) owned interesting unbuilt
      · rw [silent] at heard
        have none_ : lastFor path [] = none := rfl
        rw [none_, Option.none_or] at heard
        rw [debouncing]
        exact holds heard

/-- Nothing is built for a file outside of the watched folders. -/
theorem unnoticed_of_outside {steps : List DaemonStep}
    (fixed : ∀ step ∈ steps, ∀ folders, step ≠ .watchFolders folders)
    (outside : findOwningFolder path daemon.folders = none) :
    Unnoticed path (run Watching.exec steps ⟨daemon, []⟩) := by
  induction steps using List.reverseRecOn with
  | nil =>
      intro task member
      cases member
  | append_singleton earlier last inductionHypothesis =>
      have fixedBefore : ∀ step ∈ earlier, ∀ folders, step ≠ .watchFolders folders :=
        fun step member => fixed step (List.mem_append_left _ member)
      have watched := @folders_run _ daemon earlier fixedBefore
      rw [run_append]
      intro task member target
      rcases List.mem_append.mp member with before | new
      · exact inductionHypothesis fixedBefore task before target
      · generalize (run Watching.exec earlier ⟨daemon, []⟩).daemon = state at watched new
        cases last with
        | flush view entries =>
            rw [builtIn] at new
            split at new
            · rcases List.mem_filterMap.mp new with ⟨entry, _, made⟩
              have about := (of_eventToTask made).2.1
              rw [target] at about
              rw [eventToTask, ← Option.some.inj about, watched, outside] at made
              split at made
              · cases made
              · cases made
            · cases new
        | _ => cases new

/-- Everything that is held back was heard of long before. -/
def Elapsed (now : Nat) (daemon : Daemon) : Prop :=
  ∀ entry ∈ daemon.debouncing, isDue now entry = true

theorem elapsed_run {now : Nat} {steps : List DaemonStep}
    (fixed : ∀ step ∈ steps, ∀ folders, step ≠ .watchFolders folders)
    (heard : ∀ time kind paths, .hear time kind paths ∈ steps → time + debounceMs ≤ now)
    (initially : Elapsed now daemon) :
    Elapsed now (run Watching.exec steps ⟨daemon, []⟩).daemon := by
  induction steps using List.reverseRecOn with
  | nil => exact initially
  | append_singleton earlier last inductionHypothesis =>
      have here : last ∈ earlier ++ [last] := List.mem_append_right _ (List.mem_singleton_self _)
      have before := inductionHypothesis (fun step member => fixed step (List.mem_append_left _ member))
        fun time kind paths member => heard time kind paths (List.mem_append_left _ member)
      rw [run_append]
      generalize run Watching.exec earlier ⟨daemon, []⟩ = state at before ⊢
      intro entry member
      change entry ∈ (state.daemon.exec last).debouncing at member
      rcases @debouncing_exec _ state.daemon last (fixed last here) with
        ⟨time, kind, paths, same, debouncing⟩ | ⟨view, entries, _, permuted, debouncing⟩ | ⟨_, debouncing⟩
      · rw [debouncing] at member
        rcases firstSeen_of_foldl_note member with new | ⟨old, there, age⟩
        · have passed := heard time kind paths (by rw [← same]; exact here)
          rw [isDue, decide_eq_true_eq, new]
          omega
        · have due := before old there
          rw [isDue, age] at due
          exact due
      · rw [debouncing] at member
        exact before entry ((List.isPerm_iff.mp permuted).mem_iff.mp (List.mem_filter.mp member).1)
      · rw [debouncing] at member
        exact before entry member

end Runs

/-! ## Own writes -/

/-- The paths that operations touch. -/
def touched (operations : List FileOperation) : List String :=
  operations.flatMap FileOperation.paths

/-- The writes of a download or of the resolution of a conflict. -/
def IsOwn (operations : List FileOperation) : Prop :=
  ∃ localPath chunks, operations = downloadOperations localPath chunks ∨
    operations = failedDownloadOperations localPath chunks ∨
      ∃ timestamp, operations = conflictOperations timestamp localPath chunks ∨
        operations = stoppedConflictOperations timestamp localPath

/-- What is reported last of a path that the last operation touches is reported of that operation. -/
theorem lastFor_concat {reports : FileOperation → List (EventKind × String)} {path : String}
    {kind : EventKind} (operations : List FileOperation) {operation : FileOperation}
    (last : lastFor path (reports operation) = some kind) :
    lastFor path ((operations ++ [operation]).flatMap reports) = some kind := by
  rw [List.flatMap_append, lastFor_append, List.flatMap_singleton, last, Option.some_or]

theorem mem_touched_download {localPath path : String} {chunks : Nat} {last : FileOperation}
    (touches : path ∈ touched ((.create (tmpPath localPath) ::
      List.replicate chunks (.write (tmpPath localPath))) ++ [last])) :
    path = tmpPath localPath ∨ path ∈ last.paths := by
  rw [touched, List.flatMap_append, List.flatMap_singleton] at touches
  rcases List.mem_append.mp touches with early | late
  · refine Or.inl ?_
    rcases List.mem_flatMap.mp early with ⟨operation, there, member⟩
    rcases List.mem_cons.mp there with same | again
    · rw [same] at member
      exact List.mem_singleton.mp member
    · rw [List.eq_of_mem_replicate again] at member
      exact List.mem_singleton.mp member
  · exact Or.inr late

section Reported

variable {reports : FileOperation → List (EventKind × String)} (documented : Documented reports)

include documented

theorem lastFor_rename {source target path : String} (either : path ∈ [source, target]) :
    lastFor path (reports (.rename source target)) = some .modifyName :=
  lastFor_of_forall ⟨_, documented.renamed source target path either, rfl⟩ fun event member _ =>
    documented.renames source target event member

theorem lastFor_remove (path : String) : lastFor path (reports (.remove path)) = some .removeFile :=
  lastFor_of_forall ⟨_, documented.removed path, rfl⟩ fun event member _ =>
    documented.removes path event member

theorem lastFor_of_untouched {path : String} {operations : List FileOperation}
    (untouched : path ∉ touched operations) : lastFor path (operations.flatMap reports) = none := by
  refine lastFor_of_notMem fun event member about => untouched ?_
  rcases List.mem_flatMap.mp member with ⟨operation, there, reported⟩
  rw [← about]
  exact List.mem_flatMap.mpr ⟨operation, there, documented.about operation event reported⟩

theorem lastFor_download {localPath path : String} {chunks : Nat}
    (touches : path ∈ touched (downloadOperations localPath chunks)) :
    lastFor path ((downloadOperations localPath chunks).flatMap reports) = some .modifyName := by
  refine lastFor_concat _ (lastFor_rename documented ?_)
  rcases mem_touched_download touches with same | there
  · rw [same]
    exact List.mem_cons_self
  · exact there

/-- Something that asks for a task is reported last of every path that own writes touch. -/
theorem lastFor_own {operations : List FileOperation} (own : IsOwn operations) {path : String}
    (touches : path ∈ touched operations) :
    ∃ kind, lastFor path (operations.flatMap reports) = some kind ∧ Interesting kind := by
  rcases own with ⟨localPath, chunks, same | same | ⟨timestamp, same | same⟩⟩
  · rw [same] at touches ⊢
    exact ⟨_, lastFor_download documented touches, interesting_modifyName⟩
  · rw [same] at touches ⊢
    refine ⟨_, lastFor_concat _ ?_, interesting_removeFile⟩
    rcases mem_touched_download touches with here | there
    · rw [here]
      exact lastFor_remove documented _
    · rw [List.mem_singleton.mp there]
      exact lastFor_remove documented _
  · rw [same, conflictOperations] at touches ⊢
    refine ⟨_, ?_, interesting_modifyName⟩
    rw [List.flatMap_cons, lastFor_append]
    by_cases later : path ∈ touched (downloadOperations localPath chunks)
    · rw [lastFor_download documented later, Option.some_or]
    · rw [lastFor_of_untouched documented later, Option.none_or]
      rw [touched, List.flatMap_cons] at touches
      rcases List.mem_append.mp touches with first | again
      · exact lastFor_rename documented first
      · exact absurd again later
  · rw [same, stoppedConflictOperations] at touches ⊢
    rw [touched, List.flatMap_singleton] at touches
    rw [List.flatMap_singleton]
    exact ⟨_, lastFor_rename documented touches, interesting_modifyName⟩

end Reported

/-- The steps of the daemon while the watcher hears of some operations: nothing else is heard of the
paths that they touch, and the last flush comes when everything is due. -/
structure Follows [Rfc3339] (reports : FileOperation → List (EventKind × String))
    (operations : List FileOperation) (daemon : Daemon) (steps : List DaemonStep) : Prop where
  heard : (steps.flatMap heardIn).filter (fun event => event.2 ∈ touched operations) =
    operations.flatMap reports
  undisturbed : ∀ path ∈ touched operations, Undisturbed path steps
  settles : ∃ earlier view entries, steps = earlier ++ [.flush view entries] ∧
    entries.isPerm (run Watching.exec earlier ⟨daemon, []⟩).daemon.debouncing = true ∧
      (∀ time kind paths, .hear time kind paths ∈ earlier → time + debounceMs ≤ view.now) ∧
        Elapsed view.now daemon

theorem lastFor_filter {path : String} {paths : List String} (member : path ∈ paths)
    (events : List (EventKind × String)) :
    lastFor path (events.filter fun event => event.2 ∈ paths) = lastFor path events := by
  rw [lastFor, lastFor, List.filter_filter]
  congr 2
  refine List.filter_congr fun event _ => ?_
  by_cases about : event.2 = path
  · rw [about, decide_eq_true member, Bool.and_true]
  · rw [decide_eq_false about, Bool.false_and]

/-- Whatever the timing, the watcher builds no task for the files that a download or the resolution
of a conflict writes, exactly when none of them is in a watched folder. -/
theorem own_writes_unnoticed_iff [Rfc3339] {reports : FileOperation → List (EventKind × String)}
    (documented : Documented reports) {operations : List FileOperation} (own : IsOwn operations)
    {daemon : Daemon} {steps : List DaemonStep} (follows : Follows reports operations daemon steps) :
    (∀ path ∈ touched operations, Unnoticed path (run Watching.exec steps ⟨daemon, []⟩)) ↔
      ∀ path ∈ touched operations, findOwningFolder path daemon.folders = none := by
  constructor
  · intro unnoticed path touches
    by_contra owned
    rcases lastFor_own documented own touches with ⟨kind, last, interesting⟩
    have undisturbed := follows.undisturbed path touches
    rw [← follows.heard, lastFor_filter touches] at last
    have holds := holds_of_unnoticed undisturbed owned (unnoticed path touches) last interesting
    rcases follows.settles with ⟨earlier, view, entries, same, permuted, heard, initially⟩
    rw [same] at holds undisturbed
    have elapsed := elapsed_run (fun step member => undisturbed.fixed step (List.mem_append_left _ member))
      heard initially
    rcases holds with ⟨entry, member, _⟩
    rw [run_append] at member
    generalize run Watching.exec earlier ⟨daemon, []⟩ = state at permuted elapsed member
    change entry ∈ (state.daemon.exec (.flush view entries)).debouncing at member
    rw [Daemon.exec, Daemon.flush, if_pos permuted] at member
    rcases List.mem_filter.mp member with ⟨there, waits⟩
    rw [elapsed entry ((List.isPerm_iff.mp permuted).mem_iff.mp there)] at waits
    cases waits
  · intro outside path touches
    exact unnoticed_of_outside (follows.undisturbed path touches).fixed (outside path touches)

/-! ## A download into a watched folder -/

/-- What one kind of watcher reports. -/
def reported : FileOperation → List (EventKind × String)
  | .create path => [(.create, path)]
  | .write path => [(.modifyData, path)]
  | .rename source target =>
      [(.modifyName, source), (.modifyName, target), (.modifyName, source), (.modifyName, target)]
  | .remove path => [(.removeFile, path)]

theorem documented_reported : Documented reported where
  about operation event member := by
    cases operation with
    | create path =>
        rw [List.mem_singleton.mp member]
        exact List.mem_singleton_self _
    | write path =>
        rw [List.mem_singleton.mp member]
        exact List.mem_singleton_self _
    | rename source target =>
        simp only [reported, List.mem_cons, List.not_mem_nil, or_false] at member
        rcases member with same | same | same | same
        · rw [same]
          exact List.mem_cons_self
        · rw [same]
          exact List.mem_cons_of_mem _ List.mem_cons_self
        · rw [same]
          exact List.mem_cons_self
        · rw [same]
          exact List.mem_cons_of_mem _ List.mem_cons_self
    | remove path =>
        rw [List.mem_singleton.mp member]
        exact List.mem_singleton_self _
  renamed source target path either := by
    rcases List.mem_cons.mp either with same | later
    · rw [same]
      exact List.mem_cons_self
    · rw [List.mem_singleton.mp later]
      exact List.mem_cons_of_mem _ List.mem_cons_self
  renames source target event member := by
    simp only [reported, List.mem_cons, List.not_mem_nil, or_false] at member
    rcases member with same | same | same | same
    · rw [same]
    · rw [same]
    · rw [same]
    · rw [same]
  removed path := List.mem_singleton_self _
  removes path event member := by
    rw [List.mem_singleton.mp member]

/-- A daemon that watches the mount point. -/
def watchingMnt : Daemon :=
  { Daemon.start (World.around Database.fresh) ⟨.mirror, "/mnt"⟩ with
    folders := [⟨"/mnt", "ann@example.com", "drive"⟩] }

/-- The watcher hears of a download and flushes. -/
def hearsDownload : List DaemonStep :=
  [.hear 0 .create ["/mnt/a.gdriver-tmp"], .hear 10 .modifyData ["/mnt/a.gdriver-tmp"],
    .hear 20 .modifyName ["/mnt/a.gdriver-tmp"], .hear 20 .modifyName ["/mnt/a"],
    .hear 20 .modifyName ["/mnt/a.gdriver-tmp", "/mnt/a"],
    .flush ⟨400, fun _ => false, 5⟩
      [⟨0, "/mnt/a.gdriver-tmp", .modifyName⟩, ⟨20, "/mnt/a", .modifyName⟩]]

theorem follows_hearsDownload :
    @Follows untimed reported (downloadOperations "/mnt/a" 1) watchingMnt hearsDownload := by
  refine @Follows.mk untimed _ _ _ _ (by decide) (fun path _ => ⟨?_, ?_⟩)
    ⟨hearsDownload.dropLast, _, _, rfl, by decide, ?_, ?_⟩
  · intro step member folders same
    rw [same] at member
    simp only [hearsDownload, List.mem_cons, List.not_mem_nil, reduceCtorEq, or_false] at member
  · intro view entries member
    simp only [hearsDownload, List.mem_cons, List.not_mem_nil, reduceCtorEq, DaemonStep.flush.injEq,
      false_or, or_false] at member
    rw [member.1]
  · intro time kind paths member
    simp only [hearsDownload, List.dropLast_cons_cons, List.dropLast_singleton, List.mem_cons,
      List.not_mem_nil, or_false, DaemonStep.hear.injEq] at member
    have early : time ≤ 20 := by omega
    have window : debounceMs = 300 := rfl
    change time + debounceMs ≤ 400
    omega
  · intro entry member
    cases member

theorem own_writes_unnoticed_iff_of_download :
    (∀ path ∈ touched (downloadOperations "/mnt/a" 1),
      Unnoticed path (run (@Watching.exec untimed) hearsDownload ⟨watchingMnt, []⟩)) ↔
      ∀ path ∈ touched (downloadOperations "/mnt/a" 1),
        findOwningFolder path watchingMnt.folders = none :=
  @own_writes_unnoticed_iff untimed _ documented_reported _ ⟨"/mnt/a", 1, Or.inl rfl⟩ _ _ follows_hearsDownload

/-- The watcher has a downloaded file uploaded again, and its temporary file as well. -/
theorem watcher_echoes_download :
    @Follows untimed reported (downloadOperations "/mnt/a" 1) watchingMnt hearsDownload ∧
      (run (@Watching.exec untimed) hearsDownload ⟨watchingMnt, []⟩).built.map
        (fun task => (task.operation, task.localPath)) =
          [(.upload, some "/mnt/a.gdriver-tmp"), (.upload, some "/mnt/a")] := by
  refine ⟨follows_hearsDownload, ?_⟩
  decide

end Loop
end GDriver
