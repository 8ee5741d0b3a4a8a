import GDriver.Library.Normal
import GDriver.Watcher.Folders
import GDriver.Watcher.Windows

namespace GDriver
namespace Watcher

open Library Db Sync

/-!
# Whole trees

A newly watched folder is walked, and every regular file in it gets a task.  A tree that is
moved is reported by its root alone; nothing below the root is looked at then.
-/

/-- The name of a directory entry. -/
structure EntryName where
  text : String
  plain : isPlain text = true

/-- What a directory holds, in the order in which it is read. -/
inductive Contents where
  | nothing
  | file (name : EntryName) (rest : Contents)
  /-- Neither a directory nor a regular file. -/
  | special (name : EntryName) (rest : Contents)
  | directory (name : EntryName) (readable : Bool) (inside rest : Contents)

namespace Contents

/-- The paths of the regular files below a directory. -/
def filePaths (dir : String) : Contents → List String
  | nothing => []
  | file name rest => joinPath dir name.text :: rest.filePaths dir
  | special _ rest => rest.filePaths dir
  | directory name _ inside rest => inside.filePaths (joinPath dir name.text) ++ rest.filePaths dir

/-- Every directory below can be read. -/
def Readable : Contents → Prop
  | nothing => True
  | file _ rest => rest.Readable
  | special _ rest => rest.Readable
  | directory _ readable inside rest => readable = true ∧ inside.Readable ∧ rest.Readable

end Contents

/-! ## Walking -/

/-- The task for a file that is there when its folder is first watched. -/
def scanTask (now : Int) (folder : WatchedFolder) (path : String) : SyncTask :=
  pendingTask now folder.accountId none (if folder.folderType = "photos" then .photosBackup else .upload) (some path) 5

/-- Walk a directory and send a task for every regular file, until the channel is closed.  It
takes as many tasks as there is room for. -/
def walkAndEnqueue (room : Nat) (task : String → SyncTask) (dir : String) : Contents → List SyncTask → List SyncTask
  | .nothing, sent => sent
  | .file name rest, sent =>
      if sent.length < room then walkAndEnqueue room task dir rest (sent ++ [task (joinPath dir name.text)])
      else sent
  | .special _ rest, sent => walkAndEnqueue room task dir rest sent
  | .directory name readable inside rest, sent =>
      walkAndEnqueue room task dir rest
        (if readable then walkAndEnqueue room task (joinPath dir name.text) inside sent else sent)

/-- Walk the newly watched folders. -/
def scanExistingFiles (room : Nat) (now : Int) (contents : WatchedFolder → Contents) (folders : List WatchedFolder) :
    List SyncTask :=
  folders.foldl (fun sent folder => walkAndEnqueue room (scanTask now folder) folder.root (contents folder) sent) []

/-- A walk with room for all sends one task for every regular file. -/
theorem walkAndEnqueue_eq (task : String → SyncTask) {contents : Contents} (readable : contents.Readable)
    (room : Nat) (dir : String) (sent : List SyncTask)
    (enough : sent.length + (contents.filePaths dir).length ≤ room) :
    walkAndEnqueue room task dir contents sent = sent ++ (contents.filePaths dir).map task := by
  induction contents generalizing dir sent with
  | nothing => exact (List.append_nil sent).symm
  | file name rest inductionHypothesis =>
      rw [Contents.filePaths, List.length_cons] at enough
      have here : sent.length < room := by omega
      rw [walkAndEnqueue, if_pos here, inductionHypothesis readable]
      · rw [Contents.filePaths, List.map_cons, List.append_assoc, List.singleton_append]
      · rw [List.length_append, List.length_singleton]
        omega
  | special name rest inductionHypothesis =>
      rw [walkAndEnqueue, Contents.filePaths]
      exact inductionHypothesis readable dir sent enough
  | directory name isReadable inside rest insideHypothesis restHypothesis =>
      rcases readable with ⟨here, below, after⟩
      rw [Contents.filePaths, List.length_append] at enough
      have walked := insideHypothesis below (joinPath dir name.text) sent (by omega)
      rw [walkAndEnqueue, if_pos here, walked, restHypothesis after]
      · rw [Contents.filePaths, List.map_append, List.append_assoc]
      · rw [List.length_append, List.length_map]
        omega

/-- The tasks of one newly watched folder. -/
def scanTasks (now : Int) (contents : WatchedFolder → Contents) (folder : WatchedFolder) : List SyncTask :=
  ((contents folder).filePaths folder.root).map (scanTask now folder)

/-- With room for all a scan sends one task for every regular file of every newly watched folder. -/
theorem scanExistingFiles_eq (now : Int) {contents : WatchedFolder → Contents} {folders : List WatchedFolder}
    (readable : ∀ folder ∈ folders, (contents folder).Readable) {room : Nat}
    (enough : (folders.flatMap (scanTasks now contents)).length ≤ room) :
    scanExistingFiles room now contents folders = folders.flatMap (scanTasks now contents) := by
  have walked (sent : List SyncTask)
      (enough : sent.length + (folders.flatMap (scanTasks now contents)).length ≤ room) :
      folders.foldl
          (fun sent folder => walkAndEnqueue room (scanTask now folder) folder.root (contents folder) sent) sent =
        sent ++ folders.flatMap (scanTasks now contents) := by
    induction folders generalizing sent with
    | nil => exact (List.append_nil sent).symm
    | cons folder rest inductionHypothesis =>
        rw [List.flatMap_cons, List.length_append] at enough
        have first : sent.length + ((contents folder).filePaths folder.root).length ≤ room := by
          rw [scanTasks, List.length_map] at enough
          omega
        rw [List.foldl_cons, walkAndEnqueue_eq _ (readable folder List.mem_cons_self) room folder.root sent first]
        rw [List.flatMap_cons, ← List.append_assoc]
        apply inductionHypothesis
        · exact fun later member => readable later (List.mem_cons_of_mem folder member)
        · omega
        · rw [List.length_append]
          rw [scanTasks] at enough
          omega
  have all := walked [] (by rw [List.length_nil, Nat.zero_add]; exact enough)
  rw [List.nil_append] at all
  exact all

/-! ## Moving -/

/-- What is moved. -/
inductive Tree where
  | file
  | directory (contents : Contents)

namespace Tree

def isDir : Tree → Bool
  | file => false
  | directory _ => true

def filePaths (root : String) : Tree → List String
  | file => [root]
  | directory contents => contents.filePaths root

end Tree

/-- A tree is moved.  It cannot take the place of a directory that it was in. -/
structure TreeMove where
  tree : Tree
  source : String
  target : String
  apart : isInside target source = false

/-- The path is in a watched folder. -/
def IsWatched (folders : List WatchedFolder) (path : String) : Prop :=
  ∃ folder ∈ folders, isInside folder.root path = true

instance (folders : List WatchedFolder) (path : String) : Decidable (IsWatched folders path) :=
  inferInstanceAs (Decidable (∃ folder ∈ folders, isInside folder.root path = true))

/-- The platform reports a move by name events on the two roots, as far as they are watched. -/
structure Reports (folders : List WatchedFolder) (move : TreeMove) (events : List FsEvent) : Prop where
  names : ∀ event ∈ events, event.kind = .modifyName
  roots : ∀ event ∈ events, ∀ path ∈ event.paths, path = move.source ∨ path = move.target
  departure : IsWatched folders move.source → ∃ event ∈ events, move.source ∈ event.paths
  arrival : IsWatched folders move.target → ∃ event ∈ events, move.target ∈ event.paths

/-- The tasks of several flushes, one after the other. -/
def flushes (folders : List WatchedFolder) : List FlushView → List DebounceEntry → List SyncTask
  | [], _ => []
  | view :: later, entries =>
      dueTasks view folders entries ++ flushes folders later (entries.filter fun entry => !isDue view.now entry)

/-- A task for every regular file that is in a watched folder now, and a delete for every one
that was. -/
structure Covers (folders : List WatchedFolder) (move : TreeMove) (tasks : List SyncTask) : Prop where
  arrived : ∀ path ∈ move.tree.filePaths move.target, IsWatched folders path →
    ∃ task ∈ tasks, task.localPath = some path ∧ (task.operation = .upload ∨ task.operation = .photosBackup)
  gone : ∀ path ∈ move.tree.filePaths move.source, IsWatched folders path →
    ∃ task ∈ tasks, task.localPath = some path ∧ task.operation = .delete

section Paths

/-- A path inside a directory of a folder is inside the folder. -/
theorem isInside_trans {first second third : String} (inner : isInside second third = true)
    (outer : isInside first second = true) : isInside first third = true := by
  rw [isInside, List.isPrefixOf_iff_prefix] at inner outer ⊢
  exact outer.trans inner

theorem isInside_self (path : String) : isInside path path = true :=
  List.isPrefixOf_iff_prefix.mpr List.prefix_rfl

/-- A plain name never begins with a slash. -/
theorem EntryName.relative (name : EntryName) : startsWith name.text "/" = false := by
  have plain := name.plain
  simp only [isPlain, Bool.and_eq_true, Bool.not_eq_true', List.contains_eq_mem, decide_eq_false_iff_not] at plain
  rw [startsWith, Bool.eq_false_iff]
  intro leads
  have start := List.isPrefixOf_iff_prefix.mp leads
  exact plain.2 (start.subset (by decide))

theorem startsWith_slash_append {dir : String} (nonempty : dir.toList ≠ []) (rest : String) :
    startsWith (dir ++ rest) "/" = startsWith dir "/" := by
  rw [startsWith, startsWith, String.toList_append]
  cases letters : dir.toList with
  | nil => exact absurd letters nonempty
  | cons first rest => rfl

/-- Where a relative path begins is written in its first two letters. -/
theorem fromHere_iff (text : String) :
    (pathKey text).fromHere = true ↔ text.toList = ['.'] ∨ ['.', '/'] <+: text.toList := by
  rw [pathKey, Bool.or_eq_true, decide_eq_true_eq, startsWith, List.isPrefixOf_iff_prefix]
  exact or_congr ⟨fun same => by rw [same]; rfl, fun same => String.toList_injective same⟩ Iff.rfl

/-- What is appended after a separator does not change where the path begins. -/
theorem fromHere_append {dir rest : String} (nonempty : dir.toList ≠ [])
    (apart : dir.toList.getLast? = some '/' ∨ rest.toList.head? = some '/') :
    (pathKey (dir ++ rest)).fromHere = (pathKey dir).fromHere := by
  rw [Bool.eq_iff_iff, fromHere_iff, fromHere_iff, String.toList_append]
  rcases letters : dir.toList with _ | ⟨first, _ | ⟨second, others⟩⟩
  · exact absurd letters nonempty
  · rw [letters] at apart
    rcases apart with slash | slash
    · rw [List.getLast?_singleton] at slash
      rw [Option.some.inj slash]
      simp
    · rcases after : rest.toList with _ | ⟨next, more⟩
      · rw [after] at slash
        cases slash
      · rw [after, List.head?_cons] at slash
        rw [Option.some.inj slash]
        simp [eq_comm]
  · simp

/-- What is appended after a separator is inside. -/
theorem isInside_append {dir rest : String} (nonempty : dir.toList ≠ [])
    (apart : dir.toList.getLast? = some '/' ∨ rest.toList.head? = some '/')
    (parts : components dir <+: components (dir ++ rest)) : isInside dir (dir ++ rest) = true := by
  have absolute : (pathKey (dir ++ rest)).absolute = (pathKey dir).absolute := startsWith_slash_append nonempty rest
  rw [isInside, List.isPrefixOf_iff_prefix, PathKey.steps, PathKey.steps, absolute, fromHere_append nonempty apart,
    List.prefix_append_right_inj]
  exact parts

/-- An entry of a directory is inside it. -/
theorem isInside_joinPath (dir : String) (name : EntryName) : isInside dir (joinPath dir name.text) = true := by
  rw [joinPath, if_neg (by rw [name.relative]; exact Bool.false_ne_true)]
  split
  · next empty =>
      have nothing : dir = "" := String.toList_injective empty
      rw [nothing]
      exact List.isPrefixOf_iff_prefix.mpr List.nil_prefix
  · next nonempty =>
      split
      · next slashed =>
          apply isInside_append nonempty (Or.inl slashed)
          have whole : dir = String.ofList dir.toList.dropLast ++ "/" := by
            apply String.toList_injective
            rw [String.toList_append, String.toList_ofList]
            exact (List.dropLast_append_getLast? _ slashed).symm
          have bare := components_slash (String.ofList dir.toList.dropLast) ""
          have entry := components_slash (String.ofList dir.toList.dropLast) name.text
          rw [String.append_empty, ← whole, components_empty, List.append_nil] at bare
          rw [← whole, ← bare] at entry
          rw [entry]
          exact List.prefix_append _ _
      · rw [String.append_assoc]
        have slash : ("/" ++ name.text).toList.head? = some '/' := by
          rw [String.toList_append]
          rfl
        apply isInside_append nonempty (Or.inr slash)
        rw [← String.append_assoc, components_slash]
        exact List.prefix_append _ _

/-- Everything below a directory is inside it. -/
theorem isInside_of_mem_filePaths {contents : Contents} {dir path : String}
    (member : path ∈ contents.filePaths dir) : isInside dir path = true := by
  induction contents generalizing dir with
  | nothing => cases member
  | file name rest inductionHypothesis =>
      rcases List.mem_cons.mp member with here | later
      · rw [here]
        exact isInside_joinPath dir name
      · exact inductionHypothesis later
  | special name rest inductionHypothesis => exact inductionHypothesis member
  | directory name readable inside rest insideHypothesis restHypothesis =>
      rcases List.mem_append.mp member with below | later
      · exact isInside_trans (insideHypothesis below) (isInside_joinPath dir name)
      · exact restHypothesis later

theorem Tree.isInside_of_mem_filePaths {tree : Tree} {root path : String} (member : path ∈ tree.filePaths root) :
    isInside root path = true := by
  cases tree with
  | file =>
      rw [List.mem_singleton.mp member]
      exact isInside_self root
  | directory contents => exact Watcher.isInside_of_mem_filePaths member

end Paths

section Flushes

variable {folders : List WatchedFolder}

/-- A flushed task is the task of an entry in one of the views. -/
theorem of_mem_flushes {views : List FlushView} {entries : List DebounceEntry} {task : SyncTask}
    (member : task ∈ flushes folders views entries) :
    ∃ entry ∈ entries, ∃ view ∈ views,
      eventToTask entry.path (view.isDir entry.path) entry.kind folders view.clock = some task := by
  induction views generalizing entries with
  | nil => cases member
  | cons view later inductionHypothesis =>
      rcases List.mem_append.mp member with now | after
      · rcases List.mem_filterMap.mp now with ⟨entry, due, gives⟩
        exact ⟨entry, (List.mem_filter.mp due).1, view, List.mem_cons_self, gives⟩
      · rcases inductionHypothesis after with ⟨entry, held, other, inside, gives⟩
        exact ⟨entry, (List.mem_filter.mp held).1, other, List.mem_cons_of_mem view inside, gives⟩

/-- An entry that is due at some view gives its task, when it gives one in every view. -/
theorem exists_mem_flushes {views : List FlushView} {entries : List DebounceEntry} {entry : DebounceEntry}
    {wanted : SyncTask → Prop} (member : entry ∈ entries) (due : ∃ view ∈ views, isDue view.now entry = true)
    (gives : ∀ view ∈ views, ∃ task,
      eventToTask entry.path (view.isDir entry.path) entry.kind folders view.clock = some task ∧ wanted task) :
    ∃ task ∈ flushes folders views entries, wanted task := by
  induction views generalizing entries with
  | nil =>
      rcases due with ⟨view, nowhere, _⟩
      cases nowhere
  | cons view later inductionHypothesis =>
      cases ripe : isDue view.now entry with
      | true =>
          rcases gives view List.mem_cons_self with ⟨task, judged, good⟩
          have flushed : task ∈ dueTasks view folders entries :=
            List.mem_filterMap.mpr ⟨entry, List.mem_filter.mpr ⟨member, ripe⟩, judged⟩
          exact ⟨task, List.mem_append_left _ flushed, good⟩
      | false =>
          have held : entry ∈ entries.filter fun entry => !isDue view.now entry :=
            List.mem_filter.mpr ⟨member, by rw [ripe]; rfl⟩
          have after : ∃ view ∈ later, isDue view.now entry = true := by
            rcases due with ⟨other, inside, itsDue⟩
            rcases List.mem_cons.mp inside with here | further
            · rw [here, ripe] at itsDue
              cases itsDue
            · exact ⟨other, further, itsDue⟩
          rcases inductionHypothesis held after fun other inside => gives other (List.mem_cons_of_mem view inside)
            with ⟨task, flushed, good⟩
          exact ⟨task, List.mem_append_right _ flushed, good⟩

/-- A held entry was there before, or shows an event on its path. -/
theorem of_mem_note {now : Nat} {kind : EventKind} {pending : List DebounceEntry} {path : String}
    {entry : DebounceEntry} (member : entry ∈ note now kind pending path) :
    entry ∈ pending ∨ (entry.path = path ∧ entry.kind = kind) := by
  rw [note] at member
  split at member
  · rcases List.mem_map.mp member with ⟨before, inside, changed⟩
    split at changed
    · next itself =>
        rw [← changed]
        exact Or.inr ⟨itself, rfl⟩
    · rw [← changed]
      exact Or.inl inside
  · rcases List.mem_append.mp member with before | added
    · exact Or.inl before
    · rw [List.mem_singleton.mp added]
      exact Or.inr ⟨rfl, rfl⟩

theorem of_mem_noteEvent {pending : List DebounceEntry} {event : FsEvent} {entry : DebounceEntry}
    (member : entry ∈ noteEvent pending event) :
    entry ∈ pending ∨ (entry.path ∈ event.paths ∧ entry.kind = event.kind) := by
  rw [noteEvent] at member
  generalize event.paths = paths at member ⊢
  induction paths generalizing pending with
  | nil => exact Or.inl member
  | cons path rest inductionHypothesis =>
      rcases inductionHypothesis member with noted | ⟨later, shows⟩
      · rcases of_mem_note noted with before | ⟨here, shows⟩
        · exact Or.inl before
        · exact Or.inr ⟨List.mem_cons.mpr (Or.inl here), shows⟩
      · exact Or.inr ⟨List.mem_cons_of_mem path later, shows⟩

theorem of_mem_collect {pending : List DebounceEntry} {events : List FsEvent} {entry : DebounceEntry}
    (member : entry ∈ collect events pending) :
    entry ∈ pending ∨ ∃ event ∈ events, entry.path ∈ event.paths ∧ entry.kind = event.kind := by
  induction events generalizing pending with
  | nil => exact Or.inl member
  | cons event rest inductionHypothesis =>
      rcases inductionHypothesis member with noted | ⟨later, inside, shows⟩
      · rcases of_mem_noteEvent noted with before | shows
        · exact Or.inl before
        · exact Or.inr ⟨event, List.mem_cons_self, shows⟩
      · exact Or.inr ⟨later, List.mem_cons_of_mem event inside, shows⟩

/-- A path that some event names is held back afterwards. -/
theorem exists_mem_collect {pending : List DebounceEntry} {events : List FsEvent} {path : String}
    (fresh : ∀ entry ∈ pending, entry.path ≠ path) (named : ∃ event ∈ events, path ∈ event.paths) :
    ∃ entry ∈ collect events pending, entry.path = path := by
  have holding := (holding_none fresh).collect events
  apply holding.noted
  rcases named with ⟨event, member, names⟩
  have shown : event.kind ∈ kindsOn path events := by
    refine List.mem_flatMap.mpr ⟨event, member, List.mem_map.mpr ⟨path, ?_, rfl⟩⟩
    exact List.mem_filter.mpr ⟨names, decide_eq_true rfl⟩
  rw [Option.or_none, List.getLast?_eq_some_getLast (List.ne_nil_of_mem shown)]
  rfl

end Flushes

section Judging

variable {folders : List WatchedFolder} {path : String} {isDir : Bool} {now : Int} {task : SyncTask}

/-- A path in a watched folder has an owning folder. -/
theorem IsWatched.exists_owning (watched : IsWatched folders path) :
    ∃ folder, findOwningFolder path folders = some folder := by
  rcases watched with ⟨folder, member, inside⟩
  have candidate : folder ∈ folders.filter fun folder => isInside folder.root path :=
    List.mem_filter.mpr ⟨member, inside⟩
  apply Option.isSome_iff_exists.mp
  rw [findOwningFolder]
  apply isSome_foldl_choice _ (Or.inr (List.ne_nil_of_mem candidate))
  intro best element
  cases best with
  | none => rfl
  | some kept =>
      by_cases shorter : element.root.utf8ByteSize < kept.root.utf8ByteSize
      · exact Option.isSome_of_mem (if_pos shorter)
      · exact Option.isSome_of_mem (if_neg shorter)

/-- A name event on a file or on nothing asks for an upload, wherever the name went. -/
theorem eventToTask_modifyName (watched : IsWatched folders path) (now : Int) :
    ∃ task, eventToTask path false .modifyName folders now = some task ∧
      task.localPath = some path ∧ (task.operation = .upload ∨ task.operation = .photosBackup) := by
  rcases watched.exists_owning with ⟨folder, owning⟩
  rw [eventToTask, if_neg Bool.false_ne_true, owning]
  refine ⟨_, rfl, rfl, ?_⟩
  by_cases photos : folder.folderType = "photos"
  · exact Or.inr (if_pos (decide_eq_true photos))
  · exact Or.inl (if_neg (by simpa using photos))

theorem operation_of_modifyName (gives : eventToTask path isDir .modifyName folders now = some task) :
    task.operation ≠ .delete := by
  rw [eventToTask] at gives
  split at gives
  · cases gives
  · split at gives
    · cases gives
    · next folder owning =>
        rw [← Option.some.inj gives]
        by_cases photos : folder.folderType = "photos"
        · simp [pendingTask, photos]
        · simp [pendingTask, photos]

theorem eventToTask_directory (kind : EventKind) : eventToTask path true kind folders now = none := rfl

end Judging

/-!
## What a move loses

A name event is judged by what is at its path: nothing is there that a delete could be made of,
and a directory gives no task.
-/

/-- A flushed task for a path that no entry was held back for before comes from the move. -/
theorem Reports.of_mem_flushes {folders : List WatchedFolder} {move : TreeMove} {pending entries : List DebounceEntry}
    {events : List FsEvent} {views : List FlushView} {task : SyncTask} {path : String}
    (reported : Reports folders move events) (elsewhere : ∀ entry ∈ pending, entry.path ≠ path)
    (held : entries.Perm (collect events pending)) (member : task ∈ flushes folders views entries)
    (on : task.localPath = some path) :
    (path = move.source ∨ path = move.target) ∧
      ∃ view ∈ views, eventToTask path (view.isDir path) .modifyName folders view.clock = some task := by
  rcases Watcher.of_mem_flushes member with ⟨entry, inside, view, seen, gives⟩
  have same : entry.path = path := by
    have named := (of_eventToTask gives).2.1
    rw [on] at named
    exact (Option.some.inj named).symm
  rcases of_mem_collect (held.mem_iff.mp inside) with before | ⟨event, happened, names, shows⟩
  · exact absurd same (elsewhere entry before)
  · rw [same] at names gives
    rw [shows, reported.names event happened] at gives
    exact ⟨reported.roots event happened path names, view, seen, gives⟩

/-- A move of a tree is covered exactly when no regular file of the tree was in a watched folder,
and none is in one now unless the tree is that file itself. -/
theorem move_covers_iff {folders : List WatchedFolder} {move : TreeMove} {pending entries : List DebounceEntry}
    {events : List FsEvent} {views : List FlushView} (reported : Reports folders move events)
    (elsewhere : ∀ entry ∈ pending,
      isInside move.source entry.path = false ∧ isInside move.target entry.path = false)
    (held : entries.Perm (collect events pending))
    (flushed : ∀ entry ∈ entries, ∃ view ∈ views, isDue view.now entry = true)
    (seen : ∀ view ∈ views, view.isDir move.source = false ∧ view.isDir move.target = move.tree.isDir) :
    Covers folders move (flushes folders views entries) ↔
      (∀ path ∈ move.tree.filePaths move.target, IsWatched folders path → move.tree = .file) ∧
        ∀ path ∈ move.tree.filePaths move.source, ¬ IsWatched folders path := by
  constructor
  · intro covers
    constructor
    · intro path member watched
      cases shape : move.tree with
      | file => rfl
      | directory contents =>
          have inside := Tree.isInside_of_mem_filePaths member
          rcases covers.arrived path member watched with ⟨task, given, on, _⟩
          have other : ∀ entry ∈ pending, entry.path ≠ path := by
            intro entry before same
            have outside := (elsewhere entry before).2
            rw [same, inside] at outside
            cases outside
          rcases reported.of_mem_flushes other held given on with ⟨source | target, view, looked, gives⟩
          · rw [source, move.apart] at inside
            cases inside
          · rw [target, (seen view looked).2, shape, Tree.isDir, eventToTask_directory] at gives
            cases gives
    · intro path member watched
      have inside := Tree.isInside_of_mem_filePaths member
      rcases covers.gone path member watched with ⟨task, given, on, deletes⟩
      have other : ∀ entry ∈ pending, entry.path ≠ path := by
        intro entry before same
        have outside := (elsewhere entry before).1
        rw [same, inside] at outside
        cases outside
      rcases reported.of_mem_flushes other held given on with ⟨_, view, _, gives⟩
      exact operation_of_modifyName gives deletes
  · rintro ⟨single, unwatched⟩
    constructor
    · intro path member watched
      have shape := single path member watched
      rw [shape] at member
      have here : path = move.target := List.mem_singleton.mp member
      rw [here] at watched ⊢
      have fresh : ∀ entry ∈ pending, entry.path ≠ move.target := by
        intro entry before same
        have outside := (elsewhere entry before).2
        rw [same, isInside_self] at outside
        cases outside
      rcases exists_mem_collect fresh (reported.arrival watched) with ⟨entry, collected, on⟩
      have kind : entry.kind = .modifyName := by
        rcases of_mem_collect collected with before | ⟨event, happened, _, shows⟩
        · exact absurd on (fresh entry before)
        · exact shows.trans (reported.names event happened)
      have inside := held.mem_iff.mpr collected
      apply exists_mem_flushes inside (flushed entry inside)
      intro view looked
      rw [on, kind, (seen view looked).2, shape]
      exact eventToTask_modifyName watched view.clock
    · intro path member watched
      exact absurd watched (unwatched path member)

/-- A single file is moved into a watched folder. -/
def moveFileIn : TreeMove where
  tree := .file
  source := "/tmp/a.txt"
  target := "/home/ann/Docs/a.txt"
  apart := by decide

/-- A directory with one file in it is moved into a watched folder. -/
def moveBoxIn : TreeMove where
  tree := .directory (.file ⟨"a.txt", by decide⟩ .nothing)
  source := "/tmp/box"
  target := "/home/ann/Docs/box"
  apart := by decide

/-- The arrival of a tree is reported. -/
def arrivalOf (move : TreeMove) : List FsEvent :=
  [⟨10, .modifyName, [move.target]⟩]

/-- The root of the tree is seen where it is now. -/
def viewAfter (move : TreeMove) : FlushView where
  now := 400
  isDir := fun path => path = move.target && move.tree.isDir
  clock := 1000

theorem reports_arrival {folders : List WatchedFolder} {move : TreeMove} (outside : ¬ IsWatched folders move.source) :
    Reports folders move (arrivalOf move) where
  names := by
    intro event member
    rw [List.mem_singleton.mp member]
  roots := by
    intro event member path names
    rw [List.mem_singleton.mp member] at names
    exact Or.inr (List.mem_singleton.mp names)
  departure watched := absurd watched outside
  arrival _ := ⟨_, List.mem_singleton_self _, List.mem_singleton_self _⟩

/-- A file that is moved in is uploaded. -/
theorem move_covers_file :
    Covers exampleFolders moveFileIn (flushes exampleFolders [viewAfter moveFileIn]
      (collect (arrivalOf moveFileIn) [])) := by
  refine (move_covers_iff (reports_arrival ?_) ?_ (List.Perm.refl _) ?_ ?_).mpr ⟨?_, ?_⟩
  · decide
  · intro entry member
    cases member
  · decide
  · decide
  · intro path member watched
    rfl
  · decide

/-- A file in a directory that is moved in is not. -/
theorem move_misses_box :
    ¬ Covers exampleFolders moveBoxIn (flushes exampleFolders [viewAfter moveBoxIn]
      (collect (arrivalOf moveBoxIn) [])) := by
  intro covers
  have nothing : flushes exampleFolders [viewAfter moveBoxIn] (collect (arrivalOf moveBoxIn) []) = [] := by decide
  rcases covers.arrived "/home/ann/Docs/box/a.txt" (by decide) (by decide) with ⟨task, member, _⟩
  rw [nothing] at member
  cases member

end Watcher
end GDriver
