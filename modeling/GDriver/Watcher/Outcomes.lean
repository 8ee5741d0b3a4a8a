import GDriver.Watcher.Depth

namespace GDriver
namespace Watcher

open Library Db Sync

/-!
# What became of a file

The events of one window tell what happened to a path, one after the other, and from that it
follows whether a file is there in the end.  The operation of a task follows from the last of
them alone.  A new name is reported alike for a file that is moved away and for one that is
moved here, and a file that is gone can still be written by who has it open.
-/

/-- What happens to a path. -/
inductive FileAction where
  | created
  | written
  | movedAway
  | movedHere
  | removed
  deriving DecidableEq, Repr

/-- The kinds of event that report it. -/
inductive ReportedAs : FileAction → EventKind → Prop where
  | create : ReportedAs .created .create
  | data : ReportedAs .written .modifyData
  | anyModify : ReportedAs .written .modifyAny
  | source : ReportedAs .movedAway .modifyName
  | target : ReportedAs .movedHere .modifyName
  | file : ReportedAs .removed .removeFile
  | anyRemove : ReportedAs .removed .removeAny
  | otherRemove : ReportedAs .removed .removeOther

/-- Whether there is a file at the path afterwards. -/
def FileAction.leaves (here : Bool) : FileAction → Bool
  | .created => true
  | .written => here
  | .movedAway => false
  | .movedHere => true
  | .removed => false

/-- Whether there is a file at the path after all that happened to it. -/
def endsPresent (here : Bool) (history : List FileAction) : Bool :=
  history.foldl FileAction.leaves here

/-- What a task should do with a path: the backup or the upload of a file that is there, and the
deletion of one that is not. -/
def expectedOperation (present : Bool) (folderType : String) : TaskOperation :=
  if present then (if folderType = "photos" then .photosBackup else .upload) else .delete

/-- Every task that a flush builds for the path does what the file at the path asks for in the
deepest folder. -/
def MatchesFile (view : FlushView) (folders : List WatchedFolder) (entries : List DebounceEntry) (path : String)
    (present : Bool) : Prop :=
  ∀ task ∈ dueTasks view folders entries, task.localPath = some path →
    ∀ deepest, Deepest folders path deepest → task.operation = expectedOperation present deepest.folderType

/-- The folder that owns the path is a photos folder exactly if the deepest one is. -/
def OwnerLikeDeepest (folders : List WatchedFolder) (path : String) : Prop :=
  ∀ owner deepest, findOwningFolder path folders = some owner → Deepest folders path deepest →
    (owner.folderType = "photos" ↔ deepest.folderType = "photos")

/-! ## The last event -/

/-- A removal leaves nothing at the path. -/
theorem not_endsPresent_of_removed {here : Bool} {history : List FileAction}
    (last : history.getLast? = some .removed) : endsPresent here history = false := by
  rcases List.getLast?_eq_some_iff.mp last with ⟨earlier, whole⟩
  rw [whole, endsPresent, List.foldl_append]
  rfl

/-- The last action and the last kind belong together. -/
theorem reportedAs_getLast {history : List FileAction} {kinds : List EventKind}
    (reported : List.Forall₂ ReportedAs history kinds) {last : FileAction} (found : history.getLast? = some last) :
    ∃ kind, kinds.getLast? = some kind ∧ ReportedAs last kind := by
  induction reported with
  | nil => cases found
  | @cons action kind history kinds here rest inductionHypothesis =>
      cases rest with
      | nil =>
          rw [List.getLast?_singleton, Option.some_inj] at found
          rw [← found]
          exact ⟨kind, rfl, here⟩
      | cons next later =>
          rw [List.getLast?_cons_cons] at found ⊢
          exact inductionHypothesis found

/-- What the last event asks for: the deletion after a removal, and otherwise the upload or the backup. -/
theorem ReportedAs.operationFor_eq {action : FileAction} {kind : EventKind} (reported : ReportedAs action kind)
    (isPhotos : Bool) :
    operationFor isPhotos kind =
      some (if action = .removed then .delete else if isPhotos then .photosBackup else .upload) := by
  cases reported
  all_goals rfl

/-- The operation for the last event is the expected one exactly if an absent file was removed last,
and a present one is backed up by a photos folder only. -/
theorem operation_expected_iff {last : FileAction} {present : Bool} (absent : last = .removed → present = false)
    (isPhotos : Bool) (folderType : String) :
    (if last = .removed then TaskOperation.delete else if isPhotos then .photosBackup else .upload) =
        expectedOperation present folderType ↔
      (present = false → last = .removed) ∧ (present = true → (isPhotos = true ↔ folderType = "photos")) := by
  by_cases gone : last = .removed
  · rw [if_pos gone, absent gone]
    exact iff_of_true rfl ⟨fun _ => gone, fun present => (Bool.false_ne_true present).elim⟩
  · rw [if_neg gone]
    cases present with
    | false =>
        refine iff_of_false (fun same => ?_) fun both => gone (both.1 rfl)
        cases isPhotos
        · cases same
        · cases same
    | true =>
        rw [expectedOperation, if_pos rfl]
        have there : true = false → last = .removed := fun absent => (Bool.false_ne_true absent.symm).elim
        have differs : TaskOperation.upload ≠ .photosBackup := by decide
        by_cases photos : folderType = "photos"
        · rw [if_pos photos]
          cases isPhotos
          · exact iff_of_false differs fun both => Bool.false_ne_true ((both.2 rfl).mpr photos)
          · exact iff_of_true rfl ⟨there, fun _ => iff_of_true rfl photos⟩
        · rw [if_neg photos]
          cases isPhotos
          · exact iff_of_true rfl ⟨there, fun _ => iff_of_false Bool.false_ne_true photos⟩
          · exact iff_of_false differs.symm fun both => photos ((both.2 rfl).mp rfl)

section Windows

variable {view : FlushView} {order : List WatchedFolder} {path : String}
  {pending entries : List DebounceEntry} {events : List FsEvent}

/-- The task of an event on a file in a watched folder. -/
theorem eventToTask_of_owner {owner : WatchedFolder} (owning : findOwningFolder path order = some owner)
    {kind : EventKind} {operation : TaskOperation}
    (asks : operationFor (owner.folderType = "photos") kind = some operation) (now : Int) :
    eventToTask path false kind order now =
      some (pendingTask now owner.accountId none operation (some path) 5) := by
  rw [eventToTask, if_neg Bool.false_ne_true, owning]
  dsimp only
  rw [asks]
  rfl

/-- The task of a window matches the file exactly when the window of an absent file ends with its
removal, and a present one is owned by a folder of the kind of the deepest. -/
theorem matchesFile_iff {history : List FileAction} (fresh : ∀ entry ∈ pending, entry.path ≠ path)
    (held : entries.Perm (collect events pending))
    (due : ∀ entry ∈ entries, entry.path = path → isDue view.now entry = true) (file : view.isDir path = false)
    (reported : List.Forall₂ ReportedAs history (kindsOn path events)) (watched : IsWatched order path)
    (here : Bool) :
    MatchesFile view order entries path (endsPresent here history) ↔
      ∀ last, history.getLast? = some last →
        (endsPresent here history = false → last = .removed) ∧
          (endsPresent here history = true → OwnerLikeDeepest order path) := by
  have holding := (holding_none fresh).collect events
  rw [Option.or_none] at holding
  rcases watched.exists_owning with ⟨owner, owning⟩
  rcases of_findOwningFolder owning with ⟨listed, within⟩
  have gives {last : FileAction} {kind : EventKind} (reports : ReportedAs last kind) :
      eventToTask path false kind order view.clock =
        some (pendingTask view.clock owner.accountId none (if last = .removed then .delete else
          if decide (owner.folderType = "photos") then .photosBackup else .upload) (some path) 5) :=
    eventToTask_of_owner owning (reports.operationFor_eq _) view.clock
  have expected {last : FileAction} (found : history.getLast? = some last) (folderType : String) :=
    @operation_expected_iff last (endsPresent here history)
      (fun gone => not_endsPresent_of_removed (found.trans (congrArg some gone)))
      (decide (owner.folderType = "photos")) folderType
  constructor
  · intro fits last found
    rcases reportedAs_getLast reported found with ⟨kind, ends, reports⟩
    rcases holding.noted (Option.isSome_of_mem ends) with ⟨entry, member, on⟩
    have inside := held.mem_iff.mpr member
    have same : kind = entry.kind := Option.some.inj (ends.symm.trans (holding.kind entry member on))
    have does := fits _ (List.mem_filterMap.mpr ⟨entry, List.mem_filter.mpr ⟨inside, due entry inside on⟩, by
      rw [on, file, ← same]
      exact gives reports⟩) rfl
    constructor
    · rcases exists_deepest listed within with ⟨deepest, most⟩
      exact ((expected found deepest.folderType).mp (does deepest most)).1
    · intro present other deepest owns most
      have both := ((expected found deepest.folderType).mp (does deepest most)).2 present
      rw [owning, Option.some_inj] at owns
      rw [decide_eq_true_eq, owns] at both
      exact both
  · intro ends task member about deepest most
    rcases of_mem_dueTasks file member about with ⟨entry, inside, _, on, builds⟩
    have shown := holding.kind entry (held.mem_iff.mp inside) on
    cases found : history.getLast? with
    | none =>
        rw [List.getLast?_eq_none_iff.mp found, List.forall₂_nil_left_iff] at reported
        rw [reported] at shown
        cases shown
    | some last =>
        rcases reportedAs_getLast reported found with ⟨kind, closes, reports⟩
        have same : entry.kind = kind := Option.some.inj (shown.symm.trans closes)
        rw [same, gives reports] at builds
        rw [← Option.some.inj builds]
        rcases ends last found with ⟨absent, present⟩
        apply (expected found deepest.folderType).mpr
        refine ⟨absent, fun there => ?_⟩
        rw [decide_eq_true_eq]
        exact present there owner deepest owning most

end Windows

theorem deepest_exampleFolders :
    Deepest exampleFolders "/home/ann/Docs/a.txt" ⟨"/home/ann/Docs", "ann", "drive"⟩ :=
  ⟨by decide, by decide, by decide⟩

/-- A file is created and removed again in one window. -/
def createThenRemove : List FsEvent :=
  [⟨10, .create, ["/home/ann/Docs/a.txt"]⟩, ⟨20, .removeFile, ["/home/ann/Docs/a.txt"]⟩]

/-- The deletion of a file that was removed last matches the file. -/
theorem matchesFile_createThenRemove :
    MatchesFile exampleView exampleFolders (collect createThenRemove []) "/home/ann/Docs/a.txt"
      (endsPresent false [.created, .removed]) := by
  refine (matchesFile_iff (by simp) (List.Perm.refl _) (by decide) rfl
    (.cons .create (.cons .file .nil)) ⟨_, List.mem_cons_self, by decide⟩ false).mpr ?_
  intro last found
  refine ⟨fun _ => (Option.some.inj found).symm, fun present => ?_⟩
  cases present

/-- A file is created and renamed in one window, or its new name is another one. -/
def createThenRename : List FsEvent :=
  [⟨10, .create, ["/home/ann/Docs/a.txt"]⟩, ⟨20, .modifyName, ["/home/ann/Docs/a.txt"]⟩]

/-- The old name of a renamed file is uploaded. -/
theorem renamed_file_is_uploaded :
    ¬ MatchesFile exampleView exampleFolders (collect createThenRename []) "/home/ann/Docs/a.txt"
      (endsPresent false [.created, .movedAway]) := by
  intro fits
  have does := fits (pendingTask 1000 "ann" none .upload (some "/home/ann/Docs/a.txt") 5) (by decide) rfl _
    deepest_exampleFolders
  cases does

end Watcher
end GDriver
