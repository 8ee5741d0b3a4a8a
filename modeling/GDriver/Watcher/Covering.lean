import GDriver.Moves.Sync
import GDriver.Watcher.Depth

namespace GDriver
namespace Watcher

open Library Routine Db Sync

/-!
# What a sync folder covers

A download in Stream mode asks whether the path of the file begins with the text of an enabled
folder.  The watcher asks whether a folder is an ancestor of the path, component by component.
The text of a folder can end in the middle of a name of the path, and an ancestor can be
written differently from the beginning of the path.
-/

/-- The test of a download in Stream mode. -/
def streamCovers (folders : List SyncFolder) (path : String) : Bool :=
  folders.any fun folder => folder.isEnabled && startsWith path folder.localPath

/-- What the watcher knows after it has read the folders, when every directory is there. -/
def watchedRoots (folders : List SyncFolder) : FolderMap :=
  (reloadFolders ⟨fun _ => true, fun _ => true⟩ (.ok (folders.filter SyncFolder.isEnabled)) .empty).1

/-- Something holds of the path of an enabled folder. -/
def SomeEnabled (folders : List SyncFolder) (holds : String → Prop) : Prop :=
  ∃ folder ∈ folders, folder.isEnabled = true ∧ holds folder.localPath

/-- A path is covered for a download exactly when it lies in an enabled folder, and exactly when
the watcher finds an owner for it. -/
structure AgreesOn (folders : List SyncFolder) (path : String) : Prop where
  covers_iff : streamCovers folders path = true ↔ SomeEnabled folders fun root => isInside root path = true
  owns_iff : ∀ order : List WatchedFolder, order.Perm (watchedRoots folders).folders →
    (streamCovers folders path = true ↔ findOwningFolder path order ≠ none)

/-- The text of a root ends in the middle of a name of the path.  A root that ends with a slash,
or with a `.` after one, ends with no name. -/
def CutsName (root path : String) : Prop :=
  ∃ rest : List Char, path.toList = root.toList ++ rest ∧ rest ≠ [] ∧ rest.head? ≠ some '/' ∧
    (root = "." ∨ (lastPart '/' root.toList ≠ [] ∧ lastPart '/' root.toList ≠ ['.']))

/-- In Stream mode the test decides about the download. -/
theorem isCovered_stream (answers : ProcessChangeAnswers) (accountId path : String) (db : Database) :
    isCovered answers accountId .stream path db =
      (answers.listsFolders &&
        streamCovers (db.syncFolders.records.filter fun folder => folder.accountId = accountId) path) := by
  rw [isCovered, streamCovers, decide_eq_false SyncMode.noConfusion, Bool.false_or]

/-! ## Text and components -/

/-- A part of a path that denotes something. -/
def isNamed (part : String) : Bool :=
  part ≠ "" && part ≠ "."

theorem isNamed_ofList {letters : List Char} : isNamed (String.ofList letters) = true ↔ letters ≠ [] ∧
    letters ≠ ['.'] := by
  have same (text : String) : String.ofList letters = text ↔ letters = text.toList := by
    constructor
    · intro equal
      rw [← equal, String.toList_ofList]
    · intro equal
      rw [equal, String.ofList_toList]
  rw [isNamed, Bool.and_eq_true, decide_eq_true_eq, decide_eq_true_eq, Ne, Ne, same, same]
  rfl

section Extending

variable {root path : String} {rest : List Char}

/-- A path that goes on where a root ends has its components, unless a name goes on there. -/
theorem components_prefix_iff (whole : path.toList = root.toList ++ rest) :
    components root <+: components path ↔
      lastPart '/' root.toList = [] ∨ lastPart '/' root.toList = ['.'] ∨ rest = [] ∨ rest.head? = some '/' := by
  have parts : splitAtEvery '/' root.toList =
      (splitAtEvery '/' root.toList).dropLast ++ [lastPart '/' root.toList] :=
    (List.dropLast_append_getLast (splitAtEvery_ne_nil '/' root.toList)).symm
  cases more : splitAtEvery '/' rest with
  | nil => exact absurd more (splitAtEvery_ne_nil '/' rest)
  | cons head tail =>
      have extended := splitAtEvery_extended parts more
      have goesOn := head_splitAtEvery_eq_nil more
      have ofRoot : components root =
          (((splitAtEvery '/' root.toList).dropLast.map String.ofList).filter isNamed) ++
            [String.ofList (lastPart '/' root.toList)].filter isNamed := by
        rw [← List.filter_append, ← List.map_singleton, ← List.map_append, ← parts]
        rfl
      have ofPath : components path =
          (((splitAtEvery '/' root.toList).dropLast.map String.ofList).filter isNamed) ++
            (String.ofList (lastPart '/' root.toList ++ head) :: tail.map String.ofList).filter isNamed := by
        rw [← List.filter_append, ← List.map_cons, ← List.map_append, ← extended, ← whole]
        rfl
      rw [ofRoot, ofPath, List.prefix_append_right_inj]
      by_cases named : lastPart '/' root.toList ≠ [] ∧ lastPart '/' root.toList ≠ ['.']
      · have longer : lastPart '/' root.toList ++ head ≠ [] ∧ lastPart '/' root.toList ++ head ≠ ['.'] := by
          refine ⟨fun empty => named.1 (List.append_eq_nil_iff.mp empty).1, fun dot => ?_⟩
          rcases List.append_eq_singleton_iff.mp dot with ⟨empty, _⟩ | ⟨same, _⟩
          · exact named.1 empty
          · exact named.2 same
        rw [List.filter_cons_of_pos (isNamed_ofList.mpr named), List.filter_nil,
          List.filter_cons_of_pos (isNamed_ofList.mpr longer), List.cons_prefix_cons, ← goesOn]
        constructor
        · rintro ⟨same, _⟩
          have letters := congrArg String.toList same
          rw [String.toList_ofList, String.toList_ofList] at letters
          exact Or.inr (Or.inr (List.self_eq_append_right.mp letters))
        · rintro (empty | dot | nothing)
          · exact absurd empty named.1
          · exact absurd dot named.2
          · rw [nothing, List.append_nil]
            exact ⟨rfl, List.nil_prefix⟩
      · have dropped : [String.ofList (lastPart '/' root.toList)].filter isNamed = [] := by
          rw [List.filter_eq_nil_iff]
          intro part member kept
          rw [List.mem_singleton.mp member] at kept
          exact named (isNamed_ofList.mp kept)
        rw [dropped]
        refine iff_of_true List.nil_prefix ?_
        rw [not_and_or, not_not, not_not] at named
        rcases named with empty | dot
        · exact Or.inl empty
        · exact Or.inr (Or.inl dot)

/-- A path that begins with the text of a root begins where the root does. -/
theorem leading_extended (whole : path.toList = root.toList ++ rest) (nonempty : root.toList ≠ [])
    (further : root.toList ≠ ['.']) :
    (pathKey path).absolute = (pathKey root).absolute ∧ (pathKey path).fromHere = (pathKey root).fromHere := by
  constructor
  · simp only [pathKey, startsWith, whole]
    cases letters : root.toList with
    | nil => exact absurd letters nonempty
    | cons first others => rfl
  · rw [Bool.eq_iff_iff, fromHere_iff, fromHere_iff, whole]
    rcases letters : root.toList with _ | ⟨first, _ | ⟨second, others⟩⟩
    · exact absurd letters nonempty
    · rw [letters] at further
      simp only [List.cons_append, List.nil_append, List.cons_prefix_cons, List.prefix_nil]
      constructor
      · rintro (⟨dot, _⟩ | ⟨dot, _⟩)
        · exact absurd rfl further
        · exact absurd (by rw [← dot]) further
      · rintro (same | ⟨dot, _⟩)
        · exact absurd same further
        · exact absurd (by rw [← dot]) further
    · simp

/-- What follows the text of a root that cuts a name of the path. -/
theorem cutsName_iff (whole : path.toList = root.toList ++ rest) :
    CutsName root path ↔ rest ≠ [] ∧ rest.head? ≠ some '/' ∧
      (root = "." ∨ (lastPart '/' root.toList ≠ [] ∧ lastPart '/' root.toList ≠ ['.'])) := by
  constructor
  · rintro ⟨other, split_, following⟩
    rw [whole, List.append_cancel_left_eq] at split_
    rw [split_]
    exact following
  · exact fun following => ⟨rest, whole, following⟩

/-- Inside the current directory is what begins there. -/
theorem isInside_dot_iff (path : String) : isInside "." path = true ↔ (pathKey path).fromHere = true := by
  rw [isInside, List.isPrefixOf_iff_prefix, ← head?_steps_eq_dot]
  have steps : (pathKey ".").steps = ["."] := by decide
  rw [steps]
  cases (pathKey path).steps with
  | nil =>
      refine iff_of_false (fun within => ?_) fun head => ?_
      · cases List.prefix_nil.mp within
      · cases head
  | cons first others =>
      rw [List.cons_prefix_cons, List.head?_cons, Option.some_inj]
      exact ⟨fun both => both.1.symm, fun first => ⟨first.symm, List.nil_prefix⟩⟩

/-- Inside a root that has a name is what goes on after the name. -/
theorem isInside_iff_of_named (whole : path.toList = root.toList ++ rest) (nonempty : root.toList ≠ [])
    (further : root.toList ≠ ['.']) :
    isInside root path = true ↔ (lastPart '/' root.toList = [] ∨ lastPart '/' root.toList = ['.'] ∨ rest = [] ∨
      rest.head? = some '/') := by
  rcases leading_extended whole nonempty further with ⟨absolute, begins⟩
  rw [isInside, List.isPrefixOf_iff_prefix, PathKey.steps, PathKey.steps, absolute, begins,
    List.prefix_append_right_inj]
  exact components_prefix_iff whole

/-- The text of a root is the beginning of a path of another name exactly when it cuts a name. -/
theorem isInside_iff_not_cutsName (starts : startsWith path root = true) :
    isInside root path = true ↔ ¬ CutsName root path := by
  rcases List.isPrefixOf_iff_prefix.mp starts with ⟨rest, same⟩
  have whole : path.toList = root.toList ++ rest := same.symm
  rw [cutsName_iff whole]
  by_cases empty : root.toList = []
  · have nothing : root = "" := String.toList_injective empty
    rw [nothing]
    refine iff_of_true (List.isPrefixOf_iff_prefix.mpr List.nil_prefix) ?_
    rintro ⟨_, _, dot | ⟨named, _⟩⟩
    · exact absurd dot (by decide)
    · exact named rfl
  · by_cases here : root.toList = ['.']
    · have dot : root = "." := String.toList_injective here
      have begins := isInside_dot_iff path
      rw [← dot] at begins
      rw [begins, fromHere_iff, whole, here]
      cases rest with
      | nil => exact iff_of_true (Or.inl rfl) fun following => following.1 rfl
      | cons next others =>
          rw [List.singleton_append, List.cons_prefix_cons, List.cons_prefix_cons, List.head?_cons]
          constructor
          · rintro (alone | ⟨_, slash, _⟩) ⟨_, other, _⟩
            · cases alone
            · exact other (by rw [← slash])
          · intro following
            refine Or.inr ⟨rfl, ?_, List.nil_prefix⟩
            by_contra other
            exact following ⟨List.cons_ne_nil _ _, fun same => other (Option.some.inj same).symm, Or.inl dot⟩
    · have other : root ≠ "." := fun same => here (by rw [same]; rfl)
      rw [isInside_iff_of_named whole empty here]
      constructor
      · rintro apart ⟨more, goesOn, ending⟩
        rcases ending.resolve_left other with ⟨named, further⟩
        rcases apart with empty | dot | nothing | slash
        · exact named empty
        · exact further dot
        · exact more nothing
        · exact goesOn slash
      · intro following
        by_contra apart
        rw [not_or, not_or, not_or] at apart
        exact following ⟨apart.2.2.1, apart.2.2.2, Or.inr ⟨apart.1, apart.2.1⟩⟩

end Extending

/-! ## Both tests -/

/-- Every enabled folder is known to the watcher, under one of its spellings. -/
theorem exists_watchedRoot_iff (folders : List SyncFolder) (path : String) :
    (∃ folder ∈ (watchedRoots folders).folders, isInside folder.root path = true) ↔
      SomeEnabled folders fun root => isInside root path = true := by
  let view : ReloadView := ⟨fun _ => true, fun _ => true⟩
  have read : Extends view (folders.filter SyncFolder.isEnabled) .empty (watchedRoots folders) :=
    extends_foldl _ (.empty, [])
  constructor
  · rintro ⟨folder, member, inside⟩
    rcases read.added folder member with none_ | ⟨row, stored, _, same⟩
    · cases none_
    · rcases List.mem_filter.mp stored with ⟨listed, enabled⟩
      rw [same] at inside
      exact ⟨row, listed, enabled, inside⟩
  · rintro ⟨row, listed, enabled, inside⟩
    have known := read.known row (List.mem_filter.mpr ⟨listed, enabled⟩) ⟨rfl, rfl⟩
    rcases FolderMap.containsKey_iff.mp known with ⟨folder, member, same⟩
    refine ⟨folder, member, ?_⟩
    rw [isInside_congr same]
    exact inside

/-- The watcher finds an owner in every order exactly for what lies in an enabled folder. -/
theorem owned_iff {folders : List SyncFolder} {path : String} {order : List WatchedFolder}
    (permuted : order.Perm (watchedRoots folders).folders) :
    findOwningFolder path order ≠ none ↔ SomeEnabled folders fun root => isInside root path = true := by
  rw [← exists_watchedRoot_iff, Ne, findOwningFolder_eq_none_iff, not_forall]
  apply exists_congr
  intro folder
  rw [Classical.not_imp, permuted.mem_iff, Bool.not_eq_false]

theorem streamCovers_iff {folders : List SyncFolder} {path : String} :
    streamCovers folders path = true ↔ SomeEnabled folders fun root => startsWith path root = true := by
  rw [streamCovers, List.any_eq_true]
  apply exists_congr
  intro folder
  rw [Bool.and_eq_true]

theorem CutsName.starts {root path : String} (cuts : CutsName root path) : startsWith path root = true := by
  rcases cuts with ⟨rest, whole, _⟩
  exact List.isPrefixOf_iff_prefix.mpr ⟨rest, whole.symm⟩

/-- The tests agree exactly when a folder whose text cuts a name comes with an ancestor, and an
ancestor comes with one that is written as the path begins, or with a folder that cuts a name. -/
theorem agreesOn_iff (folders : List SyncFolder) (path : String) :
    AgreesOn folders path ↔
      ((SomeEnabled folders fun root => CutsName root path) →
          SomeEnabled folders fun root => isInside root path = true) ∧
        ((SomeEnabled folders fun root => isInside root path = true) →
          (SomeEnabled folders fun root => isInside root path = true ∧ startsWith path root = true) ∨
            SomeEnabled folders fun root => CutsName root path) := by
  have same : AgreesOn folders path ↔ ((SomeEnabled folders fun root => startsWith path root = true) ↔
      SomeEnabled folders fun root => isInside root path = true) := by
    rw [← streamCovers_iff]
    constructor
    · exact AgreesOn.covers_iff
    · intro covers
      exact ⟨covers, fun order permuted => covers.trans (owned_iff permuted).symm⟩
  rw [same]
  constructor
  · intro agrees
    constructor
    · rintro ⟨folder, listed, enabled, cuts⟩
      exact agrees.mp ⟨folder, listed, enabled, cuts.starts⟩
    · intro owned
      rcases agrees.mpr owned with ⟨folder, listed, enabled, starts⟩
      by_cases cuts : CutsName folder.localPath path
      · exact Or.inr ⟨folder, listed, enabled, cuts⟩
      · exact Or.inl ⟨folder, listed, enabled, (isInside_iff_not_cutsName starts).mpr cuts, starts⟩
  · rintro ⟨ancestor, written⟩
    constructor
    · rintro ⟨folder, listed, enabled, starts⟩
      by_cases cuts : CutsName folder.localPath path
      · exact ancestor ⟨folder, listed, enabled, cuts⟩
      · exact ⟨folder, listed, enabled, (isInside_iff_not_cutsName starts).mpr cuts⟩
    · intro owned
      rcases written owned with ⟨folder, listed, enabled, _, starts⟩ | ⟨folder, listed, enabled, cuts⟩
      · exact ⟨folder, listed, enabled, starts⟩
      · exact ⟨folder, listed, enabled, cuts.starts⟩

/-- The text of the folder `Doc` is where the name of the folder `Documents` begins. -/
theorem doc_covers_documents :
    ¬ AgreesOn [⟨"ann@example.com", "/home/u/Doc", "drive", true⟩] "/home/u/Documents/x" := by
  intro agrees
  rcases agrees.covers_iff.mp (by decide) with ⟨folder, listed, _, inside⟩
  rw [List.mem_singleton.mp listed] at inside
  revert inside
  decide

end Watcher
end GDriver
