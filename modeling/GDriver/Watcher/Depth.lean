import GDriver.Watcher.Trees
import Mathlib.Data.List.MinMax

namespace GDriver
namespace Watcher

open Library

/-!
# Depth and length of roots

Ancestry is a matter of components, but the owner among the ancestors is the one whose root is
the longest text.  A root is stored as it was given, so an ancestor that is written with many
separators can be longer than one that lies deeper.
-/

/-- The number of components of a root. -/
def depth (root : String) : Nat :=
  (pathKey root).steps.length

/-- Of the watched ancestors of a path one with the most components. -/
structure Deepest (folders : List WatchedFolder) (path : String) (folder : WatchedFolder) : Prop where
  watched : folder ∈ folders
  inside : isInside folder.root path = true
  deepest : ∀ other ∈ folders, isInside other.root path = true → depth other.root ≤ depth folder.root

/-- In every order in which the map gives out its entries, a path has an owner exactly when it
has a watched ancestor, and the owner is the deepest. -/
structure OwnedByDeepest (map : FolderMap) (path : String) : Prop where
  none_iff : ∀ order : List WatchedFolder, order.Perm map.folders →
    (findOwningFolder path order = none ↔ ∀ folder ∈ map.folders, isInside folder.root path = false)
  deepest : ∀ order : List WatchedFolder, order.Perm map.folders → ∀ folder,
    findOwningFolder path order = some folder → Deepest map.folders path folder

/-! ## Components tell keys apart -/

theorem notMem_components {part path : String} (member : part ∈ components path) : part ≠ "/" ∧ part ≠ "." := by
  rcases List.mem_filter.mp member with ⟨split_, kept⟩
  rcases List.mem_map.mp split_ with ⟨letters, inside, same⟩
  constructor
  · intro slash
    have absent := notMem_of_mem_splitAtEvery inside
    have whole : letters = ['/'] := by
      rw [← String.toList_ofList (l := letters), same, slash]
      rfl
    rw [whole] at absent
    exact absent List.mem_cons_self
  · intro dot
    rw [dot] at kept
    cases kept

theorem fromHere_of_absolute {path : String} (absolute : (pathKey path).absolute = true) :
    (pathKey path).fromHere = false := by
  have slash : ['/'] <+: path.toList := List.isPrefixOf_iff_prefix.mp absolute
  rw [Bool.eq_false_iff]
  intro here
  rw [pathKey, Bool.or_eq_true, decide_eq_true_eq] at here
  rcases here with dot | dots
  · rw [dot] at slash
    cases (List.cons_prefix_cons.mp slash).1
  · have dots : ['.', '/'] <+: path.toList := List.isPrefixOf_iff_prefix.mp dots
    rcases slash with ⟨rest, whole⟩
    rw [← whole] at dots
    cases (List.cons_prefix_cons.mp dots).1

/-- The first component says whether a path is absolute. -/
theorem head?_steps_eq_slash (path : String) :
    (pathKey path).steps.head? = some "/" ↔ (pathKey path).absolute = true := by
  rw [PathKey.steps]
  cases absolute : (pathKey path).absolute with
  | true => exact iff_of_true rfl rfl
  | false =>
      refine iff_of_false (fun head => ?_) Bool.false_ne_true
      rw [if_neg Bool.false_ne_true] at head
      cases here : (pathKey path).fromHere with
      | true =>
          rw [here] at head
          exact absurd (Option.some.inj head) (by decide)
      | false =>
          rw [here, if_neg Bool.false_ne_true, List.nil_append] at head
          exact (notMem_components (List.mem_of_head? head)).1 rfl

/-- It says as well whether a relative path begins here. -/
theorem head?_steps_eq_dot (path : String) :
    (pathKey path).steps.head? = some "." ↔ (pathKey path).fromHere = true := by
  rw [PathKey.steps]
  cases absolute : (pathKey path).absolute with
  | true =>
      rw [fromHere_of_absolute absolute]
      exact iff_of_false (fun head => absurd (Option.some.inj head) (by decide)) Bool.false_ne_true
  | false =>
      rw [if_neg Bool.false_ne_true]
      cases here : (pathKey path).fromHere with
      | true => exact iff_of_true rfl rfl
      | false =>
          refine iff_of_false (fun head => ?_) Bool.false_ne_true
          rw [if_neg Bool.false_ne_true, List.nil_append] at head
          exact (notMem_components (List.mem_of_head? head)).2 rfl

/-- Paths with the same components have the same key. -/
theorem pathKey_of_steps {path other : String} (same : (pathKey path).steps = (pathKey other).steps) :
    pathKey path = pathKey other := by
  have absolute : (pathKey path).absolute = (pathKey other).absolute := by
    rw [Bool.eq_iff_iff, ← head?_steps_eq_slash, ← head?_steps_eq_slash, same]
  have here : (pathKey path).fromHere = (pathKey other).fromHere := by
    rw [Bool.eq_iff_iff, ← head?_steps_eq_dot, ← head?_steps_eq_dot, same]
  have parts : (pathKey path).parts = (pathKey other).parts := by
    rw [PathKey.steps, PathKey.steps, absolute, here] at same
    exact List.append_cancel_left same
  calc pathKey path = ⟨(pathKey path).absolute, (pathKey path).fromHere, (pathKey path).parts⟩ := rfl
    _ = ⟨(pathKey other).absolute, (pathKey other).fromHere, (pathKey other).parts⟩ := by rw [absolute, here, parts]
    _ = pathKey other := rfl

/-- Two ancestors of a path at the same depth are written for the same root. -/
theorem key_eq_of_depth {path : String} {folder other : WatchedFolder} (inside : isInside folder.root path = true)
    (within : isInside other.root path = true) (same : depth folder.root = depth other.root) :
    folder.key = other.key := by
  rw [isInside, List.isPrefixOf_iff_prefix] at inside within
  apply pathKey_of_steps
  exact (List.prefix_of_prefix_length_le inside within (Nat.le_of_eq same)).eq_of_length same

/-! ## The choice of the owner -/

/-- The choice of the owner among the ancestors. -/
def longerRoot (best : Option WatchedFolder) (folder : WatchedFolder) : Option WatchedFolder :=
  match best with
  | none => some folder
  | some kept => if folder.root.utf8ByteSize < kept.root.utf8ByteSize then some kept else some folder

theorem findOwningFolder_eq (path : String) (folders : List WatchedFolder) :
    findOwningFolder path folders = (folders.filter fun folder => isInside folder.root path).foldl longerRoot none :=
  rfl

theorem longerRoot_of_le {best : Option WatchedFolder} {folder : WatchedFolder}
    (longest : ∀ kept, best = some kept → kept.root.utf8ByteSize ≤ folder.root.utf8ByteSize) :
    longerRoot best folder = some folder := by
  cases best with
  | none => rfl
  | some kept =>
      rw [longerRoot, if_neg]
      exact Nat.not_lt.mpr (longest kept rfl)

/-- The chosen root is at least as long as every other. -/
theorem le_of_foldl_longerRoot {folders : List WatchedFolder} {best : Option WatchedFolder} {chosen : WatchedFolder}
    (found : folders.foldl longerRoot best = some chosen) :
    (∀ folder ∈ folders, folder.root.utf8ByteSize ≤ chosen.root.utf8ByteSize) ∧
      ∀ kept, best = some kept → kept.root.utf8ByteSize ≤ chosen.root.utf8ByteSize := by
  induction folders generalizing best with
  | nil =>
      refine ⟨fun folder member => (List.not_mem_nil member).elim, fun kept same => ?_⟩
      rw [List.foldl_nil, same] at found
      rw [Option.some.inj found]
  | cons folder rest inductionHypothesis =>
      rw [List.foldl_cons] at found
      rcases inductionHypothesis found with ⟨later, bound⟩
      have here : folder.root.utf8ByteSize ≤ chosen.root.utf8ByteSize ∧
          ∀ kept, best = some kept → kept.root.utf8ByteSize ≤ chosen.root.utf8ByteSize := by
        cases best with
        | none => exact ⟨bound folder rfl, fun kept same => (Option.some_ne_none kept same.symm).elim⟩
        | some before =>
            by_cases shorter : folder.root.utf8ByteSize < before.root.utf8ByteSize
            · have kept := bound before (if_pos shorter)
              refine ⟨Nat.le_trans (Nat.le_of_lt shorter) kept, fun other same => ?_⟩
              rw [← Option.some.inj same]
              exact kept
            · have taken := bound folder (if_neg shorter)
              refine ⟨taken, fun other same => ?_⟩
              rw [← Option.some.inj same]
              exact Nat.le_trans (Nat.le_of_not_lt shorter) taken
      refine ⟨fun other member => ?_, here.2⟩
      rcases List.mem_cons.mp member with itself | inside
      · rw [itself]
        exact here.1
      · exact later other inside

section Choosing

variable {path : String} {folders : List WatchedFolder} {folder : WatchedFolder}

/-- The owner is a watched ancestor, and no ancestor is written longer. -/
theorem longest_of_findOwningFolder (owning : findOwningFolder path folders = some folder) :
    ∀ other ∈ folders, isInside other.root path = true → other.root.utf8ByteSize ≤ folder.root.utf8ByteSize := by
  intro other member inside
  rw [findOwningFolder_eq] at owning
  exact (le_of_foldl_longerRoot owning).1 other (List.mem_filter.mpr ⟨member, inside⟩)

theorem findOwningFolder_eq_none_iff :
    findOwningFolder path folders = none ↔ ∀ folder ∈ folders, isInside folder.root path = false := by
  constructor
  · intro none_ folder member
    rw [Bool.eq_false_iff]
    intro inside
    have watched : IsWatched folders path := ⟨folder, member, inside⟩
    rcases watched.exists_owning with ⟨owner, owning⟩
    rw [none_] at owning
    cases owning
  · intro outside
    cases owning : findOwningFolder path folders with
    | none => rfl
    | some owner =>
        rcases of_findOwningFolder owning with ⟨member, inside⟩
        rw [outside owner member] at inside
        cases inside

/-- Of the longest ancestors the one met last is the owner. -/
theorem findOwningFolder_concat (inside : isInside folder.root path = true)
    (longest : ∀ other ∈ folders, isInside other.root path = true →
      other.root.utf8ByteSize ≤ folder.root.utf8ByteSize) :
    findOwningFolder path (folders ++ [folder]) = some folder := by
  have last : [folder].filter (fun folder => isInside folder.root path) = [folder] :=
    List.filter_cons_of_pos inside
  rw [findOwningFolder_eq, List.filter_append, List.foldl_append, last]
  apply longerRoot_of_le
  intro kept chosen
  rw [← findOwningFolder_eq] at chosen
  rcases of_findOwningFolder chosen with ⟨member, within⟩
  exact longest kept member within

/-- A path with a watched ancestor has a deepest one. -/
theorem exists_deepest (member : folder ∈ folders) (inside : isInside folder.root path = true) :
    ∃ deepest, Deepest folders path deepest := by
  let ancestors := folders.filter fun folder => isInside folder.root path
  have candidate : folder ∈ ancestors := List.mem_filter.mpr ⟨member, inside⟩
  cases most : ancestors.argmax fun folder => depth folder.root with
  | none =>
      rw [List.argmax_eq_none.mp most] at candidate
      cases candidate
  | some deepest =>
      rcases List.mem_filter.mp (List.argmax_mem most) with ⟨watched, within⟩
      refine ⟨deepest, watched, within, fun other there below => ?_⟩
      exact List.le_of_mem_argmax (f := fun folder : WatchedFolder => depth folder.root)
        (List.mem_filter.mpr ⟨there, below⟩) most

end Choosing

/-- The deepest ancestor is the owner in every order exactly when it is written longer, in bytes,
than every other ancestor. -/
theorem ownedByDeepest_iff (map : FolderMap) (path : String) :
    OwnedByDeepest map path ↔
      ∀ deepest other, Deepest map.folders path deepest → other ∈ map.folders → isInside other.root path = true →
        other ≠ deepest → other.root.utf8ByteSize < deepest.root.utf8ByteSize := by
  constructor
  · intro owned deepest other most member inside differs
    by_contra longer
    rw [Nat.not_lt] at longer
    let rivals := map.folders.filter fun folder => isInside folder.root path && folder ≠ deepest
    have rival : other ∈ rivals := List.mem_filter.mpr ⟨member, by rw [inside]; simpa using differs⟩
    cases most' : rivals.argmax fun folder => folder.root.utf8ByteSize with
    | none =>
        rw [List.argmax_eq_none.mp most'] at rival
        cases rival
    | some longest =>
        rcases List.mem_filter.mp (List.argmax_mem most') with ⟨watched, both⟩
        rw [Bool.and_eq_true, decide_eq_true_eq] at both
        have atLeast : other.root.utf8ByteSize ≤ longest.root.utf8ByteSize :=
          List.le_of_mem_argmax (f := fun folder : WatchedFolder => folder.root.utf8ByteSize) rival most'
        have bound : ∀ folder ∈ map.folders.erase longest, isInside folder.root path = true →
            folder.root.utf8ByteSize ≤ longest.root.utf8ByteSize := by
          intro folder there within
          by_cases itself : folder = deepest
          · rw [itself]
            exact Nat.le_trans longer atLeast
          · apply List.le_of_mem_argmax (f := fun folder : WatchedFolder => folder.root.utf8ByteSize) _ most'
            refine List.mem_filter.mpr ⟨List.mem_of_mem_erase there, ?_⟩
            rw [within]
            simpa using itself
        have order : (map.folders.erase longest ++ [longest]).Perm map.folders :=
          (List.perm_append_singleton _ _).trans (List.perm_cons_erase watched).symm
        have chosen := owned.deepest _ order longest (findOwningFolder_concat both.1 bound)
        have level : depth longest.root = depth deepest.root :=
          Nat.le_antisymm (most.deepest longest watched both.1) (chosen.deepest deepest most.watched most.inside)
        exact both.2 (FolderMap.eq_of_key watched most.watched (key_eq_of_depth both.1 most.inside level))
  · intro longest
    constructor
    · intro order permuted
      rw [findOwningFolder_eq_none_iff]
      exact forall_congr' fun folder => imp_congr_left permuted.mem_iff
    · intro order permuted folder owning
      rcases of_findOwningFolder owning with ⟨member, inside⟩
      have watched := permuted.mem_iff.mp member
      rcases exists_deepest watched inside with ⟨deepest, most⟩
      by_cases itself : folder = deepest
      · rw [itself]
        exact most
      · have shorter := longest deepest folder most watched inside itself
        have atMost := longest_of_findOwningFolder owning deepest (permuted.mem_iff.mpr most.watched) most.inside
        omega

/-- A folder that was added with many separators at its end, and another one inside it. -/
def paddedRoots : FolderMap :=
  (FolderMap.empty.insert ⟨"/home/ann//////", "ann@example.com", "photos"⟩).insert
    ⟨"/home/ann/Docs", "ann@example.com", "drive"⟩

/-- The outer folder owns what is in the inner one. -/
theorem padded_root_owns_deeper_path : ¬ OwnedByDeepest paddedRoots "/home/ann/Docs/notes.txt" := by
  intro owned
  have owning : findOwningFolder "/home/ann/Docs/notes.txt" paddedRoots.folders =
      some ⟨"/home/ann//////", "ann@example.com", "photos"⟩ := by
    decide
  have chosen := owned.deepest paddedRoots.folders (List.Perm.refl _) _ owning
  have deeper := chosen.deepest ⟨"/home/ann/Docs", "ann@example.com", "drive"⟩ (by decide) (by decide)
  revert deeper
  decide

end Watcher
end GDriver
