import GDriver.Watcher.Events

namespace GDriver
namespace Watcher

open Library Routine Db Sync

/-!
# Watched folders

The watcher keeps a map from the roots it watches to their account and type.  A reload walks
the enabled folders of the database and adds the ones whose root the map does not know.
-/

def WatchedFolder.key (folder : WatchedFolder) : PathKey :=
  pathKey folder.root

/-- Two spellings of a root are roots of the same paths. -/
theorem isInside_congr {root other : String} (same : pathKey root = pathKey other) (path : String) :
    isInside root path = isInside other path := by
  rw [isInside, isInside, same]

/-- A fold that takes its element or leaves its choice ends with an element, or with its start. -/
theorem mem_of_foldl_choice {α : Type} {choose : Option α → α → Option α}
    (choice : ∀ best element, choose best element = best ∨ choose best element = some element)
    {elements : List α} {best : Option α} {chosen : α} (found : elements.foldl choose best = some chosen) :
    chosen ∈ elements ∨ best = some chosen := by
  induction elements generalizing best with
  | nil => exact Or.inr found
  | cons element rest inductionHypothesis =>
      rcases inductionHypothesis found with later | now
      · exact Or.inl (List.mem_cons_of_mem element later)
      · rcases choice best element with left | taken
        · exact Or.inr (left.symm.trans now)
        · have same : element = chosen := Option.some.inj (taken.symm.trans now)
          exact Or.inl (List.mem_cons.mpr (Or.inl same.symm))

/-- A fold that always chooses something ends with something. -/
theorem isSome_foldl_choice {α : Type} {choose : Option α → α → Option α}
    (chooses : ∀ best element, (choose best element).isSome = true) {elements : List α} {best : Option α}
    (some : best.isSome = true ∨ elements ≠ []) : (elements.foldl choose best).isSome = true := by
  induction elements generalizing best with
  | nil => exact some.resolve_right fun nonempty => nonempty rfl
  | cons element rest inductionHypothesis => exact inductionHypothesis (Or.inl (chooses best element))

/-- The owning folder of a path is a watched one, and the path is inside it. -/
theorem of_findOwningFolder {path : String} {folders : List WatchedFolder} {folder : WatchedFolder}
    (owning : findOwningFolder path folders = some folder) :
    folder ∈ folders ∧ isInside folder.root path = true := by
  have chosen : folder ∈ folders.filter (fun folder => isInside folder.root path) ∨ none = some folder := by
    apply mem_of_foldl_choice _ owning
    intro best element
    cases best with
    | none => exact Or.inr rfl
    | some kept =>
        by_cases shorter : element.root.utf8ByteSize < kept.root.utf8ByteSize
        · exact Or.inl (if_pos shorter)
        · exact Or.inr (if_neg shorter)
  rcases chosen with member | none
  · exact List.mem_filter.mp member
  · cases none

/-- The folders that are watched; no root is watched twice. -/
structure FolderMap where
  folders : List WatchedFolder
  distinct : (folders.map WatchedFolder.key).Nodup

namespace FolderMap

def empty : FolderMap where
  folders := []
  distinct := List.nodup_nil

def containsKey (map : FolderMap) (key : PathKey) : Bool :=
  map.folders.any fun folder => folder.key = key

theorem containsKey_iff {map : FolderMap} {key : PathKey} :
    map.containsKey key = true ↔ ∃ folder ∈ map.folders, folder.key = key := by
  rw [containsKey, List.any_eq_true]
  apply exists_congr
  intro folder
  rw [decide_eq_true_eq]

/-- Watch another folder; a root that is watched already stays as it is. -/
def insert (map : FolderMap) (folder : WatchedFolder) : FolderMap :=
  if known : map.containsKey folder.key = true then map
  else
    { folders := map.folders ++ [folder]
      distinct := by
        rw [List.map_append, List.map_cons, List.map_nil]
        apply List.nodup_append.mpr
        refine ⟨map.distinct, List.nodup_singleton _, ?_⟩
        intro key member other last same
        rcases List.mem_map.mp member with ⟨kept, stored, its⟩
        rw [List.mem_singleton.mp last] at same
        exact known (containsKey_iff.mpr ⟨kept, stored, its.trans same⟩) }

theorem folders_insert {map : FolderMap} {folder : WatchedFolder} (fresh : ¬ map.containsKey folder.key = true) :
    (map.insert folder).folders = map.folders ++ [folder] := by
  rw [insert, dif_neg fresh]

/-- Folders of one root are one folder. -/
theorem eq_of_key {map : FolderMap} {folder other : WatchedFolder} (member : folder ∈ map.folders)
    (there : other ∈ map.folders) (same : folder.key = other.key) : folder = other :=
  List.inj_on_of_nodup_map map.distinct member there same

end FolderMap

/-- The entry of the map for a configured folder. -/
def watchedFolder (folder : SyncFolder) : WatchedFolder where
  root := folder.localPath
  accountId := folder.accountId
  folderType := folder.folderType

/-- What a reload finds of the environment: the directories, and whether one can be watched. -/
structure ReloadView where
  isDir : PathKey → Bool
  watches : SyncFolder → Bool

/-- Watch one configured folder, unless its root is watched already. -/
def watchFolder (view : ReloadView) (found : FolderMap × List WatchedFolder) (folder : SyncFolder) :
    FolderMap × List WatchedFolder :=
  if found.1.containsKey (pathKey folder.localPath) then found
  else if view.isDir (pathKey folder.localPath) then
    if view.watches folder then (found.1.insert (watchedFolder folder), found.2 ++ [watchedFolder folder])
    else found
  else found

/-- Re-read the enabled folders and start watching the new directories.  The answer holds the
map and the newly added folders; a map is left alone when the folders cannot be read. -/
def reloadFolders (view : ReloadView) (listed : Except String (List SyncFolder)) (map : FolderMap) :
    FolderMap × List WatchedFolder :=
  match listed with
  | .error _ => (map, [])
  | .ok folders => folders.foldl (watchFolder view) (map, [])

section Reload

variable {view : ReloadView}

/-- A configured folder whose directory is there and can be watched. -/
def Watchable (view : ReloadView) (folder : SyncFolder) : Prop :=
  view.isDir (pathKey folder.localPath) = true ∧ view.watches folder = true

/-- What walking configured folders does to the map. -/
structure Extends (view : ReloadView) (rows : List SyncFolder) (before after : FolderMap) : Prop where
  kept : ∀ folder ∈ before.folders, folder ∈ after.folders
  added : ∀ folder ∈ after.folders, folder ∈ before.folders ∨
    ∃ row ∈ rows, Watchable view row ∧ folder = watchedFolder row
  known : ∀ row ∈ rows, Watchable view row → after.containsKey (pathKey row.localPath) = true

theorem extends_watchFolder (found : FolderMap × List WatchedFolder) (row : SyncFolder) :
    Extends view [row] found.1 (watchFolder view found row).1 := by
  rw [watchFolder]
  split
  · next known =>
      refine ⟨fun _ => id, fun _ => Or.inl, ?_⟩
      intro other member _
      rw [List.mem_singleton.mp member]
      exact known
  · next fresh =>
      split
      · next present =>
          split
          · next watched =>
              have inserted := @FolderMap.folders_insert _ (watchedFolder row) fresh
              refine ⟨?_, ?_, ?_⟩
              · intro folder member
                rw [inserted]
                exact List.mem_append_left _ member
              · intro folder member
                rw [inserted] at member
                rcases List.mem_append.mp member with before | last
                · exact Or.inl before
                · exact Or.inr ⟨row, List.mem_singleton_self row, ⟨present, watched⟩, List.mem_singleton.mp last⟩
              · intro other member _
                rw [List.mem_singleton.mp member, FolderMap.containsKey_iff, inserted]
                exact ⟨watchedFolder row, List.mem_append_right _ (List.mem_singleton_self _), rfl⟩
          · next refused =>
              refine ⟨fun _ => id, fun _ => Or.inl, ?_⟩
              intro other member watchable
              rw [List.mem_singleton.mp member] at watchable
              exact absurd watchable.2 refused
      · next absent =>
          refine ⟨fun _ => id, fun _ => Or.inl, ?_⟩
          intro other member watchable
          rw [List.mem_singleton.mp member] at watchable
          exact absurd watchable.1 absent

theorem extends_foldl (rows : List SyncFolder) (found : FolderMap × List WatchedFolder) :
    Extends view rows found.1 (rows.foldl (watchFolder view) found).1 := by
  induction rows generalizing found with
  | nil =>
      refine ⟨fun _ => id, fun _ => Or.inl, ?_⟩
      intro row member
      cases member
  | cons row rest inductionHypothesis =>
      have first : Extends view [row] found.1 (watchFolder view found row).1 := extends_watchFolder found row
      have later := inductionHypothesis (watchFolder view found row)
      refine ⟨?_, ?_, ?_⟩
      · intro folder member
        exact later.kept folder (first.kept folder member)
      · intro folder member
        rcases later.added folder member with before | ⟨other, inside, added⟩
        · rcases first.added folder before with start | ⟨other, inside, added⟩
          · exact Or.inl start
          · exact Or.inr ⟨other, List.mem_cons.mpr (Or.inl (List.mem_singleton.mp inside)), added⟩
        · exact Or.inr ⟨other, List.mem_cons_of_mem row inside, added⟩
      · intro other member watchable
        rcases List.mem_cons.mp member with here | inside
        · have known := first.known other (List.mem_singleton.mpr here) watchable
          rcases FolderMap.containsKey_iff.mp known with ⟨folder, there, its⟩
          exact FolderMap.containsKey_iff.mpr ⟨folder, later.kept folder there, its⟩
        · exact later.known other inside watchable

end Reload

end Watcher
end GDriver
