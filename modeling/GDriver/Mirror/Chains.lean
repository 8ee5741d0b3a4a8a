import GDriver.Library.Follow
import GDriver.Library.Run
import GDriver.Mirror.Placing
import GDriver.System

namespace GDriver
namespace Mirror

open Library Routine Relation Db Api Sync

/-!
# Walks that do not end

The path of a file is found by following the parents of the listed rows.  An id that is not
listed ends the walk.  Nothing in the walk notices that it comes back to a row it has met, and
the rows come from writes of different times: when the parents form a cycle, the walk goes on
collecting names for ever, and the call that mirrors a file below the cycle never returns.
-/

/-- The parent that the names of the listed rows give. -/
def parentIn (nameMap : String → Option (String × Option String)) (id : String) : Option String :=
  (nameMap id).bind Prod.snd

/-- The walk collects names until the parents end. -/
theorem isSome_ancestorNames (nameMap : String → Option (String × Option String)) (steps : Nat) (id : String)
    (segments : List String) :
    (ancestorNames nameMap steps id segments).isSome = endsWithin (parentIn nameMap) steps id := by
  induction steps generalizing id segments with
  | zero => rfl
  | succ steps inductionHypothesis =>
      rw [ancestorNames]
      cases found : nameMap id with
      | none =>
          rw [endsWithin_of_none]
          · rfl
          · rw [parentIn, found]
            rfl
      | some known =>
          rcases known with ⟨name, parent⟩
          cases parent with
          | none =>
              rw [endsWithin_of_none]
              · rfl
              · rw [parentIn, found]
                rfl
          | some parentId =>
              have leads : parentIn nameMap id = some parentId := by
                rw [parentIn, found]
                rfl
              rw [endsWithin_of_some leads, ← inductionHypothesis]

theorem isSome_resolveRelativePath (steps : Nat) (fileId : String)
    (nameMap : String → Option (String × Option String)) :
    (resolveRelativePath steps fileId nameMap).isSome = endsWithin (parentIn nameMap) steps fileId := by
  rw [resolveRelativePath, Option.isSome_map, isSome_ancestorNames]

/-- Only listed rows have a parent. -/
theorem mem_of_parentIn {files : List Db.DriveFile} (id : String)
    (leads : (parentIn (nameMapOf files) id).isSome) : id ∈ files.map Db.DriveFile.id := by
  rw [parentIn] at leads
  rcases Option.isSome_iff_exists.mp leads with ⟨parentId, led⟩
  rcases Option.bind_eq_some_iff.mp led with ⟨known, found, _⟩
  rcases Option.map_eq_some_iff.mp found with ⟨file, first, _⟩
  have same : file.id = id := by simpa using List.find?_some first
  rw [← same]
  exact List.mem_map_of_mem (List.mem_reverse.mp (List.mem_of_find?_eq_some first))

/-- The walk from a file ends. -/
def Resolves (files : List Db.DriveFile) (fileId : String) : Prop :=
  ∃ steps, (resolveRelativePath steps fileId (nameMapOf files)).isSome = true

/-- However the statements fare, the call returns if the daemon gets far enough in each walk. -/
def MirroringEnds (accountId mountPoint : String) (db : Database) : Prop :=
  ∃ bound, ∀ answers : MirrorAnswers, bound ≤ answers.steps →
    outcome (enqueueMirrorDownloads answers accountId mountPoint) db ≠ .error stopped

section Ends

variable {files : List Db.DriveFile} {fileId : String}

/-- The walk from a file ends exactly when it does not run into a cycle. -/
theorem resolves_iff : Resolves files fileId ↔ ¬ RunsIntoCycle (parentIn (nameMapOf files)) fileId := by
  rw [← exists_endsWithin_iff mem_of_parentIn]
  apply exists_congr
  intro steps
  rw [isSome_resolveRelativePath]

/-- A walk that ends at all ends after all listed rows. -/
theorem isSome_of_resolves (resolves : Resolves files fileId) {steps : Nat} (enough : files.length < steps) :
    (resolveRelativePath steps fileId (nameMapOf files)).isSome = true := by
  rw [isSome_resolveRelativePath]
  apply endsWithin_of_no_cycle mem_of_parentIn (resolves_iff.mp resolves)
  rw [List.length_map]
  exact enough

/-- The call ends exactly when the walk of every file it has to place ends. -/
theorem mirroringEnds_iff {accountId mountPoint : String} {db : Database} :
    MirroringEnds accountId mountPoint db ↔
      ∀ file ∈ Database.filesOfAccount db accountId, needsMirroring (listedFolders db accountId) file = true →
        Resolves (Database.filesOfAccount db accountId) file.id := by
  constructor
  · rintro ⟨bound, returns⟩ file listed needed
    by_contra endless
    have unresolved : resolveRelativePath bound file.id (nameMapOf (Database.filesOfAccount db accountId)) = none := by
      rw [← Option.not_isSome_iff_eq_none]
      intro ends
      exact endless ⟨bound, ends⟩
    apply returns (MirrorAnswers.allRun bound 0) (Nat.le_refl bound)
    rw [outcome_enqueueMirrorDownloads rfl, mirrorFailure_of_unresolved]
    · rfl
    · intro turn
      rfl
    · exact ⟨file, listed, needed, unresolved⟩
  · intro resolves
    refine ⟨(Database.filesOfAccount db accountId).length + 1, fun answers enough => ?_⟩
    cases lists : answers.listsFiles with
    | false =>
        rw [outcome_of_not_listed lists]
        decide
    | true =>
        have goesOn := @mirrorFailure_ne_stopped answers (listedFolders db accountId)
          (nameMapOf (Database.filesOfAccount db accountId)) 0 (Database.filesOfAccount db accountId)
          fun file listed needed => isSome_of_resolves (resolves file listed needed) enough
        rw [outcome_enqueueMirrorDownloads lists]
        cases failed : mirrorFailure answers (listedFolders db accountId)
            (nameMapOf (Database.filesOfAccount db accountId)) 0 (Database.filesOfAccount db accountId) with
        | none => exact nofun
        | some failure =>
            rw [failed] at goesOn
            intro stops
            apply goesOn
            rw [Except.error.inj stops]

end Ends

/-- Every walk over the listed rows ends, and so does every call that mirrors them, exactly when
no row is above itself. -/
theorem walks_end_iff (accountId mountPoint : String) (db : Database) :
    ((∀ fileId, Resolves (Database.filesOfAccount db accountId) fileId) ∧ MirroringEnds accountId mountPoint db) ↔
      Acyclic (parentIn (nameMapOf (Database.filesOfAccount db accountId))) := by
  rw [acyclic_iff_forall, mirroringEnds_iff]
  constructor
  · rintro ⟨resolves, _⟩ fileId
    exact resolves_iff.mp (resolves fileId)
  · intro open_
    have resolves (fileId : String) : Resolves (Database.filesOfAccount db accountId) fileId :=
      resolves_iff.mpr (open_ fileId)
    exact ⟨resolves, fun file _ _ => resolves file.id⟩

/-! ## Folders that change places -/

/-- A file or folder of the example, under a parent. -/
def under (id mimeType : String) (parentId : Option String) : Api.DriveFile :=
  { Api.DriveFile.named id id with
    mimeType := some mimeType
    parents := parentId.map fun parentId => [parentId] }

/-- A change that reports a record. -/
def reports (apiFile : Api.DriveFile) : Change where
  fileId := apiFile.id
  removed := some false
  file := some apiFile

/-- A folder, a folder in it, and the notes in that one are listed.  Then the two folders change
places on the server; the row of the one that moves up is not stored, the other one is. -/
def foldersChangePlaces : List Operation :=
  [.sync (.connect true ⟨"ann@example.com", "ann@example.com", 0⟩),
    .sync (.listed true "ann@example.com" (under "docs" folderMimeType none)),
    .sync (.listed true "ann@example.com" (under "drafts" folderMimeType (some "docs"))),
    .sync (.listed true "ann@example.com" (under "notes.txt" "text/plain" (some "drafts"))),
    .sync (.change { ProcessChangeAnswers.allRun 1 with upserts := false } "ann@example.com"
      (reports (under "drafts" folderMimeType none)) .stream "/mnt"),
    .sync (.change (ProcessChangeAnswers.allRun 2) "ann@example.com"
      (reports (under "docs" folderMimeType (some "drafts"))) .stream "/mnt")]

/-- The rows after the folders have changed places. -/
def crossedRows : Database :=
  (run (@System.exec untimed) foldersChangePlaces System.initial).world.db

/-- The notes can no longer be placed: the call that should does not return. -/
theorem crossed_folders_never_end :
    ¬ ((∀ fileId, Resolves (Database.filesOfAccount crossedRows "ann@example.com") fileId) ∧
        MirroringEnds "ann@example.com" "/mnt" crossedRows) := by
  rintro ⟨_, ends⟩
  have upwards : LeadsTo (parentIn (nameMapOf (Database.filesOfAccount crossedRows "ann@example.com")))
      "docs" "drafts" := by
    unfold LeadsTo
    decide
  have back : LeadsTo (parentIn (nameMapOf (Database.filesOfAccount crossedRows "ann@example.com")))
      "drafts" "docs" := by
    unfold LeadsTo
    decide
  have above : LeadsTo (parentIn (nameMapOf (Database.filesOfAccount crossedRows "ann@example.com")))
      "notes.txt" "drafts" := by
    unfold LeadsTo
    decide
  have needed : ∃ file ∈ Database.filesOfAccount crossedRows "ann@example.com",
      needsMirroring (listedFolders crossedRows "ann@example.com") file = true ∧ file.id = "notes.txt" := by
    decide
  rcases needed with ⟨file, listed, needs, named⟩
  have resolves := mirroringEnds_iff.mp ends file listed needs
  rw [named] at resolves
  apply resolves_iff.mp resolves
  exact ⟨"drafts", ReflTransGen.single above, TransGen.head back (TransGen.single upwards)⟩

end Mirror
end GDriver
