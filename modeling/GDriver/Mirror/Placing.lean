import GDriver.Mirror.Placement

namespace GDriver
namespace Mirror

open Library Routine Db Sync

/-!
# Carrying out the placements

The loop over the listed files works from a snapshot of the rows and stores one row and at
most one task for each file it places.  It is described here by the list of its placements:
what it leaves behind, where it stops, and what it counts.
-/

/-- Store the row of a placed file and, if the queue takes it, the task for its download. -/
def place (answers : MirrorAnswers) (accountId : String) (db : Database) (placement : Placement) : Database :=
  if answers.enqueues placement.turn then
    (db.putFile placement.row).putTask (placement.download answers.now accountId)
  else db.putFile placement.row

/-- What the loop over a list of files stops with, if it stops. -/
def mirrorFailure (answers : MirrorAnswers) (folders : List String)
    (nameMap : String → Option (String × Option String)) : Nat → List Db.DriveFile → Option String
  | _, [] => none
  | turn, file :: rest =>
      if needsMirroring folders file then
        if (resolveRelativePath answers.steps file.id nameMap).isNone then some stopped
        else if answers.upserts turn then mirrorFailure answers folders nameMap (turn + 1) rest
        else some databaseError
      else mirrorFailure answers folders nameMap (turn + 1) rest

/-- The downloads that were enqueued for a list of placements. -/
def enqueuedCount (answers : MirrorAnswers) (placements : List Placement) : Nat :=
  placements.countP fun placement => answers.enqueues placement.turn

section Loop

variable {answers : MirrorAnswers} {accountId mountPoint : String} {folders : List String}
  {nameMap : String → Option (String × Option String)} {turn : Nat} {files : List Db.DriveFile} {db : Database}

theorem file_place (placement : Placement) (fileId owner : String) :
    (place answers accountId db placement).file fileId owner = (db.putFile placement.row).file fileId owner := by
  rw [place]
  split
  · rfl
  · rfl

/-- A row that could be stored can be stored later on. -/
theorem acceptsFile_place {file : Db.DriveFile} (accepts : db.acceptsFile file = true) (placement : Placement) :
    (place answers accountId db placement).acceptsFile file = true := by
  have accounts : (place answers accountId db placement).hasAccount file.accountId = db.hasAccount file.accountId := by
    rw [place]
    split
    · rfl
    · rfl
  rw [Database.acceptsFile, Bool.or_eq_true] at accepts ⊢
  rw [accounts, file_place, Database.file_putFile]
  refine accepts.imp_left fun known => ?_
  split
  · rfl
  · exact known

/-- The loop carries out its placements, one after the other. -/
theorem final_mirrorFiles (stored : ∀ file ∈ files, db.acceptsFile file = true) :
    final (mirrorFiles answers accountId mountPoint folders nameMap turn files) db =
      (placementsFrom answers mountPoint folders nameMap turn files).foldl (place answers accountId) db := by
  induction files generalizing turn db with
  | nil => rfl
  | cons file rest inductionHypothesis =>
      rw [mirrorFiles, placementsFrom]
      split
      · cases resolve : resolveRelativePath answers.steps file.id nameMap with
        | none => rfl
        | some relativePath =>
            dsimp only
            have accepts : db.acceptsFile { file with localPath := some (mirrorPath mountPoint relativePath) } = true :=
              stored file List.mem_cons_self
            rw [final_bind, outcome_upsertFile, final_upsertFile]
            change Database.acceptsFile db { file with
              localPath := some (trimEndMatches mountPoint '/' ++ "/" ++ relativePath) } = true at accepts
            rw [accepts, Bool.and_true]
            cases stores : answers.upserts turn with
            | false => rfl
            | true =>
                let placement : Placement := ⟨turn, file, mirrorPath mountPoint relativePath⟩
                have later : ∀ other ∈ rest, (place answers accountId db placement).acceptsFile other = true :=
                  fun other member => acceptsFile_place (stored other (List.mem_cons_of_mem _ member)) placement
                have reached : final (observe (enqueue (answers.enqueues turn)
                    (pendingTask answers.now accountId (some file.id) .download
                      (some (trimEndMatches mountPoint '/' ++ "/" ++ relativePath)) 5)) :
                      Routine String Database _) (db.putFile placement.row) =
                    place answers accountId db placement := by
                  rw [final_observe, final_enqueue, place]
                  rfl
                simp only [if_true, List.foldl_cons]
                refine (final_bind_of_ok rfl _).trans ?_
                rw [← inductionHypothesis later]
                refine (congrArg _ reached).trans ?_
                refine final_bind_of_reader (fun count db => ?_) _
                split
                · rfl
                · rfl
      · exact inductionHypothesis fun other member => stored other (List.mem_cons_of_mem _ member)

/-- The loop stops where it is said to stop, and counts the downloads it enqueued. -/
theorem outcome_mirrorFiles (stored : ∀ file ∈ files, db.acceptsFile file = true) :
    outcome (mirrorFiles answers accountId mountPoint folders nameMap turn files) db =
      (mirrorFailure answers folders nameMap turn files).elim
        (.ok (enqueuedCount answers (placementsFrom answers mountPoint folders nameMap turn files))) .error := by
  induction files generalizing turn db with
  | nil => rfl
  | cons file rest inductionHypothesis =>
      rw [mirrorFiles, placementsFrom, mirrorFailure]
      split
      · cases resolve : resolveRelativePath answers.steps file.id nameMap with
        | none => rfl
        | some relativePath =>
            dsimp only
            have accepts : Database.acceptsFile db { file with
                localPath := some (trimEndMatches mountPoint '/' ++ "/" ++ relativePath) } = true :=
              stored file List.mem_cons_self
            rw [outcome_bind, outcome_upsertFile, final_upsertFile, accepts, Bool.and_true, Option.isNone_some,
              if_neg Bool.false_ne_true]
            cases stores : answers.upserts turn with
            | false => rfl
            | true =>
                let placement : Placement := ⟨turn, file, mirrorPath mountPoint relativePath⟩
                have later : ∀ other ∈ rest, (place answers accountId db placement).acceptsFile other = true :=
                  fun other member => acceptsFile_place (stored other (List.mem_cons_of_mem _ member)) placement
                have reached : final (enqueue (answers.enqueues turn)
                    (pendingTask answers.now accountId (some file.id) .download
                      (some (trimEndMatches mountPoint '/' ++ "/" ++ relativePath)) 5))
                    (db.putFile { file with
                      localPath := some (trimEndMatches mountPoint '/' ++ "/" ++ relativePath) }) =
                    place answers accountId db placement := by
                  rw [final_enqueue, place]
                  rfl
                have counted := @inductionHypothesis (turn + 1) _ later
                simp only [if_true]
                refine (outcome_bind_of_ok rfl _).trans ?_
                rw [final_observe, reached, outcome_bind, counted, outcome_enqueue]
                rw [enqueuedCount, enqueuedCount, List.countP_cons]
                cases mirrorFailure answers folders nameMap (turn + 1) rest with
                | some failure => rfl
                | none =>
                    cases answers.enqueues turn with
                    | true => rfl
                    | false => rfl
      · exact inductionHypothesis fun other member => stored other (List.mem_cons_of_mem _ member)

/-- The loop is stopped within a walk only if some walk does not end in time. -/
theorem mirrorFailure_ne_stopped (resolves : ∀ file ∈ files, needsMirroring folders file = true →
      (resolveRelativePath answers.steps file.id nameMap).isSome = true) :
    mirrorFailure answers folders nameMap turn files ≠ some stopped := by
  induction files generalizing turn with
  | nil => exact nofun
  | cons file rest inductionHypothesis =>
      have later := @inductionHypothesis (turn + 1) fun other member => resolves other (List.mem_cons_of_mem _ member)
      rw [mirrorFailure]
      split
      · next needed =>
          have here := resolves file List.mem_cons_self needed
          split
          · next unresolved =>
              rw [Option.isNone_iff_eq_none.mp unresolved] at here
              cases here
          · split
            · exact later
            · decide
      · exact later

/-- With every row stored the loop is stopped by the first walk that does not end in time. -/
theorem mirrorFailure_of_unresolved (stores : ∀ turn, answers.upserts turn = true)
    (unresolved : ∃ file ∈ files, needsMirroring folders file = true ∧
      resolveRelativePath answers.steps file.id nameMap = none) :
    mirrorFailure answers folders nameMap turn files = some stopped := by
  induction files generalizing turn with
  | nil =>
      rcases unresolved with ⟨file, member, _⟩
      cases member
  | cons file rest inductionHypothesis =>
      rcases unresolved with ⟨stuck, member, needed, none_⟩
      rw [mirrorFailure]
      rcases List.mem_cons.mp member with here | later
      · rw [← here, if_pos needed, none_, Option.isNone_none, if_pos rfl]
      · have further := @inductionHypothesis (turn + 1) ⟨stuck, later, needed, none_⟩
        rw [stores turn, if_pos rfl, further]
        split
        · split
          · rfl
          · rfl
        · rfl

/-- With every row stored and every walk ending in time, the loop gets to its end. -/
theorem mirrorFailure_eq_none (stores : ∀ turn, answers.upserts turn = true)
    (resolves : ∀ file ∈ files, needsMirroring folders file = true →
      (resolveRelativePath answers.steps file.id nameMap).isSome = true) :
    mirrorFailure answers folders nameMap turn files = none := by
  induction files generalizing turn with
  | nil => rfl
  | cons file rest inductionHypothesis =>
      have later := @inductionHypothesis (turn + 1) fun other member => resolves other (List.mem_cons_of_mem _ member)
      rw [mirrorFailure, stores turn, if_pos rfl, later]
      split
      · next needed =>
          have here := resolves file List.mem_cons_self needed
          rw [Option.isNone_eq_false_iff.mpr here, if_neg Bool.false_ne_true]
      · rfl

/-- A loop that has nothing to place gets to its end. -/
theorem mirrorFailure_of_spared (spared : ∀ file ∈ files, ¬ needsMirroring folders file = true) :
    mirrorFailure answers folders nameMap turn files = none := by
  induction files generalizing turn with
  | nil => rfl
  | cons file rest inductionHypothesis =>
      rw [mirrorFailure, if_neg (spared file List.mem_cons_self)]
      exact inductionHypothesis fun other member => spared other (List.mem_cons_of_mem _ member)

/-- A loop that gets to its end has placed every file that needed it. -/
theorem map_file_placementsFrom (finished : mirrorFailure answers folders nameMap turn files = none) :
    (placementsFrom answers mountPoint folders nameMap turn files).map Placement.file =
      files.filter (needsMirroring folders) := by
  induction files generalizing turn with
  | nil => rfl
  | cons file rest inductionHypothesis =>
      rw [mirrorFailure] at finished
      rw [placementsFrom]
      split
      · next needed =>
          rw [if_pos needed] at finished
          rw [List.filter_cons_of_pos needed]
          cases resolved : resolveRelativePath answers.steps file.id nameMap with
          | none =>
              rw [resolved] at finished
              cases finished
          | some relativePath =>
              rw [resolved, Option.isNone_some, if_neg Bool.false_ne_true] at finished
              dsimp only
              split
              · next stores =>
                  rw [if_pos stores] at finished
                  rw [List.map_cons, inductionHypothesis finished]
              · next refused =>
                  rw [if_neg refused] at finished
                  cases finished
      · next spared =>
          rw [if_neg spared] at finished
          rw [List.filter_cons_of_neg spared]
          exact inductionHypothesis finished

end Loop

section Call

variable {answers : MirrorAnswers} {accountId mountPoint : String} {db : Database}

/-- The ids of the folders of an account, as the call collects them. -/
def listedFolders (db : Database) (accountId : String) : List String :=
  ((Database.filesOfAccount db accountId).filter Db.DriveFile.isFolder).map Db.DriveFile.id

theorem acceptsFile_of_listed {file : Db.DriveFile} (listed : file ∈ Database.filesOfAccount db accountId) :
    db.acceptsFile file = true := by
  rcases mem_filesOfAccount.mp listed with ⟨found, owned, _⟩
  rw [Database.acceptsFile, owned, found]
  rfl

theorem placements_of_lists (lists : answers.listsFiles = true) :
    placements answers accountId mountPoint db =
      placementsFrom answers mountPoint (listedFolders db accountId)
        (nameMapOf (Database.filesOfAccount db accountId)) 0 (Database.filesOfAccount db accountId) := by
  rw [placements, if_pos lists]
  rfl

/-- The call carries out its placements. -/
theorem final_enqueueMirrorDownloads :
    final (enqueueMirrorDownloads answers accountId mountPoint) db =
      (placements answers accountId mountPoint db).foldl (place answers accountId) db := by
  have listed : outcome (select answers.listsFiles fun db => Database.filesOfAccount db accountId) db =
      if answers.listsFiles then .ok (Database.filesOfAccount db accountId) else .error databaseError :=
    outcome_select _ _ _
  rw [enqueueMirrorDownloads, final_bind, listed, final_select, placements]
  cases answers.listsFiles with
  | false => rfl
  | true => exact final_mirrorFiles fun file => acceptsFile_of_listed

theorem outcome_enqueueMirrorDownloads (lists : answers.listsFiles = true) :
    outcome (enqueueMirrorDownloads answers accountId mountPoint) db =
      (mirrorFailure answers (listedFolders db accountId) (nameMapOf (Database.filesOfAccount db accountId)) 0
        (Database.filesOfAccount db accountId)).elim
        (.ok (enqueuedCount answers (placements answers accountId mountPoint db))) .error := by
  have listed : outcome (select answers.listsFiles fun db => Database.filesOfAccount db accountId) db =
      if answers.listsFiles then .ok (Database.filesOfAccount db accountId) else .error databaseError :=
    outcome_select _ _ _
  rw [enqueueMirrorDownloads, outcome_bind, listed, final_select, placements_of_lists lists, if_pos lists]
  exact outcome_mirrorFiles fun file => acceptsFile_of_listed

/-- A call that cannot list the files answers that. -/
theorem outcome_of_not_listed (refused : answers.listsFiles = false) :
    outcome (enqueueMirrorDownloads answers accountId mountPoint) db = .error databaseError := by
  have listed : outcome (select answers.listsFiles fun db => Database.filesOfAccount db accountId) db =
      if answers.listsFiles then .ok (Database.filesOfAccount db accountId) else .error databaseError :=
    outcome_select _ _ _
  rw [enqueueMirrorDownloads, outcome_bind, listed, refused]
  rfl

end Call

end Mirror
end GDriver
