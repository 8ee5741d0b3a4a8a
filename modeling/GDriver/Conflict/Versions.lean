import GDriver.Conflict.Resolution

namespace GDriver
namespace Conflict

open Library Routine Db Api Sync

/-!
# The versions a resolution keeps

A resolution moves the local file to the name of a conflict copy, and writes the
remote version to a temporary name.  Neither name is looked at before.  A content
that stands only under such a name is lost, unless it is the content that is being
fetched.
-/

/-- Some file has this content. -/
def Holds (bytes : List UInt8) (disk : String → Option DiskFile) : Prop :=
  ∃ path file, disk path = some file ∧ file.bytes = bytes

/-- Every content that was on disk still is. -/
def KeepsVersions (before after : String → Option DiskFile) : Prop :=
  ∀ bytes, Holds bytes before → Holds bytes after

/-- What a resolution writes to the temporary file once the local file has been moved
aside. -/
def arriving (answers : ResolveAnswers) : Option DiskFile :=
  if answers.readFailure.isNone then answers.fetched.written else none

/-- The names that a resolution writes over. -/
def Overwrites (answers : ResolveAnswers) (localPath path : String) : Prop :=
  placeOf path = placeOf (conflictPath answers.timestamp.text localPath) ∨
    (placeOf path = placeOf (tmpPath localPath) ∧ (arriving answers).isSome = true)

/-- Some file under a name that is not written over has this content. -/
def HoldsElsewhere (answers : ResolveAnswers) (localPath : String) (bytes : List UInt8)
    (disk : String → Option DiskFile) : Prop :=
  ∃ other kept, ¬ Overwrites answers localPath other ∧ disk other = some kept ∧ kept.bytes = bytes

/-- Every content under a name that is written over stands under another name as well,
or is the one that is being fetched. -/
def SparesOthers (answers : ResolveAnswers) (localPath : String) (disk : String → Option DiskFile) :
    Prop :=
  ∀ path file, Overwrites answers localPath path → disk path = some file →
    HoldsElsewhere answers localPath file.bytes disk ∨
      ∃ fetched, arriving answers = some fetched ∧ fetched.bytes = file.bytes

section Keeping

variable {answers : ResolveAnswers} {localPath : String} {world : World}

theorem not_overwrites_self : ¬ Overwrites answers localPath localPath := by
  rintro (copy | ⟨temporary, _⟩)
  · exact placeOf_conflictPath_ne _ _ copy.symm
  · exact placeOf_tmpPath_ne _ temporary.symm

/-- What stands where after the local file has been moved aside. -/
theorem movedAside_cases {path : String} {file : DiskFile}
    (found : movedAside answers localPath world.disk path = some file) :
    (placeOf path = placeOf (conflictPath answers.timestamp.text localPath) ∧ world.disk localPath = some file) ∨
      (placeOf path ≠ placeOf (conflictPath answers.timestamp.text localPath) ∧ world.disk path = some file) := by
  rw [movedAside] at found
  by_cases copy : placeOf path = placeOf (conflictPath answers.timestamp.text localPath)
  · rw [putAt_of_same copy] at found
    exact Or.inl ⟨copy, found⟩
  · rw [putAt_of_apart copy] at found
    by_cases here : placeOf path = placeOf localPath
    · rw [putAt_of_same here] at found
      cases found
    · rw [putAt_of_apart here] at found
      exact Or.inr ⟨copy, found⟩

/-- A content under a name that is not written over is still there after the move. -/
theorem holds_movedAside {bytes : List UInt8} (held : HoldsElsewhere answers localPath bytes world.disk) :
    ∃ path file, placeOf path ≠ placeOf localPath ∧
      (placeOf path = placeOf (tmpPath localPath) → (arriving answers).isSome = false) ∧
      movedAside answers localPath world.disk path = some file ∧ file.bytes = bytes := by
  rcases held with ⟨other, kept, spared, found, same⟩
  rw [Overwrites, not_or, not_and, Bool.not_eq_true] at spared
  by_cases here : placeOf other = placeOf localPath
  · refine ⟨conflictPath answers.timestamp.text localPath, kept, placeOf_conflictPath_ne _ _,
      fun temporary => absurd temporary (placeOf_conflictPath_ne_tmpPath _ _), ?_, same⟩
    rw [movedAside, putAt_self, ← world.disk_congr here]
    exact found
  · refine ⟨other, kept, here, spared.2, ?_, same⟩
    rw [movedAside, putAt_of_apart spared.1, putAt_of_apart here]
    exact found

/-- Without a transfer the disk holds what stood under other names. -/
theorem holds_movedAside_iff {bytes : List UInt8} (nothing : arriving answers = none) :
    Holds bytes (movedAside answers localPath world.disk) ↔ HoldsElsewhere answers localPath bytes world.disk := by
  constructor
  · rintro ⟨path, file, found, same⟩
    rcases movedAside_cases found with ⟨_, moved⟩ | ⟨other, stays⟩
    · exact ⟨localPath, file, not_overwrites_self, moved, same⟩
    · refine ⟨path, file, ?_, stays, same⟩
      rw [Overwrites, nothing]
      rintro (copy | ⟨_, there⟩)
      · exact other copy
      · cases there
  · intro held
    rcases holds_movedAside held with ⟨path, file, _, _, found, same⟩
    exact ⟨path, file, found, same⟩

/-- With a transfer it holds what is fetched as well, wherever that has got to. -/
theorem holds_transferred_iff {bytes : List UInt8} {fetched : DiskFile}
    (written : answers.fetched.written = some fetched) (arrives : arriving answers = some fetched)
    {reached : Stage} (there : reached = .transferred ∨ reached = .landed) :
    Holds bytes (diskAt answers localPath world.disk reached) ↔
      HoldsElsewhere answers localPath bytes world.disk ∨ fetched.bytes = bytes := by
  have moved {path : String} {file : DiskFile} (temporary : placeOf path ≠ placeOf (tmpPath localPath))
      (found : movedAside answers localPath world.disk path = some file) (same : file.bytes = bytes) :
      HoldsElsewhere answers localPath bytes world.disk := by
    rcases movedAside_cases found with ⟨_, aside⟩ | ⟨other, stays⟩
    · exact ⟨localPath, file, not_overwrites_self, aside, same⟩
    · refine ⟨path, file, ?_, stays, same⟩
      rintro (copy | ⟨here, _⟩)
      · exact other copy
      · exact temporary here
  have kept {path : String}
      (spared : placeOf path = placeOf (tmpPath localPath) → (arriving answers).isSome = false) :
      placeOf path ≠ placeOf (tmpPath localPath) := by
    intro here
    have lost := spared here
    rw [arrives] at lost
    cases lost
  rcases there with same | same
  · subst same
    rw [diskAt, transferredTo_of_written written]
    constructor
    · rintro ⟨path, file, found, same⟩
      by_cases temporary : placeOf path = placeOf (tmpPath localPath)
      · rw [putAt_of_same temporary] at found
        cases found
        exact Or.inr same
      · rw [putAt_of_apart temporary] at found
        exact Or.inl (moved temporary found same)
    · rintro (held | same)
      · rcases holds_movedAside held with ⟨path, file, _, spared, found, same⟩
        exact ⟨path, file, (putAt_of_apart (kept spared)).trans found, same⟩
      · exact ⟨tmpPath localPath, fetched, putAt_self, same⟩
  · subst same
    rw [diskAt, transferredTo_of_written written, written]
    constructor
    · rintro ⟨path, file, found, same⟩
      by_cases here : placeOf path = placeOf localPath
      · rw [putAt_of_same here] at found
        cases found
        exact Or.inr same
      · rw [putAt_of_apart here] at found
        by_cases temporary : placeOf path = placeOf (tmpPath localPath)
        · rw [putAt_of_same temporary] at found
          cases found
        · rw [putAt_of_apart temporary, putAt_of_apart temporary] at found
          exact Or.inl (moved temporary found same)
    · rintro (held | same)
      · rcases holds_movedAside held with ⟨path, file, here, spared, found, same⟩
        refine ⟨path, file, ?_, same⟩
        rw [putAt_of_apart here, putAt_of_apart (kept spared), putAt_of_apart (kept spared)]
        exact found
      · exact ⟨localPath, fetched, putAt_self, same⟩

/-- What the disk holds after a resolution has moved the local file: what stood under
names that are not written over, and what is fetched. -/
theorem holds_diskAt_iff {bytes : List UInt8}
    (there : finds answers.renameFailure localPath world = true) :
    Holds bytes (diskAt answers localPath world.disk (stage answers localPath world)) ↔
      HoldsElsewhere answers localPath bytes world.disk ∨
        ∃ fetched, arriving answers = some fetched ∧ fetched.bytes = bytes := by
  rw [stage_of_finds there]
  cases read : answers.readFailure with
  | some failure =>
      have nothing : arriving answers = none := by
        rw [arriving, read]
        rfl
      rw [Option.isSome_some, if_pos rfl, diskAt, holds_movedAside_iff nothing]
      refine (or_iff_left ?_).symm
      rintro ⟨fetched, arrives, _⟩
      rw [nothing] at arrives
      cases arrives
  | none =>
      have arrives : arriving answers = answers.fetched.written := by
        rw [arriving, read]
        rfl
      rw [Option.isSome_none, if_neg Bool.false_ne_true, arrives]
      cases written : answers.fetched.written with
      | none =>
          rw [written] at arrives
          have failed : answers.fetched.failure.isSome = true := by
            cases ended : answers.fetched.failure with
            | some failure => rfl
            | none =>
                have creates := answers.fetched.creates ended
                rw [written] at creates
                cases creates
          rw [failed, Bool.true_or, if_pos rfl, diskAt, transferredTo, written,
            holds_movedAside_iff arrives]
          refine (or_iff_left ?_).symm
          rintro ⟨fetched, nothing, _⟩
          cases nothing
      | some file =>
          rw [written] at arrives
          have reached : (if (answers.fetched.failure.isSome || answers.landFailure.isSome) = true
              then Stage.transferred else .landed) = .transferred ∨
                (if (answers.fetched.failure.isSome || answers.landFailure.isSome) = true
              then Stage.transferred else .landed) = .landed := by
            split
            · exact Or.inl rfl
            · exact Or.inr rfl
          rw [holds_transferred_iff written arrives reached]
          refine or_congr_right ⟨fun same => ⟨file, rfl, same⟩, ?_⟩
          rintro ⟨fetched, same, held⟩
          cases same
          exact held

/-- Every version that was on disk is there after a resolution exactly when the local
file could not be moved, or everything that is written over stands elsewhere or is what
is fetched. -/
theorem keepsVersions_iff [Rfc3339] (answers : ResolveAnswers) (task : SyncTask) (dbRecord : Db.DriveFile)
    (localPath : String) (remoteFile : Api.DriveFile) (world : World) :
    KeepsVersions world.disk
        (final (resolveConflict answers task dbRecord localPath remoteFile) world).disk ↔
      (finds answers.renameFailure localPath world = true →
        SparesOthers answers localPath world.disk) := by
  rw [disk_resolveConflict]
  cases there : finds answers.renameFailure localPath world with
  | false =>
      rw [stage_of_lost there]
      exact iff_of_true (fun _ held => held) (fun moved => by cases moved)
  | true =>
      constructor
      · intro keeps _ path file _ found
        exact (holds_diskAt_iff there).mp (keeps file.bytes ⟨path, file, found, rfl⟩)
      · rintro spares bytes ⟨path, file, found, same⟩
        rw [holds_diskAt_iff there]
        by_cases covered : Overwrites answers localPath path
        · rw [← same]
          exact spares rfl path file covered found
        · exact Or.inl ⟨path, file, covered, found, same⟩

end Keeping

/-- The upload of `/mnt/notes.txt` by ann@example.com. -/
def uploadsNotes : SyncTask where
  id := some 1
  accountId := "ann@example.com"
  fileId := some "notes"
  operation := .upload
  localPath := some "/mnt/notes.txt"
  priority := 2
  status := .pending
  retryCount := 0
  errorMsg := none
  createdAt := 15
  updatedAt := 15

/-- A resolution that fetches another version of the notes. -/
def fetchesNotes : ResolveAnswers :=
  ResolveAnswers.allRun ⟨none, .error "no upload", []⟩ ⟨[2], 20⟩ 20

/-- The notes have been changed again in the second in which an earlier conflict about
them was resolved: there is a conflict copy under the name the resolution gives out. -/
def resolvedBefore : World :=
  ((World.around Database.fresh).putOnDisk "/mnt/notes.txt" (some ⟨[1], 10⟩)).putOnDisk
    (conflictPath fetchesNotes.timestamp.text "/mnt/notes.txt") (some ⟨[9], 5⟩)

/-- The earlier conflict copy is lost. -/
theorem resolution_overwrites_copy :
    ¬ KeepsVersions resolvedBefore.disk
      (final (@resolveConflict untimed fetchesNotes uploadsNotes
        (@mapApiFileToDb untimed (Api.DriveFile.named "notes" "notes.txt") "ann@example.com")
        "/mnt/notes.txt" (Api.DriveFile.named "notes" "notes.txt")) resolvedBefore).disk := by
  have shown : resolvedBefore.disk =
      putAt (putAt (fun _ => none) "/mnt/notes.txt" (some ⟨[1], 10⟩))
        (conflictPath fetchesNotes.timestamp.text "/mnt/notes.txt") (some ⟨[9], 5⟩) := by
    rw [resolvedBefore, World.disk_putOnDisk, World.disk_putOnDisk]
    rfl
  have copied : resolvedBefore.disk (conflictPath fetchesNotes.timestamp.text "/mnt/notes.txt") =
      some ⟨[9], 5⟩ := by
    rw [shown, putAt_self]
  have beside {path : String}
      (other : placeOf path ≠ placeOf (conflictPath fetchesNotes.timestamp.text "/mnt/notes.txt")) :
      resolvedBefore.disk path = putAt (fun _ => none) "/mnt/notes.txt" (some ⟨[1], 10⟩) path := by
    rw [shown, putAt_of_apart other]
  have there : finds fetchesNotes.renameFailure "/mnt/notes.txt" resolvedBefore = true := by
    rw [finds, beside (placeOf_conflictPath_ne _ _).symm, putAt_self]
    rfl
  intro keeps
  have held := keeps [9] ⟨_, _, copied, rfl⟩
  rw [@disk_resolveConflict untimed, holds_diskAt_iff there] at held
  rcases held with ⟨other, kept, spared, found, same⟩ | ⟨fetched, arrives, same⟩
  · rw [beside fun copy => spared (Or.inl copy)] at found
    by_cases here : placeOf other = placeOf "/mnt/notes.txt"
    · rw [putAt_of_same here] at found
      cases found
      cases same
    · rw [putAt_of_apart here] at found
      cases found
  · cases arrives
    cases same

end Conflict
end GDriver
