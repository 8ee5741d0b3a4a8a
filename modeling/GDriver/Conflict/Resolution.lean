import GDriver.Moves.Engine

namespace GDriver
namespace Conflict

open Library Routine Db Api Sync

/-!
# How far a resolution gets

A resolution moves the local file aside, uploads it as a conflict copy, fetches the
remote version into a temporary file, puts that in place, and records what it did.
It can stop after each of these.  The stage it reaches says what it leaves on disk.
-/

/-! ## The names of a resolution -/

section Names

variable {path name : String}

/-- A file name is cut in a stem and an extension, or it is all stem. -/
theorem stem_and_extension (named : fileName path = some name) :
    (fileStem path = some name ∧ extension path = none) ∨
      ∃ before after, name.toList = before ++ '.' :: after ∧
        fileStem path = some (String.ofList before) ∧ extension path = some (String.ofList after) := by
  rw [fileStem, extension, named, Option.map_some, Option.bind_some]
  cases split : splitAtLast '.' name.toList with
  | none => exact Or.inl ⟨rfl, rfl⟩
  | some parts =>
      rcases parts with ⟨before, after⟩
      cases before with
      | nil => exact Or.inl ⟨rfl, rfl⟩
      | cons first rest => exact Or.inr ⟨first :: rest, after, of_splitAtLast split, rfl, rfl⟩

theorem notMem_fileName (named : fileName path = some name) : '/' ∉ name.toList := by
  rcases Option.filter_eq_some_iff.mp named with ⟨last, _⟩
  have member := List.mem_of_getLast? last
  rcases List.mem_map.mp (List.mem_filter.mp member).1 with ⟨part, inside, same⟩
  rw [← same, String.toList_ofList]
  exact notMem_of_mem_splitAtEvery inside

/-- The name of a conflict copy has no slash in it. -/
theorem notMem_conflictName {timestamp : String} (noSlash : '/' ∉ timestamp.toList) (path : String) :
    '/' ∉ (conflictName timestamp path).toList := by
  have fixed : '/' ∉ " (conflict copy ".toList ∧ '/' ∉ ")".toList ∧ '/' ∉ "Untitled".toList ∧
      '/' ∉ ".".toList := by decide
  have parts : '/' ∉ ((fileStem path).getD "Untitled").toList ∧
      '/' ∉ (((extension path).map fun ext => "." ++ ext).getD "").toList := by
    cases named : fileName path with
    | none =>
        rw [fileStem, extension, named]
        exact ⟨fixed.2.2.1, List.not_mem_nil⟩
    | some name =>
        have absent := notMem_fileName named
        rcases stem_and_extension named with ⟨stem, none⟩ | ⟨before, after, cut, stem, ext⟩
        · rw [stem, none]
          exact ⟨absent, List.not_mem_nil⟩
        · rw [cut, List.mem_append, List.mem_cons, not_or, not_or] at absent
          have cutBefore : (String.ofList before).toList = before := String.toList_ofList
          have cutAfter : (String.ofList after).toList = after := String.toList_ofList
          rw [stem, ext, Option.getD_some, Option.map_some, Option.getD_some, String.toList_append,
            cutBefore, cutAfter, List.mem_append, not_or]
          exact ⟨absent.1, fixed.2.2.2, absent.2.2⟩
  simp only [conflictName, String.toList_append, List.mem_append, not_or]
  exact ⟨⟨⟨⟨parts.1, fixed.1⟩, noSlash⟩, fixed.2.1⟩, parts.2⟩

theorem length_conflictName (timestamp : String) (named : fileName path = some name) :
    (conflictName timestamp path).length = name.length + 17 + timestamp.length := by
  have first : " (conflict copy ".length = 16 := by decide
  have last : ")".length = 1 := by decide
  have dot : ".".length = 1 := by decide
  simp only [conflictName, String.length_append, first, last]
  rcases stem_and_extension named with ⟨stem, none⟩ | ⟨before, after, cut, stem, ext⟩
  · rw [stem, none, Option.getD_some, Option.map_none, Option.getD_none, String.length_empty]
    omega
  · have lengths := congrArg List.length cut
    rw [List.length_append, List.length_cons, String.length_toList] at lengths
    have cutBefore : (String.ofList before).length = before.length := String.length_ofList
    have cutAfter : (String.ofList after).length = after.length := String.length_ofList
    rw [stem, ext, Option.getD_some, Option.map_some, Option.getD_some, String.length_append,
      cutBefore, cutAfter, dot]
    omega

/-- The name of a conflict copy is its last component. -/
theorem components_conflictPath (timestamp : Timestamp) (path : String) :
    components (conflictPath timestamp.text path) =
      (components path).dropLast ++ [conflictName timestamp.text path] := by
  have long : 2 < (conflictName timestamp.text path).length := by
    have first : " (conflict copy ".length = 16 := by decide
    simp only [conflictName, String.length_append, first]
    omega
  rw [conflictPath, components_joinPath (notMem_conflictName timestamp.noSlash path) long,
    components_parentPath_getD]

/-- A conflict copy is longer than the file it is a copy of, by more than the suffix
of a temporary file. -/
theorem lastPart_lt_conflictName (timestamp path : String) :
    (lastPart '/' path.toList).length + 12 < (conflictName timestamp path).length := by
  rcases lastPart_path path with named | short
  · rw [length_conflictName timestamp named, String.length_ofList]
    omega
  · have first : " (conflict copy ".length = 16 := by decide
    simp only [conflictName, String.length_append, first]
    omega

theorem conflictName_ne_up (timestamp path : String) : conflictName timestamp path ≠ ".." := by
  intro same
  have longer := lastPart_lt_conflictName timestamp path
  have two : "..".length = 2 := by decide
  rw [same, two] at longer
  omega

/-- The last component of a path is not the name of its conflict copy. -/
theorem conflictName_notMem (timestamp path : String) :
    conflictName timestamp path ∉ (components path).getLast?.toList := by
  intro member
  have last := Option.mem_toList.mp member
  have named : fileName path = some (conflictName timestamp path) :=
    Option.filter_eq_some_iff.mpr ⟨last, decide_eq_true (conflictName_ne_up timestamp path)⟩
  have lengths := length_conflictName timestamp named
  omega

/-- A conflict copy is another file than the one it is a copy of. -/
theorem placeOf_conflictPath_ne (timestamp : Timestamp) (path : String) :
    placeOf (conflictPath timestamp.text path) ≠ placeOf path := by
  have own : components path = (components path).dropLast ++ (components path).getLast?.toList := by
    rcases List.eq_nil_or_concat (components path) with empty | ⟨init, last, same⟩
    · rw [empty]
      rfl
    · rw [same, List.concat_eq_append, List.dropLast_concat, List.getLast?_concat]
      rfl
  refine placeOf_ne_of_step (components_conflictPath timestamp path) own ?_ (conflictName_ne_up _ _)
    (conflictName_notMem _ _)
  cases (components path).getLast? with
  | none => exact Nat.zero_le 1
  | some last => exact Nat.le_refl 1

/-- A conflict copy is another file than the temporary file of a download. -/
theorem placeOf_conflictPath_ne_tmpPath (timestamp : Timestamp) (path : String) :
    placeOf (conflictPath timestamp.text path) ≠ placeOf (tmpPath path) := by
  rcases @components_extended ".gdriver-tmp" (by decide) (by decide) path with ⟨parts, temporary⟩
  refine placeOf_ne_of_last (components_conflictPath timestamp path) temporary (conflictName_ne_up _ _)
    (ofList_ne_up (lt_length_lastPart (by decide) path)) fun same => ?_
  have longer := lastPart_lt_conflictName timestamp.text path
  have suffix : ".gdriver-tmp".length = 12 := by decide
  rw [same, String.length_ofList, List.length_append, String.length_toList, suffix] at longer
  omega

end Names

/-! ## Stages -/

/-- How far a resolution gets on disk. -/
inductive Stage where
  /-- The local file could not be moved. -/
  | unmoved
  /-- The local file is a conflict copy, and nothing was fetched. -/
  | setAside
  /-- The transfer has ended, and nothing was put in place. -/
  | transferred
  /-- The remote version is in place. -/
  | landed
  deriving DecidableEq, Repr

/-- The stage a resolution reaches. -/
def stage (answers : ResolveAnswers) (localPath : String) (world : World) : Stage :=
  if !finds answers.renameFailure localPath world then .unmoved
  else if answers.readFailure.isSome then .setAside
  else if answers.fetched.failure.isSome || answers.landFailure.isSome then .transferred
  else .landed

/-- The disk after the local file was moved aside. -/
def movedAside (answers : ResolveAnswers) (localPath : String) (disk : String → Option DiskFile) :
    String → Option DiskFile :=
  putAt (putAt disk localPath none) (conflictPath answers.timestamp.text localPath) (disk localPath)

/-- The disk after the transfer as well. -/
def transferredTo (answers : ResolveAnswers) (localPath : String)
    (disk : String → Option DiskFile) : String → Option DiskFile :=
  match answers.fetched.written with
  | none => movedAside answers localPath disk
  | some file => putAt (movedAside answers localPath disk) (tmpPath localPath) (some file)

/-- What a resolution leaves on disk. -/
def diskAt (answers : ResolveAnswers) (localPath : String) (disk : String → Option DiskFile) :
    Stage → String → Option DiskFile
  | .unmoved => disk
  | .setAside => movedAside answers localPath disk
  | .transferred => transferredTo answers localPath disk
  | .landed =>
      putAt (putAt (transferredTo answers localPath disk) (tmpPath localPath) none) localPath
        answers.fetched.written

theorem transferredTo_of_written {answers : ResolveAnswers} {file : DiskFile}
    (written : answers.fetched.written = some file) (localPath : String)
    (disk : String → Option DiskFile) :
    transferredTo answers localPath disk =
      putAt (movedAside answers localPath disk) (tmpPath localPath) (some file) := by
  simp only [transferredTo, written]

section Placing

variable {answers : ResolveAnswers} {localPath : String} {world : World}

/-- What the work on the files comes to. -/
structure Placed (answers : ResolveAnswers) (localPath : String) (world : World)
    (result : Except String Unit) (later : World) : Prop where
  disk : later.disk = diskAt answers localPath world.disk (stage answers localPath world)
  isOk : result.isOk = decide (stage answers localPath world = .landed)

theorem stage_of_lost (lost : finds answers.renameFailure localPath world = false) :
    stage answers localPath world = .unmoved := by
  rw [stage, lost]
  rfl

theorem stage_of_finds (there : finds answers.renameFailure localPath world = true) :
    stage answers localPath world =
      if answers.readFailure.isSome then .setAside
      else if answers.fetched.failure.isSome || answers.landFailure.isSome then .transferred
      else .landed := by
  rw [stage, there]
  rfl

/-- Where the transfer ends, the temporary file holds what was written. -/
theorem disk_writeFetched (moved : World)
    (aside : moved.disk = movedAside answers localPath world.disk) :
    (final (writeFetched answers.fetched (tmpPath localPath)) moved).disk =
      transferredTo answers localPath world.disk := by
  rw [writeFetched, final_bind_of_ok (outcome_perform _ _), transferredTo, ← aside]
  cases answers.fetched.written with
  | none =>
      cases answers.fetched.failure with
      | none => rfl
      | some failure => rfl
  | some file =>
      have written := World.disk_putOnDisk (tmpPath localPath) (some file) moved
      cases answers.fetched.failure with
      | none => exact written
      | some failure => exact written

theorem isOk_writeFetched (fetched : Fetched) (path : String) (world : World) :
    (outcome (writeFetched fetched path) world).isOk = fetched.failure.isNone := by
  rw [writeFetched, outcome_bind_of_ok (outcome_perform _ _)]
  cases fetched.failure with
  | none => rfl
  | some failure => rfl

/-- The transferred file is put in place. -/
theorem placed_land (succeeded : answers.fetched.failure = none)
    (there : finds answers.renameFailure localPath world = true) (read : answers.readFailure = none)
    {fetched : World} (disk : fetched.disk = transferredTo answers localPath world.disk) :
    Placed answers localPath world
      (outcome (renameFile answers.landFailure (tmpPath localPath) localPath) fetched)
      (final (renameFile answers.landFailure (tmpPath localPath) localPath) fetched) := by
  rcases Option.isSome_iff_exists.mp (answers.fetched.creates succeeded) with ⟨file, written⟩
  have arrived : fetched.disk (tmpPath localPath) = some file := by
    rw [disk, transferredTo_of_written written]
    exact putAt_self
  have landing : (outcome (renameFile answers.landFailure (tmpPath localPath) localPath) fetched).isOk =
      finds answers.landFailure (tmpPath localPath) fetched := isOk_onFile _ _ _
  have reached := stage_of_finds there
  rw [read, succeeded, Option.isSome_none, if_neg Bool.false_ne_true, Bool.false_or] at reached
  cases fails : answers.landFailure with
  | none =>
      have finding : finds none (tmpPath localPath) fetched = true := by
        rw [finds, arrived]
        rfl
      rw [fails, finding] at landing
      rw [fails, Option.isSome_none, if_neg Bool.false_ne_true] at reached
      constructor
      · rw [reached, final_renameFile_of_finds finding, diskAt, ← disk, arrived, written, World.disk_putOnDisk,
          World.disk_putOnDisk]
      · rw [reached, landing]
        rfl
  | some failure =>
      rw [fails, Option.isSome_some, if_pos rfl] at reached
      constructor
      · rw [reached, renameFile, final_onFile_of_lost rfl]
        exact disk
      · rw [reached]
        rfl

/-- The transfer, and what follows it. -/
theorem placed_fetch (there : finds answers.renameFailure localPath world = true)
    (read : answers.readFailure = none) {moved : World}
    (aside : moved.disk = movedAside answers localPath world.disk) :
    Placed answers localPath world
      (outcome (writeFetched answers.fetched (tmpPath localPath) >>= fun _ =>
        renameFile answers.landFailure (tmpPath localPath) localPath) moved)
      (final (writeFetched answers.fetched (tmpPath localPath) >>= fun _ =>
        renameFile answers.landFailure (tmpPath localPath) localPath) moved) := by
  have disk := disk_writeFetched moved aside
  have fetching := isOk_writeFetched answers.fetched (tmpPath localPath) moved
  cases answered : outcome (writeFetched answers.fetched (tmpPath localPath)) moved with
  | error failure =>
      rw [answered] at fetching
      have reached := stage_of_finds there
      have failed : answers.fetched.failure.isSome = true := by
        rw [← Option.not_isNone, ← fetching]
        rfl
      rw [read, Option.isSome_none, if_neg Bool.false_ne_true, failed, Bool.true_or, if_pos rfl]
        at reached
      rw [outcome_bind_of_error answered, final_bind_of_error answered]
      constructor
      · rw [reached, disk]
        rfl
      · rw [reached]
        rfl
  | ok done =>
      rw [answered] at fetching
      rw [outcome_bind_of_ok answered, final_bind_of_ok answered]
      exact placed_land (Option.isNone_iff_eq_none.mp fetching.symm) there read disk

end Placing

/-- The row is there if it was. -/
def StaysStored (fileId accountId : String) (world later : World) : Prop :=
  (world.db.file fileId accountId).isSome = true → (later.db.file fileId accountId).isSome = true

instance (fileId accountId : String) : IsPreorder World (StaysStored fileId accountId) where
  refl _ stored := stored
  trans _ _ _ one two stored := two (one stored)

section Resolving

variable [Rfc3339] {answers : ResolveAnswers} {task : SyncTask} {dbRecord : Db.DriveFile}
  {localPath : String} {remoteFile : Api.DriveFile} {world : World}

theorem outcome_uploadConflictCopy (content : List UInt8) :
    outcome (uploadConflictCopy answers task dbRecord localPath content) world = .ok () := by
  rw [uploadConflictCopy, outcome_bind_of_ok (outcome_observe _ _), outcome_filesUpload]
  cases answers.server.reply with
  | error failure => rfl
  | ok apiFile => exact outcome_onDb _ _

theorem disk_uploadConflictCopy (content : List UInt8) :
    (final (uploadConflictCopy answers task dbRecord localPath content) world).disk = world.disk := by
  rw [uploadConflictCopy, final_bind_of_ok (outcome_observe _ _), final_observe, final_filesUpload,
    outcome_filesUpload]
  cases answers.server.reply with
  | error failure =>
      rw [final_pure, disk_store]
      rfl
  | ok apiFile =>
      rw [final_onDb, World.withDb_disk, disk_store]
      rfl

/-- A row stays stored while a conflict copy is uploaded. -/
theorem stays_uploadConflictCopy {fileId accountId : String} (content : List UInt8) :
    Keeps (StaysStored fileId accountId)
      (uploadConflictCopy answers task dbRecord localPath content) := by
  intro world stored
  rw [uploadConflictCopy, final_bind_of_ok (outcome_observe _ _), final_observe, final_filesUpload,
    outcome_filesUpload]
  cases answers.server.reply with
  | error failure =>
      rw [final_pure, db_store]
      exact stored
  | ok apiFile =>
      dsimp only
      rw [final_onDb, World.withDb_db, final_attempt, final_upsertFile, db_store, World.send_db]
      split
      · rw [Database.file_putFile]
        split
        · rfl
        · exact stored
      · exact stored

/-- The part of a resolution that works on the files. -/
def placeRemote (answers : ResolveAnswers) (task : SyncTask) (dbRecord : Db.DriveFile)
    (localPath : String) : Routine String World Unit := do
  let copy := conflictPath answers.timestamp.text localPath
  renameFile answers.renameFailure localPath copy
  let content ← readFile answers.readFailure copy
  uploadConflictCopy answers task dbRecord localPath content
  perform (World.send task.accountId (.download dbRecord.id))
  writeFetched answers.fetched (tmpPath localPath)
  renameFile answers.landFailure (tmpPath localPath) localPath

/-- The part of a resolution that records it. -/
def recordResolution (answers : ResolveAnswers) (task : SyncTask) (dbRecord : Db.DriveFile)
    (localPath : String) (remoteFile : Api.DriveFile) : Routine String World Unit := do
  let landed ← inspect fun world => if answers.statsFile then world.disk localPath else none
  onDb (upsertFile answers.upsertsRecord (resolvedFile dbRecord remoteFile localPath landed))
  onDb (updateTaskStatus answers.completes answers.now (task.id.getD 0) .completed
    (some "conflict resolved"))

theorem resolveConflict_eq :
    resolveConflict answers task dbRecord localPath remoteFile =
      placeRemote answers task dbRecord localPath >>= fun _ =>
        recordResolution answers task dbRecord localPath remoteFile := by
  simp only [resolveConflict, placeRemote, recordResolution, bind_assoc]

theorem placed_placeRemote :
    Placed answers localPath world (outcome (placeRemote answers task dbRecord localPath) world)
      (final (placeRemote answers task dbRecord localPath) world) := by
  have moving : (outcome (renameFile answers.renameFailure localPath
      (conflictPath answers.timestamp.text localPath)) world).isOk =
        finds answers.renameFailure localPath world := isOk_onFile _ _ _
  rw [placeRemote]
  cases there : finds answers.renameFailure localPath world with
  | false =>
      rw [there] at moving
      cases answered : outcome (renameFile answers.renameFailure localPath
          (conflictPath answers.timestamp.text localPath)) world with
      | ok done =>
          rw [answered] at moving
          cases moving
      | error failure =>
          rw [outcome_bind_of_error answered, final_bind_of_error answered]
          constructor
          · rw [stage_of_lost there, renameFile, final_onFile_of_lost there]
            rfl
          · rw [stage_of_lost there]
            rfl
  | true =>
      rw [there] at moving
      cases answered : outcome (renameFile answers.renameFailure localPath
          (conflictPath answers.timestamp.text localPath)) world with
      | error failure =>
          rw [answered] at moving
          cases moving
      | ok done =>
          have aside : (final (renameFile answers.renameFailure localPath
              (conflictPath answers.timestamp.text localPath)) world).disk =
                movedAside answers localPath world.disk := by
            rw [final_renameFile_of_finds there, World.disk_putOnDisk, World.disk_putOnDisk]
            rfl
          rw [outcome_bind_of_ok answered, final_bind_of_ok answered]
          generalize final (renameFile answers.renameFailure localPath
            (conflictPath answers.timestamp.text localPath)) world = moved at aside
          have copied : (moved.disk (conflictPath answers.timestamp.text localPath)).isSome = true := by
            rw [aside, movedAside, putAt_self]
            exact (Bool.and_eq_true_iff.mp there).2
          have reading : (outcome (readFile answers.readFailure
              (conflictPath answers.timestamp.text localPath)) moved).isOk =
                finds answers.readFailure (conflictPath answers.timestamp.text localPath) moved :=
            isOk_onFile _ _ _
          rw [finds, copied, Bool.and_true] at reading
          cases read : outcome (readFile answers.readFailure
              (conflictPath answers.timestamp.text localPath)) moved with
          | error failure =>
              rw [read] at reading
              have failed : answers.readFailure.isSome = true := by
                rw [← Option.not_isNone, ← reading]
                rfl
              rw [outcome_bind_of_error read, final_bind_of_error read, final_readFile]
              constructor
              · rw [stage_of_finds there, failed, if_pos rfl, aside]
                rfl
              · rw [stage_of_finds there, failed, if_pos rfl]
                rfl
          | ok content =>
              rw [read] at reading
              rw [outcome_bind_of_ok read, final_bind_of_ok read, final_readFile,
                outcome_bind_of_ok (outcome_uploadConflictCopy content),
                final_bind_of_ok (outcome_uploadConflictCopy content),
                outcome_bind_of_ok (outcome_perform _ _), final_bind_of_ok (outcome_perform _ _)]
              refine placed_fetch there (Option.isNone_iff_eq_none.mp reading.symm) ?_
              rw [final_perform, World.send_disk, disk_uploadConflictCopy, aside]

/-- A row stays stored while the files are worked on. -/
theorem stays_placeRemote {fileId accountId : String} :
    Keeps (StaysStored fileId accountId) (placeRemote answers task dbRecord localPath) := by
  have moves (failure : Option String) (source target : String) :
      Keeps (StaysStored fileId accountId) (renameFile failure source target) :=
    keeps_renameFile (fun _ _ stored => stored) (fun _ _ stored => stored) _
  refine keeps_bind (moves _ _ _) fun _ => ?_
  refine keeps_bind (keeps_readFile _ _) fun content => ?_
  refine keeps_bind (stays_uploadConflictCopy content) fun _ => ?_
  refine keeps_bind (keeps_perform fun _ stored => stored) fun _ => ?_
  refine keeps_bind (keeps_writeFetched fun _ _ _ stored => stored) fun _ => ?_
  exact moves _ _ _

omit [Rfc3339] in
theorem disk_recordResolution :
    (final (recordResolution answers task dbRecord localPath remoteFile) world).disk = world.disk := by
  rw [recordResolution, final_bind_of_ok (outcome_inspect _ _), final_inspect, final_bind]
  split
  · rw [final_onDb, final_onDb]
    rfl
  · rw [final_onDb]
    rfl

omit [Rfc3339] in
theorem isOk_recordResolution
    (stored : (world.db.file dbRecord.id dbRecord.accountId).isSome = true) :
    (outcome (recordResolution answers task dbRecord localPath remoteFile) world).isOk =
      (answers.upsertsRecord && answers.completes) := by
  rw [recordResolution, outcome_bind_of_ok (outcome_inspect _ _), final_inspect]
  generalize (if answers.statsFile then world.disk localPath else none) = landed
  have accepted : world.db.acceptsFile (resolvedFile dbRecord remoteFile localPath landed) = true := by
    rw [Database.acceptsFile]
    exact Bool.or_eq_true_iff.mpr (Or.inl stored)
  have storing : outcome (onDb (upsertFile answers.upsertsRecord
      (resolvedFile dbRecord remoteFile localPath landed))) world =
        if answers.upsertsRecord then .ok () else .error databaseError := by
    rw [outcome_onDb, outcome_upsertFile, accepted, Bool.and_true]
  cases runs : answers.upsertsRecord with
  | false =>
      rw [runs] at storing
      rw [outcome_bind_of_error storing]
      rfl
  | true =>
      rw [runs] at storing
      rw [outcome_bind_of_ok storing, outcome_onDb, outcome_updateTaskStatus]
      cases answers.completes with
      | false => rfl
      | true => rfl

/-- What a resolution leaves on disk. -/
theorem disk_resolveConflict :
    (final (resolveConflict answers task dbRecord localPath remoteFile) world).disk =
      diskAt answers localPath world.disk (stage answers localPath world) := by
  have placed := @placed_placeRemote _ answers task dbRecord localPath world
  rw [resolveConflict_eq, final_bind]
  split
  · rw [disk_recordResolution]
    exact placed.disk
  · exact placed.disk

/-- A resolution succeeds when the remote version is in place and both statements
are carried out. -/
theorem isOk_resolveConflict
    (stored : (world.db.file dbRecord.id dbRecord.accountId).isSome = true) :
    (outcome (resolveConflict answers task dbRecord localPath remoteFile) world).isOk =
      (decide (stage answers localPath world = .landed) &&
        (answers.upsertsRecord && answers.completes)) := by
  have placed := @placed_placeRemote _ answers task dbRecord localPath world
  have stays := @stays_placeRemote _ answers task dbRecord localPath dbRecord.id dbRecord.accountId
    world stored
  rw [resolveConflict_eq, outcome_bind, ← placed.isOk]
  cases outcome (placeRemote answers task dbRecord localPath) world with
  | error failure => rfl
  | ok done => exact isOk_recordResolution stays

end Resolving

end Conflict
end GDriver
