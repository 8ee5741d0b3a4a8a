import GDriver.Local.Storing
import GDriver.Local.Uploads
import GDriver.Sync.ChunkLoop

namespace GDriver
namespace Local

open Library Routine Db Api Sync

/-!
# The checksum of an upload

The server may answer an upload with the MD5 checksum of what it stored, and the uploader compares it
with that of the bytes it has read.  A difference is logged, and the upload goes on as if there were
none.
-/

def eqIgnoreAsciiCase (one other : String) : Bool :=
  one.toList.map Char.toLower = other.toList.map Char.toLower

/-- The answer has no checksum, or that of the content. -/
def checksumAgrees (md5 : List UInt8 → String) (content : List UInt8) (apiFile : Api.DriveFile) : Bool :=
  apiFile.md5Checksum.all fun driveMd5 => eqIgnoreAsciiCase driveMd5 (md5 content)

/-- The answer to an upload in one request or in chunks, whichever the size of the file calls for. -/
def uploadReply (content : Chunks.Content) (multipart : Except String Api.DriveFile) (started : Except String String)
    (puts : List (Except String Chunks.PutAnswer)) : Option (Except String Api.DriveFile) :=
  if content.bytes.length < resumableThreshold then some multipart
  else
    match Chunks.doResumableUpload content started puts with
    | .ended result => some result
    | _ => none

section Checking

variable [Rfc3339]

/-- The upload reads this content, and the task it is for is not completed yet. -/
structure Reaches (answers : UploadAnswers) (task : SyncTask) (taskId : Nat) (localPath : String)
    (content : List UInt8) (world : World) : Prop where
  identified : task.id = some taskId
  path : task.localPath = some localPath
  marks : answers.marks = true
  reads : outcome (readFile answers.readFailure localPath) world = .ok content
  running : NotCompleted taskId world.db

/-- The state in which the answer to the upload arrives. -/
def answeredWorld (answers : UploadAnswers) (task : SyncTask) (taskId : Nat) (localPath : String)
    (content : List UInt8) (world : World) : World :=
  final (filesUpload task.accountId (uploadMetadata localPath) content answers.server)
    (final (onDb (updateTaskStatus answers.marks answers.now taskId .inProgress none)) world)

/-- What is done with an answer that is accepted. -/
def storeUploaded (answers : UploadAnswers) (task : SyncTask) (taskId : Nat) (apiFile : Api.DriveFile) :
    Routine String World Unit := do
  onDb (attempt (upsertFile answers.upserts (mapApiFileToDb apiFile task.accountId)))
  onDb (updateTaskStatus answers.completes answers.now taskId .completed none)

/-- The upload ends as this routine does after the answer. -/
def EndsAs (routine : Routine String World Unit) (answers : UploadAnswers) (task : SyncTask) (taskId : Nat)
    (localPath : String) (content : List UInt8) (world : World) : Prop :=
  uploadFile answers task world = routine (answeredWorld answers task taskId localPath content world)

/-- An answer is accepted only if its checksum agrees; otherwise the upload has failed. -/
structure ChecksAnswer (md5 : List UInt8 → String) (answers : UploadAnswers) (task : SyncTask) (taskId : Nat)
    (localPath : String) (content : List UInt8) (world : World) : Prop where
  completes : ¬ NotCompleted taskId (final (uploadFile answers task) world).db →
    ∃ apiFile, answers.server.reply = .ok apiFile ∧ checksumAgrees md5 content apiFile = true
  stores : (final (uploadFile answers task) world).db.driveFiles ≠ world.db.driveFiles →
    ∃ apiFile, answers.server.reply = .ok apiFile ∧ checksumAgrees md5 content apiFile = true
  accepts : ∀ apiFile, answers.server.reply = .ok apiFile → checksumAgrees md5 content apiFile = true →
    EndsAs (storeUploaded answers task taskId apiFile) answers task taskId localPath content world
  refuses : (∀ apiFile, answers.server.reply = .ok apiFile → checksumAgrees md5 content apiFile = false) →
    ∃ message, EndsAs (onDb (handleUploadFailure answers.failure task taskId message)) answers task taskId
      localPath content world

variable {answers : UploadAnswers} {task : SyncTask} {taskId : Nat} {localPath : String} {content : List UInt8}
  {world : World}

/-- An upload ends with what is done with its answer, and the checksum plays no part in it. -/
theorem endsAs_answered (reaches : Reaches answers task taskId localPath content world) :
    EndsAs
      (match answers.server.reply with
      | .ok apiFile => storeUploaded answers task taskId apiFile
      | .error failure => onDb (handleUploadFailure answers.failure task taskId failure))
      answers task taskId localPath content world := by
  have reports := outcome_onDb_updateTaskStatus answers.marks answers.now taskId .inProgress none world
  rw [reaches.marks, if_pos rfl] at reports
  have disk : (final (onDb (updateTaskStatus true answers.now taskId .inProgress none)) world).disk = world.disk := by
    rw [final_onDb, World.withDb_disk]
  have reading := outcome_readFile_congr disk answers.readFailure localPath
  rw [reaches.reads] at reading
  rw [EndsAs, answeredWorld, reaches.marks]
  simp only [uploadFile, reaches.identified, reaches.path, reaches.marks]
  rw [bind_of_ok reports]
  generalize final (onDb (updateTaskStatus true answers.now taskId .inProgress none)) world = begun at disk reading ⊢
  rw [bind_of_ok (outcome_observe _ _), final_observe, final_readFile, reading]
  dsimp only
  rw [bind_of_ok (outcome_observe _ _), final_observe, outcome_filesUpload]
  cases answers.server.reply with
  | ok apiFile => rfl
  | error failure => rfl

omit [Rfc3339] in
theorem db_answeredWorld :
    (answeredWorld answers task taskId localPath content world).db =
      final (updateTaskStatus answers.marks answers.now taskId .inProgress none) world.db := by
  rw [answeredWorld, final_filesUpload, db_store, World.send_db, final_onDb, World.withDb_db]

omit [Rfc3339] in
/-- Whatever the answer is, the task is not completed when it arrives. -/
theorem notCompleted_answeredWorld (running : NotCompleted taskId world.db) :
    NotCompleted taskId (answeredWorld answers task taskId localPath content world).db := by
  rw [db_answeredWorld]
  exact notCompleted_updateTaskStatus (by decide) answers.marks answers.now none running

/-- An upload whose answers agree with the content is as it should be. -/
theorem checksAnswer_of_agrees {md5 : List UInt8 → String}
    (reaches : Reaches answers task taskId localPath content world)
    (agrees : ∀ apiFile, answers.server.reply = .ok apiFile → checksumAgrees md5 content apiFile = true) :
    ChecksAnswer md5 answers task taskId localPath content world := by
  have ends := endsAs_answered reaches
  cases reply : answers.server.reply with
  | ok apiFile =>
      have agreed := agrees apiFile reply
      rw [reply] at ends
      refine ⟨fun _ => ⟨apiFile, reply, agreed⟩, fun _ => ⟨apiFile, reply, agreed⟩, ?_, ?_⟩
      · intro other same _
        rw [reply] at same
        cases same
        exact ends
      · intro disagrees
        rw [disagrees apiFile reply] at agreed
        cases agreed
  | error failure =>
      rw [reply] at ends
      have last : final (uploadFile answers task) world = final
          (onDb (handleUploadFailure answers.failure task taskId failure))
          (answeredWorld answers task taskId localPath content world) := congrArg endState ends
      refine ⟨fun completed => ?_, fun stored => ?_, ?_, fun _ => ⟨failure, ends⟩⟩
      · rw [last, final_onDb, World.withDb_db] at completed
        exact absurd (notCompleted_handleFailure _ _ _ _ (notCompleted_answeredWorld reaches.running)) completed
      · have rows : (final (uploadFile answers task) world).db.driveFiles = world.db.driveFiles := by
          have marking := (allowsProcessing_sameStore taskId).toAllowsMarking
          have handled := keeps_handleFailure marking "UPLOAD_FAILED" answers.failure task failure
            (answeredWorld answers task taskId localPath content world)
          rw [last]
          refine handled.rows.trans ?_
          rw [db_answeredWorld, final_updateTaskStatus]
          split
          · rfl
          · rfl
        exact absurd rows stored
      · intro apiFile same
        rw [reply] at same
        cases same

/-- A stored task is completed with the last statement. -/
theorem completed_storeUploaded {apiFile : Api.DriveFile} (there : (world.db.task taskId).isSome = true)
    (completes : answers.completes = true) :
    ¬ NotCompleted taskId (final (storeUploaded answers task taskId apiFile) world).db := by
  have kept : ((final (attempt (ε := String) (δ := String)
      (upsertFile answers.upserts (mapApiFileToDb apiFile task.accountId))) world.db).task taskId).isSome = true := by
    rw [final_attempt, final_upsertFile]
    split
    · exact there
    · exact there
  rcases Option.isSome_iff_exists.mp kept with ⟨stored, found⟩
  refine not_notCompleted ?_
  rw [storeUploaded, final_bind_of_ok (outcome_onDb _ _), final_onDb, final_onDb, World.withDb_db, World.withDb_db,
    completes, final_updateTaskStatus, if_pos rfl, Database.task_updateTask_self, found]
  rfl

/-- Whatever its checksum is, a file in the answer completes the task. -/
theorem completed_of_answered {apiFile : Api.DriveFile} (reaches : Reaches answers task taskId localPath content world)
    (there : (world.db.task taskId).isSome = true) (completes : answers.completes = true)
    (replies : answers.server.reply = .ok apiFile) :
    ¬ NotCompleted taskId (final (uploadFile answers task) world).db := by
  have ends := endsAs_answered reaches
  rw [replies] at ends
  have last : final (uploadFile answers task) world = final (storeUploaded answers task taskId apiFile)
      (answeredWorld answers task taskId localPath content world) := congrArg endState ends
  rw [last]
  refine completed_storeUploaded ?_ completes
  rw [db_answeredWorld, final_updateTaskStatus, reaches.marks, if_pos rfl, Database.task_updateTask_self,
    Option.isSome_map]
  exact there

end Checking

section Concluding

variable [Rfc3339]

/-- An upload of this content that is answered so. -/
def answeredWith (reply : Except String Api.DriveFile) : UploadAnswers :=
  UploadAnswers.allRun ⟨none, reply, []⟩ 1

def notesTask : SyncTask :=
  { pendingTask 0 "ann@example.com" none .upload (some "/mnt/notes.txt") 5 with id := some 1 }

/-- The content is at the path of a pending upload. -/
def pendingWorld (content : List UInt8) : World :=
  (World.around (Database.fresh.putTask notesTask)).putOnDisk "/mnt/notes.txt" (some ⟨content, 0⟩)

omit [Rfc3339] in
theorem reaches_pendingWorld (content : List UInt8) (reply : Except String Api.DriveFile) :
    Reaches (answeredWith reply) notesTask 1 "/mnt/notes.txt" content (pendingWorld content) where
  identified := rfl
  path := rfl
  marks := rfl
  reads := by
    have there : (pendingWorld content).disk "/mnt/notes.txt" = some ⟨content, 0⟩ :=
      World.disk_putOnDisk_self _ _ _
    simp only [readFile, onFile, answeredWith, UploadAnswers.allRun, there, outcome, answer]
  running := by
    intro task found completed
    have pending : ((pendingWorld content).db.task 1).map SyncTask.status = some .pending := rfl
    rw [Option.mem_def.mp found, Option.map_some, completed] at pending
    cases pending

/-- Every upload of the content is as it should be, whatever else it meets, exactly if the answer
has no checksum or that of the content. -/
theorem upload_checks_iff (md5 : List UInt8 → String) (content : Chunks.Content)
    (multipart : Except String Api.DriveFile) (started : Except String String)
    (puts : List (Except String Chunks.PutAnswer)) (reply : Except String Api.DriveFile)
    (replied : uploadReply content multipart started puts = some reply) :
    (∀ answers task taskId localPath world, Reaches answers task taskId localPath content.bytes world →
      answers.server.reply = reply → ChecksAnswer md5 answers task taskId localPath content.bytes world) ↔
    ∀ apiFile, uploadReply content multipart started puts = some (.ok apiFile) →
      checksumAgrees md5 content.bytes apiFile = true := by
  rw [replied]
  constructor
  · intro checks apiFile same
    rw [Option.some_inj] at same
    have reaches := reaches_pendingWorld content.bytes reply
    have checked := checks _ _ _ _ _ reaches rfl
    have replies : (answeredWith reply).server.reply = .ok apiFile := same
    have completed := completed_of_answered reaches rfl rfl replies
    rcases checked.completes completed with ⟨answered, alsoReplies, agrees⟩
    rw [replies] at alsoReplies
    cases alsoReplies
    exact agrees
  · intro agrees answers task taskId localPath world reaches same
    refine checksAnswer_of_agrees reaches fun apiFile answered => agrees apiFile ?_
    rw [← same, answered]

end Concluding

/-- A file without content. -/
def emptyContent : Chunks.Content where
  bytes := []
  short := by decide

/-- The checksum of nothing. -/
def md5OfNothing (_ : List UInt8) : String := "d41d8cd98f00b204e9800998ecf8427e"

/-- The answer to its upload, with a checksum. -/
def notesWith (checksum : String) : Api.DriveFile :=
  { Api.DriveFile.named "drive-1" "notes.txt" with md5Checksum := some checksum }

/-- With the right checksum, in whichever case, the upload is as it should be. -/
theorem upload_checks_iff_of_agreeing :
    @ChecksAnswer untimed md5OfNothing (answeredWith (.ok (notesWith "D41D8CD98F00B204E9800998ECF8427E")))
      notesTask 1 "/mnt/notes.txt" [] (pendingWorld []) := by
  refine (@upload_checks_iff untimed md5OfNothing emptyContent
    (.ok (notesWith "D41D8CD98F00B204E9800998ECF8427E")) (.ok "/upload") [] _ rfl).mpr ?_ _ _ _ _ _
    (reaches_pendingWorld [] _) rfl
  intro apiFile same
  rw [← Except.ok.inj (Option.some.inj same)]
  decide

/-- An upload that is answered with another checksum is completed. -/
theorem corrupt_upload_accepted :
    ¬ @ChecksAnswer untimed md5OfNothing (answeredWith (.ok (notesWith "00000000000000000000000000000000")))
      notesTask 1 "/mnt/notes.txt" [] (pendingWorld []) := by
  intro checks
  have reaches := reaches_pendingWorld [] (.ok (notesWith "00000000000000000000000000000000"))
  have completed := @completed_of_answered untimed _ _ _ _ _ _ _ reaches rfl rfl rfl
  rcases @ChecksAnswer.completes untimed _ _ _ _ _ _ _ checks completed with ⟨apiFile, replies, agrees⟩
  cases replies
  exact absurd agrees (by decide)

end Local
end GDriver
