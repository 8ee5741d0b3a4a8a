import GDriver.Api.Resumable
import GDriver.Library.Run

namespace GDriver
namespace Sync

open Library Api

/-!
# Resumable upload

A large file is sent in chunks, each from where the server is believed to stand.  The
belief comes from the answer to the chunk before, or, when that request failed, from a
query.  The loop is the same for the upload of a file and for that of a conflict copy.
-/

/-- Files below this size are uploaded in one request. -/
def resumableThreshold : Nat := 5 * 1024 * 1024

/-- Chunk size for resumable uploads. -/
def chunkSize : Nat := 5 * 1024 * 1024

/-- What becomes of one request.  A response that is lost leaves open whether the server
has received the request. -/
inductive Fate where
  | answered
  | lost (failure : String)
  /-- The server fails the request with this status. -/
  | refused (status : Nat) (isError : 400 ≤ status) (body : String) (refreshes : Bool)

/-- One request of a session: how many bytes of a chunk the server keeps, and what becomes
of the request. -/
structure PutAttempt where
  keeps : Nat
  fate : Fate

/-- Where the loop is. -/
inductive UploadPhase where
  /-- About to send a chunk. -/
  | sending (offset : Nat) (retries : Retries)
  /-- About to query the status after a chunk has failed. -/
  | asking (failure : String) (retries : Retries)
  | ended (result : Except String DriveFile)

/-- An upload, and what the server has of it. -/
structure ResumableUpload where
  uri : String
  phase : UploadPhase
  server : UploadSession

/-- How one request of `put_raw_no_redirect` goes on: it is repeated, or it ends. -/
def putRawNoRedirect (uri : String) (retries : Retries) (fate : Fate) (reply : PutResponse) :
    Retries ⊕ Except String PutResponse :=
  match fate with
  | .answered => .inr (.ok reply)
  | .lost failure => .inr (.error ("Drive API request failed: " ++ failure))
  | .refused status _ body refreshes =>
      match retries.after refreshes status with
      | some next => .inl next
      | none => .inr (.error (refusal "PUT" uri status body))

/-- The index of the last byte of the chunk at an offset. -/
def chunkEnd (fileLen offset : Nat) : Nat :=
  min (offset + chunkSize) fileLen - 1

/-- The bytes `content[offset..=end]`. -/
def chunkAt (content : List UInt8) (offset : Nat) : List UInt8 :=
  (content.drop offset).take (chunkEnd content.length offset + 1 - offset)

/-- The counters of a new request. -/
def freshRetries : Retries := ⟨0, false⟩

/-- The head of the loop. -/
def uploadFrom (fileLen offset : Nat) : UploadPhase :=
  if offset < fileLen then .sending offset freshRetries
  else .ended (.error "resumable upload loop exited without completion")

/-- One request of the loop. -/
def resumableStep (content : List UInt8) (file : DriveFile) (upload : ResumableUpload) (attempt : PutAttempt) :
    ResumableUpload :=
  match upload.phase with
  | .sending offset retries =>
      let server := upload.server.receive offset (chunkAt content offset) attempt.keeps
      let phase :=
        match putRawNoRedirect upload.uri retries attempt.fate (server.reply file) with
        | .inl next => .sending offset next
        | .inr put =>
            match filesUploadResumableChunk (chunkEnd content.length offset) put with
            | .ok (.incomplete received) => uploadFrom content.length received
            | .ok (.complete file) => .ended (.ok file)
            | .error failure => .asking failure freshRetries
      { upload with phase := phase, server := server }
  | .asking failure retries =>
      let phase :=
        match putRawNoRedirect upload.uri retries attempt.fate (upload.server.reply file) with
        | .inl next => .asking failure next
        | .inr put =>
            match filesUploadResumableQuery content.length put with
            | .ok (received, _) => uploadFrom content.length received
            | .error _ => .ended (.error failure)
      { upload with phase := phase }
  | .ended _ => upload

/-- The session is started, and the loop entered. -/
def resumableStart (content : List UInt8) (started : Except String String) : ResumableUpload where
  uri := started.toOption.getD ""
  phase := match started with
    | .ok _ => uploadFrom content.length 0
    | .error failure => .ended (.error failure)
  server := ⟨content.length, []⟩

/-- What an upload has returned, if it has. -/
def ResumableUpload.result (upload : ResumableUpload) : Option (Except String DriveFile) :=
  match upload.phase with
  | .ended result => some result
  | _ => none

/-- The upload of a file. -/
def doResumableUpload (content : List UInt8) (file : DriveFile) (started : Except String String)
    (attempts : List PutAttempt) : ResumableUpload :=
  run (resumableStep content file) attempts (resumableStart content started)

/-- The upload of a conflict copy. -/
def uploadResumable (content : List UInt8) (file : DriveFile) (started : Except String String)
    (attempts : List PutAttempt) : ResumableUpload :=
  run (resumableStep content file) attempts (resumableStart content started)

/-! ## What the server keeps -/

section Kept

variable {content : List UInt8} {server : UploadSession}

theorem prefix_receive (offset : Nat) (chunk : List UInt8) (keeps : Nat) :
    server.kept <+: (server.receive offset chunk keeps).kept := by
  rw [UploadSession.receive]
  split
  · exact List.prefix_append _ _
  · exact List.prefix_rfl

theorem total_receive (offset : Nat) (chunk : List UInt8) (keeps : Nat) :
    (server.receive offset chunk keeps).total = server.total := by
  rw [UploadSession.receive]
  split
  · rfl
  · rfl

theorem kept_receive_zero (offset : Nat) (chunk : List UInt8) : (server.receive offset chunk 0).kept = server.kept := by
  rw [UploadSession.receive, List.take_zero]
  split
  · exact List.append_nil _
  · rfl

/-- The server's bytes stay a prefix of the file. -/
theorem kept_receive_within (kept : server.kept <+: content) (offset keeps : Nat) :
    (server.receive offset (chunkAt content offset) keeps).kept <+: content := by
  rw [UploadSession.receive]
  split
  · next reaches =>
      have place : offset + (server.kept.length - offset) = server.kept.length := by omega
      have start : server.kept = content.take server.kept.length := List.prefix_iff_eq_take.mp kept
      rw [chunkAt, List.drop_take, List.drop_drop, place, List.take_take]
      calc server.kept ++ (content.drop server.kept.length).take _
          = content.take server.kept.length ++ (content.drop server.kept.length).take _ := by rw [← start]
        _ <+: content.take server.kept.length ++ content.drop server.kept.length :=
            (List.prefix_append_right_inj _).mpr (List.take_prefix _ _)
        _ = content := List.take_append_drop _ _
  · exact kept

theorem isComplete_iff : server.isComplete = true ↔ server.kept.length = server.total :=
  decide_eq_true_iff

/-- A server that has all bytes of a prefix of the file has the file. -/
theorem kept_of_isComplete (kept : server.kept <+: content) (total : server.total = content.length)
    (complete : server.isComplete = true) : server.kept = content :=
  kept.eq_of_length ((isComplete_iff.mp complete).trans total)

theorem chunk_of_complete {file : DriveFile} (rangeEnd : Nat) (complete : server.isComplete = true) :
    filesUploadResumableChunk rangeEnd (.ok (server.reply file)) = .ok (.complete file) := by
  rw [UploadSession.reply, if_pos complete]
  rfl

/-- A 308 without a range is taken for all of the chunk. -/
theorem chunk_of_incomplete {file : DriveFile} (rangeEnd : Nat) (incomplete : ¬ server.isComplete = true) :
    filesUploadResumableChunk rangeEnd (.ok (server.reply file)) =
      .ok (.incomplete (if server.kept = [] then rangeEnd + 1 else server.kept.length)) := by
  rw [UploadSession.reply, if_neg incomplete, filesUploadResumableChunk]
  dsimp only
  rw [if_neg (by decide), if_pos rfl, parseRangeHeader_rangeHeader]
  split
  · rfl
  · rfl

theorem query_of_incomplete {file : DriveFile} (total : Nat) (incomplete : ¬ server.isComplete = true) :
    filesUploadResumableQuery total (.ok (server.reply file)) = .ok (server.kept.length, false) := by
  rw [UploadSession.reply, if_neg incomplete, filesUploadResumableQuery]
  dsimp only
  rw [if_neg (by decide), if_pos rfl, parseRangeHeader_rangeHeader]
  split
  · next empty =>
      rw [empty]
      rfl
  · rfl

end Kept

/-- What holds of an upload at every request: the server has a prefix of the file, and a
chunk is only sent when there is something left to send. -/
structure Coherent (content : List UInt8) (upload : ResumableUpload) : Prop where
  kept : upload.server.kept <+: content
  total : upload.server.total = content.length
  sends : ∀ offset retries, upload.phase = .sending offset retries → offset < content.length
  returned : ∀ file, upload.phase = .ended (.ok file) → upload.server.isComplete = true

theorem sends_uploadFrom {fileLen offset place : Nat} {retries : Retries}
    (sending : uploadFrom fileLen place = .sending offset retries) : offset = place ∧ offset < fileLen := by
  rw [uploadFrom] at sending
  split at sending
  · next below =>
      cases sending
      exact ⟨rfl, below⟩
  · cases sending

theorem not_returned_uploadFrom (fileLen place : Nat) (file : DriveFile) :
    uploadFrom fileLen place ≠ .ended (.ok file) := by
  intro returned
  rw [uploadFrom] at returned
  split at returned
  · cases returned
  · cases returned

/-- Only a complete server answers a chunk with the file. -/
theorem complete_of_chunk {server : UploadSession} {file answered : DriveFile} {uri : String} {retries : Retries}
    {fate : Fate} {put : Except String PutResponse} {rangeEnd : Nat}
    (ends : putRawNoRedirect uri retries fate (server.reply file) = .inr put)
    (completes : filesUploadResumableChunk rangeEnd put = .ok (.complete answered)) : server.isComplete = true := by
  cases fate with
  | answered =>
      cases ends
      by_contra incomplete
      rw [chunk_of_incomplete _ incomplete] at completes
      cases completes
  | lost failure =>
      cases ends
      cases completes
  | refused status isError body refreshes =>
      rw [putRawNoRedirect] at ends
      split at ends
      · cases ends
      · cases ends
        cases completes

theorem coherent_step {content : List UInt8} {upload : ResumableUpload} (coherent : Coherent content upload)
    (file : DriveFile) (attempt : PutAttempt) : Coherent content (resumableStep content file upload attempt) := by
  rw [resumableStep]
  cases phase : upload.phase with
  | ended result => exact coherent
  | asking failure retries =>
      refine ⟨coherent.kept, coherent.total, fun offset later sending => ?_, fun answered returned => ?_⟩
      · dsimp only at sending
        split at sending
        · cases sending
        · split at sending
          · exact (sends_uploadFrom sending).2
          · cases sending
      · dsimp only at returned
        split at returned
        · cases returned
        · split at returned
          · exact absurd returned (not_returned_uploadFrom _ _ _)
          · cases returned
  | sending place retries =>
      refine ⟨kept_receive_within coherent.kept _ _, (total_receive _ _ _).trans coherent.total,
        fun offset later sending => ?_, fun answered returned => ?_⟩
      · dsimp only at sending
        split at sending
        · cases sending
          exact coherent.sends place retries phase
        · split at sending
          · exact (sends_uploadFrom sending).2
          · cases sending
          · cases sending
      · dsimp only at returned
        split at returned
        · cases returned
        · next ends =>
            split at returned
            · exact absurd returned (not_returned_uploadFrom _ _ _)
            · next completes => exact complete_of_chunk ends completes
            · cases returned

theorem coherent_start (content : List UInt8) (started : Except String String) :
    Coherent content (resumableStart content started) := by
  cases started with
  | error failure =>
      exact ⟨List.nil_prefix, rfl, fun _ _ sending => (by cases sending), fun _ returned => (by cases returned)⟩
  | ok uri =>
      exact ⟨List.nil_prefix, rfl, fun _ _ sending => (sends_uploadFrom sending).2,
        fun _ returned => absurd returned (not_returned_uploadFrom _ _ _)⟩

/-- An upload that is exact so far: the next chunk starts where the server stands, what the
server has completed is the file, also when the upload has returned, and once the server
has completed it the upload returns, with the file. -/
structure Exact (content : List UInt8) (file : DriveFile) (upload : ResumableUpload) : Prop where
  starts : ∀ offset retries, upload.phase = .sending offset retries → offset = upload.server.kept.length
  whole : upload.server.isComplete = true → upload.server.kept = content
  returned : ∀ returned, upload.result = some (.ok returned) → upload.server.kept = content
  returns : upload.server.isComplete = true → ∃ enough, ∀ attempts, enough ≤ attempts.length →
    ∃ returned, (run (resumableStep content file) attempts upload).result = some (.ok returned)

/-! ## Exactly when an upload stays exact -/

def Fate.isAnswered : Fate → Bool
  | .answered => true
  | .lost _ => false
  | .refused _ _ _ _ => false

/-- The client repeats the request by itself. -/
def Fate.isRepeated (retries : Retries) : Fate → Bool
  | .answered => false
  | .lost _ => false
  | .refused status _ _ refreshes => (retries.after refreshes status).isSome

/-- What a chunk may meet: a 308 without a range only as the last chunk, a refusal that the
client answers by repeating itself only with nothing kept, and when it completes the file,
a response that arrives. -/
structure ChunkAcknowledged (fileLen offset : Nat) (retries : Retries) (before after : UploadSession)
    (fate : Fate) : Prop where
  range : fate.isAnswered = true → after.kept ≠ [] ∨ fileLen ≤ offset + chunkSize
  repeated : fate.isRepeated retries = true → after.kept = before.kept
  completed : after.isComplete = true → fate.isAnswered = true

/-- What one request of an upload may meet. -/
def Acknowledged (content : List UInt8) (upload : ResumableUpload) (attempt : PutAttempt) : Prop :=
  ∀ offset retries, upload.phase = .sending offset retries →
    ChunkAcknowledged content.length offset retries upload.server
      (upload.server.receive offset (chunkAt content offset) attempt.keeps) attempt.fate

section Exactness

variable {content : List UInt8} {file : DriveFile} {upload : ResumableUpload}

theorem run_ended {result : Except String DriveFile} (phase : upload.phase = .ended result)
    (attempts : List PutAttempt) : run (resumableStep content file) attempts upload = upload := by
  refine run_of_still (fun attempt => ?_) attempts
  rw [resumableStep, phase]

/-- A query that gets no response ends the upload with the error of its chunk. -/
theorem result_of_lost {failure : String} {retries : Retries} (phase : upload.phase = .asking failure retries)
    (later : List PutAttempt) :
    (run (resumableStep content file) (⟨0, .lost ""⟩ :: later) upload).result = some (.error failure) := by
  have ended : (resumableStep content file upload ⟨0, .lost ""⟩).phase = .ended (.error failure) := by
    rw [resumableStep, phase]
    rfl
  rw [run_cons, run_ended ended, ResumableUpload.result, ended]

/-- Once the server has the file, the upload returns it exactly when it has done so already. -/
theorem exact_iff (coherent : Coherent content upload) :
    Exact content file upload ↔
      (∀ offset retries, upload.phase = .sending offset retries → offset = upload.server.kept.length) ∧
      (upload.server.isComplete = true → ∃ file, upload.phase = .ended (.ok file)) := by
  constructor
  · intro exact_
    refine ⟨exact_.starts, fun complete => ?_⟩
    rcases exact_.returns complete with ⟨enough, returns⟩
    rcases returns (⟨0, .lost ""⟩ :: List.replicate enough ⟨0, .lost ""⟩) (by simp) with ⟨returned, result⟩
    cases phase : upload.phase with
    | sending offset retries =>
        have below := coherent.sends offset retries phase
        have place := exact_.starts offset retries phase
        rw [isComplete_iff, coherent.total] at complete
        omega
    | asking failure retries =>
        rw [result_of_lost phase] at result
        cases result
    | ended outcome =>
        rw [run_ended phase, ResumableUpload.result, phase] at result
        cases result
        exact ⟨returned, rfl⟩
  · rintro ⟨starts, completes⟩
    have whole := kept_of_isComplete coherent.kept coherent.total
    refine ⟨starts, whole, fun returned result => ?_, fun complete => ⟨0, fun attempts _ => ?_⟩⟩
    · rw [ResumableUpload.result] at result
      split at result
      · next phase =>
          cases result
          exact whole (coherent.returned returned phase)
      · cases result
    rcases completes complete with ⟨returned, phase⟩
    refine ⟨returned, ?_⟩
    rw [run_ended phase, ResumableUpload.result, phase]

/-- While a chunk is about to be sent or the server is about to be asked, an exact upload
is not complete. -/
theorem incomplete_of_exact (coherent : Coherent content upload) (exact_ : Exact content file upload)
    (goesOn : ∀ result, upload.phase ≠ .ended result) : ¬ upload.server.isComplete = true := by
  intro complete
  rcases ((exact_iff coherent).mp exact_).2 complete with ⟨returned, phase⟩
  exact goesOn _ phase

theorem receive_eq_iff (offset : Nat) (chunk : List UInt8) (keeps : Nat) :
    (upload.server.receive offset chunk keeps).kept = upload.server.kept ↔
      upload.server.kept.length = (upload.server.receive offset chunk keeps).kept.length := by
  constructor
  · intro same
    rw [same]
  · intro same
    exact ((prefix_receive offset chunk keeps).eq_of_length same).symm

/-- The server after a chunk at an offset. -/
def ResumableUpload.serverAfter (content : List UInt8) (upload : ResumableUpload) (offset keeps : Nat) :
    UploadSession :=
  upload.server.receive offset (chunkAt content offset) keeps

theorem step_repeated {offset : Nat} {retries next : Retries} {attempt : PutAttempt} {status : Nat}
    {isError : 400 ≤ status} {body : String} {refreshes : Bool} (phase : upload.phase = .sending offset retries)
    (fate : attempt.fate = .refused status isError body refreshes) (repeats : retries.after refreshes status =
      some next) :
    resumableStep content file upload attempt =
      { upload with phase := .sending offset next, server := upload.serverAfter content offset attempt.keeps } := by
  rw [resumableStep, phase]
  dsimp only
  rw [fate, putRawNoRedirect, repeats]
  rfl

theorem step_failed {offset : Nat} {retries : Retries} {attempt : PutAttempt}
    (phase : upload.phase = .sending offset retries)
    (unanswered : attempt.fate.isAnswered = false) (unrepeated : attempt.fate.isRepeated retries = false) :
    ∃ failure, resumableStep content file upload attempt =
      { upload with
        phase := .asking failure freshRetries,
        server := upload.serverAfter content offset attempt.keeps } := by
  rw [resumableStep, phase]
  dsimp only
  cases fate : attempt.fate with
  | answered =>
      rw [fate] at unanswered
      cases unanswered
  | lost failure => exact ⟨_, rfl⟩
  | refused status isError body refreshes =>
      rw [fate, Fate.isRepeated] at unrepeated
      rw [putRawNoRedirect, Option.isSome_eq_false_iff, Option.isNone_iff_eq_none] at *
      rw [unrepeated]
      exact ⟨_, rfl⟩

theorem step_completed {offset : Nat} {retries : Retries} {attempt : PutAttempt}
    (phase : upload.phase = .sending offset retries)
    (fate : attempt.fate = .answered) (complete : (upload.serverAfter content offset attempt.keeps).isComplete = true) :
    resumableStep content file upload attempt =
      { upload with phase := .ended (.ok file), server := upload.serverAfter content offset attempt.keeps } := by
  rw [ResumableUpload.serverAfter] at complete
  rw [resumableStep, phase]
  dsimp only
  rw [fate, putRawNoRedirect]
  dsimp only
  rw [chunk_of_complete _ complete]
  rfl

theorem step_incomplete {offset : Nat} {retries : Retries} {attempt : PutAttempt}
    (phase : upload.phase = .sending offset retries)
    (fate : attempt.fate = .answered) (incomplete : ¬ (upload.serverAfter content offset attempt.keeps).isComplete =
      true) :
    resumableStep content file upload attempt =
      { upload with
        phase := uploadFrom content.length
          (if (upload.serverAfter content offset attempt.keeps).kept = [] then chunkEnd content.length offset + 1
          else (upload.serverAfter content offset attempt.keeps).kept.length),
        server := upload.serverAfter content offset attempt.keeps } := by
  rw [ResumableUpload.serverAfter] at incomplete
  rw [resumableStep, phase]
  dsimp only
  rw [fate, putRawNoRedirect]
  dsimp only
  rw [chunk_of_incomplete _ incomplete]
  rfl

/-- After a chunk that has failed, the upload is exact when the server is not complete. -/
theorem exact_failed {offset : Nat} {retries : Retries} {attempt : PutAttempt}
    (phase : upload.phase = .sending offset retries) (unanswered : attempt.fate.isAnswered = false)
    (unrepeated : attempt.fate.isRepeated retries = false) :
    ((∀ place others, (resumableStep content file upload attempt).phase = .sending place others →
        place = (resumableStep content file upload attempt).server.kept.length) ∧
      ((resumableStep content file upload attempt).server.isComplete = true →
        ∃ returned, (resumableStep content file upload attempt).phase = .ended (.ok returned))) ↔
      ChunkAcknowledged content.length offset retries upload.server
        (upload.serverAfter content offset attempt.keeps) attempt.fate := by
  rcases @step_failed content file upload _ _ _ phase unanswered unrepeated with ⟨failure, asks⟩
  rw [asks]
  constructor
  · rintro ⟨_, completes⟩
    refine ⟨fun answered => ?_, fun repeated => ?_, fun complete => ?_⟩
    · cases unanswered.symm.trans answered
    · cases unrepeated.symm.trans repeated
    · rcases completes complete with ⟨returned, ended⟩
      cases ended
  · intro acknowledged
    refine ⟨fun place others sending => ?_, fun complete => ?_⟩
    · cases sending
    · cases unanswered.symm.trans (acknowledged.completed complete)

/-- A chunk that is answered keeps the upload exact if it begins at the start or is a whole chunk, or is the last. -/
theorem exact_answered {offset : Nat} {retries : Retries} (coherent : Coherent content upload)
    (phase : upload.phase = .sending offset retries) {attempt : PutAttempt} (fate : attempt.fate = .answered) :
    Exact content file (resumableStep content file upload attempt) ↔
      ChunkAcknowledged content.length offset retries upload.server
        (upload.serverAfter content offset attempt.keeps) .answered := by
  have below := coherent.sends offset retries phase
  have total : (upload.serverAfter content offset attempt.keeps).total = content.length :=
    (total_receive _ _ _).trans coherent.total
  rw [exact_iff (coherent_step coherent file attempt)]
  by_cases complete : (upload.serverAfter content offset attempt.keeps).isComplete = true
  · rw [step_completed phase fate complete]
    refine iff_of_true ⟨fun _ _ sending => (by cases sending), fun _ => ⟨file, rfl⟩⟩
      ⟨fun _ => Or.inl ?_, fun repeated => (by cases repeated), fun _ => rfl⟩
    intro empty
    rw [isComplete_iff, empty, total] at complete
    exact absurd (complete ▸ below) (Nat.not_lt_zero _)
  · rw [step_incomplete phase fate complete]
    constructor
    · rintro ⟨starts, _⟩
      refine ⟨fun _ => ?_, fun repeated => (by cases repeated), fun completes => absurd completes complete⟩
      by_contra missed
      rw [not_or, not_not, Nat.not_le] at missed
      dsimp only at starts
      rw [if_pos missed.1, missed.1] at starts
      have skips : chunkEnd content.length offset + 1 = offset + chunkSize := by
        rw [chunkEnd, chunkSize] at *
        omega
      have sends : uploadFrom content.length (chunkEnd content.length offset + 1) =
          .sending (offset + chunkSize) freshRetries := by
        rw [skips, uploadFrom, if_pos missed.2]
      have wrong := starts _ _ sends
      rw [chunkSize, List.length_nil] at wrong
      omega
    · intro acknowledged
      refine ⟨fun later others sending => ?_, fun completes => absurd completes complete⟩
      dsimp only at sending ⊢
      rcases acknowledged.range rfl with some_ | last
      · rw [if_neg some_] at sending
        exact (sends_uploadFrom sending).1
      · split at sending
        · have goesOn := sends_uploadFrom sending
          rw [chunkEnd] at goesOn
          omega
        · exact (sends_uploadFrom sending).1

/-- A chunk that is sent once more keeps the upload exact if the server has nothing of it. -/
theorem exact_repeated {offset : Nat} {retries next : Retries} (coherent : Coherent content upload)
    (exact_ : Exact content file upload) (phase : upload.phase = .sending offset retries) {attempt : PutAttempt}
    {status : Nat} {isError : 400 ≤ status} {body : String} {refreshes : Bool}
    (fate : attempt.fate = .refused status isError body refreshes)
    (repeats : retries.after refreshes status = some next) :
    Exact content file (resumableStep content file upload attempt) ↔
      ChunkAcknowledged content.length offset retries upload.server
        (upload.serverAfter content offset attempt.keeps) (.refused status isError body refreshes) := by
  have place := exact_.starts offset retries phase
  have unchanged : (upload.serverAfter content offset attempt.keeps).kept = upload.server.kept ↔
      upload.server.kept.length = (upload.serverAfter content offset attempt.keeps).kept.length :=
    receive_eq_iff _ _ _
  have repeated : Fate.isRepeated retries (.refused status isError body refreshes) = true := by
    rw [Fate.isRepeated, repeats]
    rfl
  rw [exact_iff (coherent_step coherent file attempt), step_repeated phase fate repeats]
  constructor
  · rintro ⟨starts, completes⟩
    refine ⟨fun answered => (by cases answered), fun _ => ?_, fun complete => ?_⟩
    · rw [unchanged, ← place]
      exact starts offset next rfl
    · rcases completes complete with ⟨returned, ended⟩
      cases ended
  · intro acknowledged
    have same := acknowledged.repeated repeated
    refine ⟨fun later others sending => ?_, fun complete => ?_⟩
    · cases sending
      exact place.trans (unchanged.mp same)
    · cases acknowledged.completed complete

/-- A chunk that is acknowledged keeps the upload exact, and no other does. -/
theorem exact_send {offset : Nat} {retries : Retries} (coherent : Coherent content upload)
    (exact_ : Exact content file upload) (phase : upload.phase = .sending offset retries) (attempt : PutAttempt) :
    Exact content file (resumableStep content file upload attempt) ↔
      ChunkAcknowledged content.length offset retries upload.server
        (upload.serverAfter content offset attempt.keeps) attempt.fate := by
  cases fate : attempt.fate with
  | answered => exact exact_answered coherent phase fate
  | lost failure =>
      rw [exact_iff (coherent_step coherent file attempt), ← fate]
      exact exact_failed phase (congrArg Fate.isAnswered fate) (congrArg (Fate.isRepeated retries) fate)
  | refused status isError body refreshes =>
      cases repeats : retries.after refreshes status with
      | some next => exact exact_repeated coherent exact_ phase fate repeats
      | none =>
          rw [exact_iff (coherent_step coherent file attempt), ← fate]
          refine exact_failed phase (congrArg Fate.isAnswered fate) ?_
          rw [fate, Fate.isRepeated, repeats]
          rfl

/-- A query reads rightly where the server stands. -/
theorem exact_ask {failure : String} {retries : Retries} (coherent : Coherent content upload)
    (exact_ : Exact content file upload) (phase : upload.phase = .asking failure retries) (attempt : PutAttempt) :
    Exact content file (resumableStep content file upload attempt) := by
  have incomplete : ¬ upload.server.isComplete = true := by
    refine incomplete_of_exact coherent exact_ fun result ended => ?_
    cases phase.symm.trans ended
  rw [exact_iff (coherent_step coherent file attempt), resumableStep, phase]
  refine ⟨fun offset others sending => ?_, fun complete => absurd complete incomplete⟩
  cases fate : attempt.fate with
  | answered =>
      dsimp only at sending
      rw [fate, putRawNoRedirect] at sending
      dsimp only at sending
      rw [query_of_incomplete _ incomplete] at sending
      exact (sends_uploadFrom sending).1
  | lost other =>
      dsimp only at sending
      rw [fate, putRawNoRedirect] at sending
      cases sending
  | refused status isError body refreshes =>
      dsimp only at sending
      rw [fate, putRawNoRedirect] at sending
      split at sending
      · cases sending
      · next ends =>
          split at ends
          · cases ends
          · cases ends
            cases sending

theorem exact_step (coherent : Coherent content upload) (exact_ : Exact content file upload)
    (attempt : PutAttempt) :
    Exact content file (resumableStep content file upload attempt) ↔ Acknowledged content upload attempt := by
  cases phase : upload.phase with
  | sending offset retries =>
      rw [exact_send coherent exact_ phase attempt]
      constructor
      · intro acknowledged place others sending
        cases phase.symm.trans sending
        exact acknowledged
      · intro acknowledged
        exact acknowledged offset retries phase
  | asking failure retries =>
      refine iff_of_true (exact_ask coherent exact_ phase attempt) fun place others sending => ?_
      cases phase.symm.trans sending
  | ended result =>
      have same : resumableStep content file upload attempt = upload := by
        rw [resumableStep, phase]
      rw [same]
      refine iff_of_true exact_ fun place others sending => ?_
      cases phase.symm.trans sending

end Exactness

theorem exact_start {content : List UInt8} (large : resumableThreshold ≤ content.length) (file : DriveFile)
    (started : Except String String) : Exact content file (resumableStart content started) := by
  have incomplete : ¬ (resumableStart content started).server.isComplete = true := by
    rw [isComplete_iff]
    intro empty
    rw [resumableThreshold] at large
    have none_ : content.length = 0 := empty.symm
    omega
  refine (exact_iff (coherent_start content started)).mpr ⟨?_, fun complete => absurd complete incomplete⟩
  intro offset retries sending
  cases started with
  | error failure => cases sending
  | ok uri => exact (sends_uploadFrom sending).1

/-- An upload stays exact exactly as long as what it meets is acknowledged.  Then both
uploads that are run so end exact. -/
theorem resumable_exact_iff (content : List UInt8) (large : resumableThreshold ≤ content.length) (file : DriveFile)
    (started : Except String String) (attempts : List PutAttempt) :
    (Throughout (resumableStep content file) (Exact content file) attempts (resumableStart content started) ↔
      Along (resumableStep content file) (Acknowledged content) attempts (resumableStart content started)) ∧
    (Along (resumableStep content file) (Acknowledged content) attempts (resumableStart content started) →
      Exact content file (doResumableUpload content file started attempts) ∧
        Exact content file (uploadResumable content file started attempts)) := by
  have exactly := @throughout_iff_along _ _ (resumableStep content file) (Acknowledged content) (Coherent content)
    (Exact content file) (fun _ attempt coherent => coherent_step coherent file attempt)
    (fun _ attempt coherent exact_ => exact_step coherent exact_ attempt) _ (coherent_start content started)
    (exact_start large file started) attempts
  refine ⟨exactly, fun acknowledged => ?_⟩
  have last := (exactly.mpr acknowledged).last
  exact ⟨last, last⟩

theorem sends_start {content : List UInt8} (some_ : 0 < content.length) (uri : String) :
    (resumableStart content (.ok uri)).phase = .sending 0 freshRetries :=
  if_pos some_

/-- A file of two chunks. -/
def zeros : List UInt8 :=
  List.replicate (2 * chunkSize) 0

/-- What the server returns for it. -/
def zerosFile : DriveFile := .named "1" "zeros"

theorem resumable_exact_of_lost_request :
    Throughout (resumableStep zeros zerosFile) (Exact zeros zerosFile) [⟨0, .lost "timeout"⟩]
      (resumableStart zeros (.ok "/upload")) := by
  have length : zeros.length = 2 * chunkSize := List.length_replicate
  have large : resumableThreshold ≤ zeros.length := by
    rw [length]
    decide
  refine (resumable_exact_iff zeros large zerosFile (.ok "/upload") _).1.mpr ⟨fun offset retries sending => ?_, trivial⟩
  refine ⟨fun answered => (by cases answered), fun repeated => (by cases repeated), fun complete => ?_⟩
  have nothing : ((resumableStart zeros (.ok "/upload")).server.receive offset (chunkAt zeros offset) 0).kept = [] :=
    kept_receive_zero _ _
  have total : ((resumableStart zeros (.ok "/upload")).server.receive offset (chunkAt zeros offset) 0).total =
      zeros.length := total_receive _ _ _
  rw [isComplete_iff, nothing, total, length] at complete
  exact absurd complete (by decide)

/-- A chunk of which nothing is kept is skipped; and a file whose last response is lost is
stored, and the upload fails. -/
theorem resumable_upload_inexact :
    ¬ Throughout (resumableStep zeros zerosFile) (Exact zeros zerosFile) [⟨0, .answered⟩]
        (resumableStart zeros (.ok "/upload")) ∧
    ¬ Throughout (resumableStep (zeros.take chunkSize) zerosFile) (Exact (zeros.take chunkSize) zerosFile)
        [⟨chunkSize, .lost "timeout"⟩] (resumableStart (zeros.take chunkSize) (.ok "/upload")) := by
  have length : zeros.length = 2 * chunkSize := List.length_replicate
  have half : (zeros.take chunkSize).length = chunkSize := by
    rw [List.length_take, length]
    decide
  constructor
  · intro throughout
    have first := (exact_step (coherent_start zeros (.ok "/upload")) throughout.1 _).mp throughout.2
    have sends : (resumableStart zeros (.ok "/upload")).phase = .sending 0 freshRetries := by
      refine sends_start ?_ _
      rw [length]
      decide
    rcases (first 0 freshRetries sends).range rfl with some_ | last
    · exact some_ (kept_receive_zero _ _)
    · rw [length] at last
      exact absurd last (by decide)
  · intro throughout
    have first := (exact_step (coherent_start (zeros.take chunkSize) (.ok "/upload")) throughout.1 _).mp throughout.2
    have sends : (resumableStart (zeros.take chunkSize) (.ok "/upload")).phase = .sending 0 freshRetries := by
      refine sends_start ?_ _
      rw [half]
      decide
    have completes := (first 0 freshRetries sends).completed
    refine Bool.false_ne_true (completes ?_)
    rw [isComplete_iff]
    have all : chunkEnd (zeros.take chunkSize).length 0 + 1 - 0 = chunkSize := by
      rw [half]
      decide
    have chunk : chunkAt (zeros.take chunkSize) 0 = zeros.take chunkSize := by
      rw [chunkAt, all, List.drop_zero, List.take_take, Nat.min_self]
    rw [chunk]
    calc ([] ++ ((zeros.take chunkSize).drop 0).take chunkSize).length
        = (zeros.take chunkSize).length := by
          rw [List.nil_append, List.drop_zero, List.take_take, Nat.min_self]
      _ = (zeros.take chunkSize).length := rfl

end Sync
end GDriver
