import GDriver.Sync.ChunkLoop

namespace GDriver
namespace Sync
namespace Chunks

open Library Api

/-!
# The loop against a server that keeps what it gets

The upload to a server that answers with what it has of the file is a run of the loop against
particular answers.  Requests that the client repeats by itself are no answers to the loop.
-/

/-- The response with its header read. -/
def putAnswer (response : PutResponse) : PutAnswer where
  status := response.status
  received := (parseRangeHeader response.range).map UInt64.ofNat
  file := response.file
  text := response.text

/-- The loop stands where the upload does. -/
inductive StandsAt : UploadPhase → LoopPhase → Prop where
  | sending {request : ChunkRequest} (retries : Retries) :
      StandsAt (.sending request.rangeStart.toNat retries) (.sending request)
  | asking (offset : UInt64) (failure : String) (retries : Retries) :
      StandsAt (.asking failure retries) (.asking offset failure)
  | ended (result : Except String DriveFile) : StandsAt (.ended result) (.ended result)

theorem not_stored : ¬ (308 = 200 ∨ 308 = 201) := by
  decide

section Standing

variable {content : Content}

/-- Both heads of the loop do the same. -/
theorem standsAt_head {offset : Nat} {received : UInt64} (same : received.toNat = offset) :
    StandsAt (uploadFrom content.bytes.length offset) (loopHead content received) := by
  rw [uploadFrom]
  rcases loopHead_cases content received with ⟨request, sends, start, within⟩ | ⟨beyond, ends⟩
  · have below := within.start_lt
    rw [start, same] at below
    rw [sends, if_pos below, ← same, ← start]
    exact .sending freshRetries
  · rw [UInt64.lt_iff_toNat_lt, toNat_fileLen, same] at beyond
    rw [ends, if_neg beyond]
    exact .ended _

/-- What the server of the upload has received fits 64 bits. -/
theorem kept_short {server : UploadSession} (kept : server.kept <+: content.bytes) :
    server.kept.length < 18446744073709551616 := by
  have short := content.short
  have length := kept.length_le
  omega

theorem toNat_rangeEnd {request : ChunkRequest} (within : Within content request) :
    request.rangeEnd.toNat = chunkEnd content.bytes.length request.rangeStart.toNat := by
  have full := within.full
  rw [chunkEnd, Sync.chunkSize]
  omega

/-- Both readings of a response to a chunk do the same. -/
theorem standsAt_chunk {request : ChunkRequest} {server : UploadSession} {file : DriveFile}
    {put : Except String PutResponse}
    (within : Within content request) (kept : server.kept <+: content.bytes)
    (replies : put = .ok (server.reply file) ∨ ∃ failure, put = .error failure) :
    StandsAt
      (match Api.filesUploadResumableChunk (chunkEnd content.bytes.length request.rangeStart.toNat) put with
      | .ok (.incomplete received) => uploadFrom content.bytes.length received
      | .ok (.complete file) => .ended (.ok file)
      | .error failure => .asking failure freshRetries)
      (loopStep content (.sending request) (put.map putAnswer)) := by
  rcases replies with reply | ⟨failure, fails⟩
  · have ends := toNat_rangeEnd within
    rw [reply, loopStep]
    by_cases complete : server.isComplete = true
    · rw [chunk_of_complete _ complete]
      rw [UploadSession.reply, if_pos complete]
      exact .ended _
    · rw [chunk_of_incomplete _ complete, UploadSession.reply, if_neg complete]
      have short := content.short
      have inside := within.inside
      have fits : request.rangeEnd.toNat + (1 : UInt64).toNat < 18446744073709551616 := by
        rw [UInt64.toNat_one]
        omega
      rcases checkedAdd_of_fits fits with ⟨next, added, value⟩
      have reads : filesUploadResumableChunk request.rangeEnd
          (Except.map putAnswer (.ok ⟨308, rangeHeader server.kept, .error "no body", ""⟩)) =
          some (.ok (.incomplete (((parseRangeHeader (rangeHeader server.kept)).map UInt64.ofNat).getD next))) := by
        rw [Except.map, filesUploadResumableChunk, putAnswer, if_neg not_stored, if_pos rfl, added]
        rfl
      rw [reads, parseRangeHeader_rangeHeader]
      refine standsAt_head ?_
      rw [← ends]
      split
      · exact value
      · exact toNat_ofNat_of_fits (kept_short kept)
  · rw [fails]
    exact .asking _ _ _

/-- Both readings of a response to a query do the same. -/
theorem standsAt_query (offset : UInt64) {failure : String} {server : UploadSession} {file : DriveFile}
    {put : Except String PutResponse} (kept : server.kept <+: content.bytes)
    (replies : put = .ok (server.reply file) ∨ ∃ failure, put = .error failure) :
    StandsAt
      (match Api.filesUploadResumableQuery content.bytes.length put with
      | .ok (received, _) => uploadFrom content.bytes.length received
      | .error _ => .ended (.error failure))
      (loopStep content (.asking offset failure) (put.map putAnswer)) := by
  rcases replies with reply | ⟨lost, fails⟩
  · rw [reply, loopStep]
    by_cases complete : server.isComplete = true
    · rw [UploadSession.reply, if_pos complete]
      exact standsAt_head (toNat_fileLen content)
    · rw [query_of_incomplete _ complete, UploadSession.reply, if_neg complete]
      have reads : filesUploadResumableQuery content.fileLen
          (Except.map putAnswer (.ok ⟨308, rangeHeader server.kept, .error "no body", ""⟩)) =
          .ok (((parseRangeHeader (rangeHeader server.kept)).map UInt64.ofNat).getD 0, false) := by
        rw [Except.map, filesUploadResumableQuery, putAnswer, if_neg not_stored, if_pos rfl]
      rw [reads, parseRangeHeader_rangeHeader]
      refine standsAt_head ?_
      split
      · next empty =>
          rw [empty]
          rfl
      · exact toNat_ofNat_of_fits (kept_short kept)
  · rw [fails]
    exact .ended _

theorem replies_of_putRawNoRedirect {uri : String} {retries : Retries} {fate : Fate} {reply : PutResponse}
    {put : Except String PutResponse} (ends : putRawNoRedirect uri retries fate reply = .inr put) :
    put = .ok reply ∨ ∃ failure, put = .error failure := by
  cases fate with
  | answered => exact Or.inl (Sum.inr.inj ends).symm
  | lost failure => exact Or.inr ⟨_, (Sum.inr.inj ends).symm⟩
  | refused status isError body refreshes =>
      rw [putRawNoRedirect] at ends
      split at ends
      · cases ends
      · exact Or.inr ⟨_, (Sum.inr.inj ends).symm⟩

/-- A request of the upload is a request of the loop, or one that is repeated. -/
theorem standsAt_step {upload : ResumableUpload} {phase : LoopPhase} (coherent : Coherent content.bytes upload)
    (sound : Sound content phase) (stands : StandsAt upload.phase phase) (file : DriveFile) (attempt : PutAttempt) :
    ∃ answers, StandsAt (resumableStep content.bytes file upload attempt).phase
      (run (loopStep content) answers phase) := by
  rw [resumableStep]
  generalize at_ : upload.phase = place at stands
  cases stands with
  | ended result =>
      refine ⟨[], ?_⟩
      dsimp only
      rw [at_]
      exact .ended result
  | @sending request retries =>
      have within := sound.sends request rfl
      have kept := kept_receive_within coherent.kept request.rangeStart.toNat attempt.keeps
      dsimp only
      cases goes : putRawNoRedirect upload.uri retries attempt.fate
          ((upload.server.receive request.rangeStart.toNat (chunkAt content.bytes request.rangeStart.toNat)
            attempt.keeps).reply file) with
      | inl next => exact ⟨[], .sending next⟩
      | inr put =>
          exact ⟨[put.map putAnswer], standsAt_chunk within kept (replies_of_putRawNoRedirect goes)⟩
  | asking offset failure retries =>
      dsimp only
      cases goes : putRawNoRedirect upload.uri retries attempt.fate (upload.server.reply file) with
      | inl next => exact ⟨[], .asking offset failure next⟩
      | inr put =>
          exact ⟨[put.map putAnswer], standsAt_query offset coherent.kept (replies_of_putRawNoRedirect goes)⟩

theorem standsAt_start (content : Content) (started : Except String String) :
    StandsAt (resumableStart content.bytes started).phase (loopStart content started) := by
  cases started with
  | error failure => exact .ended _
  | ok uri => exact standsAt_head rfl

/-- An upload to the server is a run of the loop. -/
theorem doResumableUpload_refines (content : Content) (file : DriveFile) (started : Except String String)
    (attempts : List PutAttempt) :
    ∃ answers, StandsAt (Sync.doResumableUpload content.bytes file started attempts).phase
      (doResumableUpload content started answers) := by
  have stepping (upload : ResumableUpload) (attempt : PutAttempt)
      (before : Coherent content.bytes upload ∧
        ∃ answers, StandsAt upload.phase (doResumableUpload content started answers)) :
      Coherent content.bytes (resumableStep content.bytes file upload attempt) ∧
        ∃ answers, StandsAt (resumableStep content.bytes file upload attempt).phase
          (doResumableUpload content started answers) := by
    rcases before with ⟨coherent, answers, stands⟩
    refine ⟨coherent_step coherent file attempt, ?_⟩
    have sound := (chunks_within content started answers).1
    rcases standsAt_step coherent sound stands file attempt with ⟨further, later⟩
    refine ⟨answers ++ further, ?_⟩
    rw [doResumableUpload, run_append]
    exact later
  have initially := standsAt_start content started
  exact (run_preserves stepping ⟨coherent_start content.bytes started, [], initially⟩ attempts).2

end Standing

end Chunks
end Sync
end GDriver
