import GDriver.Library.Checked
import GDriver.Sync.Resumable

namespace GDriver
namespace Sync
namespace Chunks

open Library Api

/-!
# Chunks under any answers

The loop of a resumable upload with its 64-bit numbers.  It goes on where the server says, and the
server may say anything: that it has nothing, less than before, or more than there is.
-/

/-- Chunk size for resumable uploads. -/
def chunkSize : UInt64 := 5 * 1024 * 1024

/-- The bytes of a file.  There are always fewer than 2 ^ 63 in memory. -/
structure Content where
  bytes : List UInt8
  short : bytes.length < 9223372036854775808

def Content.fileLen (content : Content) : UInt64 :=
  UInt64.ofNat content.bytes.length

/-- A response of the upload endpoint.  From its `Range` header the number of received bytes has been
read, where it has one that can be read. -/
structure PutAnswer where
  status : Nat
  received : Option UInt64
  file : Except String DriveFile
  text : String

inductive UploadChunkResult where
  | incomplete (received : UInt64)
  | complete (file : DriveFile)

/-- What is made of the response to a chunk that ends at `rangeEnd`; nothing if the sum overflows,
which is taken whatever the header says. -/
def filesUploadResumableChunk (rangeEnd : UInt64) (put : Except String PutAnswer) :
    Option (Except String UploadChunkResult) :=
  match put with
  | .error failure => some (.error failure)
  | .ok response =>
      if response.status = 200 ∨ response.status = 201 then
        match response.file with
        | .ok file => some (.ok (.complete file))
        | .error failure => some (.error ("failed to deserialise completed upload response: " ++ failure))
      else if response.status = 308 then do
        let next ← checkedAdd rangeEnd 1
        some (.ok (.incomplete (response.received.getD next)))
      else
        some (.error ("unexpected status " ++ toString response.status ++ " on resumable upload chunk PUT: " ++
          String.ofList (response.text.toList.take 500)))

/-- What is made of the response to a query. -/
def filesUploadResumableQuery (total : UInt64) (put : Except String PutAnswer) : Except String (UInt64 × Bool) :=
  match put with
  | .error failure => .error failure
  | .ok response =>
      if response.status = 200 ∨ response.status = 201 then .ok (total, true)
      else if response.status = 308 then .ok (response.received.getD 0, false)
      else
        .error ("unexpected status " ++ toString response.status ++ " on upload query: " ++
          String.ofList (response.text.toList.take 500))

/-- One chunk on its way. -/
structure ChunkRequest where
  rangeStart : UInt64
  rangeEnd : UInt64
  total : UInt64
  data : List UInt8
  deriving DecidableEq

/-- Where the loop is. -/
inductive LoopPhase where
  | sending (request : ChunkRequest)
  /-- The chunk at the offset has failed. -/
  | asking (offset : UInt64) (failure : String)
  | ended (result : Except String DriveFile)
  /-- An operation has overflowed, or a slice has reached beyond the content. -/
  | panicked

/-- The chunk at an offset. -/
def nextChunk (content : Content) (offset : UInt64) : Option ChunkRequest := do
  let sum ← checkedAdd offset chunkSize
  let last ← checkedSub (min sum content.fileLen) 1
  let data ← sliceInclusive content.bytes offset last
  pure ⟨offset, last, content.fileLen, data⟩

/-- The head of the loop. -/
def loopHead (content : Content) (offset : UInt64) : LoopPhase :=
  if offset < content.fileLen then
    match nextChunk content offset with
    | some request => .sending request
    | none => .panicked
  else .ended (.error "resumable upload loop exited without completion")

/-- One request of the loop, and what is made of its answer. -/
def loopStep (content : Content) (phase : LoopPhase) (put : Except String PutAnswer) : LoopPhase :=
  match phase with
  | .sending request =>
      match filesUploadResumableChunk request.rangeEnd put with
      | some (.ok (.incomplete received)) => loopHead content received
      | some (.ok (.complete file)) => .ended (.ok file)
      | some (.error failure) => .asking request.rangeStart failure
      | none => .panicked
  | .asking _ failure =>
      match filesUploadResumableQuery content.fileLen put with
      | .ok (received, _) => loopHead content received
      | .error _ => .ended (.error failure)
  | .ended result => .ended result
  | .panicked => .panicked

/-- The session is started, and the loop entered. -/
def loopStart (content : Content) (started : Except String String) : LoopPhase :=
  match started with
  | .ok _ => loopHead content 0
  | .error failure => .ended (.error failure)

/-- The upload of a file, after so many answers. -/
def doResumableUpload (content : Content) (started : Except String String)
    (answers : List (Except String PutAnswer)) : LoopPhase :=
  run (loopStep content) answers (loopStart content started)

/-- The upload of a conflict copy. -/
def uploadResumable (content : Content) (started : Except String String)
    (answers : List (Except String PutAnswer)) : LoopPhase :=
  run (loopStep content) answers (loopStart content started)

/-! ## Every chunk is within the content -/

/-- A chunk lies within the content, is not empty and not larger than a chunk, and holds the bytes
that it announces. -/
structure Within (content : Content) (request : ChunkRequest) : Prop where
  ordered : request.rangeStart ≤ request.rangeEnd
  inside : request.rangeEnd.toNat < content.bytes.length
  total : request.total.toNat = content.bytes.length
  full : request.rangeEnd.toNat + 1 = min (request.rangeStart.toNat + 5242880) content.bytes.length
  data : request.data = (content.bytes.drop request.rangeStart.toNat).take
    (request.rangeEnd.toNat - request.rangeStart.toNat + 1)
  announced : request.data.length = request.rangeEnd.toNat - request.rangeStart.toNat + 1
  atLeast : 1 ≤ request.data.length
  atMost : request.data.length ≤ 5 * 1024 * 1024

/-- What holds at every request. -/
structure Sound (content : Content) (phase : LoopPhase) : Prop where
  runs : phase ≠ .panicked
  sends : ∀ request, phase = .sending request → Within content request
  asks : ∀ offset failure, phase = .asking offset failure → offset.toNat < content.bytes.length

section Soundness

variable {content : Content}

theorem toNat_fileLen (content : Content) : content.fileLen.toNat = content.bytes.length := by
  have short := content.short
  rw [Content.fileLen, UInt64.toNat_ofNat']
  exact Nat.mod_eq_of_lt (by omega)

theorem toNat_chunkSize : chunkSize.toNat = 5242880 := rfl

/-- Below the end of the content there is a chunk. -/
theorem nextChunk_of_lt {offset : UInt64} (below : offset < content.fileLen) :
    ∃ request, nextChunk content offset = some request ∧ request.rangeStart = offset ∧ Within content request := by
  have short := content.short
  have place : offset.toNat < content.bytes.length := by
    rw [← toNat_fileLen content]
    exact UInt64.lt_iff_toNat_lt.mp below
  have fits : offset.toNat + chunkSize.toNat < 18446744073709551616 := by
    rw [toNat_chunkSize]
    omega
  rcases checkedAdd_of_fits fits with ⟨sum, added, sumValue⟩
  rw [toNat_chunkSize] at sumValue
  have least : (min sum content.fileLen).toNat = min (offset.toNat + 5242880) content.bytes.length := by
    rw [toNat_min, sumValue, toNat_fileLen]
  have positive : (1 : UInt64).toNat ≤ (min sum content.fileLen).toNat := by
    rw [least, UInt64.toNat_one]
    omega
  rcases checkedSub_of_le positive with ⟨last, subtracted, lastValue⟩
  rw [least, UInt64.toNat_one] at lastValue
  have ordered : offset.toNat ≤ last.toNat := by omega
  have inside : last.toNat < content.bytes.length := by omega
  have slices := sliceInclusive_of_within ordered inside
  have count : last.toNat + 1 - offset.toNat = last.toNat - offset.toNat + 1 := by omega
  rw [count] at slices
  have length : ((content.bytes.drop offset.toNat).take (last.toNat - offset.toNat + 1)).length =
      last.toNat - offset.toNat + 1 := by
    rw [List.length_take, List.length_drop]
    omega
  refine ⟨⟨offset, last, content.fileLen, (content.bytes.drop offset.toNat).take (last.toNat - offset.toNat + 1)⟩,
    ?_, rfl, ?_⟩
  · rw [nextChunk, added, Option.bind_eq_bind, Option.bind_some, subtracted, Option.bind_some, slices]
    rfl
  · refine ⟨UInt64.le_iff_toNat_le.mpr ordered, inside, toNat_fileLen content, ?_, rfl, length, ?_, ?_⟩
    · dsimp only
      omega
    · rw [length]
      omega
    · rw [length]
      omega

/-- The loop goes on with the chunk at the offset, or ends. -/
theorem loopHead_cases (content : Content) (offset : UInt64) :
    (∃ request, loopHead content offset = .sending request ∧ request.rangeStart = offset ∧ Within content request) ∨
    (¬ offset < content.fileLen ∧
      loopHead content offset = .ended (.error "resumable upload loop exited without completion")) := by
  rw [loopHead]
  split
  · next below =>
      rcases nextChunk_of_lt below with ⟨request, next, start, within⟩
      rw [next]
      exact Or.inl ⟨request, rfl, start, within⟩
  · next beyond => exact Or.inr ⟨beyond, rfl⟩

theorem sound_ended (content : Content) (result : Except String DriveFile) : Sound content (.ended result) where
  runs ended := by cases ended
  sends _ ended := by cases ended
  asks _ _ ended := by cases ended

theorem sound_loopHead (content : Content) (offset : UInt64) : Sound content (loopHead content offset) := by
  rcases loopHead_cases content offset with ⟨request, sends, _, within⟩ | ⟨_, ends⟩
  · rw [sends]
    refine ⟨fun panics => (by cases panics), fun other same => ?_, fun _ _ asks => (by cases asks)⟩
    cases same
    exact within
  · rw [ends]
    exact sound_ended content _

theorem Within.start_lt {request : ChunkRequest} (within : Within content request) :
    request.rangeStart.toNat < content.bytes.length :=
  Nat.lt_of_le_of_lt (UInt64.le_iff_toNat_le.mp within.ordered) within.inside

/-- The sum for a response to a chunk within the content does not overflow. -/
theorem chunk_does_not_overflow {request : ChunkRequest} (within : Within content request)
    (put : Except String PutAnswer) : filesUploadResumableChunk request.rangeEnd put ≠ none := by
  have short := content.short
  have inside := within.inside
  have fits : request.rangeEnd.toNat + (1 : UInt64).toNat < 18446744073709551616 := by
    rw [UInt64.toNat_one]
    omega
  rcases checkedAdd_of_fits fits with ⟨next, added, _⟩
  intro overflows
  cases put with
  | error failure => cases overflows
  | ok response =>
      rw [filesUploadResumableChunk] at overflows
      split at overflows
      · split at overflows
        · cases overflows
        · cases overflows
      · split at overflows
        · rw [added] at overflows
          cases overflows
        · cases overflows

/-- Whatever is answered, the loop stays sound. -/
theorem sound_loopStep {phase : LoopPhase} (sound : Sound content phase) (put : Except String PutAnswer) :
    Sound content (loopStep content phase put) := by
  cases phase with
  | sending request =>
      have within := sound.sends request rfl
      rw [loopStep]
      split
      · exact sound_loopHead content _
      · exact sound_ended content _
      · refine ⟨fun panics => (by cases panics), fun _ sends => (by cases sends), fun offset failure asks => ?_⟩
        cases asks
        exact within.start_lt
      · next overflows => exact absurd overflows (chunk_does_not_overflow within put)
  | asking offset failure =>
      rw [loopStep]
      split
      · exact sound_loopHead content _
      · exact sound_ended content _
  | ended result => exact sound
  | panicked => exact sound

theorem sound_loopStart (content : Content) (started : Except String String) :
    Sound content (loopStart content started) := by
  cases started with
  | error failure => exact sound_ended content _
  | ok uri => exact sound_loopHead content 0

theorem sound_run {phase : LoopPhase} (sound : Sound content phase) (answers : List (Except String PutAnswer)) :
    Sound content (run (loopStep content) answers phase) := by
  have preserved (phase : LoopPhase) (put : Except String PutAnswer) (before : Sound content phase) :
      Sound content (loopStep content phase put) :=
    sound_loopStep before put
  exact run_preserves preserved sound answers

end Soundness

/-- Whatever the server answers, no slice of either upload reaches beyond the content, none of their
operations overflows, and every chunk holds as many bytes as it announces. -/
theorem chunks_within (content : Content) (started : Except String String)
    (answers : List (Except String PutAnswer)) :
    Sound content (doResumableUpload content started answers) ∧
      Sound content (uploadResumable content started answers) := by
  have sound := sound_run (sound_loopStart content started) answers
  exact ⟨sound, sound⟩

end Chunks
end Sync
end GDriver
