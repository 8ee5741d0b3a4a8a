import GDriver.Sync.ChunkLoop

namespace GDriver
namespace Sync
namespace Chunks

open Library Api

/-!
# The plan of the chunks

The crate for synchronisation counts the chunks of a file and knows the range of each, without a
server.  The loop finds its chunks one by one, from the answers.  A server that keeps every chunk
leads it through the plan.
-/

/-- The number of chunks of a file. -/
def chunkCount (fileLen chunkSize : UInt64) : Option UInt64 :=
  if fileLen = 0 then some 0 else checkedDivCeil fileLen chunkSize

/-- The first and the last byte of a chunk, or none if there is no such chunk; nothing when an
operation overflows. -/
def chunkRange (n fileLen chunkSize : UInt64) : Option (Option (UInt64 × UInt64)) :=
  if fileLen = 0 then some none
  else do
    let start ← checkedMul n chunkSize
    if fileLen ≤ start then some none
    else do
      let sum ← checkedAdd start chunkSize
      let last ← checkedSub (min sum fileLen) 1
      some (some (start, last))

def LoopPhase.request : LoopPhase → Option ChunkRequest
  | .sending request => some request
  | _ => none

/-- The chunks that are sent for so many answers. -/
def sentChunks (content : Content) (started : Except String String) (answers : List (Except String PutAnswer)) :
    List ChunkRequest :=
  notes (loopStep content) (fun phase _ => phase.request) answers (loopStart content started)

/-- The server keeps every chunk, and has the file after the last one. -/
structure Acknowledges (content : Content) (phase : LoopPhase) (put : Except String PutAnswer) : Prop where
  keeps : ∀ request, phase = .sending request → request.rangeEnd.toNat + 1 < content.bytes.length →
    ∃ response, put = .ok response ∧ response.status = 308 ∧
      (response.received = none ∨ ∃ count, response.received = some count ∧ count.toNat = request.rangeEnd.toNat + 1)
  completes : ∀ request, phase = .sending request → request.rangeEnd.toNat + 1 = content.bytes.length →
    ∃ response file, put = .ok response ∧ response.status = 200 ∧ response.file = .ok file

/-- The loop sends the chunks of the plan in order, together they are the content, and the upload
returns the file of the last answer. -/
structure FollowsPlan (content : Content) (count : UInt64) (sent : List ChunkRequest)
    (answers : List (Except String PutAnswer)) (phase : LoopPhase) : Prop where
  ranges : sent.map (fun request => some (some (request.rangeStart, request.rangeEnd))) =
    (List.range count.toNat).map fun place => chunkRange (UInt64.ofNat place) content.fileLen chunkSize
  whole : (sent.map ChunkRequest.data).flatten = content.bytes
  returns : ∃ response file, answers[count.toNat - 1]? = some (.ok response) ∧ response.file = .ok file ∧
    phase = .ended (.ok file)

section Ranges

variable {n fileLen size : UInt64}

/-- A chunk that begins within the file reaches to the next one, or to the end of the file. -/
theorem chunkRange_of_below (below : n.toNat * size.toNat < fileLen.toNat) (positive : 1 ≤ size.toNat)
    (fits : fileLen.toNat + size.toNat < 18446744073709551616) :
    ∃ first last, chunkRange n fileLen size = some (some (first, last)) ∧ first.toNat = n.toNat * size.toNat ∧
      last.toNat + 1 = min (n.toNat * size.toNat + size.toNat) fileLen.toNat := by
  have nonzero : fileLen ≠ 0 := by
    intro zero
    rw [zero, UInt64.toNat_zero] at below
    exact absurd below (Nat.not_lt_zero _)
  rcases checkedMul_of_fits (by omega : n.toNat * size.toNat < 18446744073709551616) with
    ⟨start, multiplied, startValue⟩
  have inside : ¬ fileLen ≤ start := by
    rw [UInt64.le_iff_toNat_le, startValue]
    omega
  rcases checkedAdd_of_fits (by omega : start.toNat + size.toNat < 18446744073709551616) with ⟨sum, added, sumValue⟩
  rw [startValue] at sumValue
  have least : (min sum fileLen).toNat = min (n.toNat * size.toNat + size.toNat) fileLen.toNat := by
    rw [toNat_min, sumValue]
  have several : (1 : UInt64).toNat ≤ (min sum fileLen).toNat := by
    rw [least, UInt64.toNat_one]
    omega
  rcases checkedSub_of_le several with ⟨last, subtracted, lastValue⟩
  rw [least, UInt64.toNat_one] at lastValue
  refine ⟨start, last, ?_, startValue, by omega⟩
  rw [chunkRange, if_neg nonzero, multiplied, Option.bind_eq_bind, Option.bind_some, if_neg inside, added,
    Option.bind_some, subtracted, Option.bind_some]

/-- There is no chunk that begins beyond the file. -/
theorem chunkRange_of_beyond (some_ : fileLen ≠ 0) (beyond : fileLen.toNat ≤ n.toNat * size.toNat)
    (fits : n.toNat * size.toNat < 18446744073709551616) : chunkRange n fileLen size = some none := by
  rcases checkedMul_of_fits fits with ⟨start, multiplied, startValue⟩
  have outside : fileLen ≤ start := by
    rw [UInt64.le_iff_toNat_le, startValue]
    exact beyond
  rw [chunkRange, if_neg some_, multiplied, Option.bind_eq_bind, Option.bind_some, if_pos outside]

theorem below_of_chunkRange {range : UInt64 × UInt64} (ranged : chunkRange n fileLen size = some (some range)) :
    n.toNat * size.toNat < fileLen.toNat := by
  by_contra beyond
  rw [Nat.not_lt] at beyond
  by_cases zero : fileLen = 0
  · rw [chunkRange, if_pos zero] at ranged
    cases ranged
  · by_cases fits : n.toNat * size.toNat < 18446744073709551616
    · rw [chunkRange_of_beyond zero beyond fits] at ranged
      cases ranged
    · rw [chunkRange, if_neg zero, checkedMul, if_neg fits] at ranged
      cases ranged

end Ranges

/-- The chunk at a place of the plan. -/
@[irreducible] def planned (content : Content) (place : Nat) : ChunkRequest where
  rangeStart := UInt64.ofNat (place * 5242880)
  rangeEnd := UInt64.ofNat (min (place * 5242880 + 5242880) content.bytes.length - 1)
  total := content.fileLen
  data := (content.bytes.drop (place * 5242880)).take 5242880

section Plan

variable {content : Content} {place : Nat}

theorem toNat_planned (below : place * 5242880 < content.bytes.length) :
    (planned content place).rangeStart.toNat = place * 5242880 ∧
      (planned content place).rangeEnd.toNat + 1 = min (place * 5242880 + 5242880) content.bytes.length := by
  have short := content.short
  constructor
  · rw [planned]
    exact toNat_ofNat_of_fits (by omega)
  · rw [planned, toNat_ofNat_of_fits (by omega)]
    omega

theorem total_planned : (planned content place).total = content.fileLen := by
  rw [planned]

theorem data_planned : (planned content place).data = (content.bytes.drop (place * 5242880)).take 5242880 := by
  rw [planned]

/-- Where a chunk of the plan begins the loop sends it. -/
theorem loopHead_planned {offset : UInt64} (start : offset.toNat = place * 5242880)
    (below : place * 5242880 < content.bytes.length) : loopHead content offset = .sending (planned content place) := by
  have ends := toNat_planned below
  rcases loopHead_cases content offset with ⟨request, sends, starts, within⟩ | ⟨beyond, _⟩
  · rw [sends]
    refine congrArg LoopPhase.sending ?_
    have sameStart : request.rangeStart = (planned content place).rangeStart := by
      rw [starts, ← UInt64.toNat_inj, start, ends.1]
    have sameEnd : request.rangeEnd = (planned content place).rangeEnd := by
      have last := within.full
      rw [starts, start] at last
      rw [← UInt64.toNat_inj]
      omega
    have sameTotal : request.total = (planned content place).total := by
      rw [total_planned, ← UInt64.toNat_inj, within.total, toNat_fileLen]
    have sameData : request.data = (planned content place).data := by
      rw [within.data, starts, start, sameEnd, data_planned, List.take_eq_take_iff, List.length_drop]
      omega
    cases request
    cases sameStart
    cases sameEnd
    cases sameTotal
    cases sameData
    rfl
  · rw [UInt64.lt_iff_toNat_lt, toNat_fileLen, start] at beyond
    exact absurd below beyond

/-- The first chunk of the plan comes first. -/
theorem loopStart_planned (some_ : 1 ≤ content.bytes.length) (uri : String) :
    loopStart content (.ok uri) = .sending (planned content 0) := by
  refine loopHead_planned ?_ ?_
  · rw [Nat.zero_mul]
    rfl
  · rw [Nat.zero_mul]
    exact some_

theorem fileLen_ne_zero (some_ : 1 ≤ content.bytes.length) : content.fileLen ≠ 0 := by
  intro zero
  have length := toNat_fileLen content
  rw [zero, UInt64.toNat_zero] at length
  omega

theorem chunkRange_planned (below : place * 5242880 < content.bytes.length) :
    chunkRange (UInt64.ofNat place) content.fileLen chunkSize =
      some (some ((planned content place).rangeStart, (planned content place).rangeEnd)) := by
  have short := content.short
  have ends := toNat_planned below
  have size := toNat_chunkSize
  have length := toNat_fileLen content
  have index : (UInt64.ofNat place).toNat = place := toNat_ofNat_of_fits (by omega)
  have product : (UInt64.ofNat place).toNat * chunkSize.toNat = place * 5242880 := by
    rw [index, size]
  have within : (UInt64.ofNat place).toNat * chunkSize.toNat < content.fileLen.toNat := by
    rw [product, length]
    exact below
  rcases chunkRange_of_below within (by omega) (by omega) with ⟨first, last, ranged, firstValue, lastValue⟩
  rw [product] at firstValue lastValue
  rw [size, length] at lastValue
  have sameStart : first = (planned content place).rangeStart := by
    rw [← UInt64.toNat_inj, firstValue, ends.1]
  have sameEnd : last = (planned content place).rangeEnd := by
    rw [← UInt64.toNat_inj]
    omega
  rw [ranged, sameStart, sameEnd]

/-- The server that keeps every chunk leads from each chunk of the plan to the next. -/
theorem loopStep_planned {put : Except String PutAnswer} (next : place * 5242880 + 5242880 < content.bytes.length)
    (acknowledges : Acknowledges content (.sending (planned content place)) put) :
    loopStep content (.sending (planned content place)) put = .sending (planned content (place + 1)) := by
  have short := content.short
  have below : place * 5242880 < content.bytes.length := Nat.lt_of_le_of_lt (Nat.le_add_right _ _) next
  have ends := (toNat_planned below).2
  have less : (planned content place).rangeEnd.toNat + 1 < content.bytes.length := by omega
  rcases acknowledges.keeps _ rfl less with ⟨response, answered, status, received⟩
  have fits : (planned content place).rangeEnd.toNat + (1 : UInt64).toNat < 18446744073709551616 := by
    rw [UInt64.toNat_one]
    omega
  rcases checkedAdd_of_fits fits with ⟨sum, added, sumValue⟩
  rw [UInt64.toNat_one] at sumValue
  have reads : filesUploadResumableChunk (planned content place).rangeEnd put =
      some (.ok (.incomplete (response.received.getD sum))) := by
    rw [answered, filesUploadResumableChunk, if_neg (by rw [status]; decide), if_pos status, added]
    rfl
  rw [loopStep, reads]
  have start : (place + 1) * 5242880 = place * 5242880 + 5242880 := Nat.succ_mul _ _
  rw [← start] at next
  refine loopHead_planned ?_ next
  rw [start]
  rcases received with none_ | ⟨count, some_, value⟩
  · rw [none_, Option.getD_none]
    omega
  · rw [some_, Option.getD_some]
    omega

theorem loopStep_last {put : Except String PutAnswer} (below : place * 5242880 < content.bytes.length)
    (last : content.bytes.length ≤ place * 5242880 + 5242880)
    (acknowledges : Acknowledges content (.sending (planned content place)) put) :
    ∃ response file, put = .ok response ∧ response.file = .ok file ∧
      loopStep content (.sending (planned content place)) put = .ended (.ok file) := by
  have ends := (toNat_planned below).2
  rcases acknowledges.completes _ rfl (by omega) with ⟨response, file, answered, status, parsed⟩
  refine ⟨response, file, answered, parsed, ?_⟩
  rw [loopStep, answered, filesUploadResumableChunk, if_pos (Or.inl status), parsed]

theorem notes_ended (result : Except String DriveFile) (answers : List (Except String PutAnswer)) :
    notes (loopStep content) (fun phase _ => phase.request) answers (.ended result) = [] := by
  induction answers with
  | nil => rfl
  | cons put rest inductionHypothesis => exact inductionHypothesis

/-- From a chunk of the plan on the loop sends the rest of the plan, and returns. -/
theorem run_planned {answers : List (Except String PutAnswer)} (left : Nat)
    (below : (place + left) * 5242880 < content.bytes.length)
    (last : content.bytes.length ≤ (place + left) * 5242880 + 5242880)
    (acknowledged : Along (loopStep content) (Acknowledges content) answers (.sending (planned content place)))
    (enough : left < answers.length) :
    notes (loopStep content) (fun phase _ => phase.request) answers (.sending (planned content place)) =
        (List.range' place (left + 1)).map (planned content) ∧
      ∃ response file, answers[left]? = some (.ok response) ∧ response.file = .ok file ∧
        run (loopStep content) answers (.sending (planned content place)) = .ended (.ok file) := by
  induction answers generalizing place left with
  | nil => exact absurd enough (Nat.not_lt_zero _)
  | cons put rest inductionHypothesis =>
      rw [notes, run_cons]
      cases left with
      | zero =>
          rw [Nat.add_zero] at below last
          rcases loopStep_last below last acknowledged.1 with ⟨response, file, answered, parsed, ends⟩
          rw [ends]
          refine ⟨?_, response, file, congrArg some answered, parsed, run_of_still (fun _ => rfl) rest⟩
          rw [notes_ended]
          rfl
      | succ left =>
          have further : place + (left + 1) = place + 1 + left := by omega
          rw [further] at below last
          have more : (place + 1) * 5242880 ≤ (place + 1 + left) * 5242880 :=
              Nat.mul_le_mul_right _ (Nat.le_add_right _ _)
          have next : place * 5242880 + 5242880 < content.bytes.length := by
            rw [Nat.succ_mul] at more
            exact Nat.lt_of_le_of_lt more below
          have step := loopStep_planned next acknowledged.1
          have along := acknowledged.2
          rw [step] at along ⊢
          rcases inductionHypothesis left below last along (Nat.lt_of_succ_lt_succ enough) with
            ⟨sends, response, file, answered, parsed, ends⟩
          refine ⟨?_, response, file, answered, parsed, ends⟩
          rw [sends, List.range'_succ, List.map_cons]
          rfl

/-- The chunks of the plan, one after the other, are the content. -/
theorem flatten_planned (left : Nat) (last : content.bytes.length ≤ (place + left) * 5242880 + 5242880) :
    ((List.range' place (left + 1)).map fun index => (planned content index).data).flatten =
      content.bytes.drop (place * 5242880) := by
  induction left generalizing place with
  | zero =>
      rw [List.range'_one, List.map_singleton, List.flatten_singleton, data_planned]
      refine List.take_of_length_le ?_
      rw [List.length_drop]
      omega
  | succ left inductionHypothesis =>
      have further : place + (left + 1) = place + 1 + left := by omega
      rw [further] at last
      rw [List.range'_succ, List.map_cons, List.flatten_cons, inductionHypothesis last, data_planned, Nat.succ_mul,
        ← List.drop_drop]
      exact List.take_append_drop _ _

end Plan

/-- Against a server that keeps every chunk, the upload sends the chunks of the plan in their order,
which make up the content, and returns the file of the last answer. -/
theorem upload_follows_plan (content : Content) (some_ : 1 ≤ content.bytes.length) (uri : String)
    (answers : List (Except String PutAnswer))
    (acknowledged : Along (loopStep content) (Acknowledges content) answers (loopStart content (.ok uri)))
    (count : UInt64) (counted : chunkCount content.fileLen chunkSize = some count)
    (enough : count.toNat ≤ answers.length) :
    FollowsPlan content count (sentChunks content (.ok uri) answers) answers
      (doResumableUpload content (.ok uri) answers) := by
  have positive : 0 < chunkSize.toNat := by decide
  rcases @checkedDivCeil_of_pos content.fileLen _ positive with ⟨quotient, divides, below⟩
  rw [chunkCount, if_neg (fileLen_ne_zero some_), divides] at counted
  rw [Option.some.inj counted, toNat_fileLen, toNat_chunkSize] at below
  have several : 0 < count.toNat := (below 0).mpr (by omega)
  rcases Nat.exists_eq_add_of_lt several with ⟨left, same⟩
  rw [Nat.zero_add] at same
  have lastBelow : (0 + left) * 5242880 < content.bytes.length := by
    rw [Nat.zero_add]
    exact (below left).mp (by omega)
  have lastEnds : content.bytes.length ≤ (0 + left) * 5242880 + 5242880 := by
    rw [Nat.zero_add, ← Nat.succ_mul, ← Nat.not_lt, ← below, same]
    exact Nat.lt_irrefl _
  have start := loopStart_planned some_ uri
  rw [start] at acknowledged
  rcases run_planned left lastBelow lastEnds acknowledged (by omega) with
    ⟨sends, response, file, answered, parsed, ends⟩
  have sent : sentChunks content (.ok uri) answers = (List.range count.toNat).map (planned content) := by
    rw [sentChunks, start, sends, same, List.range_eq_range']
  refine ⟨?_, ?_, response, file, ?_, parsed, ?_⟩
  · rw [sent, List.map_map]
    refine List.map_congr_left fun place member => ?_
    have inside := (below place).mp (List.mem_range.mp member)
    exact (chunkRange_planned inside).symm
  · rw [sent, List.map_map, same, List.range_eq_range']
    have whole := @flatten_planned content 0 left lastEnds
    rw [Nat.zero_mul, List.drop_zero] at whole
    exact whole
  · rw [same, Nat.add_sub_cancel]
    exact answered
  · rw [doResumableUpload, start]
    exact ends

section Acknowledged

variable {content : Content} {place : Nat} {response : PutAnswer}

/-- A chunk before the last one is acknowledged by 308, with its end or with nothing. -/
theorem acknowledges_of_incomplete (below : place * 5242880 < content.bytes.length)
    (next : place * 5242880 + 5242880 < content.bytes.length) (status : response.status = 308)
    (received : response.received = none ∨ ∃ count, response.received = some count ∧
      count.toNat = place * 5242880 + 5242880) :
    Acknowledges content (.sending (planned content place)) (.ok response) := by
  have ends := (toNat_planned below).2
  constructor
  · rintro request ⟨⟩ _
    refine ⟨response, rfl, status, received.imp_right ?_⟩
    rintro ⟨count, named, value⟩
    exact ⟨count, named, by omega⟩
  · rintro request ⟨⟩ last
    omega

/-- The last chunk is acknowledged by 200. -/
theorem acknowledges_of_complete {file : DriveFile} (below : place * 5242880 < content.bytes.length)
    (last : content.bytes.length ≤ place * 5242880 + 5242880) (status : response.status = 200)
    (parsed : response.file = .ok file) :
    Acknowledges content (.sending (planned content place)) (.ok response) := by
  have ends := (toNat_planned below).2
  constructor
  · rintro request ⟨⟩ less
    omega
  · rintro request ⟨⟩ _
    exact ⟨response, file, rfl, status, parsed⟩

end Acknowledged

/-- A file of two whole chunks and one more byte. -/
def twoChunksAndAByte : Content where
  bytes := List.replicate 10485761 7
  short := by
    rw [List.length_replicate]
    decide

/-- The server acknowledges the first chunk without a range and the second with its end, and has the
file after the third. -/
def keepsAll : List (Except String PutAnswer) := [
  .ok ⟨308, none, .error "no body", ""⟩,
  .ok ⟨308, some 10485760, .error "no body", ""⟩,
  .ok ⟨200, none, .ok (.named "1" "sevens"), ""⟩]

theorem upload_follows_plan_of_keepsAll :
    FollowsPlan twoChunksAndAByte 3 (sentChunks twoChunksAndAByte (.ok "/upload") keepsAll) keepsAll
      (doResumableUpload twoChunksAndAByte (.ok "/upload") keepsAll) := by
  have length : twoChunksAndAByte.bytes.length = 10485761 := List.length_replicate
  have start := @loopStart_planned twoChunksAndAByte (by omega) "/upload"
  have first : Acknowledges twoChunksAndAByte (.sending (planned twoChunksAndAByte 0))
      (.ok ⟨308, none, .error "no body", ""⟩) :=
    acknowledges_of_incomplete (by omega) (by omega) rfl (Or.inl rfl)
  have second : Acknowledges twoChunksAndAByte (.sending (planned twoChunksAndAByte 1))
      (.ok ⟨308, some 10485760, .error "no body", ""⟩) :=
    acknowledges_of_incomplete (by omega) (by omega) rfl (Or.inr ⟨10485760, rfl, by decide⟩)
  have third : Acknowledges twoChunksAndAByte (.sending (planned twoChunksAndAByte 2))
      (.ok ⟨200, none, .ok (.named "1" "sevens"), ""⟩) :=
    acknowledges_of_complete (by omega) (by omega) rfl rfl
  have acknowledged : Along (loopStep twoChunksAndAByte) (Acknowledges twoChunksAndAByte) keepsAll
      (loopStart twoChunksAndAByte (.ok "/upload")) := by
    rw [start]
    refine ⟨first, ?_⟩
    rw [loopStep_planned (by omega) first]
    refine ⟨second, ?_⟩
    rw [loopStep_planned (by omega) second]
    exact ⟨third, trivial⟩
  have counted : chunkCount twoChunksAndAByte.fileLen chunkSize = some 3 := by
    rw [Content.fileLen, length]
    decide
  exact upload_follows_plan twoChunksAndAByte (by omega) "/upload" keepsAll acknowledged 3 counted (by decide)

end Chunks
end Sync
end GDriver
