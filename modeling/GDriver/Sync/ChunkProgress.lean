import GDriver.Sync.ChunkLoop

namespace GDriver
namespace Sync
namespace Chunks

open Library Api

/-!
# How long a resumable upload goes on

A chunk that fails is followed by a query, and the query tells where to go on.  Nothing counts how
often this happens, and an answer may leave the loop where it is or move it back.  Only these answers
can keep the loop going.
-/

/-- The answer leaves the loop where it is, or moves it back. -/
def holdsBack (content : Content) (phase : LoopPhase) (put : Except String PutAnswer) : Bool :=
  match phase with
  | .sending request =>
      match filesUploadResumableChunk request.rangeEnd put with
      | some (.ok (.incomplete received)) => received ≤ request.rangeStart
      | _ => false
  | .asking offset _ =>
      match filesUploadResumableQuery content.fileLen put with
      | .ok (received, _) => received ≤ offset
      | .error _ => false
  | .ended _ => false
  | .panicked => false

/-- How many answers hold the loop back. -/
def holdUps (content : Content) : List (Except String PutAnswer) → LoopPhase → Nat
  | [], _ => 0
  | put :: rest, phase =>
      (if holdsBack content phase put then 1 else 0) + holdUps content rest (loopStep content phase put)

/-- What an upload has returned, if it has. -/
def LoopPhase.result : LoopPhase → Option (Except String DriveFile)
  | .ended result => some result
  | _ => none

/-- The first of endlessly many answers. -/
def firstAnswers (answers : Nat → Except String PutAnswer) (requests : Nat) : List (Except String PutAnswer) :=
  (List.range requests).map answers

/-- Both uploads have returned after so many requests. -/
def ReturnsWithin (content : Content) (started : Except String String) (answers : Nat → Except String PutAnswer)
    (bound : Nat) : Prop :=
  (doResumableUpload content started (firstAnswers answers bound)).result.isSome = true ∧
    (uploadResumable content started (firstAnswers answers bound)).result.isSome = true

/-- The loop is held back so many times at most. -/
def HeldUpAtMost (content : Content) (started : Except String String) (answers : Nat → Except String PutAnswer)
    (limit : Nat) : Prop :=
  ∀ requests, holdUps content (firstAnswers answers requests) (loopStart content started) ≤ limit

/-- What is left to do, in requests, if nothing holds the loop back. -/
def remaining (content : Content) : LoopPhase → Nat
  | .sending request => 2 * (content.bytes.length - request.rangeStart.toNat)
  | .asking offset _ => 2 * (content.bytes.length - offset.toNat) - 1
  | .ended _ => 0
  | .panicked => 0

section Progress

variable {content : Content}

theorem remaining_loopHead_le (content : Content) (offset : UInt64) :
    remaining content (loopHead content offset) ≤ 2 * (content.bytes.length - offset.toNat) := by
  rcases loopHead_cases content offset with ⟨request, sends, start, _⟩ | ⟨_, ends⟩
  · rw [sends, remaining, start]
  · rw [ends]
    exact Nat.zero_le _

/-- Going on at a place further on leaves less to do. -/
theorem remaining_loopHead {place : UInt64} (below : place.toNat < content.bytes.length) (received : UInt64) :
    remaining content (loopHead content received) + 1 ≤ 2 * (content.bytes.length - place.toNat) - 1 +
      if decide (received ≤ place) then 2 * content.bytes.length + 1 else 0 := by
  have left := remaining_loopHead_le content received
  by_cases back : received ≤ place
  · rw [decide_eq_true back, if_pos rfl]
    omega
  · rw [decide_eq_false back, if_neg Bool.false_ne_true]
    rw [UInt64.le_iff_toNat_le] at back
    omega

/-- An answer that does not hold the loop back leaves less to do. -/
theorem remaining_loopStep {phase : LoopPhase} (sound : Sound content phase) (goesOn : phase.result = none)
    (put : Except String PutAnswer) :
    remaining content (loopStep content phase put) + 1 ≤
      remaining content phase + if holdsBack content phase put then 2 * content.bytes.length + 1 else 0 := by
  cases phase with
  | sending request =>
      have within := sound.sends request rfl
      have below := within.start_lt
      rw [loopStep, holdsBack, remaining]
      cases answer : filesUploadResumableChunk request.rangeEnd put with
      | none => exact absurd answer (chunk_does_not_overflow within put)
      | some made =>
          cases made with
          | error failure =>
              simp only [remaining, Bool.false_eq_true, if_false]
              omega
          | ok result =>
              cases result with
              | complete file =>
                  simp only [remaining, Bool.false_eq_true, if_false]
                  omega
              | incomplete received =>
                  have less := remaining_loopHead below received
                  dsimp only
                  omega
  | asking offset failure =>
      have below := sound.asks offset failure rfl
      rw [loopStep, holdsBack, remaining]
      cases filesUploadResumableQuery content.fileLen put with
      | error _ =>
          simp only [remaining, Bool.false_eq_true, if_false]
          omega
      | ok reported => exact remaining_loopHead below reported.1
  | ended result => cases goesOn
  | panicked => exact absurd rfl sound.runs

theorem run_of_result {phase : LoopPhase} {result : Except String DriveFile} (returned : phase.result = some result)
    (answers : List (Except String PutAnswer)) : run (loopStep content) answers phase = phase := by
  cases phase with
  | ended result => exact run_of_still (fun _ => rfl) answers
  | _ => cases returned

/-- A loop that goes on has not had more answers than there was to do, and was to do again. -/
theorem length_le_of_goesOn {answers : List (Except String PutAnswer)} {phase : LoopPhase} (sound : Sound content phase)
    (goesOn : (run (loopStep content) answers phase).result = none) :
    answers.length ≤ remaining content phase + holdUps content answers phase * (2 * content.bytes.length + 1) := by
  induction answers generalizing phase with
  | nil => exact Nat.zero_le _
  | cons put rest inductionHypothesis =>
      have before : phase.result = none := by
        rw [Option.eq_none_iff_forall_ne_some]
        intro result returned
        rw [run_of_result returned, returned] at goesOn
        cases goesOn
      have later := inductionHypothesis (sound_loopStep sound put) goesOn
      have one := remaining_loopStep sound before put
      rw [List.length_cons, holdUps, Nat.add_mul]
      by_cases back : holdsBack content phase put = true
      · rw [if_pos back] at one ⊢
        omega
      · rw [if_neg back] at one ⊢
        omega

/-- A loop that has returned is not held back any more. -/
theorem holdUps_of_result {phase : LoopPhase} {result : Except String DriveFile} (returned : phase.result = some result)
    (answers : List (Except String PutAnswer)) : holdUps content answers phase = 0 := by
  cases phase with
  | ended result =>
      induction answers with
      | nil => rfl
      | cons put rest inductionHypothesis => exact (Nat.zero_add _).trans inductionHypothesis
  | _ => cases returned

theorem holdUps_append (first second : List (Except String PutAnswer)) (phase : LoopPhase) :
    holdUps content (first ++ second) phase =
      holdUps content first phase + holdUps content second (run (loopStep content) first phase) := by
  induction first generalizing phase with
  | nil => exact (Nat.zero_add _).symm
  | cons put rest inductionHypothesis =>
      rw [List.cons_append, holdUps, holdUps, inductionHypothesis, run_cons, Nat.add_assoc]

theorem holdUps_le_length (answers : List (Except String PutAnswer)) (phase : LoopPhase) :
    holdUps content answers phase ≤ answers.length := by
  induction answers generalizing phase with
  | nil => exact Nat.le_refl 0
  | cons put rest inductionHypothesis =>
      have later := inductionHypothesis (loopStep content phase put)
      rw [holdUps, List.length_cons]
      split
      · omega
      · omega

end Progress

/-- So many requests are enough for a file of this length if the loop is held back so many times. -/
def enoughRequests (limit length : Nat) : Nat :=
  (limit + 1) * (2 * length + 1)

theorem length_firstAnswers (answers : Nat → Except String PutAnswer) (requests : Nat) :
    (firstAnswers answers requests).length = requests := by
  rw [firstAnswers, List.length_map, List.length_range]

theorem firstAnswers_add (answers : Nat → Except String PutAnswer) (first second : Nat) :
    firstAnswers answers (first + second) =
      firstAnswers answers first ++ firstAnswers (fun place => answers (first + place)) second := by
  rw [firstAnswers, List.range_add, List.map_append, List.map_map]
  rfl

section Bounds

variable {content : Content} {started : Except String String} {answers : Nat → Except String PutAnswer}

theorem returnsWithin_of_heldUpAtMost {limit : Nat} (held : HeldUpAtMost content started answers limit) :
    ReturnsWithin content started answers (enoughRequests limit content.bytes.length) := by
  have returned : (doResumableUpload content started
      (firstAnswers answers (enoughRequests limit content.bytes.length))).result.isSome = true := by
    rw [← Bool.not_eq_false, Option.isSome_eq_false_iff, Option.isNone_iff_eq_none]
    intro goesOn
    have length := length_le_of_goesOn (sound_loopStart content started) goesOn
    have few := Nat.mul_le_mul_right (2 * content.bytes.length + 1)
      (held (enoughRequests limit content.bytes.length))
    have start : remaining content (loopStart content started) ≤ 2 * content.bytes.length := by
      cases started with
      | error failure => exact Nat.zero_le _
      | ok uri => exact remaining_loopHead_le content 0
    rw [length_firstAnswers, enoughRequests, Nat.add_mul, Nat.one_mul] at length
    rw [enoughRequests, Nat.add_mul, Nat.one_mul] at few
    omega
  exact ⟨returned, returned⟩

theorem heldUpAtMost_of_returnsWithin {bound : Nat} (returns : ReturnsWithin content started answers bound) :
    HeldUpAtMost content started answers bound := by
  intro requests
  rcases Option.isSome_iff_exists.mp returns.1 with ⟨result, returned⟩
  rw [doResumableUpload] at returned
  rcases Nat.le_total requests bound with early | late
  · have counted := @holdUps_le_length content (firstAnswers answers requests) (loopStart content started)
    rw [length_firstAnswers] at counted
    exact counted.trans early
  · rcases Nat.exists_eq_add_of_le late with ⟨more, same⟩
    have counted := @holdUps_le_length content (firstAnswers answers bound) (loopStart content started)
    rw [length_firstAnswers] at counted
    rw [same, firstAnswers_add, holdUps_append, holdUps_of_result returned, Nat.add_zero]
    exact counted

end Bounds

/-- The uploads return within a bound that only depends on the length of the file exactly against
the servers that hold the loop back only so many times as the length of the file tells. -/
theorem returns_within_iff
    (Answers : Content → Except String String → (Nat → Except String PutAnswer) → Prop) :
    (∃ bound : Nat → Nat, ∀ content started answers, Answers content started answers →
      ReturnsWithin content started answers (bound content.bytes.length)) ↔
    ∃ limit : Nat → Nat, ∀ content started answers, Answers content started answers →
      HeldUpAtMost content started answers (limit content.bytes.length) := by
  constructor
  · rintro ⟨bound, returns⟩
    exact ⟨bound, fun content started answers some_ => heldUpAtMost_of_returnsWithin (returns _ _ _ some_)⟩
  · rintro ⟨limit, held⟩
    exact ⟨fun length => enoughRequests (limit length) length,
      fun content started answers some_ => returnsWithin_of_heldUpAtMost (held _ _ _ some_)⟩

/-! ## A server that fails every chunk -/

/-- Every chunk fails, and every query is answered with nothing received. -/
def failsChunks (request : Nat) : Except String PutAnswer :=
  if request % 2 = 0 then .error "unexpected status 503 on resumable upload chunk PUT: "
  else .ok ⟨308, none, .error "no body", ""⟩

theorem firstAnswers_failsChunks (rounds : Nat) :
    firstAnswers failsChunks (2 * (rounds + 1)) =
      firstAnswers failsChunks (2 * rounds) ++ [failsChunks 0, failsChunks 1] := by
  have even : failsChunks (2 * rounds + 0) = failsChunks 0 := by
    rw [failsChunks, if_pos (by omega)]
    rfl
  have odd : failsChunks (2 * rounds + 1) = failsChunks 1 := by
    rw [failsChunks, if_neg (by omega)]
    rfl
  rw [Nat.mul_succ, firstAnswers_add]
  change _ ++ [failsChunks (2 * rounds + 0), failsChunks (2 * rounds + 1)] = _
  rw [even, odd]

/-- The loop sends the first chunk over and over. -/
theorem run_failsChunks {content : Content} {request : ChunkRequest} (sends : loopHead content 0 = .sending request)
    (rounds : Nat) :
    run (loopStep content) (firstAnswers failsChunks (2 * rounds)) (.sending request) = .sending request := by
  induction rounds with
  | zero => rfl
  | succ rounds inductionHypothesis =>
      rw [firstAnswers_failsChunks, run_append, inductionHypothesis]
      exact sends

/-- A file of one chunk. -/
def oneChunk : Content where
  bytes := List.replicate 5242880 0
  short := by
    rw [List.length_replicate]
    decide

/-- With a server that fails every chunk and answers every query neither upload ever returns. -/
theorem failing_chunks_never_return : ¬ ∃ bound, ReturnsWithin oneChunk (.ok "/upload") failsChunks bound := by
  rintro ⟨bound, returns⟩
  have length : oneChunk.bytes.length = 5242880 := List.length_replicate
  rcases Option.isSome_iff_exists.mp returns.1 with ⟨result, returned⟩
  rw [doResumableUpload] at returned
  rcases loopHead_cases oneChunk 0 with ⟨request, sends, _⟩ | ⟨beyond, _⟩
  · have start : loopStart oneChunk (.ok "/upload") = .sending request := sends
    have later := run_failsChunks sends bound
    rw [start] at returned
    rw [Nat.two_mul, firstAnswers_add, run_append, run_of_result returned] at later
    rw [later] at returned
    cases returned
  · rw [UInt64.lt_iff_toNat_lt, toNat_fileLen, length] at beyond
    exact absurd (by decide) beyond

end Chunks
end Sync
end GDriver
