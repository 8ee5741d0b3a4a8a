import Mathlib.Data.List.Basic

namespace GDriver
namespace Library

universe u

/-!
# Frames of a stream

A sender ends each frame with a separator that no frame holds.  However the stream is cut into pieces, what
stands before the first separator is the first frame: a receiver that waits for a separator reads the frames
that were sent, one after the other.
-/

section Frames

variable {α : Type u}

/-- The frames as they are sent. -/
def framed (separator : α) (frames : List (List α)) : List α :=
  frames.flatMap fun frame => frame ++ [separator]

@[simp] theorem framed_nil (separator : α) : framed separator [] = [] := rfl

theorem framed_cons (separator : α) (frame : List α) (rest : List (List α)) :
    framed separator (frame :: rest) = frame ++ separator :: framed separator rest := by
  rw [framed, List.flatMap_cons, List.append_assoc]
  rfl

theorem framed_append (separator : α) (first second : List (List α)) :
    framed separator (first ++ second) = framed separator first ++ framed separator second :=
  List.flatMap_append

theorem framed_singleton (separator : α) (frame : List α) : framed separator [frame] = frame ++ [separator] :=
  framed_cons separator frame []

/-- Nothing is sent only when there is no frame. -/
theorem framed_eq_nil_iff {separator : α} {frames : List (List α)} : framed separator frames = [] ↔ frames = [] := by
  cases frames with
  | nil => exact iff_of_true rfl rfl
  | cons frame rest =>
      rw [framed_cons]
      exact iff_of_false (fun impossible => List.cons_ne_nil _ _ (List.append_eq_nil_iff.mp impossible).2)
        (List.cons_ne_nil _ _)

/-- What stands before the first separator is determined. -/
theorem eq_of_append_separator {separator : α} {first other rest more : List α} (absent : separator ∉ first)
    (also : separator ∉ other) (same : first ++ separator :: rest = other ++ separator :: more) :
    first = other ∧ rest = more := by
  induction first generalizing other with
  | nil =>
      cases other with
      | nil => exact ⟨rfl, List.tail_eq_of_cons_eq same⟩
      | cons item others =>
          have found : separator = item := List.head_eq_of_cons_eq same
          exact absurd (found ▸ List.mem_cons_self) also
  | cons item items inductionHypothesis =>
      cases other with
      | nil =>
          have found : item = separator := List.head_eq_of_cons_eq same
          exact absurd (found ▸ List.mem_cons_self) absent
      | cons another others =>
          have heads : item = another := List.head_eq_of_cons_eq same
          have tails := inductionHypothesis (fun member => absent (List.mem_cons_of_mem _ member))
            (fun member => also (List.mem_cons_of_mem _ member)) (List.tail_eq_of_cons_eq same)
          rw [heads, tails.1]
          exact ⟨rfl, tails.2⟩

/-- A frame that was received whole is the first one of those that were sent. -/
theorem of_framed_received {separator : α} {frames : List (List α)} (whole : ∀ frame ∈ frames, separator ∉ frame)
    {received rest : List α} (absent : separator ∉ received)
    (stream : received ++ separator :: rest = framed separator frames) :
    ∃ later, frames = received :: later ∧ rest = framed separator later := by
  cases frames with
  | nil => exact absurd (stream.trans rfl) (List.append_ne_nil_of_right_ne_nil _ (List.cons_ne_nil _ _))
  | cons frame later =>
      rw [framed_cons] at stream
      rcases eq_of_append_separator absent (whole frame List.mem_cons_self) stream with ⟨same, left⟩
      exact ⟨later, by rw [same], left⟩

/-- What was received without any separator is nothing, or the beginning of the first frame. -/
theorem of_framed_unfinished {separator : α} {frames : List (List α)} {received rest : List α}
    (absent : separator ∉ received) (stream : received ++ rest = framed separator frames) (ends : rest = []) :
    frames = [] := by
  cases frames with
  | nil => rfl
  | cons frame later =>
      rw [ends, List.append_nil, framed_cons] at stream
      exact absurd (stream ▸ List.mem_append_right frame List.mem_cons_self) absent

end Frames

end Library
end GDriver
