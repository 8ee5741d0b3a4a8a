import Mathlib.Data.List.TakeDrop

namespace GDriver
namespace Library

universe u

/-!
# Splicing

What a sequence of bytes is after others were written over it at an offset: the bytes
before and behind stay, and a gap before the offset is filled.
-/

section Splicing

variable {α : Type u} (fill : α)

/-- Write over a content at an offset.  Nothing written changes nothing. -/
def splice (content : List α) (offset : Nat) (data : List α) : List α :=
  if data.isEmpty then content
  else content.takeD offset fill ++ data ++ content.drop (offset + data.length)

variable {fill} {content data : List α} {offset : Nat}

theorem splice_nil : splice fill content offset [] = content := rfl

theorem splice_of_ne_nil (some_ : data ≠ []) :
    splice fill content offset data =
      content.takeD offset fill ++ data ++ content.drop (offset + data.length) := by
  rw [splice, if_neg]
  rw [List.isEmpty_iff]
  exact some_

/-- Only blanks are taken from a content that is blank up to the offset. -/
theorem takeD_eq_replicate_iff :
    content.takeD offset fill = List.replicate offset fill ↔ ∀ item ∈ content.take offset, item = fill := by
  induction offset generalizing content with
  | zero =>
      refine iff_of_true rfl fun item member => ?_
      cases member
  | succ offset inductionHypothesis =>
      cases content with
      | nil =>
          refine iff_of_true (List.takeD_nil _ _) fun item member => ?_
          cases member
      | cons first rest =>
          rw [List.takeD_succ, List.replicate_succ, List.cons.injEq, List.tail_cons, inductionHypothesis]
          simp only [List.head?_cons, Option.getD_some, List.take_succ_cons, List.forall_mem_cons]

/-- A splice into blanks that covers the rest is the data behind blanks. -/
theorem splice_eq_iff (some_ : data ≠ []) :
    splice fill content offset data = List.replicate offset fill ++ data ↔
      (∀ item ∈ content.take offset, item = fill) ∧ content.length ≤ offset + data.length := by
  rw [splice_of_ne_nil some_, List.append_assoc]
  constructor
  · intro same
    have sameLength : (content.takeD offset fill).length = (List.replicate offset fill).length := by
      rw [List.takeD_length, List.length_replicate]
    rcases List.append_inj same sameLength with ⟨before, behind⟩
    refine ⟨takeD_eq_replicate_iff.mp before, ?_⟩
    have rest := congrArg List.length behind
    rw [List.length_append, List.length_drop] at rest
    omega
  · rintro ⟨blank, covered⟩
    rw [takeD_eq_replicate_iff.mpr blank, List.drop_eq_nil_of_le covered, List.append_nil]

end Splicing

end Library
end GDriver
