import Mathlib.Data.List.Basic

namespace GDriver
namespace Library

/-!
# Serving a waiting line

In each turn the first of a line is served.  It leaves the line, or it stays first
and is served again.  Who is served is decided by how many have left before.
-/

variable {α : Type}

/-- Those who are served, turn by turn.  Each turn says whether the one it serves
leaves. -/
def served : List Bool → List α → List α
  | [], _ => []
  | _ :: _, [] => []
  | leaves :: later, first :: rest =>
      first :: served later (if leaves then rest else first :: rest)

/-- How many of the line are served: those who leave, and the one who is served last. -/
def reach : List Bool → Nat
  | [] => 0
  | leaves :: later => max 1 (leaves.toNat + reach later)

/-- Who is served is among the first of the line, as far as the turns reach. -/
theorem mem_served_iff (turns : List Bool) (people : List α) (one : α) :
    one ∈ served turns people ↔ ∃ position < reach turns, people[position]? = some one := by
  induction turns generalizing people with
  | nil =>
      refine iff_of_false List.not_mem_nil ?_
      rintro ⟨position, within, _⟩
      exact Nat.not_lt_zero position within
  | cons leaves later inductionHypothesis =>
      cases people with
      | nil =>
          refine iff_of_false List.not_mem_nil ?_
          rintro ⟨position, _, found⟩
          cases found
      | cons first rest =>
          rw [served, List.mem_cons, inductionHypothesis, reach]
          cases leaves with
          | true =>
              rw [if_pos rfl, Bool.toNat_true]
              constructor
              · rintro (same | ⟨position, within, found⟩)
                · exact ⟨0, by omega, congrArg some same.symm⟩
                · exact ⟨position + 1, by omega, found⟩
              · rintro ⟨position, within, found⟩
                cases position with
                | zero => exact Or.inl (Option.some.inj found).symm
                | succ position => exact Or.inr ⟨position, by omega, found⟩
          | false =>
              rw [if_neg Bool.false_ne_true, Bool.toNat_false, Nat.zero_add]
              constructor
              · rintro (same | ⟨position, within, found⟩)
                · exact ⟨0, by omega, congrArg some same.symm⟩
                · exact ⟨position, by omega, found⟩
              · rintro ⟨position, within, found⟩
                cases position with
                | zero => exact Or.inl (Option.some.inj found).symm
                | succ position => exact Or.inr ⟨position + 1, by omega, found⟩

/-- When everybody leaves, the turns reach as far as there are turns. -/
theorem reach_of_all_leave {turns : List Bool} (all : ∀ leaves ∈ turns, leaves = true) :
    reach turns = turns.length := by
  induction turns with
  | nil => rfl
  | cons leaves later inductionHypothesis =>
      rw [reach, all leaves List.mem_cons_self, Bool.toNat_true,
        inductionHypothesis fun other member => all other (List.mem_cons_of_mem _ member),
        List.length_cons]
      omega

end Library
end GDriver
