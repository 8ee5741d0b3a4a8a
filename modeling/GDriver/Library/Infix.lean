import Mathlib.Data.List.Infix

namespace GDriver
namespace Library

universe u

/-!
# First occurrences

A text is split at the first place where a separator occurs in it.  What a reader finds
first is what the writer put there as long as the separator does not occur earlier; when
the separator begins with an item that it does not hold again, an occurrence cannot reach
from what stands before it into it.
-/

section Split

variable {α : Type u} [DecidableEq α]

/-- What stands before and after the first occurrence of a separator. -/
def splitFirst (separator : List α) : List α → Option (List α × List α)
  | [] => if separator = [] then some ([], []) else none
  | item :: rest =>
      if separator.isPrefixOf (item :: rest) then some ([], (item :: rest).drop separator.length)
      else (splitFirst separator rest).map fun parts => (item :: parts.1, parts.2)

theorem splitFirst_append (separator after : List α) :
    splitFirst separator (separator ++ after) = some ([], after) := by
  cases separator with
  | nil =>
      cases after with
      | nil => rfl
      | cons item rest => rfl
  | cons first others =>
      rw [List.cons_append, splitFirst, if_pos, ← List.cons_append, List.drop_left]
      exact List.isPrefixOf_iff_prefix.mpr (List.prefix_append (first :: others) after)

/-- Where the separator does not begin, it is looked for further on. -/
theorem splitFirst_cons {separator : List α} {item : α} {rest : List α}
    (differs : ¬ separator <+: item :: rest) :
    splitFirst separator (item :: rest) =
      (splitFirst separator rest).map fun parts => (item :: parts.1, parts.2) := by
  rw [splitFirst, if_neg]
  intro begins
  exact differs (List.isPrefixOf_iff_prefix.mp begins)

/-- A run of items that the separator does not begin with is passed over. -/
theorem splitFirst_skip {first : α} {others skipped : List α} (rest : List α)
    (differ : first ∉ skipped) :
    splitFirst (first :: others) (skipped ++ rest) =
      (splitFirst (first :: others) rest).map fun parts => (skipped ++ parts.1, parts.2) := by
  induction skipped with
  | nil =>
      rw [List.nil_append]
      cases splitFirst (first :: others) rest with
      | none => rfl
      | some parts => rfl
  | cons item skipped inductionHypothesis =>
      rw [List.mem_cons, not_or] at differ
      rw [List.cons_append, splitFirst_cons, inductionHypothesis differ.2, Option.map_map]
      · rfl
      · intro begins
        exact differ.1 (List.cons_prefix_cons.mp begins).1

/-- What is found is a part of the text. -/
theorem of_splitFirst {separator text before after : List α}
    (found : splitFirst separator text = some (before, after)) : text = before ++ separator ++ after := by
  induction text generalizing before with
  | nil =>
      rw [splitFirst] at found
      split at found
      · next empty =>
          cases found
          rw [empty]
          rfl
      · cases found
  | cons item rest inductionHypothesis =>
      rw [splitFirst] at found
      split at found
      · next begins =>
          cases found
          have same := List.prefix_iff_eq_append.mp (List.isPrefixOf_iff_prefix.mp begins)
          exact same.symm
      · rcases Option.map_eq_some_iff.mp found with ⟨parts, later, same⟩
        cases same
        rw [inductionHypothesis later]
        rfl

/-- Nothing occurs before the first occurrence, also not partly within it. -/
theorem splitFirst_of_not_infix {separator before : List α} (after : List α) (nonempty : separator ≠ [])
    (absent : ¬ separator <:+: before ++ separator.dropLast) :
    splitFirst separator (before ++ separator ++ after) = some (before, after) := by
  induction before with
  | nil => exact splitFirst_append separator after
  | cons item rest inductionHypothesis =>
      have later : ¬ separator <:+: rest ++ separator.dropLast := fun occurs =>
        absent (occurs.trans (List.suffix_cons item _).isInfix)
      rw [List.cons_append, List.cons_append, splitFirst_cons, inductionHypothesis later]
      · rfl
      · intro begins
        refine absent (List.IsPrefix.isInfix ?_)
        have whole : item :: (rest ++ separator ++ after) =
            (item :: rest ++ separator.dropLast) ++ (separator.getLast nonempty :: after) := by
          conv_lhs => rw [← List.dropLast_append_getLast nonempty]
          simp only [List.cons_append, List.append_assoc, List.nil_append]
        rw [whole] at begins
        refine List.prefix_of_prefix_length_le begins (List.prefix_append _ _) ?_
        rw [List.length_append, List.length_cons, List.length_dropLast]
        have positive := List.length_pos_iff.mpr nonempty
        omega

end Split

section Border

variable {α : Type u}

/-- An occurrence of a separator that begins with an item it does not hold again cannot
overlap another. -/
theorem infix_of_infix_append_dropLast {first : α} {others text : List α} (fresh : first ∉ others)
    (occurs : first :: others <:+: text ++ (first :: others).dropLast) : first :: others <:+: text := by
  rcases occurs with ⟨before, after, parts⟩
  rcases List.append_eq_append_iff.mp parts with ⟨within, same, _⟩ | ⟨beyond, same, rest⟩
  · exact ⟨before, within, same.symm⟩
  · have short : beyond.length ≤ others.length := by
      have counted := congrArg List.length rest
      rw [List.length_append, List.length_dropLast, List.length_cons] at counted
      omega
    rcases List.append_eq_append_iff.mp same with ⟨start, ends, whole⟩ | ⟨start, _, whole⟩
    · cases beyond with
      | nil =>
          rw [List.append_nil] at whole
          rw [ends, whole]
          exact (List.suffix_append before start).isInfix
      | cons again later =>
          -- the separator would hold its first item again
          have begins : again = first := by
            cases others with
            | nil => exact absurd short (Nat.not_succ_le_zero _)
            | cons second more =>
                rw [List.dropLast_cons_cons, List.cons_append] at rest
                exact (List.cons.inj rest).1.symm
          cases start with
          | nil =>
              rw [List.nil_append] at whole
              rw [← whole, List.length_cons] at short
              exact absurd short (Nat.not_succ_le_self _)
          | cons leading middle =>
              rw [List.cons_append] at whole
              rw [(List.cons.inj whole).2, begins] at fresh
              exact absurd (List.mem_append_right _ List.mem_cons_self) fresh
    · have counted := congrArg List.length whole
      rw [List.length_append, List.length_cons] at counted
      omega

/-- Such a separator is found where it was put, unless it occurs in what was put before it. -/
theorem splitFirst_of_fresh [DecidableEq α] {first : α} {others before : List α} (after : List α)
    (fresh : first ∉ others) (absent : ¬ first :: others <:+: before) :
    splitFirst (first :: others) (before ++ (first :: others) ++ after) = some (before, after) :=
  splitFirst_of_not_infix after (List.cons_ne_nil _ _) fun occurs =>
    absent (infix_of_infix_append_dropLast fresh occurs)

/-- A separator that occurs in what was put before is found there. -/
theorem splitFirst_of_infix [DecidableEq α] {separator text : List α} (rest : List α) (occurs : separator <:+: text) :
    ∃ before after, splitFirst separator (text ++ rest) = some (before, after) ∧
      before.length + separator.length ≤ text.length := by
  induction text with
  | nil =>
      rw [List.eq_nil_of_infix_nil occurs]
      exact ⟨[], rest, splitFirst_append [] rest, Nat.le_refl 0⟩
  | cons item text inductionHypothesis =>
      rw [List.cons_append]
      by_cases begins : separator <+: item :: (text ++ rest)
      · refine ⟨[], (item :: (text ++ rest)).drop separator.length, ?_, ?_⟩
        · rw [splitFirst, if_pos (List.isPrefixOf_iff_prefix.mpr begins)]
        · rw [List.length_nil, Nat.zero_add]
          exact occurs.length_le
      · rcases List.infix_cons_iff.mp occurs with starts | later
        · exact absurd (starts.trans (List.prefix_append (item :: text) rest)) begins
        · rcases inductionHypothesis later with ⟨before, after, found, short⟩
          rw [splitFirst_cons begins, found]
          exact ⟨item :: before, after, rfl, by rw [List.length_cons, List.length_cons]; omega⟩

end Border

end Library
end GDriver
