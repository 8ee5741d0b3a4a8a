import GDriver.Library.Path

namespace GDriver
namespace Library

/-!
# Joining and taking apart

A list of texts is joined by a separator of one character, and a text is taken apart at this character.
Taking apart is undone by joining, and joining is undone where no text has the separator in it.
-/

section Joining

variable {char : Char} {separator : String}

theorem toList_join_cons (single : separator.toList = [char]) (part second : String) (rest : List String) :
    (join separator (part :: second :: rest)).toList =
      part.toList ++ char :: (join separator (second :: rest)).toList := by
  rw [join, String.toList_append, String.toList_append, single, List.append_assoc]
  · rfl
  · exact List.cons_ne_nil _ _

/-- Parts that do not have the separator in them are found again. -/
theorem splitAtEvery_joined (single : separator.toList = [char]) {parts : List String} (some_ : parts ≠ [])
    (absent : ∀ part ∈ parts, char ∉ part.toList) :
    splitAtEvery char (join separator parts).toList = parts.map String.toList := by
  induction parts with
  | nil => exact absurd rfl some_
  | cons part rest inductionHypothesis =>
      have whole := absent part List.mem_cons_self
      cases rest with
      | nil => exact splitAtEvery_of_notMem whole
      | cons second rest =>
          have later := inductionHypothesis (List.cons_ne_nil _ _) fun other member =>
            absent other (List.mem_cons_of_mem _ member)
          rw [toList_join_cons single, splitAtEvery_append, splitAtEvery_of_notMem whole, later]
          rfl

/-- What a text is taken apart into is joined to the text again. -/
theorem join_splitAtEvery (single : separator.toList = [char]) (text : List Char) :
    (join separator ((splitAtEvery char text).map String.ofList)).toList = text := by
  induction text with
  | nil => rfl
  | cons first rest inductionHypothesis =>
      rw [splitAtEvery]
      cases parts : splitAtEvery char rest with
      | nil => exact absurd parts (splitAtEvery_ne_nil char rest)
      | cons part others =>
          rw [parts, List.map_cons] at inductionHypothesis
          split
          · next same =>
              rw [List.map_cons, List.map_cons, toList_join_cons single, inductionHypothesis, same]
              rfl
          · rw [List.map_cons]
            cases others with
            | nil =>
                rw [List.map_nil, join, String.toList_ofList] at inductionHypothesis ⊢
                rw [inductionHypothesis]
            | cons second others =>
                rw [List.map_cons, toList_join_cons single, String.toList_ofList] at inductionHypothesis ⊢
                rw [List.cons_append, inductionHypothesis]

end Joining

end Library
end GDriver
