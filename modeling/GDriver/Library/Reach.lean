import Mathlib.Logic.Relation

namespace GDriver
namespace Library

universe u

/-!
# Reaching through a changing graph

A relation leads from nodes to nodes; what is reached from a root is reached by finitely many
of its steps.  The rules say what is still reached after one node was added, removed or moved.
They ask about single steps only.  A moved node must not get a place below itself: when every
node is entered from one side only, nothing below it is reached any more if it does.
-/

open Relation

section Reach

variable {α : Type u} {leads later : α → α → Prop} {root node place : α}

/-- What is not below a changed node is reached as before. -/
theorem reach_of_avoids (others : ∀ one two, two ≠ node → leads one two → later one two) {other : α}
    (reached : ReflTransGen leads root other) (avoids : ¬ ReflTransGen leads node other) :
    ReflTransGen later root other := by
  induction reached with
  | refl => exact ReflTransGen.refl
  | @tail one two before step inductionHypothesis =>
      have apart : two ≠ node := by
        intro same
        subst same
        exact avoids ReflTransGen.refl
      have above : ¬ ReflTransGen leads node one := fun below => avoids (below.tail step)
      exact (inductionHypothesis above).tail (others one two apart step)

/-- What is below a changed node is reached when the node is. -/
theorem reach_of_below (others : ∀ one two, two ≠ node → leads one two → later one two)
    (reached : ReflTransGen later root node) {other : α} (below : ReflTransGen leads node other) :
    ReflTransGen later root other := by
  induction below with
  | refl => exact reached
  | @tail one two before step inductionHypothesis =>
      by_cases same : two = node
      · rw [same]
        exact reached
      · exact inductionHypothesis.tail (others one two same step)

/-- After a node was moved to a place that is not below it, everything is reached as before. -/
theorem reach_of_moved (others : ∀ one two, two ≠ node → leads one two → later one two)
    (placed : later place node) (open_ : ReflTransGen leads root place)
    (above : ¬ ReflTransGen leads node place) {other : α} (reached : ReflTransGen leads root other) :
    ReflTransGen later root other := by
  by_cases below : ReflTransGen leads node other
  · exact reach_of_below others ((reach_of_avoids others open_ above).tail placed) below
  · exact reach_of_avoids others reached below

/-- After a node that leads nowhere was removed, everything else is reached as before. -/
theorem reach_of_removed (others : ∀ one two, two ≠ node → leads one two → later one two)
    (leaf : ∀ other, ¬ leads node other) {other : α} (reached : ReflTransGen leads root other)
    (apart : other ≠ node) : ReflTransGen later root other := by
  refine reach_of_avoids others reached fun below => ?_
  cases ReflTransGen.cases_head below with
  | inl same => exact apart same.symm
  | inr first =>
      rcases first with ⟨child, step, _⟩
      exact leaf child step

/-- A node that was moved below itself is not reached, and nothing that was below it. -/
theorem not_reached_of_cycle (entered : ∀ one two other, two ≠ node → later one two → leads other two → one = other)
    (held : ∀ one, later one node → one = place) (below : ReflTransGen leads node place)
    (outside : ¬ ReflTransGen leads node root) {other : α} (inside : ReflTransGen leads node other) :
    ¬ ReflTransGen later root other := by
  intro reached
  induction reached with
  | refl => exact outside inside
  | @tail one two before step inductionHypothesis =>
      by_cases same : two = node
      · rw [same] at step
        rw [held one step] at inductionHypothesis
        exact inductionHypothesis below
      · cases ReflTransGen.cases_tail inside with
        | inl here => exact same here
        | inr last =>
            rcases last with ⟨parent, toParent, leadsIn⟩
            rw [← entered one two parent same step leadsIn] at toParent
            exact inductionHypothesis toParent

end Reach

end Library
end GDriver
