import Mathlib.Data.List.Perm.Subperm
import Mathlib.Logic.Relation

namespace GDriver
namespace Library

universe u

/-!
# Following a partial function

A partial function leads from a node to at most one other, as a reference to a parent does.
Following it from a node ends where it leads nowhere.  It does not end when it runs into a
cycle, and among finitely many nodes that lead somewhere there is no other way not to end.
-/

open Relation

section Follow

variable {α : Type u} (next : α → Option α)

/-- One step of the way. -/
def LeadsTo (node above : α) : Prop :=
  next node = some above

/-- Whether the way from a node ends within this many steps. -/
def endsWithin : Nat → α → Bool
  | 0, _ => false
  | steps + 1, node =>
      match next node with
      | none => true
      | some above => endsWithin steps above

/-- The way from a node runs into a cycle. -/
def RunsIntoCycle (node : α) : Prop :=
  ∃ above, ReflTransGen (LeadsTo next) node above ∧ TransGen (LeadsTo next) above above

/-- No node is above itself. -/
def Acyclic : Prop :=
  ∀ node, ¬ TransGen (LeadsTo next) node node

variable {next}

theorem endsWithin_of_none {node : α} (last : next node = none) (steps : Nat) :
    endsWithin next (steps + 1) node = true := by
  rw [endsWithin, last]

theorem endsWithin_of_some {node above : α} (leads : next node = some above) (steps : Nat) :
    endsWithin next (steps + 1) node = endsWithin next steps above := by
  rw [endsWithin, leads]

/-- A way into a cycle goes on, and what comes next is on a way into a cycle. -/
theorem RunsIntoCycle.goesOn {node : α} (cyclic : RunsIntoCycle next node) :
    ∃ above, next node = some above ∧ RunsIntoCycle next above := by
  rcases cyclic with ⟨top, reached, cycle⟩
  cases ReflTransGen.cases_head reached with
  | inl same =>
      rw [same]
      rcases TransGen.head'_iff.mp cycle with ⟨above, leads, back⟩
      exact ⟨above, leads, top, back, cycle⟩
  | inr further =>
      rcases further with ⟨above, leads, later⟩
      exact ⟨above, leads, top, later, cycle⟩

/-- A way that runs into a cycle never ends. -/
theorem not_endsWithin_of_cycle {node : α} (cyclic : RunsIntoCycle next node) (steps : Nat) :
    endsWithin next steps node = false := by
  induction steps generalizing node with
  | zero => rfl
  | succ steps inductionHypothesis =>
      rcases cyclic.goesOn with ⟨above, leads, later⟩
      rw [endsWithin_of_some leads]
      exact inductionHypothesis later

theorem RunsIntoCycle.of_above {node above : α} (leads : next node = some above)
    (cyclic : RunsIntoCycle next above) : RunsIntoCycle next node := by
  rcases cyclic with ⟨top, reached, cycle⟩
  exact ⟨top, ReflTransGen.head leads reached, cycle⟩

/-- Without a cycle, a way of so many steps meets as many nodes. -/
theorem exists_visited {steps : Nat} {node : α} (open_ : ¬ RunsIntoCycle next node)
    (goesOn : endsWithin next steps node = false) :
    ∃ visited : List α, visited.length = steps ∧ visited.Nodup ∧
      ∀ other ∈ visited, ReflTransGen (LeadsTo next) node other ∧ (next other).isSome := by
  induction steps generalizing node with
  | zero =>
      refine ⟨[], rfl, List.nodup_nil, ?_⟩
      intro other member
      cases member
  | succ steps inductionHypothesis =>
      cases leads : next node with
      | none =>
          rw [endsWithin_of_none leads] at goesOn
          cases goesOn
      | some above =>
          rw [endsWithin_of_some leads] at goesOn
          have later : ¬ RunsIntoCycle next above := fun cyclic => open_ (cyclic.of_above leads)
          rcases inductionHypothesis later goesOn with ⟨visited, length, distinct, met⟩
          have fresh : node ∉ visited := by
            intro again
            exact open_ ⟨node, ReflTransGen.refl, TransGen.head' leads (met node again).1⟩
          refine ⟨node :: visited, ?_, List.nodup_cons.mpr ⟨fresh, distinct⟩, ?_⟩
          · rw [List.length_cons, length]
          · intro other member
            rcases List.mem_cons.mp member with here | inside
            · rw [here]
              exact ⟨ReflTransGen.refl, Option.isSome_of_mem leads⟩
            · exact ⟨ReflTransGen.head leads (met other inside).1, (met other inside).2⟩

section Finite

variable {nodes : List α} (known : ∀ node, (next node).isSome → node ∈ nodes)
include known

/-- Among finitely many nodes a way without a cycle ends after at most all of them. -/
theorem endsWithin_of_no_cycle {node : α} (open_ : ¬ RunsIntoCycle next node) {steps : Nat}
    (enough : nodes.length < steps) : endsWithin next steps node = true := by
  by_contra goesOn
  rcases exists_visited open_ (Bool.not_eq_true _ ▸ goesOn) with ⟨visited, length, distinct, met⟩
  have inside : visited ⊆ nodes := fun other member => known other (met other member).2
  have bound := (distinct.subperm inside).length_le
  omega

/-- Among finitely many nodes a way ends exactly when it does not run into a cycle. -/
theorem exists_endsWithin_iff {node : α} :
    (∃ steps, endsWithin next steps node = true) ↔ ¬ RunsIntoCycle next node := by
  constructor
  · rintro ⟨steps, ends⟩ cyclic
    rw [not_endsWithin_of_cycle cyclic] at ends
    cases ends
  · intro open_
    exact ⟨nodes.length + 1, endsWithin_of_no_cycle known open_ (Nat.lt_succ_self _)⟩

end Finite

/-- Without a cycle anywhere, no way runs into one; and every cycle is on a way. -/
theorem acyclic_iff_forall : Acyclic next ↔ ∀ node, ¬ RunsIntoCycle next node := by
  constructor
  · rintro acyclic node ⟨top, _, cycle⟩
    exact acyclic top cycle
  · intro open_ node cycle
    exact open_ node ⟨node, ReflTransGen.refl, cycle⟩

/-- When the way from every node that leads somewhere ends, there is no cycle. -/
theorem acyclic_of_ends {nodes : List α} (known : ∀ node, (next node).isSome → node ∈ nodes) {steps : Nat}
    (ends : ∀ node ∈ nodes, endsWithin next steps node = true) : Acyclic next := by
  intro node cycle
  rcases TransGen.head'_iff.mp cycle with ⟨above, leads, _⟩
  have goesOn := not_endsWithin_of_cycle ⟨node, ReflTransGen.refl, cycle⟩ steps
  rw [ends node (known node (Option.isSome_of_mem leads))] at goesOn
  cases goesOn

end Follow

end Library
end GDriver
