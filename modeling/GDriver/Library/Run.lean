import Mathlib.Logic.Basic

namespace GDriver
namespace Library

universe u v w

/-!
# Runs of a step function

A system is a function that carries out one operation on a state; a run is a
list of operations.  A condition on single steps holds along a run when it
holds of each operation in the state it meets.  What one step preserves under
the condition, a run preserves along which the condition holds.
-/

section Runs

variable {σ : Type u} {α : Type v} (exec : σ → α → σ)

/-- The state at the end of a run. -/
def run (operations : List α) (state : σ) : σ :=
  operations.foldl exec state

@[simp] theorem run_nil (state : σ) : run exec [] state = state := rfl

@[simp] theorem run_cons (operation : α) (rest : List α) (state : σ) :
    run exec (operation :: rest) state = run exec rest (exec state operation) := rfl

theorem run_append (first second : List α) (state : σ) :
    run exec (first ++ second) state = run exec second (run exec first state) :=
  List.foldl_append

/-- The condition holds of every operation in the state it meets. -/
def Along (condition : σ → α → Prop) : List α → σ → Prop
  | [], _ => True
  | operation :: rest, state =>
      condition state operation ∧ Along condition rest (exec state operation)

instance decidableAlong {condition : σ → α → Prop}
  [decides : ∀ state operation, Decidable (condition state operation)] :
    ∀ operations state, Decidable (Along exec condition operations state)
  | [], _ => isTrue trivial
  | operation :: rest, state =>
      @instDecidableAnd _ _ (decides state operation) (decidableAlong rest (exec state operation))

theorem along_append {condition : σ → α → Prop} (first second : List α) (state : σ) :
    Along exec condition (first ++ second) state ↔
      Along exec condition first state ∧ Along exec condition second (run exec first state) := by
  induction first generalizing state with
  | nil => exact (iff_of_eq (true_and _)).symm
  | cons operation rest inductionHypothesis =>
      exact (and_congr_right fun _ => inductionHypothesis _).trans (and_assoc.symm)

/-- Conditions that agree on every single step agree along every run. -/
theorem along_congr {condition other : σ → α → Prop}
    (agree : ∀ state operation, condition state operation ↔ other state operation)
    (operations : List α) (state : σ) :
    Along exec condition operations state ↔ Along exec other operations state := by
  induction operations generalizing state with
  | nil => exact Iff.rfl
  | cons operation rest inductionHypothesis =>
      exact and_congr (agree state operation) (inductionHypothesis _)

/-- A condition on operations alone may be joined to one along the run. -/
theorem along_and_of_forall {condition : σ → α → Prop} {other : α → Prop}
    {operations : List α} {state : σ} (along : Along exec condition operations state)
    (all : ∀ operation ∈ operations, other operation) :
    Along exec (fun state operation => condition state operation ∧ other operation) operations
      state := by
  induction operations generalizing state with
  | nil => trivial
  | cons operation rest inductionHypothesis =>
      exact ⟨⟨along.1, all operation List.mem_cons_self⟩,
        inductionHypothesis along.2 fun later member => all later (List.mem_cons_of_mem _ member)⟩

/-- A property holds in every state that a run reaches, the first one included. -/
def Throughout (property : σ → Prop) : List α → σ → Prop
  | [], state => property state
  | operation :: rest, state => property state ∧ Throughout property rest (exec state operation)

/-- What the steps of a run note, in order. -/
def notes {β : Type w} (note : σ → α → Option β) : List α → σ → List β
  | [], _ => []
  | operation :: rest, state =>
      (note state operation).toList ++ notes note rest (exec state operation)

theorem Throughout.first {property : σ → Prop} {operations : List α} {state : σ}
    (throughout : Throughout exec property operations state) : property state := by
  cases operations with
  | nil => exact throughout
  | cons operation rest => exact throughout.1

theorem Throughout.last {property : σ → Prop} {operations : List α} {state : σ}
    (throughout : Throughout exec property operations state) : property (run exec operations state) := by
  induction operations generalizing state with
  | nil => exact throughout
  | cons operation rest inductionHypothesis => exact inductionHypothesis throughout.2

/-- What holds in every state holds where each operation meets it. -/
theorem Throughout.along {property : σ → Prop} {operations : List α} {state : σ}
    (throughout : Throughout exec property operations state) :
    Along exec (fun state _ => property state) operations state := by
  induction operations generalizing state with
  | nil => trivial
  | cons operation rest inductionHypothesis => exact ⟨throughout.1, inductionHypothesis throughout.2⟩

variable {exec}

/-- What a step preserves under a condition holds at the end of a run along
which the condition holds. -/
theorem run_of_along {condition : σ → α → Prop} {invariant : σ → Prop}
    (preserved : ∀ state operation, condition state operation → invariant state →
      invariant (exec state operation))
    {operations : List α} {state : σ} (along : Along exec condition operations state)
    (initially : invariant state) : invariant (run exec operations state) := by
  induction operations generalizing state with
  | nil => exact initially
  | cons operation rest inductionHypothesis =>
      exact inductionHypothesis along.2 (preserved state operation along.1 initially)

theorem along_true (operations : List α) (state : σ) :
    Along exec (fun _ _ => True) operations state := by
  induction operations generalizing state with
  | nil => trivial
  | cons operation rest inductionHypothesis => exact ⟨trivial, inductionHypothesis _⟩

/-- What every step preserves holds at the end of a run. -/
theorem run_preserves {invariant : σ → Prop}
    (preserved : ∀ state operation, invariant state → invariant (exec state operation))
    {state : σ} (initially : invariant state) (operations : List α) : invariant (run exec operations state) :=
  run_of_along (fun state operation _ => preserved state operation) (along_true operations state) initially

/-- A state that no operation changes is where the run ends. -/
theorem run_of_still {state : σ} (still : ∀ operation, exec state operation = state) (operations : List α) :
    run exec operations state = state := by
  induction operations with
  | nil => rfl
  | cons operation rest inductionHypothesis =>
      rw [run_cons, still operation]
      exact inductionHypothesis

theorem Throughout.mono {property other : σ → Prop} (weaker : ∀ state, property state → other state)
    {operations : List α} {state : σ} (throughout : Throughout exec property operations state) :
    Throughout exec other operations state := by
  induction operations generalizing state with
  | nil => exact weaker state throughout
  | cons operation rest inductionHypothesis =>
      exact ⟨weaker state throughout.1, inductionHypothesis throughout.2⟩

/-- It holds in every state that the run reaches. -/
theorem throughout_of_along {condition : σ → α → Prop} {invariant : σ → Prop}
    (preserved : ∀ state operation, condition state operation → invariant state →
      invariant (exec state operation))
    {operations : List α} {state : σ} (along : Along exec condition operations state)
    (initially : invariant state) : Throughout exec invariant operations state := by
  induction operations generalizing state with
  | nil => exact initially
  | cons operation rest inductionHypothesis =>
      exact ⟨initially, inductionHypothesis along.2 (preserved state operation along.1 initially)⟩

/-- What follows on single steps from a condition and from what they preserve, follows along a run. -/
theorem along_of_along {condition other : σ → α → Prop} {invariant : σ → Prop}
    (preserved : ∀ state operation, condition state operation → invariant state →
      invariant (exec state operation))
    (implies : ∀ state operation, condition state operation → invariant state → other state operation)
    {operations : List α} {state : σ} (along : Along exec condition operations state)
    (initially : invariant state) : Along exec other operations state := by
  induction operations generalizing state with
  | nil => trivial
  | cons operation rest inductionHypothesis =>
      exact ⟨implies state operation along.1 initially,
        inductionHypothesis along.2 (preserved state operation along.1 initially)⟩

/-- What a step preserves of the state and of the notes so far, a run preserves. -/
theorem run_with_notes {β : Type w} {note : σ → α → Option β} {invariant : List β → σ → Prop}
    (preserved : ∀ noted state operation, invariant noted state →
      invariant (noted ++ (note state operation).toList) (exec state operation))
    {noted : List β} {state : σ} (initially : invariant noted state) (operations : List α) :
    invariant (noted ++ notes exec note operations state) (run exec operations state) := by
  induction operations generalizing noted state with
  | nil =>
      rw [notes, List.append_nil]
      exact initially
  | cons operation rest inductionHypothesis =>
      rw [notes, ← List.append_assoc]
      exact inductionHypothesis (preserved noted state operation initially)

/-- What a step preserves under a condition, of the state and of the notes so far, a run preserves along which
the condition holds. -/
theorem run_with_notes_of_along {β : Type w} {note : σ → α → Option β} {condition : σ → α → Prop}
    {invariant : List β → σ → Prop}
    (preserved : ∀ noted state operation, condition state operation → invariant noted state →
      invariant (noted ++ (note state operation).toList) (exec state operation))
    {noted : List β} {operations : List α} {state : σ} (along : Along exec condition operations state)
    (initially : invariant noted state) :
    invariant (noted ++ notes exec note operations state) (run exec operations state) := by
  induction operations generalizing noted state with
  | nil =>
      rw [notes, List.append_nil]
      exact initially
  | cons operation rest inductionHypothesis =>
      rw [notes, ← List.append_assoc]
      exact inductionHypothesis along.2 (preserved noted state operation along.1 initially)

/-- A log that every step extends by what it notes holds all notes of a run. -/
theorem log_run {β : Type w} {note : σ → α → Option β} {log : σ → List β}
    (step : ∀ state operation, log (exec state operation) = log state ++ (note state operation).toList)
    (operations : List α) (state : σ) :
    log (run exec operations state) = log state ++ notes exec note operations state := by
  have preserved (noted : List β) (state : σ) (operation : α) (same : log state = noted) :
      log (exec state operation) = noted ++ (note state operation).toList := by
    rw [step, same]
  exact run_with_notes preserved rfl operations

/-- Steps that lower a number by an amount, as long as they do not reach what lasts, have reached it when
they are as many as lower the number to zero. -/
theorem run_reaches {condition : σ → α → Prop} {reached : σ → Prop} (potential : σ → Nat) (amount : Nat)
    (lowers : ∀ state operation, condition state operation →
      reached (exec state operation) ∨ potential (exec state operation) + amount ≤ potential state)
    (lasts : ∀ state operation, condition state operation → reached state → reached (exec state operation))
    (zero : ∀ state, potential state = 0 → reached state)
    {operations : List α} {state : σ} (along : Along exec condition operations state)
    (enough : potential state ≤ amount * operations.length) : reached (run exec operations state) := by
  induction operations generalizing state with
  | nil => exact zero state (Nat.le_zero.mp enough)
  | cons operation rest inductionHypothesis =>
      rw [run_cons]
      rcases lowers state operation along.1 with done | lower
      · exact run_of_along lasts along.2 done
      · refine inductionHypothesis along.2 ?_
        rw [List.length_cons, Nat.mul_succ] at enough
        omega

section Exact

variable {condition : σ → α → Prop} {invariant property : σ → Prop}

/-- When a step keeps a property exactly under a condition, and no later step
can bring the property back, a run ends with the property exactly when the
condition holds along it. -/
theorem run_iff_along
    (preserved : ∀ state operation, invariant state → invariant (exec state operation))
    (step : ∀ state operation, invariant state →
      (property (exec state operation) ↔ property state ∧ condition state operation))
    {state : σ} (initially : invariant state) (operations : List α) :
    property (run exec operations state) ↔
      property state ∧ Along exec condition operations state := by
  induction operations generalizing state with
  | nil => exact (iff_of_eq (and_true _)).symm
  | cons operation rest inductionHypothesis =>
      rw [run_cons, inductionHypothesis (preserved state operation initially),
        step state operation initially]
      exact and_assoc

/-- When a step keeps a property exactly under a condition, the property holds
throughout a run exactly when the condition holds along it.  The steps may be assumed
to be of a certain kind. -/
theorem throughout_iff_along_of {assumed : σ → α → Prop}
    (preserved : ∀ state operation, assumed state operation → invariant state →
      invariant (exec state operation))
    (step : ∀ state operation, assumed state operation → invariant state → property state →
      (property (exec state operation) ↔ condition state operation))
    {operations : List α} {state : σ} (along : Along exec assumed operations state)
    (initially : invariant state) (has : property state) :
    Throughout exec property operations state ↔ Along exec condition operations state := by
  induction operations generalizing state with
  | nil => exact iff_of_true has trivial
  | cons operation rest inductionHypothesis =>
      have stepping := step state operation along.1 initially has
      have later := inductionHypothesis along.2 (preserved state operation along.1 initially)
      constructor
      · intro throughout
        have kept := throughout.2.first
        exact ⟨stepping.mp kept, (later kept).mp throughout.2⟩
      · intro meets
        have kept := stepping.mpr meets.1
        exact ⟨has, (later kept).mpr meets.2⟩

theorem throughout_iff_along
    (preserved : ∀ state operation, invariant state → invariant (exec state operation))
    (step : ∀ state operation, invariant state → property state →
      (property (exec state operation) ↔ condition state operation))
    {state : σ} (initially : invariant state) (has : property state) (operations : List α) :
    Throughout exec property operations state ↔ Along exec condition operations state :=
  throughout_iff_along_of (fun state operation _ => preserved state operation)
    (fun state operation _ => step state operation) (along_true operations state) initially has

end Exact

end Runs

end Library
end GDriver
