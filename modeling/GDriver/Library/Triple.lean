import GDriver.Library.Routine

namespace GDriver
namespace Library
namespace Routine

/-!
# Pre- and postconditions of routines

A routine meets a postcondition from a precondition when every run that begins
in a state with the precondition ends with the postcondition.  The postcondition
speaks about the answer as well, so that a run that stops can be told from one
that does not: stopping undoes nothing, and the state in which a routine stopped
matters to its caller.
-/

variable {ε δ σ τ α β : Type}

/-- Every run from the precondition ends with the postcondition. -/
def Meets (before : σ → Prop) (routine : Routine ε σ α) (after : Except ε α → σ → Prop) : Prop :=
  ∀ state, before state → after (outcome routine state) (final routine state)

variable {before : σ → Prop}

theorem meets_pure {value : α} {after : Except ε α → σ → Prop}
    (has : ∀ state, before state → after (.ok value) state) :
    Meets before (pure value : Routine ε σ α) after :=
  has

/-- What holds between the two parts of a sequence is the postcondition of the
first and the precondition of the second; when the first part stops, it has to
give the postcondition of the whole. -/
theorem meets_bind {first : Routine ε σ α} {second : α → Routine ε σ β}
    {between : Except ε α → σ → Prop} {after : Except ε β → σ → Prop}
    (firstMeets : Meets before first between)
    (stops : ∀ failure state, between (.error failure) state → after (.error failure) state)
    (secondMeets : ∀ value, Meets (between (.ok value)) (second value) after) :
    Meets before (first >>= second) after := by
  intro state has
  have reached := firstMeets state has
  cases answered : outcome first state with
  | error failure =>
      rw [answered] at reached
      rw [outcome_bind_of_error answered, final_bind_of_error answered]
      exact stops failure _ reached
  | ok value =>
      rw [answered] at reached
      rw [outcome_bind_of_ok answered, final_bind_of_ok answered]
      exact secondMeets value _ reached

/-- A property that a routine keeps holds wherever it ends. -/
theorem meets_of_keeps {allowed : σ → σ → Prop} {routine : Routine ε σ α}
    (keeps : Keeps allowed routine)
    (stays : ∀ state later, allowed state later → before state → before later) :
    Meets before routine fun _ => before :=
  fun state has => stays state _ (keeps state) has

theorem Meets.imp {routine : Routine ε σ α} {after weaker : Except ε α → σ → Prop}
    (meets : Meets before routine after) (imp : ∀ result state, after result state → weaker result state) :
    Meets before routine weaker :=
  fun state has => imp _ _ (meets state has)

/-! ## Invariants with facts about answers -/

/-- Every run from the invariant ends in the invariant, and what it answers meets a fact that
does not depend on the state. -/
def Yields (invariant : σ → Prop) (fact : α → Prop) (routine : Routine ε σ α) : Prop :=
  ∀ state, invariant state → invariant (final routine state) ∧ ∀ value, outcome routine state = .ok value → fact value

section Yields

variable {invariant : σ → Prop} {fact : α → Prop}

theorem yields_pure {value : α} (holds : fact value) : Yields invariant fact (pure value : Routine ε σ α) := by
  intro state has
  refine ⟨has, ?_⟩
  rintro other ⟨⟩
  exact holds

theorem yields_throw {failure : ε} : Yields invariant fact (throw failure : Routine ε σ α) := by
  intro state has
  refine ⟨has, fun value impossible => ?_⟩
  cases impossible

/-- The second part of a sequence may use the fact about the answer of the first. -/
theorem yields_bind {first : Routine ε σ α} {second : α → Routine ε σ β} {goal : β → Prop}
    (firstYields : Yields invariant fact first)
    (secondYields : ∀ value, fact value → Yields invariant goal (second value)) :
    Yields invariant goal (first >>= second) := by
  intro state has
  rcases firstYields state has with ⟨kept, knows⟩
  cases answered : outcome first state with
  | error failure =>
      rw [outcome_bind_of_error answered, final_bind_of_error answered]
      refine ⟨kept, fun value impossible => ?_⟩
      cases impossible
  | ok value =>
      rw [outcome_bind_of_ok answered, final_bind_of_ok answered]
      exact secondYields value (knows value answered) _ kept

theorem Yields.mono {weaker : α → Prop} {routine : Routine ε σ α} (yields : Yields invariant fact routine)
    (imp : ∀ value, fact value → weaker value) : Yields invariant weaker routine := by
  intro state has
  rcases yields state has with ⟨kept, knows⟩
  exact ⟨kept, fun value answered => imp value (knows value answered)⟩

/-- A routine that keeps the invariant, whatever it answers. -/
theorem yields_of_keeps {routine : Routine ε σ α}
    (keeps : Keeps (fun state later => invariant state → invariant later) routine) :
    Yields invariant (fun _ => True) routine :=
  fun state has => ⟨keeps state has, fun _ _ => trivial⟩

theorem Yields.keeps {routine : Routine ε σ α} (yields : Yields invariant fact routine) :
    Keeps (fun state later => invariant state → invariant later) routine :=
  fun state has => (yields state has).1

theorem yields_mapError {routine : Routine ε σ α} {translate : ε → δ} (yields : Yields invariant fact routine) :
    Yields invariant fact (mapError translate routine) := by
  intro state has
  rcases yields state has with ⟨kept, knows⟩
  rw [final_mapError, outcome_mapError]
  refine ⟨kept, fun value answered => knows value ?_⟩
  cases reached : outcome routine state with
  | error failure =>
      rw [reached] at answered
      cases answered
  | ok other =>
      rw [reached] at answered
      cases answered
      rfl

/-- A caller that is handed the outcome knows the fact when there is an answer. -/
theorem yields_observe {routine : Routine ε σ α} (yields : Yields invariant fact routine) :
    Yields invariant (fun result => ∀ value, result = .ok value → fact value)
      (observe routine : Routine δ σ (Except ε α)) := by
  intro state has
  rcases yields state has with ⟨kept, knows⟩
  refine ⟨kept, ?_⟩
  rintro result ⟨⟩
  exact knows

theorem yields_attempt {routine : Routine ε σ α} (yields : Yields invariant fact routine) :
    Yields invariant (fun _ => True) (attempt routine : Routine δ σ Unit) :=
  fun state has => ⟨(yields state has).1, fun _ _ => trivial⟩

theorem yields_zoom {component : τ → σ} {replace : σ → τ → τ} {routine : Routine ε σ α}
    (read : ∀ part whole, component (replace part whole) = part) (yields : Yields invariant fact routine) :
    Yields (fun whole => invariant (component whole)) fact (zoom component replace routine) := by
  intro whole has
  rcases yields (component whole) has with ⟨kept, knows⟩
  rw [final_zoom, outcome_zoom]
  refine ⟨?_, knows⟩
  change invariant (component (replace _ whole))
  rw [read]
  exact kept

end Yields

end Routine
end Library
end GDriver
