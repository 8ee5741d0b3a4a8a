import GDriver.Library.Routine

namespace GDriver
namespace Library
namespace Routine

/-!
# What a failed routine leaves behind

A routine that stops with an error has done what it did before.  `FailsIn` says of a routine in
a state that, if it fails, it fails in a state that meets a condition: for instance that the
state is still the one in which everything began.  The rules tell exactly when it does, part by
part.
-/

variable {ε δ σ τ α β : Type}

/-- If the routine fails, it does so in a state that meets the condition. -/
def FailsIn (condition : σ → Prop) (routine : Routine ε σ α) (state : σ) : Prop :=
  ∀ failure, outcome routine state = .error failure → condition (final routine state)

section Rules

variable {condition : σ → Prop} {state : σ}

/-- A sequence fails in its first part or in its second. -/
theorem failsIn_bind {first : Routine ε σ α} {second : α → Routine ε σ β} :
    FailsIn condition (first >>= second) state ↔
      FailsIn condition first state ∧
        ∀ value, outcome first state = .ok value → FailsIn condition (second value) (final first state) := by
  rw [FailsIn, final_bind, outcome_bind]
  cases answered : outcome first state with
  | error failure =>
      constructor
      · intro fails
        refine ⟨fun other _ => fails failure rfl, fun value impossible => ?_⟩
        cases impossible
      · intro parts other _
        exact parts.1 failure answered
  | ok value =>
      constructor
      · intro fails
        refine ⟨fun other impossible => ?_, fun other same => ?_⟩
        · rw [answered] at impossible
          cases impossible
        · cases same
          exact fails
      · intro parts
        exact parts.2 value rfl

/-- A first part that only reads may fail where the condition holds anyway. -/
theorem failsIn_bind_of_reads {first : Routine ε σ α} {second : α → Routine ε σ β} (holds : condition state)
    (reads : final first state = state) :
    FailsIn condition (first >>= second) state ↔
      ∀ value, outcome first state = .ok value → FailsIn condition (second value) state := by
  rw [failsIn_bind, reads]
  refine and_iff_right fun failure _ => ?_
  rw [reads]
  exact holds

/-- A first part that does not fail leaves it to the second. -/
theorem failsIn_bind_of_ok {first : Routine ε σ α} {second : α → Routine ε σ β} {value : α}
    (answered : outcome first state = .ok value) :
    FailsIn condition (first >>= second) state ↔ FailsIn condition (second value) (final first state) := by
  rw [failsIn_bind, answered]
  constructor
  · exact fun parts => parts.2 value rfl
  · intro fails
    refine ⟨fun failure impossible => ?_, fun other same => ?_⟩
    · rw [answered] at impossible
      cases impossible
    · cases same
      exact fails

/-- A routine that does not fail fails nowhere. -/
theorem failsIn_of_ok {routine : Routine ε σ α} {value : α} (answered : outcome routine state = .ok value) :
    FailsIn condition routine state := by
  intro failure impossible
  rw [answered] at impossible
  cases impossible

/-- A routine that only reads fails where it began. -/
theorem failsIn_of_reads {routine : Routine ε σ α} (holds : condition state)
    (reads : final routine state = state) : FailsIn condition routine state := by
  intro failure _
  rw [reads]
  exact holds

theorem failsIn_pure (value : α) : FailsIn condition (pure value : Routine ε σ α) state :=
  failsIn_of_ok rfl

theorem failsIn_mapError {routine : Routine ε σ α} (translate : ε → δ) :
    FailsIn condition (mapError translate routine) state ↔ FailsIn condition routine state := by
  rw [FailsIn, FailsIn, final_mapError, outcome_mapError]
  cases outcome routine state with
  | error failure => exact ⟨fun fails other _ => fails (translate failure) rfl, fun fails other _ => fails failure rfl⟩
  | ok value =>
      refine iff_of_true (fun _ impossible => ?_) fun _ impossible => ?_
      · cases impossible
      · cases impossible

/-- An answer from outside is refused where it arrives, or goes on. -/
theorem failsIn_bind_received (holds : condition state) (translate : ε → δ) {reply : Except ε α}
    {second : α → Routine δ σ β} :
    FailsIn condition (mapError translate (received reply) >>= second) state ↔
      ∀ value, reply = .ok value → FailsIn condition (second value) state := by
  have reads : final (mapError translate (received reply)) state = state := by
    rw [final_mapError, final_received]
  rw [failsIn_bind_of_reads holds reads, outcome_mapError, outcome_received]
  cases reply with
  | ok value =>
      constructor
      · rintro fails other ⟨⟩
        exact fails value rfl
      · rintro fails other ⟨⟩
        exact fails value rfl
  | error failure =>
      refine iff_of_true (fun value impossible => ?_) fun value impossible => ?_
      · cases impossible
      · cases impossible

/-- A statement that is not executed fails without an effect. -/
theorem failsIn_statement {runs : Bool} {failure : ε} {effect : σ → α × σ} :
    FailsIn condition (statement runs failure effect) state ↔ runs = true ∨ condition state := by
  rw [FailsIn, final_statement, outcome_statement]
  cases runs with
  | true =>
      refine iff_of_true (fun _ impossible => ?_) (Or.inl rfl)
      cases impossible
  | false =>
      constructor
      · exact fun fails => Or.inr (fails failure rfl)
      · rintro (impossible | holds) _ _
        · cases impossible
        · exact holds

theorem failsIn_zoom {whole : τ → Prop} {component : τ → σ} {replace : σ → τ → τ} {routine : Routine ε σ α}
    {state : τ} :
    FailsIn whole (zoom component replace routine) state ↔
      FailsIn (fun part => whole (replace part state)) routine (component state) := by
  rw [FailsIn, FailsIn, final_zoom, outcome_zoom]

end Rules

end Routine
end Library
end GDriver
