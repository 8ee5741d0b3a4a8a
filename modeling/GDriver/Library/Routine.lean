import Mathlib.Logic.Relation

namespace GDriver
namespace Library

/-!
# Fallible routines over a state

A routine reads and writes a state and either answers a value or stops with
an error.  Stopping does not undo anything: the state reached so far stays.
That is the behaviour of a sequence of separate database statements and file
system calls joined by an early return, and it is `EStateM` of the standard
library.

The rules below are about the state a routine leaves behind.  `final` forgets
the answer, and `Keeps R` says that a routine only makes moves allowed by a
relation `R`.  For a reflexive and transitive `R` it is closed under
sequencing, whichever of the two parts stops.
-/

/-- A routine over states `σ` that answers an `α` or stops with an `ε`. -/
abbrev Routine (ε σ α : Type) := EStateM ε σ α

namespace Routine

variable {ε δ σ τ α β : Type}

/-- The state in which a run ended, whether it answered or stopped. -/
def endState : EStateM.Result ε σ α → σ
  | .ok _ state => state
  | .error _ state => state

/-- The answer of a run, without its state. -/
def answer : EStateM.Result ε σ α → Except ε α
  | .ok value _ => .ok value
  | .error failure _ => .error failure

/-- The state a routine leaves behind. -/
def final (routine : Routine ε σ α) (state : σ) : σ :=
  endState (routine state)

/-- What a routine answers. -/
def outcome (routine : Routine ε σ α) (state : σ) : Except ε α :=
  answer (routine state)

/-- One statement: it either runs, with its effect and answer, or fails
without an effect. -/
def statement (runs : Bool) (failure : ε) (effect : σ → α × σ) : Routine ε σ α :=
  fun state => if runs then .ok (effect state).1 (effect state).2 else .error failure state

/-- Run a routine and hand its outcome to the caller instead of stopping. -/
def observe (routine : Routine ε σ α) : Routine δ σ (Except ε α) :=
  fun state => .ok (outcome routine state) (final routine state)

/-- Run a routine for its effect only; an error is noted by nobody. -/
def attempt (routine : Routine ε σ α) : Routine δ σ Unit :=
  fun state => .ok () (final routine state)

/-- Run a routine and report its error in other terms. -/
def mapError (translate : ε → δ) (routine : Routine ε σ α) : Routine δ σ α :=
  fun state =>
    match routine state with
    | .ok value reached => .ok value reached
    | .error failure reached => .error (translate failure) reached

/-- Hand on an answer from outside the state. -/
def received (reply : Except ε α) : Routine ε σ α :=
  match reply with
  | .ok value => pure value
  | .error failure => throw failure

/-- Run a routine on one component of a larger state. -/
def zoom (component : τ → σ) (replace : σ → τ → τ) (routine : Routine ε σ α) : Routine ε τ α :=
  fun whole =>
    match routine (component whole) with
    | .ok value part => .ok value (replace part whole)
    | .error failure part => .error failure (replace part whole)

@[simp] theorem final_pure (value : α) (state : σ) :
    final (pure value : Routine ε σ α) state = state := rfl

@[simp] theorem final_throw (failure : ε) (state : σ) :
    final (throw failure : Routine ε σ α) state = state := rfl

@[simp] theorem outcome_pure (value : α) (state : σ) :
    outcome (pure value : Routine ε σ α) state = .ok value := rfl

@[simp] theorem outcome_throw (failure : ε) (state : σ) :
    outcome (throw failure : Routine ε σ α) state = .error failure := rfl

/-- A sequence ends where its second part ends, unless the first part stopped. -/
theorem final_bind (first : Routine ε σ α) (second : α → Routine ε σ β) (state : σ) :
    final (first >>= second) state =
      match outcome first state with
      | .ok value => final (second value) (final first state)
      | .error _ => final first state := by
  unfold final outcome
  change endState (EStateM.bind first second state) = _
  unfold EStateM.bind
  cases first state <;> rfl

theorem outcome_bind (first : Routine ε σ α) (second : α → Routine ε σ β) (state : σ) :
    outcome (first >>= second) state =
      match outcome first state with
      | .ok value => outcome (second value) (final first state)
      | .error failure => .error failure := by
  unfold final outcome
  change answer (EStateM.bind first second state) = _
  unfold EStateM.bind
  cases first state <;> rfl

/-- A sequence whose first part answers is its second part from there on. -/
theorem bind_of_ok {first : Routine ε σ α} {state : σ} {value : α} (answered : outcome first state = .ok value)
    (second : α → Routine ε σ β) : (first >>= second) state = second value (final first state) := by
  change EStateM.bind first second state = _
  unfold EStateM.bind final
  unfold outcome at answered
  cases ran : first state with
  | error failure reached =>
      rw [ran] at answered
      cases answered
  | ok other reached =>
      rw [ran] at answered
      cases answered
      rfl

/-- After a first part that only reads, a sequence goes on with its answer or
leaves the state as it is. -/
theorem final_bind_of_reads {first : Routine ε σ α} {state : σ} (reads : final first state = state)
    (second : α → Routine ε σ β) :
    final (first >>= second) state =
      (outcome first state).toOption.elim state fun value => final (second value) state := by
  rw [final_bind, reads]
  cases outcome first state <;> rfl

theorem final_bind_of_ok {first : Routine ε σ α} {state : σ} {value : α}
    (answered : outcome first state = .ok value) (second : α → Routine ε σ β) :
    final (first >>= second) state = final (second value) (final first state) := by
  rw [final_bind, answered]

theorem final_bind_of_error {first : Routine ε σ α} {state : σ} {failure : ε}
    (failed : outcome first state = .error failure) (second : α → Routine ε σ β) :
    final (first >>= second) state = final first state := by
  rw [final_bind, failed]

@[simp] theorem final_bind_pure (first : Routine ε σ α) (value : β) (state : σ) :
    final (first >>= fun _ => pure value) state = final first state := by
  rw [final_bind]
  cases outcome first state <;> rfl

/-- A second part that only reads adds nothing. -/
theorem final_bind_of_reader {first : Routine ε σ α} {second : α → Routine ε σ β}
    (reads : ∀ value state, final (second value) state = state) (state : σ) :
    final (first >>= second) state = final first state := by
  rw [final_bind]
  cases outcome first state with
  | error failure => rfl
  | ok value => exact reads value _

/-- Sequences that begin the same end the same if their second parts do. -/
theorem final_bind_congr {γ : Type} {first : Routine ε σ α} {second : α → Routine ε σ β}
    {other : α → Routine ε σ γ} (same : ∀ value state, final (second value) state = final (other value) state)
    (state : σ) : final (first >>= second) state = final (first >>= other) state := by
  rw [final_bind, final_bind]
  cases outcome first state with
  | error failure => rfl
  | ok value => exact same value _

theorem outcome_bind_of_ok {first : Routine ε σ α} {state : σ} {value : α}
    (answered : outcome first state = .ok value) (second : α → Routine ε σ β) :
    outcome (first >>= second) state = outcome (second value) (final first state) := by
  rw [outcome_bind, answered]

theorem outcome_bind_of_error {first : Routine ε σ α} {state : σ} {failure : ε}
    (failed : outcome first state = .error failure) (second : α → Routine ε σ β) :
    outcome (first >>= second) state = .error failure := by
  rw [outcome_bind, failed]

/-- A sequence answers when both of its parts do. -/
theorem outcome_bind_eq_ok_iff {first : Routine ε σ α} {second : α → Routine ε σ β} {state : σ}
    {result : β} :
    outcome (first >>= second) state = .ok result ↔
      ∃ value, outcome first state = .ok value ∧ outcome (second value) (final first state) = .ok result := by
  rw [outcome_bind]
  cases answered : outcome first state with
  | error failure =>
      refine iff_of_false (fun impossible => ?_) ?_
      · cases impossible
      · rintro ⟨value, impossible, _⟩
        cases impossible
  | ok value =>
      constructor
      · intro second
        exact ⟨value, rfl, second⟩
      · rintro ⟨other, same, second⟩
        cases same
        exact second

/-- A sequence that answers after a first part that only reads is its second part. -/
theorem of_bind_of_reads {first : Routine ε σ α} {second : α → Routine ε σ β} {state : σ} {value : β}
    (reads : final first state = state) (answered : outcome (first >>= second) state = .ok value) :
    ∃ found, outcome first state = .ok found ∧ outcome (second found) state = .ok value ∧
      final (first >>= second) state = final (second found) state := by
  rcases outcome_bind_eq_ok_iff.mp answered with ⟨found, one, two⟩
  rw [reads] at two
  refine ⟨found, one, two, ?_⟩
  rw [final_bind_of_ok one, reads]

@[simp] theorem final_statement (runs : Bool) (failure : ε) (effect : σ → α × σ) (state : σ) :
    final (statement runs failure effect) state = if runs then (effect state).2 else state := by
  unfold final statement
  cases runs <;> rfl

@[simp] theorem outcome_statement (runs : Bool) (failure : ε) (effect : σ → α × σ) (state : σ) :
    outcome (statement runs failure effect) state =
      if runs then .ok (effect state).1 else .error failure := by
  unfold outcome statement
  cases runs <;> rfl

@[simp] theorem final_observe (routine : Routine ε σ α) (state : σ) :
    final (observe routine : Routine δ σ (Except ε α)) state = final routine state := rfl

@[simp] theorem outcome_observe (routine : Routine ε σ α) (state : σ) :
    outcome (observe routine : Routine δ σ (Except ε α)) state = .ok (outcome routine state) := rfl

@[simp] theorem final_attempt (routine : Routine ε σ α) (state : σ) :
    final (attempt routine : Routine δ σ Unit) state = final routine state := rfl

@[simp] theorem outcome_attempt (routine : Routine ε σ α) (state : σ) :
    outcome (attempt routine : Routine δ σ Unit) state = .ok () := rfl

@[simp] theorem final_mapError (translate : ε → δ) (routine : Routine ε σ α) (state : σ) :
    final (mapError translate routine) state = final routine state := by
  simp only [final, mapError]
  cases routine state <;> rfl

@[simp] theorem outcome_mapError (translate : ε → δ) (routine : Routine ε σ α) (state : σ) :
    outcome (mapError translate routine) state = (outcome routine state).mapError translate := by
  simp only [outcome, mapError]
  cases routine state <;> rfl

@[simp] theorem final_received (reply : Except ε α) (state : σ) :
    final (received reply) state = state := by
  cases reply <;> rfl

@[simp] theorem outcome_received (reply : Except ε α) (state : σ) :
    outcome (received reply) state = reply := by
  cases reply <;> rfl

@[simp] theorem final_zoom (component : τ → σ) (replace : σ → τ → τ) (routine : Routine ε σ α)
    (whole : τ) :
    final (zoom component replace routine) whole =
      replace (final routine (component whole)) whole := by
  unfold final zoom
  cases routine (component whole) <;> rfl

@[simp] theorem outcome_zoom (component : τ → σ) (replace : σ → τ → τ) (routine : Routine ε σ α)
    (whole : τ) :
    outcome (zoom component replace routine) whole = outcome routine (component whole) := by
  unfold outcome zoom
  cases routine (component whole) <;> rfl

/-- Every run of the routine is a move the relation allows. -/
def Keeps (allowed : σ → σ → Prop) (routine : Routine ε σ α) : Prop :=
  ∀ state, allowed state (final routine state)

section Rules

variable {allowed : σ → σ → Prop}

theorem keeps_pure [Std.Refl allowed] (value : α) :
    Keeps allowed (pure value : Routine ε σ α) :=
  fun state => Std.Refl.refl state

theorem keeps_throw [Std.Refl allowed] (failure : ε) :
    Keeps allowed (throw failure : Routine ε σ α) :=
  fun state => Std.Refl.refl state

theorem keeps_bind [IsTrans σ allowed] {first : Routine ε σ α} {second : α → Routine ε σ β}
    (firstKeeps : Keeps allowed first) (secondKeeps : ∀ value, Keeps allowed (second value)) :
    Keeps allowed (first >>= second) := by
  intro state
  rw [final_bind]
  cases outcome first state with
  | error failure => exact firstKeeps state
  | ok value =>
      exact IsTrans.trans _ _ _ (firstKeeps state) (secondKeeps value (final first state))

/-- What the second part of a sequence does comes on top of the first. -/
theorem moves_bind [Std.Refl allowed] (first : Routine ε σ α) {second : α → Routine ε σ β}
    (keeps : ∀ value, Keeps allowed (second value)) (state : σ) :
    allowed (final first state) (final (first >>= second) state) := by
  rw [final_bind]
  cases outcome first state with
  | error failure => exact Std.Refl.refl _
  | ok value => exact keeps value (final first state)

/-- The second part of a sequence only has to be looked at for the answers that
the first part can give. -/
theorem keeps_bind_of_answers [IsTrans σ allowed] {first : Routine ε σ α}
    {second : α → Routine ε σ β} (firstKeeps : Keeps allowed first)
    (secondKeeps : ∀ state value, outcome first state = .ok value → Keeps allowed (second value)) :
    Keeps allowed (first >>= second) := by
  intro state
  rw [final_bind]
  cases answered : outcome first state with
  | error failure => exact firstKeeps state
  | ok value =>
      exact IsTrans.trans _ _ _ (firstKeeps state)
        (secondKeeps state value answered (final first state))

theorem keeps_statement [Std.Refl allowed] (runs : Bool) (failure : ε) (effect : σ → α × σ)
    (moves : ∀ state, allowed state (effect state).2) :
    Keeps allowed (statement runs failure effect) := by
  intro state
  rw [final_statement]
  split
  · exact moves state
  · exact Std.Refl.refl state

theorem keeps_observe {routine : Routine ε σ α} (keeps : Keeps allowed routine) :
    Keeps allowed (observe routine : Routine δ σ (Except ε α)) :=
  keeps

theorem keeps_attempt {routine : Routine ε σ α} (keeps : Keeps allowed routine) :
    Keeps allowed (attempt routine : Routine δ σ Unit) :=
  keeps

theorem keeps_mapError {translate : ε → δ} {routine : Routine ε σ α}
    (keeps : Keeps allowed routine) : Keeps allowed (mapError translate routine) := by
  intro state
  rw [final_mapError]
  exact keeps state

theorem keeps_received [Std.Refl allowed] (reply : Except ε α) :
    Keeps allowed (received reply : Routine ε σ α) := by
  intro state
  rw [final_received]
  exact Std.Refl.refl state

/-- Moves of a component are moves of the whole. -/
theorem keeps_zoom {component : τ → σ} {replace : σ → τ → τ} {whole : τ → τ → Prop}
    {routine : Routine ε σ α}
    (lifts : ∀ state part, allowed (component state) part → whole state (replace part state))
    (keeps : Keeps allowed routine) : Keeps whole (zoom component replace routine) := by
  intro state
  rw [final_zoom]
  exact lifts state _ (keeps (component state))

end Rules

end Routine
end Library
end GDriver
