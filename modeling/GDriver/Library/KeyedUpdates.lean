import Mathlib.Data.List.Basic
import Mathlib.Logic.Function.Basic

namespace GDriver
namespace Library

universe u v w

/-!
# Updates to the cells of a keyed store

A store is a function from keys to cells.  An update addresses at most one
key and acts on the cell there.  A sequence of updates is therefore, seen from
one key, the sequence of the updates that address it: updates to different
keys are independent, and only the order within a key matters.

Replaying is a property of the actions on one cell.  When every action either
overwrites the cell or is an idempotent that commutes with the other actions
of that second kind, any sequence of actions is idempotent, and running a
prefix twice changes nothing.
-/

/-- A kind of update: the key it addresses and what it does to the cell. -/
structure KeyedUpdates (κ : Type u) (β : Type v) (α : Type w) where
  target : α → Option κ
  act : α → β → β

namespace KeyedUpdates

variable {κ : Type u} {β : Type v} {α : Type w} (updates : KeyedUpdates κ β α)

/-- Run a sequence of actions on one cell. -/
def run (sequence : List α) (cell : β) : β :=
  sequence.foldl (fun value update => updates.act update value) cell

@[simp] theorem run_nil (cell : β) : updates.run [] cell = cell := rfl

@[simp] theorem run_cons (update : α) (rest : List α) (cell : β) :
    updates.run (update :: rest) cell = updates.run rest (updates.act update cell) := rfl

theorem run_append (first second : List α) (cell : β) :
    updates.run (first ++ second) cell = updates.run second (updates.run first cell) :=
  List.foldl_append

section Store

variable [DecidableEq κ]

/-- Carry out one update on the store. -/
def apply (update : α) (cells : κ → β) : κ → β :=
  match updates.target update with
  | none => cells
  | some key => Function.update cells key (updates.act update (cells key))

/-- The updates of a sequence that address one key, in their order. -/
def addressed (key : κ) (sequence : List α) : List α :=
  sequence.filter fun update => updates.target update = some key

theorem apply_of_addressed {update : α} {key : κ} (here : updates.target update = some key)
    (cells : κ → β) : updates.apply update cells key = updates.act update (cells key) := by
  unfold apply
  rw [here]
  exact Function.update_self key _ cells

theorem apply_of_not_addressed {update : α} {key : κ} (elsewhere : updates.target update ≠ some key)
    (cells : κ → β) : updates.apply update cells key = cells key := by
  unfold apply
  cases address : updates.target update with
  | none => rfl
  | some other =>
      refine Function.update_of_ne ?_ _ cells
      intro same
      exact elsewhere (address.trans (congrArg some same.symm))

/-- Seen from one key, a sequence of updates is the sequence of those that
address it. -/
theorem foldl_apply (sequence : List α) (cells : κ → β) (key : κ) :
    (sequence.foldl (fun store update => updates.apply update store) cells) key =
      updates.run (updates.addressed key sequence) (cells key) := by
  induction sequence generalizing cells with
  | nil => rfl
  | cons update rest inductionHypothesis =>
      rw [List.foldl_cons, inductionHypothesis]
      unfold addressed
      by_cases here : updates.target update = some key
      · rw [updates.apply_of_addressed here, List.filter_cons, if_pos (decide_eq_true here),
          run_cons]
      · rw [updates.apply_of_not_addressed here, List.filter_cons,
          if_neg (by simpa using here)]

end Store

/-- The action discards what the cell held. -/
def Overwrites (update : α) : Prop :=
  ∀ cell other, updates.act update cell = updates.act update other

/-- Every action overwrites the cell, or is idempotent and commutes with the
other actions that do not overwrite it. -/
structure Replayable : Prop where
  idempotent : ∀ update, ¬ updates.Overwrites update →
    ∀ cell, updates.act update (updates.act update cell) = updates.act update cell
  commute : ∀ first second, ¬ updates.Overwrites first → ¬ updates.Overwrites second →
    ∀ cell, updates.act first (updates.act second cell) =
      updates.act second (updates.act first cell)

variable {updates}

/-- The normal form of a sequence: it fixes the cell's content, or it is an
idempotent that commutes with every action that does not overwrite. -/
theorem run_normal_form (replayable : updates.Replayable) (sequence : List α) :
    (∀ cell other, updates.run sequence cell = updates.run sequence other) ∨
      ((∀ cell, updates.run sequence (updates.run sequence cell) = updates.run sequence cell) ∧
        ∀ update, ¬ updates.Overwrites update → ∀ cell,
          updates.run sequence (updates.act update cell) =
            updates.act update (updates.run sequence cell)) := by
  induction sequence with
  | nil => exact Or.inr ⟨fun _ => rfl, fun _ _ _ => rfl⟩
  | cons update rest inductionHypothesis =>
      rcases inductionHypothesis with constant | ⟨idempotent, commutes⟩
      · exact Or.inl fun cell other => constant _ _
      · by_cases overwrites : updates.Overwrites update
        · refine Or.inl fun cell other => ?_
          rw [run_cons, run_cons, overwrites cell other]
        · refine Or.inr ⟨fun cell => ?_, fun other keeps cell => ?_⟩
          · simp only [run_cons]
            rw [commutes update overwrites cell, replayable.idempotent update overwrites,
              commutes update overwrites, idempotent]
          · simp only [run_cons]
            rw [replayable.commute update other overwrites keeps, commutes other keeps]

/-- Running a sequence twice is running it once. -/
theorem run_run (replayable : updates.Replayable) (sequence : List α) (cell : β) :
    updates.run sequence (updates.run sequence cell) = updates.run sequence cell := by
  rcases run_normal_form replayable sequence with constant | ⟨idempotent, _⟩
  · exact constant _ _
  · exact idempotent cell

variable [DecidableEq κ]

/-- Running a prefix before the whole sequence changes no cell. -/
theorem foldl_replay (replayable : updates.Replayable) {start sequence : List α}
    (isPrefix : start <+: sequence) (cells : κ → β) :
    ((start ++ sequence).foldl (fun store update => updates.apply update store) cells) =
      sequence.foldl (fun store update => updates.apply update store) cells := by
  rcases isPrefix with ⟨rest, same⟩
  subst same
  funext key
  rw [foldl_apply, foldl_apply]
  have split (first second : List α) : updates.addressed key (first ++ second) =
      updates.addressed key first ++ updates.addressed key second := List.filter_append _ _
  rw [split, split, run_append, run_append, run_run replayable, run_append]

/-- Two sequences with the same updates at every key, in the same order, have
the same effect. -/
theorem foldl_congr_addressed {sequence other : List α}
    (agree : ∀ key, updates.addressed key sequence = updates.addressed key other)
    (cells : κ → β) :
    sequence.foldl (fun store update => updates.apply update store) cells =
      other.foldl (fun store update => updates.apply update store) cells := by
  funext key
  rw [foldl_apply, foldl_apply, agree key]

end KeyedUpdates
end Library
end GDriver
