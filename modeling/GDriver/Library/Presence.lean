import Mathlib.Order.Defs.Unbundled

namespace GDriver
namespace Library

universe u v

/-!
# What partial maps have

A partial map has something at some places and nothing at the others.  When it
changes step by step, what goes missing was taken and what turns up was put,
wherever the two sets of places were fixed beforehand.
-/

section Presence

variable {α : Type u} {β : Type v}

/-- What the first map has is there later or was taken, and what the second has
was there before or was put. -/
structure PresentFrom (taken put : α → Prop) (before later : α → Option β) : Prop where
  stays : ∀ place, (before place).isSome = true → (later place).isSome = true ∨ taken place
  comes : ∀ place, (later place).isSome = true → (before place).isSome = true ∨ put place

variable {taken put : α → Prop} {before later : α → Option β}

instance : IsPreorder (α → Option β) (PresentFrom taken put) where
  refl _ := ⟨fun _ there => Or.inl there, fun _ there => Or.inl there⟩
  trans _ _ _ one two :=
    ⟨fun place there => (one.stays place there).elim (two.stays place) Or.inr,
      fun place there => (two.comes place there).elim (one.comes place) Or.inr⟩

theorem PresentFrom.mono {takenToo putToo : α → Prop} (takes : ∀ place, taken place → takenToo place)
    (puts : ∀ place, put place → putToo place) (moves : PresentFrom taken put before later) :
    PresentFrom takenToo putToo before later where
  stays place there := (moves.stays place there).imp_right (takes place)
  comes place there := (moves.comes place there).imp_right (puts place)

/-- What two maps differ in was taken or put. -/
theorem presentFrom_differences (before later : α → Option β) :
    PresentFrom (fun place => (before place).isSome = true ∧ later place = none)
      (fun place => (later place).isSome = true ∧ before place = none) before later where
  stays place there := by
    cases after : later place with
    | none => exact Or.inr ⟨there, rfl⟩
    | some value => exact Or.inl rfl
  comes place there := by
    cases earlier : before place with
    | none => exact Or.inr ⟨there, rfl⟩
    | some value => exact Or.inl rfl

/-- Where a map changes it has one value after, and that was taken or put everywhere. -/
theorem presentFrom_of_changed {changed : α → Prop} {value : Option β}
    (inside : ∀ place, changed place → later place = value)
    (outside : ∀ place, ¬ changed place → later place = before place)
    (takes : value = none → ∀ place, changed place → taken place)
    (puts : value.isSome = true → ∀ place, changed place → put place) : PresentFrom taken put before later where
  stays place there := by
    by_cases here : changed place
    · cases value with
      | none => exact Or.inr (takes rfl place here)
      | some content =>
          rw [inside place here]
          exact Or.inl rfl
    · rw [outside place here]
      exact Or.inl there
  comes place there := by
    by_cases here : changed place
    · rw [inside place here] at there
      exact Or.inr (puts there place here)
    · rw [outside place here] at there
      exact Or.inl there

end Presence

end Library
end GDriver
