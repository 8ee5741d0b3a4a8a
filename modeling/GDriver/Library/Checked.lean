import Mathlib.Data.List.Basic

namespace GDriver
namespace Library

universe u

/-!
# Checked machine arithmetic

Operations on unsigned 64-bit numbers with the checks of a program that stops when a result does not
fit, and slices that stop it when they reach beyond their list.  Each operation has one lemma, which
says when it has a value and which number that is.
-/

/-- The sum, if it fits. -/
def checkedAdd (left right : UInt64) : Option UInt64 :=
  if left.toNat + right.toNat < 18446744073709551616 then some (left + right) else none

/-- The difference, if it is not negative. -/
def checkedSub (left right : UInt64) : Option UInt64 :=
  if right ≤ left then some (left - right) else none

/-- The product, if it fits. -/
def checkedMul (left right : UInt64) : Option UInt64 :=
  if left.toNat * right.toNat < 18446744073709551616 then some (left * right) else none

/-- The quotient rounded up; there is none by zero. -/
def checkedDivCeil (left right : UInt64) : Option UInt64 :=
  if right = 0 then none
  else if 0 < left % right then checkedAdd (left / right) 1
  else some (left / right)

/-- The items between two indices, both included. -/
def sliceInclusive {α : Type u} (items : List α) (first last : UInt64) : Option (List α) :=
  if first.toNat ≤ last.toNat + 1 ∧ last.toNat < items.length then
    some ((items.drop first.toNat).take (last.toNat + 1 - first.toNat))
  else none

variable {left right : UInt64}

theorem checkedAdd_of_fits (fits : left.toNat + right.toNat < 18446744073709551616) :
    ∃ sum, checkedAdd left right = some sum ∧ sum.toNat = left.toNat + right.toNat := by
  refine ⟨left + right, if_pos fits, ?_⟩
  rw [UInt64.toNat_add]
  exact Nat.mod_eq_of_lt fits

theorem checkedSub_of_le (le : right.toNat ≤ left.toNat) :
    ∃ difference, checkedSub left right = some difference ∧ difference.toNat = left.toNat - right.toNat := by
  have below : right ≤ left := UInt64.le_iff_toNat_le.mpr le
  exact ⟨left - right, if_pos below, UInt64.toNat_sub_of_le _ _ below⟩

theorem checkedMul_of_fits (fits : left.toNat * right.toNat < 18446744073709551616) :
    ∃ product, checkedMul left right = some product ∧ product.toNat = left.toNat * right.toNat := by
  refine ⟨left * right, if_pos fits, ?_⟩
  rw [UInt64.toNat_mul]
  exact Nat.mod_eq_of_lt fits

/-- The numbers below a quotient that is rounded up are those whose multiples are below the dividend. -/
theorem checkedDivCeil_of_pos (positive : 0 < right.toNat) :
    ∃ quotient, checkedDivCeil left right = some quotient ∧
      ∀ place, place < quotient.toNat ↔ place * right.toNat < left.toNat := by
  have nonzero : right ≠ 0 := by
    intro zero
    rw [zero] at positive
    exact absurd positive (by decide)
  have whole : left.toNat / right.toNat * right.toNat + left.toNat % right.toNat = left.toNat := Nat.div_add_mod' _ _
  have rest : left.toNat % right.toNat < right.toNat := Nat.mod_lt _ positive
  have larger : left.toNat < 18446744073709551616 := left.toNat_lt
  rw [checkedDivCeil, if_neg nonzero]
  by_cases remains : 0 < left % right
  · rw [if_pos remains]
    rw [UInt64.lt_iff_toNat_lt, UInt64.toNat_mod, UInt64.toNat_zero] at remains
    have fits : (left / right).toNat + (1 : UInt64).toNat < 18446744073709551616 := by
      rw [UInt64.toNat_div, UInt64.toNat_one]
      have several : 1 < right.toNat := by omega
      have less := Nat.div_lt_self (by omega : 0 < left.toNat) several
      omega
    rcases checkedAdd_of_fits fits with ⟨quotient, added, value⟩
    rw [UInt64.toNat_div, UInt64.toNat_one] at value
    refine ⟨quotient, added, fun place => ?_⟩
    rw [value, Nat.lt_succ_iff, Nat.le_div_iff_mul_le positive]
    constructor
    · intro within
      by_contra beyond
      have same : place * right.toNat = left.toNat := by omega
      rw [← same, Nat.mul_mod_left] at remains
      exact absurd remains (Nat.lt_irrefl 0)
    · exact Nat.le_of_lt
  · rw [if_neg remains]
    rw [UInt64.lt_iff_toNat_lt, UInt64.toNat_mod, UInt64.toNat_zero, Nat.not_lt, Nat.le_zero] at remains
    refine ⟨left / right, rfl, fun place => ?_⟩
    rw [remains, Nat.add_zero] at whole
    rw [UInt64.toNat_div]
    constructor
    · intro below
      rw [← whole]
      exact Nat.mul_lt_mul_of_pos_right below positive
    · intro below
      rw [← whole] at below
      exact Nat.lt_of_mul_lt_mul_right below

theorem toNat_ofNat_of_fits {value : Nat} (fits : value < 18446744073709551616) :
    (UInt64.ofNat value).toNat = value := by
  rw [UInt64.toNat_ofNat']
  exact Nat.mod_eq_of_lt fits

theorem toNat_min (left right : UInt64) : (min left right).toNat = min left.toNat right.toNat := by
  change (if left ≤ right then left else right).toNat = _
  split
  · next below => exact (Nat.min_eq_left (UInt64.le_iff_toNat_le.mp below)).symm
  · next above =>
      rw [UInt64.le_iff_toNat_le] at above
      exact (Nat.min_eq_right (by omega)).symm

theorem sliceInclusive_of_within {α : Type u} {items : List α} {first last : UInt64}
    (ordered : first.toNat ≤ last.toNat) (within : last.toNat < items.length) :
    sliceInclusive items first last = some ((items.drop first.toNat).take (last.toNat + 1 - first.toNat)) :=
  if_pos ⟨Nat.le_succ_of_le ordered, within⟩

end Library
end GDriver
