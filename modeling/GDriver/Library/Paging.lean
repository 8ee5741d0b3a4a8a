import Mathlib.Data.List.Basic

namespace GDriver
namespace Library

universe u

/-!
# Pages of a list

A long list is handed out in pages of one size.  A page that is full may be followed by another, and
one that is not full is the last.
-/

variable {α : Type u}

/-- The items of one page, counted from zero. -/
def pageOf (size : Nat) (items : List α) (page : Nat) : List α :=
  (items.drop (page * size)).take size

variable {size : Nat} {items : List α} {page : Nat}

/-- A page is full exactly when the list reaches to its end. -/
theorem length_pageOf_eq_iff (positive : 0 < size) :
    (pageOf size items page).length = size ↔ (page + 1) * size ≤ items.length := by
  rw [pageOf, List.length_take, List.length_drop, Nat.succ_mul]
  omega

theorem length_pageOf_le : (pageOf size items page).length ≤ size := by
  rw [pageOf, List.length_take]
  exact Nat.min_le_left _ _

/-- A page and what comes after it are what comes after the page before. -/
theorem pageOf_append_drop : pageOf size items page ++ items.drop ((page + 1) * size) = items.drop (page * size) := by
  rw [pageOf, Nat.succ_mul, ← List.drop_drop]
  exact List.take_append_drop _ _

/-- A page that is not full is all that is left. -/
theorem pageOf_of_not_full (positive : 0 < size) (short : (pageOf size items page).length ≠ size) :
    pageOf size items page = items.drop (page * size) := by
  rw [Ne, length_pageOf_eq_iff positive, Nat.succ_mul] at short
  rw [pageOf]
  refine List.take_of_length_le ?_
  rw [List.length_drop]
  omega

end Library
end GDriver
