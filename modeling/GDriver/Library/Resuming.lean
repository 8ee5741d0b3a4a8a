import Mathlib.Data.List.Count
import Mathlib.Data.List.Sort
import Mathlib.Data.Prod.Lex

namespace GDriver
namespace Library

universe u v

/-!
# Resuming a sorted listing by position

A list without duplicates, in ascending order, is returned in windows.  Each window begins at a position
and not at an item, and between two windows the list may become another.  What stays in the list is
returned exactly once as long as the position stands where the last item returned would be.
-/

section Sorting

variable {α : Type u} {κ : Type v} [LinearOrder κ]

/-- Items that are sorted by a key, and were ascending in number, ascend in both. -/
theorem pairwise_mergeSort_of_ascending (key : α → κ) (number : α → Nat) {items : List α}
    (ascending : items.Pairwise fun one two => number one < number two) :
    (items.mergeSort fun one two => decide (key one ≤ key two)).Pairwise fun one two =>
      toLex (key one, number one) < toLex (key two, number two) := by
  have transitive (one two three : α) (first : decide (key one ≤ key two) = true)
      (second : decide (key two ≤ key three) = true) : decide (key one ≤ key three) = true :=
    decide_eq_true ((of_decide_eq_true first).trans (of_decide_eq_true second))
  have total (one two : α) : (decide (key one ≤ key two) || decide (key two ≤ key one)) = true := by
    rw [Bool.or_eq_true, decide_eq_true_eq, decide_eq_true_eq]
    exact le_total (key one) (key two)
  -- The sort is stable: it keeps the items of one key as they were.
  have stable (here : κ) :
      (items.mergeSort fun one two => decide (key one ≤ key two)).filter (fun item => key item = here) =
        items.filter fun item => key item = here := by
    have alike : (items.filter fun item => key item = here).Pairwise fun one two => decide (key one ≤ key two) =
        true := by
      refine List.pairwise_of_forall_mem_list fun one first two second => ?_
      have sameOne := of_decide_eq_true (List.mem_filter.mp first).2
      have sameTwo := of_decide_eq_true (List.mem_filter.mp second).2
      exact decide_eq_true (sameOne.trans sameTwo.symm).le
    have kept := (List.sublist_mergeSort transitive total alike List.filter_sublist).filter fun item => key item = here
    rw [List.filter_filter] at kept
    simp only [Bool.and_self] at kept
    exact (kept.eq_of_length ((List.mergeSort_perm items _).filter _).length_eq.symm).symm
  have sorted := List.pairwise_mergeSort transitive total items
  rw [List.pairwise_iff_forall_sublist] at sorted ⊢
  intro one two pair
  rw [Prod.Lex.toLex_lt_toLex]
  rcases (of_decide_eq_true (sorted pair)).lt_or_eq with less | same
  · exact Or.inl less
  · have inside := pair.filter fun item => key item = key two
    have both : [one, two].filter (fun item => key item = key two) = [one, two] := by
      rw [List.filter_eq_self]
      intro other member
      rcases List.mem_pair.mp member with isOne | isTwo
      · rw [isOne]
        exact decide_eq_true same
      · rw [isTwo]
        exact decide_eq_true rfl
    rw [stable, both] at inside
    exact Or.inr ⟨same, List.pairwise_iff_forall_sublist.mp (ascending.filter _) inside⟩

end Sorting

variable {κ : Type v} [LinearOrder κ]

/-- The last item that was returned is this one or a later one. -/
def Past (returned : List κ) (item : κ) : Prop :=
  ∃ last ∈ returned.getLast?, item ≤ last

/-- An item has been returned once if the listing is past it or has ended, and not at all before. -/
def ReturnedOnce (returned : List κ) (ended : Bool) (item : κ) : Prop :=
  returned.count item ≤ 1 ∧ (item ∈ returned ↔ ended = true ∨ Past returned item)

/-- The position stands behind an item exactly when the listing is past it. -/
def PlaceKept (items returned : List κ) (position : Nat) (item : κ) : Prop :=
  item ∈ items.take position ↔ Past returned item

theorem past_nil {item : κ} : ¬ Past ([] : List κ) item := by
  rintro ⟨last, member, _⟩
  cases member

theorem past_append {returned window : List κ} {item : κ} (some : window ≠ []) :
    Past (returned ++ window) item ↔ Past window item := by
  rw [Past, Past, List.getLast?_append, List.getLast?_eq_some_getLast some]
  rfl

theorem returnedOnce_nil {item : κ} : ReturnedOnce [] false item := by
  refine ⟨Nat.zero_le 1, iff_of_false List.not_mem_nil ?_⟩
  rintro (impossible | past)
  · cases impossible
  · exact past_nil past

/-- While nothing is returned, no place is lost. -/
theorem placeKept_nil {items : List κ} {item : κ} : PlaceKept items [] 0 item :=
  iff_of_false List.not_mem_nil past_nil

section Windows

variable {items returned : List κ} {item : κ} {position room : Nat}

/-- An item is before a window, in it, or behind it. -/
inductive Stands (items : List κ) (position room : Nat) (item : κ) : Prop where
  | before (early : item ∈ items.take position) (less : ∀ other ∈ (items.drop position).take room, item < other)
  | inside (late : item ∉ items.take position) (once : ((items.drop position).take room).count item = 1)
      (last : Past ((items.drop position).take room) item)
  | behind (late : item ∉ items.take position) (more : ∀ other ∈ (items.drop position).take room, other < item)

/-- An ascending window is past everything in it. -/
theorem past_of_mem {window : List κ} (sorted : window.Pairwise (· < ·)) (member : item ∈ window) :
    Past window item := by
  have last := List.getLast?_eq_some_getLast (List.ne_nil_of_mem member)
  refine ⟨_, last, ?_⟩
  rcases List.getLast?_eq_some_iff.mp last with ⟨front, parts⟩
  rw [parts] at sorted member
  rcases List.mem_append.mp member with inFront | isLast
  · exact ((List.pairwise_append.mp sorted).2.2 item inFront _ (List.mem_singleton.mpr rfl)).le
  · exact (List.mem_singleton.mp isLast).le

theorem stands_of_sorted (sorted : items.Pairwise (· < ·)) (member : item ∈ items) :
    Stands items position room item := by
  rw [← List.take_append_drop position items, ← List.take_append_drop room (items.drop position)] at sorted member
  rw [List.pairwise_append, List.pairwise_append] at sorted
  rcases sorted with ⟨_, ⟨windowSorted, _, windowRest⟩, earlier⟩
  have late (later : item ∈ (items.drop position).take room ++ (items.drop position).drop room) :
      item ∉ items.take position :=
    fun early => lt_irrefl item (earlier item early item later)
  rcases List.mem_append.mp member with early | later
  · exact .before early fun other inside => earlier item early other (List.mem_append_left _ inside)
  · rcases List.mem_append.mp later with inside | rest
    · exact .inside (late later) (List.count_eq_one_of_mem (windowSorted.imp ne_of_lt) inside)
        (past_of_mem windowSorted inside)
    · exact .behind (late later) fun other inside => windowRest other inside item rest

/-- After a window everything still is returned once exactly when the position was in place. -/
theorem returnedOnce_append_iff (sorted : items.Pairwise (· < ·)) (member : item ∈ items)
    (once : ReturnedOnce returned false item) (some : (items.drop position).take room ≠ []) :
    ReturnedOnce (returned ++ (items.drop position).take room) false item ↔ PlaceKept items returned position item := by
  have before : item ∈ returned ↔ Past returned item :=
    once.2.trans (or_iff_right Bool.false_ne_true)
  have ends := List.getLast?_eq_some_getLast some
  rw [ReturnedOnce, PlaceKept, past_append some, List.count_append, List.mem_append, ← before]
  cases @stands_of_sorted κ _ items item position room sorted member with
  | before early less =>
      have absent : item ∉ (items.drop position).take room := fun inside => lt_irrefl item (less item inside)
      have past : Past ((items.drop position).take room) item :=
        ⟨_, ends, (less _ (List.getLast_mem some)).le⟩
      rw [List.count_eq_zero_of_not_mem absent, or_iff_left absent]
      constructor
      · exact fun after => iff_of_true early (after.2.mpr (Or.inr past))
      · exact fun kept => ⟨once.1, iff_of_true (kept.mp early) (Or.inr past)⟩
  | inside late one last =>
      have present : item ∈ (items.drop position).take room := List.count_pos_iff.mp (one ▸ Nat.one_pos)
      rw [one]
      constructor
      · rintro ⟨few, _⟩
        have none_ : returned.count item = 0 := by omega
        exact iff_of_false late (List.count_eq_zero.mp none_)
      · intro kept
        have absent : item ∉ returned := fun inside => late (kept.mpr inside)
        rw [List.count_eq_zero_of_not_mem absent]
        exact ⟨Nat.le_refl 1, iff_of_true (Or.inr present) (Or.inr last)⟩
  | behind late more =>
      have absent : item ∉ (items.drop position).take room := fun inside => lt_irrefl item (more item inside)
      have ahead : ¬ (false = true ∨ Past ((items.drop position).take room) item) := by
        rintro (impossible | ⟨last, isLast, reached⟩)
        · cases impossible
        · exact absurd (more last (List.mem_of_getLast? isLast)) reached.not_gt
      rw [List.count_eq_zero_of_not_mem absent, or_iff_left absent]
      constructor
      · exact fun after => iff_of_false late fun inside => ahead (after.2.mp inside)
      · exact fun kept => ⟨once.1, iff_of_false (fun inside => late (kept.mpr inside)) ahead⟩

/-- At the end everything is returned once exactly when the position was in place. -/
theorem returnedOnce_ended_iff (member : item ∈ items) (once : ReturnedOnce returned false item)
    (atEnd : items.drop position = []) : ReturnedOnce returned true item ↔ PlaceKept items returned position item := by
  have before : item ∈ returned ↔ Past returned item :=
    once.2.trans (or_iff_right Bool.false_ne_true)
  have early : item ∈ items.take position := by
    rw [List.take_of_length_le (List.drop_eq_nil_iff.mp atEnd)]
    exact member
  rw [ReturnedOnce, PlaceKept, ← before]
  constructor
  · exact fun after => iff_of_true early (after.2.mpr (Or.inl rfl))
  · exact fun kept => ⟨once.1, iff_of_true (kept.mp early) (Or.inl rfl)⟩

end Windows

end Library
end GDriver
