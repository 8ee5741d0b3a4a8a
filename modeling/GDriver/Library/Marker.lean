import GDriver.Library.Resuming
import Mathlib.Data.Finset.Card
import Mathlib.Order.Monotone.Basic

namespace GDriver
namespace Library

universe u v

/-!
# Resuming a sorted listing after a key

Each window of a listing begins behind the key of the last item that was returned.  In a sorted list the
items up to a key are a first part of it, so that this is a listing by position whose position is always
found anew.  It stands in place for every item but one: an item of the same key as the last one returned.
-/

section Split

variable {α : Type u} [LinearOrder α] {items : List α}

/-- What is true of all smaller items is true of a first part of a sorted list, and of nothing behind it. -/
theorem filter_eq_take_of_sorted (sorted : items.Pairwise (· < ·)) {early : α → Bool}
    (down : ∀ one two, one < two → early two = true → early one = true) :
    items.filter early = items.take (items.countP early) ∧
      (items.filter fun item => !early item) = items.drop (items.countP early) := by
  induction items with
  | nil => exact ⟨rfl, rfl⟩
  | cons first rest inductionHypothesis =>
      rcases List.pairwise_cons.mp sorted with ⟨smallest, later⟩
      by_cases isEarly : early first = true
      · rw [List.filter_cons_of_pos isEarly, List.countP_cons_of_pos isEarly, List.take_succ_cons,
          List.drop_succ_cons, List.filter_cons_of_neg (by rw [isEarly]; decide)]
        exact ⟨congrArg _ (inductionHypothesis later).1, (inductionHypothesis later).2⟩
      · have none_ (item : α) (member : item ∈ first :: rest) : ¬ early item = true := by
          rcases List.mem_cons.mp member with same | behind
          · rw [same]
            exact isEarly
          · exact fun late => isEarly (down first item (smallest item behind) late)
        rw [List.filter_eq_nil_iff.mpr none_, List.countP_eq_zero.mpr none_, List.take_zero, List.drop_zero]
        refine ⟨rfl, List.filter_eq_self.mpr fun item member => ?_⟩
        rw [Bool.not_eq_true']
        exact Bool.eq_false_iff.mpr (none_ item member)

end Split

variable {κ : Type v} {α : Type u} [LinearOrder α] (key : κ → α)

/-- The key of the item is not behind that of the last one returned. -/
def upTo (returned : List κ) (item : κ) : Bool :=
  returned.getLast?.any fun last => decide (key item ≤ key last)

/-- The last item returned has the key of the item and comes before it. -/
def StoppedBefore [LinearOrder κ] (returned : List κ) (item : κ) : Prop :=
  ∃ last ∈ returned.getLast?, key last = key item ∧ last < item

/-- The items that the next window is taken from. -/
def behind (items returned : List κ) : List κ :=
  items.filter fun item => !upTo key returned item

variable {key}

theorem upTo_iff {returned : List κ} {item : κ} :
    upTo key returned item = true ↔ ∃ last ∈ returned.getLast?, key item ≤ key last := by
  rw [upTo, Option.any_eq_true]
  exact exists_congr fun last => and_congr_right fun _ => decide_eq_true_iff

section Monotone

variable [LinearOrder κ] (monotone : Monotone key) {items returned : List κ} {item : κ}

include monotone

theorem upTo_of_lt {one two : κ} (less : one < two) (late : upTo key returned two = true) :
    upTo key returned one = true := by
  rcases upTo_iff.mp late with ⟨last, isLast, reached⟩
  exact upTo_iff.mpr ⟨last, isLast, (monotone less.le).trans reached⟩

/-- A window behind a key is a window behind a position. -/
theorem behind_eq_drop (sorted : items.Pairwise (· < ·)) :
    behind key items returned = items.drop (items.countP (upTo key returned)) :=
  (filter_eq_take_of_sorted sorted fun _ _ => upTo_of_lt monotone).2

/-- The position is in place for all items but those that the listing has stopped before. -/
theorem placeKept_iff (sorted : items.Pairwise (· < ·)) (member : item ∈ items) :
    PlaceKept items returned (items.countP (upTo key returned)) item ↔ ¬ StoppedBefore key returned item := by
  rw [PlaceKept, ← (filter_eq_take_of_sorted sorted fun _ _ => upTo_of_lt monotone).1, List.mem_filter,
    and_iff_right member, upTo_iff]
  constructor
  · rintro kept ⟨last, isLast, same, less⟩
    rcases kept.mp ⟨last, isLast, same.ge⟩ with ⟨again, isAgain, reached⟩
    rw [Option.mem_def] at isLast isAgain
    rw [isLast, Option.some.injEq] at isAgain
    rw [← isAgain] at reached
    exact absurd less reached.not_gt
  · intro apart
    constructor
    · rintro ⟨last, isLast, reached⟩
      refine ⟨last, isLast, not_lt.mp fun less => apart ⟨last, isLast, ?_, less⟩⟩
      exact le_antisymm (monotone less.le) reached
    · rintro ⟨last, isLast, reached⟩
      exact ⟨last, isLast, monotone reached⟩

end Monotone

/-- The keys ascend, where several items may have one key. -/
def Ascends (key : κ → α) (returned : List κ) : Prop :=
  returned.Pairwise fun one two => key one ≤ key two

section Ascending

variable {returned window : List κ}

theorem upTo_of_mem (ascends : Ascends key returned) {item : κ} (member : item ∈ returned) :
    upTo key returned item = true := by
  rcases List.eq_nil_or_concat returned with none_ | ⟨front, last, parts⟩
  · rw [none_] at member
    cases member
  · rw [List.concat_eq_append] at parts
    rw [parts] at ascends member ⊢
    refine upTo_iff.mpr ⟨last, List.getLast?_concat, ?_⟩
    rcases List.mem_append.mp member with inFront | isLast
    · exact (List.pairwise_append.mp ascends).2.2 item inFront last (List.mem_singleton.mpr rfl)
    · exact (congrArg key (List.mem_singleton.mp isLast)).le

/-- What is behind the last item returned is behind all of them. -/
theorem key_lt_of_behind (ascends : Ascends key returned) {one two : κ} (member : one ∈ returned)
    (later : upTo key returned two = false) : key one < key two := by
  rcases upTo_iff.mp (upTo_of_mem ascends member) with ⟨last, isLast, reached⟩
  refine reached.trans_lt (not_le.mp fun early => ?_)
  rw [upTo_iff.mpr ⟨last, isLast, early⟩] at later
  cases later

theorem ascends_append (ascends : Ascends key returned) (sorted : Ascends key window)
    (later : ∀ item ∈ window, upTo key returned item = false) : Ascends key (returned ++ window) :=
  List.pairwise_append.mpr ⟨ascends, sorted, fun _ member two inWindow =>
    (key_lt_of_behind ascends member (later two inWindow)).le⟩

/-- Each window that is not empty returns a key that was not returned before. -/
theorem card_keys_append (ascends : Ascends key returned) (some : window ≠ [])
    (later : ∀ item ∈ window, upTo key returned item = false) :
    (returned.map key).toFinset.card + 1 ≤ ((returned ++ window).map key).toFinset.card := by
  rcases List.exists_mem_of_ne_nil window some with ⟨item, inWindow⟩
  have fresh : key item ∉ (returned.map key).toFinset := by
    intro member
    rcases List.mem_map.mp (List.mem_toFinset.mp member) with ⟨one, before, same⟩
    exact absurd same (key_lt_of_behind ascends before (later item inWindow)).ne
  rw [← Finset.card_insert_of_notMem fresh]
  refine Finset.card_le_card (Finset.insert_subset ?_ ?_)
  · exact List.mem_toFinset.mpr (List.mem_map_of_mem (List.mem_append_right _ inWindow))
  · intro here member
    rw [List.mem_toFinset] at member ⊢
    rw [List.map_append]
    exact List.mem_append_left _ member

end Ascending

end Library
end GDriver
