import Mathlib.Algebra.Ring.Nat
import Mathlib.Data.List.Basic
import Mathlib.Data.List.Infix

namespace GDriver
namespace Library

/-!
# A channel that keeps the newest messages

Every receiver of a broadcast channel gets every message, at its own speed.  The channel keeps as many
messages as it has room for, and a receiver that is further behind skips what is gone.
-/

universe u v

variable {β : Type u}

/-- How many messages were sent, and the newest of them. -/
structure Channel (β : Type u) where
  sent : Nat
  kept : List β

/-- What a receiver gets. -/
inductive Received (β : Type u) where
  | message (message : β)
  /-- So many messages are gone. -/
  | lagged (skipped : Nat)

namespace Channel

def empty : Channel β where
  sent := 0
  kept := []

/-- The number of the oldest message that is kept. -/
def oldest (channel : Channel β) : Nat :=
  channel.sent - channel.kept.length

def send (capacity : Nat) (channel : Channel β) (message : β) : Channel β where
  sent := channel.sent + 1
  kept := (channel.kept ++ [message]).drop (channel.kept.length + 1 - capacity)

/-- What the receiver gets that waits for the message with this number, and the one it waits for then. -/
def receive (channel : Channel β) (next : Nat) : Option (Received β × Nat) :=
  if next < channel.oldest then some (.lagged (channel.oldest - next), channel.oldest)
  else channel.kept[next - channel.oldest]?.map fun message => (.message message, next + 1)

/-- The channel after these messages. -/
structure Holds (capacity : Nat) (messages : List β) (channel : Channel β) : Prop where
  sent : channel.sent = messages.length
  kept : channel.kept = messages.drop (messages.length - capacity)

end Channel

section Sending

variable {capacity : Nat} {sent : List β} {channel : Channel β}

theorem Channel.holds_empty (capacity : Nat) : (Channel.empty : Channel β).Holds capacity [] where
  sent := rfl
  kept := List.drop_nil.symm

theorem Channel.Holds.oldest (holds : channel.Holds capacity sent) : channel.oldest = sent.length - capacity := by
  rw [Channel.oldest, holds.sent, holds.kept, List.length_drop]
  omega

theorem Channel.Holds.send (holds : channel.Holds capacity sent) (message : β) :
    (channel.send capacity message).Holds capacity (sent ++ [message]) := by
  constructor
  · rw [Channel.send, holds.sent, List.length_append, List.length_singleton]
  · have lengths : channel.kept.length = sent.length - (sent.length - capacity) := by
      rw [holds.kept, List.length_drop]
    have whole : channel.kept ++ [message] = (sent ++ [message]).drop (sent.length - capacity) := by
      rw [holds.kept, List.drop_append_of_le_length (Nat.sub_le _ _)]
    have dropped : sent.length - capacity + (channel.kept.length + 1 - capacity) = sent.length + 1 - capacity := by
      rw [lengths]
      omega
    rw [Channel.send, whole, List.drop_drop, List.length_append, List.length_singleton, dropped]

end Sending

/-! ## Receivers -/

/-- A receiver: the messages that it waited for first and waits for now, what it got, and what it skipped. -/
structure Receiver (β : Type u) where
  subscribed : Nat
  next : Nat
  got : List β
  skipped : List Nat

/-- The receiver got, in order, what was sent since it subscribed, except for what it skipped; and as much of
this as is newest it got without a gap. -/
structure Receiver.Follows (capacity : Nat) (sent : List β) (receiver : Receiver β) : Prop where
  places : receiver.subscribed ≤ receiver.next ∧ receiver.next ≤ sent.length
  ordered : receiver.got.Sublist ((sent.take receiver.next).drop receiver.subscribed)
  accounted : receiver.got.length + receiver.skipped.sum = receiver.next - receiver.subscribed
  newest : (sent.take receiver.next).drop (max (sent.length - capacity) receiver.subscribed) <:+ receiver.got

section Receivers

variable {capacity : Nat} {sent : List β} {channel : Channel β} {receiver : Receiver β}

/-- One that subscribes waits for the next message. -/
theorem Receiver.follows_subscribed (capacity : Nat) (sent : List β) :
    (Receiver.mk sent.length sent.length [] []).Follows capacity sent where
  places := ⟨Nat.le_refl _, Nat.le_refl _⟩
  ordered := List.nil_sublist _
  accounted := (Nat.sub_self _).symm
  newest := by
    rw [List.take_length, List.drop_eq_nil_of_le (Nat.le_max_right _ _)]

/-- What a receiver got stays what it was when more is sent. -/
theorem Receiver.Follows.send (follows : receiver.Follows capacity sent) (message : β) :
    receiver.Follows capacity (sent ++ [message]) := by
  have before : (sent ++ [message]).take receiver.next = sent.take receiver.next :=
    List.take_append_of_le_length follows.places.2
  constructor
  · rw [List.length_append]
    exact ⟨follows.places.1, Nat.le_trans follows.places.2 (Nat.le_add_right _ _)⟩
  · rw [before]
    exact follows.ordered
  · exact follows.accounted
  · rw [before, List.length_append, List.length_singleton]
    refine List.IsSuffix.trans ?_ follows.newest
    have further : max (sent.length - capacity) receiver.subscribed ≤
        max (sent.length + 1 - capacity) receiver.subscribed := by omega
    rw [← Nat.sub_add_cancel further, Nat.add_comm, ← List.drop_drop]
    exact List.drop_suffix _ _

/-- What the next message adds to those up to it. -/
theorem drop_take_succ {next first : Nat} {message : β} (there : sent[next]? = some message) (before : first ≤ next) :
    (sent.take (next + 1)).drop first = (sent.take next).drop first ++ [message] := by
  have short : next ≤ sent.length := Nat.le_of_lt (List.getElem?_eq_some_iff.mp there).1
  rw [List.take_add_one, there, Option.toList_some, List.drop_append_of_le_length]
  rw [List.length_take, Nat.min_eq_left short]
  exact before

theorem Receiver.Follows.message (follows : receiver.Follows capacity sent) {message : β}
    (recent : sent.length - capacity ≤ receiver.next) (there : sent[receiver.next]? = some message) :
    (Receiver.mk receiver.subscribed (receiver.next + 1) (receiver.got ++ [message]) receiver.skipped).Follows
      capacity sent := by
  have places := follows.places
  have accounted := follows.accounted
  constructor
  · exact ⟨Nat.le_succ_of_le places.1, (List.getElem?_eq_some_iff.mp there).1⟩
  · dsimp only
    rw [drop_take_succ there places.1]
    exact follows.ordered.append (List.Sublist.refl _)
  · dsimp only
    rw [List.length_append, List.length_singleton]
    omega
  · dsimp only
    rw [drop_take_succ there (Nat.max_le.mpr ⟨recent, places.1⟩)]
    rcases follows.newest with ⟨older, same⟩
    exact ⟨older, by rw [← List.append_assoc, same]⟩

theorem Receiver.Follows.lagged (follows : receiver.Follows capacity sent)
    (behind : receiver.next < sent.length - capacity) :
    (Receiver.mk receiver.subscribed (sent.length - capacity) receiver.got
      (receiver.skipped ++ [sent.length - capacity - receiver.next])).Follows capacity sent := by
  have places := follows.places
  have accounted := follows.accounted
  constructor
  · exact ⟨Nat.le_trans places.1 (Nat.le_of_lt behind), Nat.sub_le _ _⟩
  · refine follows.ordered.trans ?_
    dsimp only
    have longer : sent.take receiver.next <+: sent.take (sent.length - capacity) :=
      List.take_prefix_take_left (Nat.le_of_lt behind)
    exact longer.sublist.drop _
  · dsimp only
    rw [List.sum_append, List.sum_singleton]
    omega
  · dsimp only
    rw [List.drop_eq_nil_of_le]
    · exact List.nil_suffix
    · rw [List.length_take]
      omega

/-- What a receiver does with what it gets. -/
def Receiver.take (receiver : Receiver β) : Received β × Nat → Receiver β
  | (.message message, later) => ⟨receiver.subscribed, later, receiver.got ++ [message], receiver.skipped⟩
  | (.lagged skipped, later) => ⟨receiver.subscribed, later, receiver.got, receiver.skipped ++ [skipped]⟩

theorem Receiver.Follows.take (follows : receiver.Follows capacity sent) (holds : channel.Holds capacity sent)
    {received : Received β × Nat} (gets : channel.receive receiver.next = some received) :
    (receiver.take received).Follows capacity sent := by
  rw [Channel.receive, holds.oldest] at gets
  split at gets
  · next behind =>
      cases gets
      exact follows.lagged behind
  · next recent =>
      have recent := Nat.le_of_not_lt recent
      rw [holds.kept, List.getElem?_drop, Nat.add_sub_cancel' recent] at gets
      rcases Option.map_eq_some_iff.mp gets with ⟨message, there, same⟩
      rw [← same]
      exact follows.message recent there

/-- A receiver that has skipped nothing got everything. -/
theorem Receiver.Follows.got_eq (follows : receiver.Follows capacity sent) (none_ : receiver.skipped = []) :
    receiver.got = (sent.take receiver.next).drop receiver.subscribed := by
  refine follows.ordered.eq_of_length ?_
  have accounted := follows.accounted
  have places := follows.places
  rw [none_, List.sum_nil] at accounted
  rw [List.length_drop, List.length_take]
  omega

/-- A receiver that has got to the end has got the last message of a kind, if one is kept that was sent since it
subscribed. -/
theorem Receiver.Follows.getLast?_filterMap {γ : Type v} (follows : receiver.Follows capacity sent)
    (caughtUp : receiver.next = sent.length) (kind : β → Option γ)
    (recent : (sent.drop (max (sent.length - capacity) receiver.subscribed)).filterMap kind ≠ []) :
    (receiver.got.filterMap kind).getLast? = (sent.filterMap kind).getLast? := by
  have newest := follows.newest
  rw [caughtUp, List.take_length] at newest
  have last (longer : List β)
      (suffix : sent.drop (max (sent.length - capacity) receiver.subscribed) <:+ longer) :
      (longer.filterMap kind).getLast? =
        ((sent.drop (max (sent.length - capacity) receiver.subscribed)).filterMap kind).getLast? := by
    rcases suffix with ⟨older, same⟩
    rw [← same, List.filterMap_append, List.getLast?_append_of_ne_nil _ recent]
  rw [last _ newest, last _ (List.drop_suffix _ _)]

end Receivers

end Library
end GDriver
