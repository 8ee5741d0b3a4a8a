import Mathlib.Data.List.Defs
import GDriver.Ipc.Protocol
import GDriver.Library.Run

namespace GDriver
namespace Ipc

open Library

/-!
# The blocking clients

`IpcClient::call` sends a request and reads lines until one of them is a response; so does the `call`
of the file manager extension.  A call that gives up leaves the response to its request on the way.
The daemon answers the requests of a connection in their order, and writes notifications in between.
-/

/-- A line that the daemon has written. -/
inductive Incoming (Value : Type) where
  | response (message : JsonRpcResponse Value)
  | push
  /-- The end of a line whose beginning was lost: it is no JSON text. -/
  | broken

/-- The response that a call has returned with. -/
structure Returned (Value : Type) where
  call : Int
  taken : JsonRpcResponse Value
  result : Except (JsonRpcError Value) Value

/-- What the two implementations do differently. -/
structure Client where
  /-- What a read has received before it times out is kept for the next one. -/
  keepsBuffer : Bool
  /-- A response without an id is skipped. -/
  skipsNull : Bool

/-- `IpcClient::call` of the crate: `read_line` writes to a buffer of the call. -/
def ipcClient : Client where
  keepsBuffer := false
  skipsNull := true

/-- `IpcClient.call` of the extension: a line is a response when it has an `id`, which may be null. -/
def extensionClient : Client where
  keepsBuffer := true
  skipsNull := false

/-- One connection of a client. -/
structure Wire (Value : Type) where
  nextId : Int
  /-- The call that is waiting for its response. -/
  calling : Option Int
  /-- The requests that the daemon has yet to answer. -/
  unanswered : List Int
  /-- The lines that the daemon has written and the client has not read. -/
  incoming : List (Incoming Value)
  closed : Bool
  /-- Every response that the daemon has written. -/
  responses : List (JsonRpcResponse Value)
  returned : List (Returned Value)

def Wire.connected {Value : Type} : Wire Value where
  nextId := 1
  calling := none
  unanswered := []
  incoming := []
  closed := false
  responses := []
  returned := []

inductive WireStep (Value : Type) where
  /-- A call begins: whether its request reaches the daemon, and whether sending it fails. -/
  | call (arrives fails : Bool)
  /-- The daemon answers the first request it has not answered. -/
  | answer (result : Except (JsonRpcError Value) Value)
  /-- The daemon could not parse the line of that request. -/
  | reject
  | push
  | close
  /-- The call reads a line, or the end of the stream. -/
  | read
  /-- The read of the call times out, possibly after it has received a part of a line. -/
  | timeout (received : Bool)

section Steps

variable {Value : Type} [JsonNull Value]

/-- The result or error of a response. -/
def JsonRpcResponse.outcome (response : JsonRpcResponse Value) : Except (JsonRpcError Value) Value :=
  if response.isSuccess then .ok (response.result.getD JsonNull.null)
  else .error (response.error.getD (.internalError "unknown error"))

/-- The daemon writes a response. -/
def Wire.respond (wire : Wire Value) (unanswered : List Int) (message : JsonRpcResponse Value) : Wire Value :=
  { wire with
    unanswered := unanswered
    incoming := wire.incoming ++ [.response message]
    responses := wire.responses ++ [message] }

/-- The loop of a call goes on with the next line. -/
def Wire.readLine (client : Client) (wire : Wire Value) (id : Int) : Wire Value :=
  match wire.incoming with
  | [] => if wire.closed then { wire with calling := none } else wire
  | .broken :: rest => { wire with incoming := rest, calling := none }
  | .push :: rest => { wire with incoming := rest }
  | .response message :: rest =>
      if message.id.isNone && client.skipsNull then { wire with incoming := rest }
      else
        { wire with
          incoming := rest
          calling := none
          returned := wire.returned ++ [⟨id, message, message.outcome⟩] }

def Wire.exec (client : Client) (wire : Wire Value) : WireStep Value → Wire Value
  | .call arrives fails =>
      match wire.calling with
      | some _ => wire
      | none =>
          { wire with
            nextId := wire.nextId + 1
            calling := if fails then none else some wire.nextId
            unanswered := if arrives then wire.unanswered ++ [wire.nextId] else wire.unanswered }
  | .answer result =>
      match wire.unanswered with
      | [] => wire
      | id :: rest =>
          wire.respond rest (match result with
            | .ok value => .success (some (.num id)) value
            | .error error => .ofError (some (.num id)) error)
  | .reject =>
      match wire.unanswered with
      | [] => wire
      | _ :: rest => wire.respond rest (.ofError none .parseError)
  | .push => { wire with incoming := wire.incoming ++ [.push] }
  | .close => { wire with closed := true }
  | .read =>
      match wire.calling with
      | none => wire
      | some id => wire.readLine client id
  | .timeout received =>
      match wire.calling with
      | none => wire
      | some _ =>
          let lost := received && !client.keepsBuffer
          { wire with
            calling := none
            incoming := if lost then wire.incoming.modifyHead fun _ => .broken else wire.incoming }

/-- A call has returned the result or error of the response to its own request. -/
structure Returned.Own (responses : List (JsonRpcResponse Value)) (entry : Returned Value) : Prop where
  written : entry.taken ∈ responses
  same : entry.taken.id = some (.num entry.call)
  result : entry.result = entry.taken.outcome

def OwnAnswers (wire : Wire Value) : Prop :=
  ∀ entry ∈ wire.returned, entry.Own wire.responses

end Steps

/-- The call to which a line on the way is the response. -/
def Incoming.answers {Value : Type} : Incoming Value → Option Int
  | .response message =>
      match message.id with
      | some (.num id) => some id
      | _ => none
  | .push => none
  | .broken => none

/-- The calls whose responses are on the way or yet to be written. -/
def Wire.outstanding {Value : Type} (wire : Wire Value) : List Int :=
  wire.incoming.filterMap Incoming.answers ++ wire.unanswered

/-- A response is read only when no response to another call is outstanding; one without an id is not taken
for a response. -/
def ReadsOwn {Value : Type} (client : Client) (wire : Wire Value) : WireStep Value → Prop
  | .read =>
      ∀ call message, wire.calling = some call → wire.incoming.head? = some (.response message) →
        if message.id.isNone then client.skipsNull = true else ∀ other ∈ wire.outstanding, other = call
  | _ => True

/-! ## Responses come in the order of the requests -/

/-- The outstanding responses are those to different calls, in their order, and a call that is waiting is the
last one. -/
structure Ordered {Value : Type} (wire : Wire Value) : Prop where
  ascending : wire.outstanding.Pairwise (· < ·)
  issued : ∀ id ∈ wire.outstanding, id < wire.nextId
  current : ∀ id, wire.calling = some id → id + 1 = wire.nextId
  written : ∀ message, .response message ∈ wire.incoming →
    message ∈ wire.responses ∧ (message.id = none ∨ ∃ id, message.id = some (.num id))

section Order

variable {Value : Type} {wire after : Wire Value}

theorem ordered_connected : Ordered (Wire.connected : Wire Value) where
  ascending := List.Pairwise.nil
  issued id member := by cases member
  current id calling := by cases calling
  written message member := by cases member

/-- The order stays when responses are only taken away. -/
theorem Ordered.of_sublist (ordered : Ordered wire) (fewer : after.outstanding.Sublist wire.outstanding)
    (issued : after.nextId = wire.nextId) (current : ∀ id, after.calling = some id → wire.calling = some id)
    (incoming : ∀ message, .response message ∈ after.incoming → .response message ∈ wire.incoming)
    (responses : ∀ message ∈ wire.responses, message ∈ after.responses) : Ordered after where
  ascending := ordered.ascending.sublist fewer
  issued id member := by
    rw [issued]
    exact ordered.issued id (fewer.subset member)
  current id calling := by
    rw [issued]
    exact ordered.current id (current id calling)
  written message member := by
    rcases ordered.written message (incoming message member) with ⟨written, identified⟩
    exact ⟨responses message written, identified⟩

/-- The order stays when the daemon writes the response to the first request, or one without an id. -/
theorem Ordered.respond {message : JsonRpcResponse Value} {id : Int} {rest : List Int} (ordered : Ordered wire)
    (first : wire.unanswered = id :: rest) (answers : message.id = some (.num id) ∨ message.id = none) :
    Ordered (wire.respond rest message) := by
  have fewer : (wire.respond rest message).outstanding.Sublist wire.outstanding := by
    rw [Wire.outstanding, Wire.outstanding, first]
    change ((wire.incoming ++ [Incoming.response message]).filterMap Incoming.answers ++ rest).Sublist _
    rw [List.filterMap_append, List.append_assoc]
    apply List.Sublist.append_left
    rcases answers with same | none
    · rw [List.filterMap_cons, Incoming.answers, same]
      exact List.Sublist.refl _
    · rw [List.filterMap_cons, Incoming.answers, none]
      exact List.sublist_cons_self _ _
  constructor
  · exact ordered.ascending.sublist fewer
  · exact fun other member => ordered.issued other (fewer.subset member)
  · exact ordered.current
  · intro other member
    rcases List.mem_append.mp member with before | now
    · rcases ordered.written other before with ⟨written, identified⟩
      exact ⟨List.mem_append_left _ written, identified⟩
    · rw [List.mem_singleton] at now
      cases now
      refine ⟨List.mem_append_right _ List.mem_cons_self, ?_⟩
      rcases answers with same | none
      · exact Or.inr ⟨id, same⟩
      · exact Or.inl none

variable [JsonNull Value]

/-- Reading a line takes nothing but that line. -/
theorem Ordered.readLine {client : Client} (ordered : Ordered wire) (call : Int) :
    Ordered (wire.readLine client call) := by
  have tail (line : Incoming Value) (rest : List (Incoming Value)) (whole : wire.incoming = line :: rest) :
      (rest.filterMap Incoming.answers ++ wire.unanswered).Sublist wire.outstanding := by
    rw [Wire.outstanding, whole]
    exact (((List.sublist_cons_self line rest).filterMap _).append_right _)
  have member (line : Incoming Value) (rest : List (Incoming Value)) (whole : wire.incoming = line :: rest)
      (message : JsonRpcResponse Value) (inside : .response message ∈ rest) : .response message ∈ wire.incoming := by
    rw [whole]
    exact List.mem_cons_of_mem _ inside
  have idle (other : Int) (impossible : none = some other) : wire.calling = some other := by
    cases impossible
  rw [Wire.readLine]
  split
  · split
    · exact ordered.of_sublist (List.Sublist.refl _) rfl idle (fun _ => id) (fun _ => id)
    · exact ordered
  · next rest whole =>
      exact ordered.of_sublist (tail _ _ whole) rfl idle (member _ _ whole) (fun _ => id)
  · next rest whole =>
      exact ordered.of_sublist (tail _ _ whole) rfl (fun _ => id) (member _ _ whole) (fun _ => id)
  · next message rest whole =>
      split
      · exact ordered.of_sublist (tail _ _ whole) rfl (fun _ => id) (member _ _ whole) (fun _ => id)
      · exact ordered.of_sublist (tail _ _ whole) rfl idle (member _ _ whole) (fun _ => id)

/-- A request that is sent has the largest id. -/
theorem Ordered.call (client : Client) (ordered : Ordered wire) (arrives fails : Bool) :
    Ordered (wire.exec client (.call arrives fails)) := by
  rw [Wire.exec]
  split
  · exact ordered
  · have current (id : Int) (waits : (if fails = true then none else some wire.nextId) = some id) :
        id + 1 = wire.nextId + 1 := by
      cases fails with
      | true => cases waits
      | false =>
          cases waits
          rfl
    cases arrives with
    | false =>
        constructor
        · exact ordered.ascending
        · intro id member
          exact Int.lt_add_one_of_le (Int.le_of_lt (ordered.issued id member))
        · exact current
        · exact ordered.written
    | true =>
        have last : wire.incoming.filterMap Incoming.answers ++ (wire.unanswered ++ [wire.nextId]) =
            wire.outstanding ++ [wire.nextId] := (List.append_assoc _ _ _).symm
        constructor
        · change (wire.incoming.filterMap Incoming.answers ++ (wire.unanswered ++ [wire.nextId])).Pairwise _
          rw [last, List.pairwise_append]
          refine ⟨ordered.ascending, List.pairwise_singleton _ _, ?_⟩
          intro id member next same
          rw [List.mem_singleton.mp same]
          exact ordered.issued id member
        · intro id member
          change id ∈ wire.incoming.filterMap Incoming.answers ++ (wire.unanswered ++ [wire.nextId]) at member
          rw [last] at member
          apply Int.lt_add_one_of_le
          rcases List.mem_append.mp member with before | now
          · exact Int.le_of_lt (ordered.issued id before)
          · exact Int.le_of_eq (List.mem_singleton.mp now)
        · exact current
        · exact ordered.written

theorem Ordered.push (client : Client) (ordered : Ordered wire) : Ordered (wire.exec client .push) := by
  have same : (wire.exec client .push).outstanding = wire.outstanding := by
    rw [Wire.outstanding, Wire.outstanding, Wire.exec, List.filterMap_append]
    exact congrArg (fun ids => ids ++ wire.unanswered) (List.append_nil _)
  refine ordered.of_sublist (same ▸ List.Sublist.refl _) rfl (fun _ => id) ?_ (fun _ => id)
  intro message member
  rcases List.mem_append.mp member with before | impossible
  · exact before
  · rw [List.mem_singleton] at impossible
    cases impossible

/-- A read that times out breaks at most the first line. -/
theorem Ordered.timeout (client : Client) (ordered : Ordered wire) (received : Bool) :
    Ordered (wire.exec client (.timeout received)) := by
  have fewer : ((wire.incoming.modifyHead fun _ => .broken).filterMap Incoming.answers).Sublist
      (wire.incoming.filterMap Incoming.answers) := by
    cases wire.incoming with
    | nil => exact List.Sublist.refl _
    | cons line rest =>
        exact (List.sublist_cons_self line rest).filterMap _
  rw [Wire.exec]
  split
  · exact ordered
  · dsimp only
    refine ordered.of_sublist ?_ rfl (fun _ impossible => by cases impossible) ?_ (fun _ => id)
    · split
      · exact fewer.append_right _
      · exact List.Sublist.refl _
    · intro message member
      dsimp only at member
      split at member
      · cases lines : wire.incoming with
        | nil =>
            rw [lines] at member
            exact member
        | cons line rest =>
            rw [lines, List.modifyHead_cons] at member
            rcases List.mem_cons.mp member with impossible | inside
            · cases impossible
            · exact List.mem_cons_of_mem _ inside
      · exact member

theorem ordered_exec (client : Client) (wire : Wire Value) (step : WireStep Value) (ordered : Ordered wire) :
    Ordered (wire.exec client step) := by
  cases step with
  | call arrives fails => exact ordered.call client arrives fails
  | answer result =>
      rw [Wire.exec]
      split
      · exact ordered
      · next id rest first =>
          apply ordered.respond first
          left
          split
          · rfl
          · rfl
  | reject =>
      rw [Wire.exec]
      split
      · exact ordered
      · next id rest first => exact ordered.respond first (Or.inr rfl)
  | push => exact ordered.push client
  | close => exact ordered.of_sublist (List.Sublist.refl _) rfl (fun _ => id) (fun _ => id) (fun _ => id)
  | read =>
      rw [Wire.exec]
      split
      · exact ordered
      · next call calling => exact ordered.readLine call
  | timeout received => exact ordered.timeout client received

end Order

/-! ## A call gets its own answer -/

section Answers

variable {Value : Type} [JsonNull Value] {wire : Wire Value}

omit [JsonNull Value] in
/-- The first response on the way is the only one outstanding if it is the one to the call that waits. -/
theorem Ordered.eq_of_outstanding {call other : Int} {message : JsonRpcResponse Value} {rest : List (Incoming Value)}
    (ordered : Ordered wire) (calling : wire.calling = some call) (first : wire.incoming = .response message :: rest)
    (own : message.id = some (.num call)) (member : other ∈ wire.outstanding) : other = call := by
  have ascending := ordered.ascending
  have whole : wire.outstanding = call :: (rest.filterMap Incoming.answers ++ wire.unanswered) := by
    rw [Wire.outstanding, first, List.filterMap_cons, Incoming.answers, own]
    rfl
  have issued := ordered.issued other member
  have current := ordered.current call calling
  rw [whole] at ascending member
  rcases List.mem_cons.mp member with same | later
  · exact same
  · have greater := (List.pairwise_cons.mp ascending).1 other later
    omega

/-- A call takes the first response on the way for its own. -/
theorem ownAnswers_take_iff {call : Int} {message : JsonRpcResponse Value} {rest : List (Incoming Value)}
    (ordered : Ordered wire) (calling : wire.calling = some call) (first : wire.incoming = .response message :: rest)
    (own : OwnAnswers wire) :
    OwnAnswers { wire with
        incoming := rest
        calling := none
        returned := wire.returned ++ [⟨call, message, message.outcome⟩] } ↔
      message.id.isNone = false ∧ ∀ other ∈ wire.outstanding, other = call := by
  rcases ordered.written message (by rw [first]; exact List.mem_cons_self) with ⟨written, identified⟩
  constructor
  · intro after
    have taken := after ⟨call, message, message.outcome⟩ (List.mem_append_right _ List.mem_cons_self)
    refine ⟨by rw [taken.same]; rfl, ?_⟩
    exact fun other member => ordered.eq_of_outstanding calling first taken.same member
  · intro alone entry member
    rcases alone with ⟨present, alone⟩
    rcases List.mem_append.mp member with before | now
    · exact own entry before
    · rw [List.mem_singleton.mp now]
      rcases identified with none | ⟨id, same⟩
      · rw [none] at present
        cases present
      · have inside : id ∈ wire.outstanding := by
          rw [Wire.outstanding, first, List.filterMap_cons, Incoming.answers, same]
          exact List.mem_cons_self
        rw [alone id inside] at same
        exact ⟨written, same, rfl⟩

/-- The call that reads a line gets its own answer exactly if no other one is outstanding. -/
theorem ownAnswers_readLine_iff {client : Client} {call : Int} (ordered : Ordered wire)
    (calling : wire.calling = some call) (own : OwnAnswers wire) :
    OwnAnswers (wire.readLine client call) ↔ ReadsOwn client wire (.read : WireStep Value) := by
  have nothing (other : ∀ message rest, wire.incoming ≠ .response message :: rest) :
      ReadsOwn client wire (.read : WireStep Value) := by
    intro _ message _ first
    rcases List.head?_eq_some_iff.mp first with ⟨rest, whole⟩
    exact absurd whole (other message rest)
  rw [Wire.readLine]
  cases incoming : wire.incoming with
  | nil =>
      refine iff_of_true ?_ (nothing fun message rest impossible => by rw [incoming] at impossible; cases impossible)
      dsimp only
      split
      · exact own
      · exact own
  | cons line rest =>
      cases line with
      | push =>
          refine iff_of_true own (nothing fun message rest impossible => ?_)
          rw [incoming] at impossible
          cases impossible
      | broken =>
          refine iff_of_true own (nothing fun message rest impossible => ?_)
          rw [incoming] at impossible
          cases impossible
      | response message =>
          have reads : ReadsOwn client wire (.read : WireStep Value) ↔
              if message.id.isNone then client.skipsNull = true else ∀ other ∈ wire.outstanding, other = call := by
            constructor
            · intro reads
              exact reads call message calling (by rw [incoming]; rfl)
            · intro safe other found waits first
              rw [calling] at waits
              rw [incoming] at first
              cases waits
              cases first
              exact safe
          rw [reads]
          have taken := ownAnswers_take_iff ordered calling incoming own
          dsimp only
          cases absent : message.id.isNone with
          | false =>
              rw [absent] at taken
              rw [Bool.false_and, if_neg Bool.false_ne_true, if_neg Bool.false_ne_true]
              exact taken.trans (and_iff_right rfl)
          | true =>
              rw [Bool.true_and, if_pos rfl]
              cases skips : client.skipsNull with
              | true =>
                  rw [if_pos rfl]
                  exact iff_of_true own rfl
              | false =>
                  rw [absent] at taken
                  rw [if_neg Bool.false_ne_true]
                  refine taken.trans (iff_of_false ?_ Bool.false_ne_true)
                  intro impossible
                  cases impossible.1

theorem ownAnswers_exec_iff (client : Client) (wire : Wire Value) (step : WireStep Value) (ordered : Ordered wire)
    (own : OwnAnswers wire) : OwnAnswers (wire.exec client step) ↔ ReadsOwn client wire step := by
  have responded (unanswered : List Int) (message : JsonRpcResponse Value) :
      OwnAnswers (wire.respond unanswered message) := by
    intro entry member
    rcases own entry member with ⟨written, same, result⟩
    exact ⟨List.mem_append_left _ written, same, result⟩
  cases step with
  | call arrives fails =>
      refine iff_of_true ?_ trivial
      rw [Wire.exec]
      split
      · exact own
      · exact own
  | answer result =>
      refine iff_of_true ?_ trivial
      rw [Wire.exec]
      split
      · exact own
      · exact responded _ _
  | reject =>
      refine iff_of_true ?_ trivial
      rw [Wire.exec]
      split
      · exact own
      · exact responded _ _
  | push => exact iff_of_true own trivial
  | close => exact iff_of_true own trivial
  | read =>
      rw [Wire.exec]
      cases calling : wire.calling with
      | none =>
          refine iff_of_true own ?_
          intro _ _ impossible
          rw [calling] at impossible
          cases impossible
      | some call => exact ownAnswers_readLine_iff ordered calling own
  | timeout received =>
      refine iff_of_true ?_ trivial
      rw [Wire.exec]
      split
      · exact own
      · exact own

/-- In every run of a connection, each call that returns has got the response to its own request exactly if no
call reads a response while one to another call is outstanding. -/
theorem answers_own_iff (client : Client) (steps : List (WireStep Value)) :
    Throughout (Wire.exec client) OwnAnswers steps (Wire.connected : Wire Value) ↔
      Along (Wire.exec client) (ReadsOwn client) steps Wire.connected := by
  refine @throughout_iff_along _ _ _ (ReadsOwn client) Ordered OwnAnswers (ordered_exec client)
    (ownAnswers_exec_iff client) _ ordered_connected ?_ steps
  intro entry member
  cases member

end Answers

section Late

local instance textNull : JsonNull String where
  null := "null"

/-- The first call times out, and its response comes when the second call is waiting. -/
def lateAnswer : List (WireStep String) :=
  [.call true false, .timeout false, .answer (.ok "first"), .call true false, .read]

/-- With both clients the second call returns with the answer to the first. -/
theorem late_answer_goes_to_next_call :
    ¬ Throughout (Wire.exec ipcClient) OwnAnswers lateAnswer (Wire.connected : Wire String) ∧
      ¬ Throughout (Wire.exec extensionClient) OwnAnswers lateAnswer (Wire.connected : Wire String) := by
  have other : (some (.num 1) : Option JsonRpcId) ≠ some (.num 2) := by decide
  let entry : Returned String := ⟨2, .success (some (.num 1)) "first", .ok "first"⟩
  constructor
  · intro throughout
    have last : OwnAnswers _ := throughout.last
    have own := last entry List.mem_cons_self
    exact other own.same
  · intro throughout
    have last : OwnAnswers _ := throughout.last
    have own := last entry List.mem_cons_self
    exact other own.same

end Late

end Ipc
end GDriver
