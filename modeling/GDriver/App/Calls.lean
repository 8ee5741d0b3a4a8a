import GDriver.App.DaemonClient

namespace GDriver
namespace App

open Library Ipc

/-!
# Calls of the app

A sender that is put into the map after the reader has drained it is never used, so its call waits
for good.  A call that cannot hand its line to the writer returns and leaves its sender in the map.
Without these two nothing hangs.
-/

section Claim

variable {Value : Type}

/-- The call need not wait. -/
def Call.canGo (call : Call Value) : Bool :=
  match call.phase, call.channel with
  | .begun, _ => true
  | .inserted, _ => true
  | .waiting, .empty => false
  | .waiting, _ => true
  | .returned _, _ => false

/-- Whether the step can be taken. -/
def DaemonClient.canGo (client : DaemonClient Value) : ClientStep Value → Bool
  | .call _ _ => true
  | .resume number => client.calls[number]?.any Call.canGo
  | .recv => client.writer = .receiving && !client.sending.isEmpty
  | .write _ => client.writer ≠ .receiving && client.writer ≠ .ended
  | .readLine _ => client.reader = .reading
  | .close => client.reader = .reading
  | .drain => client.reader = .stopping

/-- The reader has ended, and no task has anything left to do. -/
structure AtRest (client : DaemonClient Value) : Prop where
  ended : client.reader = .ended
  still : ∀ step, client.canGo step = true → ∃ method params, step = .call method params

/-- Nothing goes on, and there is a sender whose call is waiting. -/
structure Hangs (client : DaemonClient Value) : Prop where
  rests : AtRest client
  waits : ∃ id number, ∃ call : Call Value, (id, number) ∈ client.pending ∧ client.calls[number]? = some call ∧
    call.phase = .waiting

/-- A call goes on properly: it puts its sender into the map before the reader has ended, and
if its sender is there, its line is handed to the writer. -/
def Call.GoesWell [SerdeJson Value] (client : DaemonClient Value) (number : Nat) (call : Call Value) : Prop :=
  match call.phase with
  | .begun => client.reader ≠ .ended
  | .inserted => (call.id, number) ∈ client.pending →
      client.writer ≠ .ended ∧ (SerdeJson.toVec call.request).isOk = true
  | .waiting => True
  | .returned _ => True

/-- Every call that the step resumes goes on properly. -/
def GoesWell [SerdeJson Value] (client : DaemonClient Value) : ClientStep Value → Prop
  | .resume number => ∀ call ∈ client.calls[number]?, call.GoesWell client number
  | _ => True

/-- No call hangs, a response changes only the call with its id, and a call that has failed has no
sender in the map. -/
structure CallsServed [SerdeJson Value] (client : DaemonClient Value) : Prop where
  hangs : ¬ Hangs client
  own : ∀ line id, ∀ result : Except (JsonRpcError Value) Value,
    DaemonClient.messageOf (trim line) = .response id result →
    ∀ (number : Nat) (call : Call Value), client.calls[number]? = some call → call.id ≠ id →
      (client.exec (.readLine line)).calls[number]? = some call
  cleared : ∀ (number : Nat) (call : Call Value) failure, client.calls[number]? = some call →
    call.phase = .returned (.error failure) → ∀ id, (id, number) ∉ client.pending

end Claim

section Invariant

variable {Value : Type}

/-- The sender of the call is in the map, unless it has been used. -/
def Call.inFlight (call : Call Value) : Prop :=
  call.phase = .inserted ∨ call.phase = .waiting

/-- The senders in the map are those of the calls in flight that have no answer. -/
structure Paired (client : DaemonClient Value) : Prop where
  fresh : ∀ (number : Nat) (call : Call Value), client.calls[number]? = some call → call.phase = .begun →
    call.channel = .empty
  senders : ∀ (id : Int) (number : Nat), (id, number) ∈ client.pending →
    ∃ call : Call Value, client.calls[number]? = some call ∧ call.id = id ∧ call.channel = .empty ∧ call.inFlight
  waits : ∀ (number : Nat) (call : Call Value), client.calls[number]? = some call → call.inFlight →
    call.channel = .empty →
    (call.id, number) ∈ client.pending
  drained : client.reader = .ended → client.pending = []

theorem Call.not_inFlight_of_begun {call : Call Value} (begun : call.phase = .begun) : ¬ call.inFlight := by
  rintro (inserted | waiting)
  · cases begun.symm.trans inserted
  · cases begun.symm.trans waiting

theorem Call.not_inFlight_of_returned {call : Call Value} {result : Except String Value}
    (returned : call.phase = .returned result) : ¬ call.inFlight := by
  rintro (inserted | waiting)
  · cases returned.symm.trans inserted
  · cases returned.symm.trans waiting

theorem paired_fromIo : Paired (DaemonClient.fromIo : DaemonClient Value) where
  fresh _ _ found := by cases found
  senders _ _ member := by cases member
  waits _ _ found := by cases found
  drained _ := rfl

/-- Only the map, the calls and the end of the reader matter. -/
theorem Paired.of_same {client other : DaemonClient Value} (paired : Paired client)
    (calls : other.calls = client.calls) (pending : other.pending = client.pending)
    (ends : other.reader = .ended → client.reader = .ended) : Paired other := by
  rcases paired with ⟨fresh, senders, waits, drained⟩
  rw [← calls] at fresh senders waits
  rw [← pending] at senders waits drained
  exact ⟨fresh, senders, waits, fun ended => drained (ends ended)⟩

variable {client : DaemonClient Value} {taken : Int → Bool} {channel : Oneshot Value} {number : Nat}

theorem hasSender_iff : client.hasSender taken number = true ↔
    ∃ id, (id, number) ∈ client.pending ∧ taken id = true := by
  rw [DaemonClient.hasSender, List.any_eq_true]
  constructor
  · rintro ⟨⟨id, other⟩, member, both⟩
    rw [Bool.and_eq_true, decide_eq_true_iff] at both
    rcases both with ⟨takes, same⟩
    subst same
    exact ⟨id, member, takes⟩
  · rintro ⟨id, member, takes⟩
    refine ⟨(id, number), member, ?_⟩
    rw [Bool.and_eq_true, decide_eq_true_iff]
    exact ⟨takes, rfl⟩

theorem mem_pending_settle {id : Int} :
    (id, number) ∈ (client.settle taken channel).pending ↔ (id, number) ∈ client.pending ∧ taken id = false := by
  rw [DaemonClient.settle, List.mem_filter, Bool.not_eq_true']

theorem getElem?_settle : (client.settle taken channel).calls[number]? =
    client.calls[number]?.map fun call =>
      if client.hasSender taken number then { call with channel := channel } else call :=
  List.getElem?_mapIdx

/-- A call without a sender under these ids is left as it is. -/
theorem getElem?_settle_of_no_sender (absent : ∀ id, (id, number) ∈ client.pending → taken id = false) :
    (client.settle taken channel).calls[number]? = client.calls[number]? := by
  have none_ : client.hasSender taken number = false := by
    rw [Bool.eq_false_iff, ne_eq, hasSender_iff]
    rintro ⟨id, member, takes⟩
    rw [absent id member] at takes
    cases takes
  rw [getElem?_settle, none_]
  exact Option.map_id_fun' ▸ rfl

/-- What a call is afterwards: it had a sender there, or it is as it was. -/
theorem of_getElem?_settle {call : Call Value} (found : (client.settle taken channel).calls[number]? = some call) :
    (∃ before id, client.calls[number]? = some before ∧ (id, number) ∈ client.pending ∧ taken id = true ∧
        call = { before with channel := channel }) ∨
      client.calls[number]? = some call ∧ ∀ id, (id, number) ∈ client.pending → taken id = false := by
  rw [getElem?_settle] at found
  rcases Option.map_eq_some_iff.mp found with ⟨before, there, same⟩
  cases has : client.hasSender taken number with
  | true =>
      rcases hasSender_iff.mp has with ⟨id, member, takes⟩
      rw [has] at same
      exact Or.inl ⟨before, id, there, member, takes, same.symm⟩
  | false =>
      rw [has] at same
      refine Or.inr ⟨there.trans (congrArg some same), ?_⟩
      intro id member
      rw [Bool.eq_false_iff]
      intro takes
      rw [hasSender_iff.mpr ⟨id, member, takes⟩] at has
      cases has

/-- Senders may be taken out when something is left in their channels. -/
theorem Paired.settle (paired : Paired client) (answered : channel ≠ .empty) :
    Paired (client.settle taken channel) where
  fresh number call found begun := by
    rcases of_getElem?_settle found with ⟨before, id, there, member, _, same⟩ | ⟨there, _⟩
    · rcases paired.senders id number member with ⟨sender, itself, _, _, flies⟩
      cases there.symm.trans itself
      rw [same] at begun
      exact absurd flies (Call.not_inFlight_of_begun begun)
    · exact paired.fresh number call there begun
  senders id number member := by
    rcases mem_pending_settle.mp member with ⟨before, stays⟩
    rcases paired.senders id number before with ⟨call, there, its, rest⟩
    refine ⟨call, ?_, its, rest⟩
    rw [← there]
    apply getElem?_settle_of_no_sender
    intro other also
    rcases paired.senders other number also with ⟨same, itself, named, _⟩
    cases there.symm.trans itself
    rw [← named, its]
    exact stays
  waits number call found flies open_ := by
    rcases of_getElem?_settle found with ⟨before, id, _, _, _, same⟩ | ⟨there, untaken⟩
    · rw [same] at open_
      exact absurd open_ answered
    · have member := paired.waits number call there flies open_
      exact mem_pending_settle.mpr ⟨member, untaken _ member⟩
  drained ended := by
    change client.pending.filter _ = []
    rw [paired.drained ended]
    rfl

theorem getElem?_moveTo (client : DaemonClient Value) (number other : Nat) (phase : CallPhase Value) :
    (client.moveTo number phase).calls[other]? =
      client.calls[other]?.map fun call => if number = other then { call with phase := phase } else call :=
  List.getElem?_modify _ _ _ _

/-- What a call is after one has moved. -/
theorem of_getElem?_moveTo {other : Nat} {phase : CallPhase Value} {call : Call Value}
    (found : (client.moveTo number phase).calls[other]? = some call) :
    (∃ before, client.calls[number]? = some before ∧ number = other ∧ call = { before with phase := phase }) ∨
      number ≠ other ∧ client.calls[other]? = some call := by
  rw [getElem?_moveTo] at found
  rcases Option.map_eq_some_iff.mp found with ⟨before, there, same⟩
  by_cases its : number = other
  · rw [if_pos its] at same
    subst its
    exact Or.inl ⟨before, there, rfl, same.symm⟩
  · rw [if_neg its] at same
    rw [same] at there
    exact Or.inr ⟨its, there⟩

/-- A call in flight may go on to another wait. -/
theorem Paired.moveTo_waiting {call : Call Value} (paired : Paired client)
    (there : client.calls[number]? = some call) (inserted : call.phase = .inserted) :
    Paired (client.moveTo number .waiting) where
  fresh other moved found begun := by
    rcases of_getElem?_moveTo found with ⟨_, _, _, same⟩ | ⟨_, stayed⟩
    · rw [same] at begun
      cases begun
    · exact paired.fresh other moved stayed begun
  senders id other member := by
    rcases paired.senders id other member with ⟨sender, itself, named, open_, flies⟩
    by_cases its : number = other
    · refine ⟨{ sender with phase := .waiting }, ?_, named, open_, Or.inr rfl⟩
      rw [getElem?_moveTo, itself, Option.map_some, if_pos its]
    · refine ⟨sender, ?_, named, open_, flies⟩
      rw [getElem?_moveTo, itself, Option.map_some, if_neg its]
  waits other moved found flies open_ := by
    rcases of_getElem?_moveTo found with ⟨before, itself, its, same⟩ | ⟨_, stayed⟩
    · cases there.symm.trans itself
      subst its
      rw [same] at open_ ⊢
      exact paired.waits number call there (Or.inl inserted) open_
    · exact paired.waits other moved stayed flies open_
  drained := paired.drained

/-- A call without a sender in the map may return. -/
theorem Paired.moveTo_returned {result : Except String Value} (paired : Paired client)
    (absent : ∀ id, (id, number) ∉ client.pending) : Paired (client.moveTo number (.returned result)) where
  fresh other moved found begun := by
    rcases of_getElem?_moveTo found with ⟨_, _, _, same⟩ | ⟨_, stayed⟩
    · rw [same] at begun
      cases begun
    · exact paired.fresh other moved stayed begun
  senders id other member := by
    rcases paired.senders id other member with ⟨sender, itself, rest⟩
    refine ⟨sender, ?_, rest⟩
    rw [getElem?_moveTo, itself, Option.map_some, if_neg]
    intro its
    subst its
    exact absent id member
  waits other moved found flies open_ := by
    rcases of_getElem?_moveTo found with ⟨_, _, _, same⟩ | ⟨_, stayed⟩
    · rw [same] at flies
      exact absurd flies (Call.not_inFlight_of_returned rfl)
    · exact paired.waits other moved stayed flies open_
  drained := paired.drained

/-- A call that has begun has no sender in the map. -/
theorem Paired.not_mem_of_begun {call : Call Value} (paired : Paired client)
    (there : client.calls[number]? = some call) (begun : call.phase = .begun) (id : Int) :
    (id, number) ∉ client.pending := by
  intro member
  rcases paired.senders id number member with ⟨sender, itself, _, _, flies⟩
  cases there.symm.trans itself
  exact Call.not_inFlight_of_begun begun flies

/-- A call that has an answer has no sender in the map. -/
theorem Paired.not_mem_of_answered {call : Call Value} (paired : Paired client)
    (there : client.calls[number]? = some call) (answered : call.channel ≠ .empty) (id : Int) :
    (id, number) ∉ client.pending := by
  intro member
  rcases paired.senders id number member with ⟨sender, itself, _, open_, _⟩
  cases there.symm.trans itself
  exact answered open_

/-- The sender of a call is put into the map, where there is none under its id. -/
theorem Paired.insert {call : Call Value} (paired : Paired client) (there : client.calls[number]? = some call)
    (begun : call.phase = .begun) (goesOn : client.reader ≠ .ended) : Paired (client.insert number call) := by
  have answered : (Oneshot.dropped : Oneshot Value) ≠ .empty := by
    intro same
    cases same
  let without := client.settle (fun id => id = call.id) .dropped
  have settled : Paired without := paired.settle answered
  have itself : without.calls[number]? = some call :=
    (getElem?_settle_of_no_sender fun id member => absurd member (paired.not_mem_of_begun there begun id)).trans there
  have alone (id : Int) (other : Nat) (member : (id, other) ∈ without.pending) : id ≠ call.id :=
    of_decide_eq_false (mem_pending_settle.mp member).2
  constructor
  · intro other moved found fresh
    rcases of_getElem?_moveTo found with ⟨_, _, _, same⟩ | ⟨_, stayed⟩
    · rw [same] at fresh
      cases fresh
    · exact settled.fresh other moved stayed fresh
  · intro id other member
    rcases List.mem_cons.mp member with own | before
    · cases own
      refine ⟨{ call with phase := .inserted }, ?_, rfl, paired.fresh number call there begun, Or.inl rfl⟩
      rw [DaemonClient.insert, getElem?_moveTo]
      change without.calls[number]?.map _ = _
      rw [itself, Option.map_some, if_pos rfl]
    · rcases settled.senders id other before with ⟨sender, found, rest⟩
      refine ⟨sender, ?_, rest⟩
      rw [DaemonClient.insert, getElem?_moveTo]
      change without.calls[other]?.map _ = _
      rw [found, Option.map_some, if_neg]
      intro same
      subst same
      exact settled.not_mem_of_begun itself begun id before
  · intro other moved found flies open_
    rcases of_getElem?_moveTo found with ⟨before, was, its, same⟩ | ⟨_, stayed⟩
    · have calls : without.calls[number]? = some before := was
      cases itself.symm.trans calls
      rw [same, its]
      exact List.mem_cons_self
    · exact List.mem_cons_of_mem _ (settled.waits other moved stayed flies open_)
  · intro ended
    exact absurd ended goesOn

/-- The new call has an id and no sender. -/
theorem Paired.begin (paired : Paired client) (method : String) (params : Option Value) :
    Paired (client.begin method params) := by
  have cases_ {other : Nat} {call : Call Value} (found : (client.begin method params).calls[other]? = some call) :
      client.calls[other]? = some call ∨ call = ⟨client.nextId, method, params, .empty, .begun⟩ := by
    change (client.calls ++ _)[other]? = _ at found
    rw [List.getElem?_append] at found
    split at found
    · exact Or.inl found
    · exact Or.inr (List.mem_singleton.mp (List.mem_of_getElem? found))
  constructor
  · intro other call found begun
    rcases cases_ found with before | same
    · exact paired.fresh other call before begun
    · rw [same]
  · intro id other member
    rcases paired.senders id other member with ⟨sender, itself, rest⟩
    refine ⟨sender, ?_, rest⟩
    change (client.calls ++ _)[other]? = _
    rw [List.getElem?_append_left (List.getElem?_eq_some_iff.mp itself).1]
    exact itself
  · intro other call found flies open_
    rcases cases_ found with before | same
    · exact paired.waits other call before flies open_
    · rw [same] at flies
      exact absurd flies (Call.not_inFlight_of_begun rfl)
  · exact paired.drained

/-- At rest every call has returned. -/
theorem Paired.returned_of_rest (paired : Paired client) (rests : AtRest client) {call : Call Value}
    (there : client.calls[number]? = some call) : ∃ result, call.phase = .returned result := by
  have stops : call.canGo = false := by
    rw [Bool.eq_false_iff]
    intro goes
    have resumes : client.canGo (.resume number) = true := by
      rw [DaemonClient.canGo, there]
      exact goes
    rcases rests.still _ resumes with ⟨_, _, same⟩
    cases same
  rw [Call.canGo] at stops
  cases phase : call.phase with
  | begun =>
      rw [phase] at stops
      cases stops
  | inserted =>
      rw [phase] at stops
      cases stops
  | waiting =>
      cases channel : call.channel with
      | empty =>
          have member := paired.waits number call there (Or.inr phase) channel
          rw [paired.drained rests.ended] at member
          cases member
      | sent result =>
          rw [phase, channel] at stops
          cases stops
      | dropped =>
          rw [phase, channel] at stops
          cases stops
  | returned result => exact ⟨result, rfl⟩

theorem Paired.receive {call : Call Value} (paired : Paired client) (there : client.calls[number]? = some call) :
    Paired (client.receive number call) := by
  rw [DaemonClient.receive]
  cases channel : call.channel with
  | empty => exact paired
  | sent result =>
      have absent (id : Int) : (id, number) ∉ client.pending := by
        apply paired.not_mem_of_answered there
        rw [channel]
        intro same
        cases same
      cases result with
      | ok value => exact paired.moveTo_returned absent
      | error error => exact paired.moveTo_returned absent
  | dropped =>
      apply paired.moveTo_returned
      apply paired.not_mem_of_answered there
      rw [channel]
      intro same
      cases same

/-- Draining leaves no sender. -/
theorem Paired.drain (paired : Paired client) : Paired client.drain := by
  have answered : (Oneshot.sent (.error (.internalError "daemon disconnected")) : Oneshot Value) ≠ .empty := by
    intro same
    cases same
  have settled := @Paired.settle Value client (fun _ => true) _ paired answered
  refine ⟨settled.fresh, settled.senders, settled.waits, ?_⟩
  intro _
  exact List.filter_eq_nil_iff.mpr fun _ _ => Bool.false_ne_true

section Json

variable [SerdeJson Value]

/-- A step that cannot be taken changes nothing. -/
theorem exec_of_not_canGo {step : ClientStep Value} (stops : client.canGo step = false) :
    client.exec step = client := by
  cases step with
  | call method params => cases stops
  | resume number =>
      rw [DaemonClient.canGo] at stops
      rw [DaemonClient.exec]
      cases found : client.calls[number]? with
      | none => rfl
      | some call =>
          rw [found, Option.any_some, Call.canGo] at stops
          dsimp only
          rw [DaemonClient.resume]
          cases phase : call.phase with
          | begun =>
              rw [phase] at stops
              cases stops
          | inserted =>
              rw [phase] at stops
              cases stops
          | waiting =>
              dsimp only
              rw [DaemonClient.receive]
              cases channel : call.channel with
              | empty => rfl
              | sent result =>
                  rw [phase, channel] at stops
                  cases stops
              | dropped =>
                  rw [phase, channel] at stops
                  cases stops
          | returned result => rfl
  | recv =>
      rw [DaemonClient.canGo] at stops
      rw [DaemonClient.exec]
      split
      · next writer sending =>
          rw [writer, sending] at stops
          cases stops
      · rfl
  | write succeeds =>
      rw [DaemonClient.canGo] at stops
      rw [DaemonClient.exec]
      split
      · next writer =>
          rw [writer] at stops
          cases stops
      · rfl
  | readLine line => exact if_neg (of_decide_eq_false stops)
  | close => exact if_neg (of_decide_eq_false stops)
  | drain => exact if_neg (of_decide_eq_false stops)

theorem Paired.send {call : Call Value} (paired : Paired client) (there : client.calls[number]? = some call)
    (inserted : call.phase = .inserted)
    (goesWell : (call.id, number) ∈ client.pending →
      client.writer ≠ .ended ∧ (SerdeJson.toVec call.request).isOk = true) :
    Paired (client.send number call) := by
  have absent (fails : ¬ (client.writer ≠ .ended ∧ (SerdeJson.toVec call.request).isOk = true)) (id : Int) :
      (id, number) ∉ client.pending := by
    intro member
    rcases paired.senders id number member with ⟨sender, itself, named, _⟩
    cases there.symm.trans itself
    rw [← named] at member
    exact fails (goesWell member)
  rw [DaemonClient.send]
  cases serialised : SerdeJson.toVec call.request with
  | error error =>
      apply paired.moveTo_returned
      apply absent
      rw [serialised]
      intro both
      cases both.2
  | ok bytes =>
      dsimp only
      split
      · next ended =>
          apply paired.moveTo_returned
          apply absent
          intro both
          exact both.1 ended
      · have queued : Paired { client with sending := client.sending ++ [bytes ++ [newline]] } :=
          paired.of_same rfl rfl id
        exact queued.moveTo_waiting there inserted

theorem Paired.resume {call : Call Value} (paired : Paired client) (there : client.calls[number]? = some call)
    (goesWell : call.GoesWell client number) : Paired (client.resume number call) := by
  rw [Call.GoesWell] at goesWell
  rw [DaemonClient.resume]
  cases phase : call.phase with
  | begun =>
      rw [phase] at goesWell
      exact paired.insert there phase goesWell
  | inserted =>
      rw [phase] at goesWell
      exact paired.send there phase goesWell
  | waiting => exact paired.receive there
  | returned result => exact paired

theorem Paired.handleMessage (paired : Paired client) (line : String) : Paired (client.handleMessage line) := by
  rw [DaemonClient.handleMessage]
  cases (DaemonClient.messageOf line : Message Value) with
  | unparsed => exact paired
  | push method params => exact paired.of_same rfl rfl id
  | unidentified => exact paired
  | response id result =>
      apply paired.settle
      intro same
      cases same

/-- One step keeps the senders and the calls together. -/
theorem Paired.exec {step : ClientStep Value} (goesWell : GoesWell client step) (paired : Paired client) :
    Paired (client.exec step) := by
  cases step with
  | call method params => exact paired.begin method params
  | resume number =>
      rw [DaemonClient.exec]
      cases found : client.calls[number]? with
      | none => exact paired
      | some call => exact paired.resume found (goesWell call found)
  | recv =>
      rw [DaemonClient.exec]
      split
      · exact paired.of_same rfl rfl id
      · exact paired
  | write succeeds =>
      rw [DaemonClient.exec]
      split
      · cases succeeds with
        | true => exact paired.of_same rfl rfl id
        | false => exact paired.of_same rfl rfl id
      · exact paired
  | readLine line =>
      rw [DaemonClient.exec, DaemonClient.readLine]
      split
      · split
        · exact paired
        · exact paired.handleMessage (trim line)
      · exact paired
  | close =>
      rw [DaemonClient.exec]
      split
      · refine paired.of_same rfl rfl ?_
        intro ended
        cases ended
      · exact paired
  | drain =>
      rw [DaemonClient.exec]
      split
      · exact paired.drain
      · exact paired

/-- A response to another call leaves the call as it is. -/
theorem Paired.getElem?_readLine {line : String} {id : Int} {result : Except (JsonRpcError Value) Value}
    {call : Call Value} (paired : Paired client)
    (message : DaemonClient.messageOf (trim line) = .response id result)
    (there : client.calls[number]? = some call) (other : call.id ≠ id) :
    (client.exec (.readLine line)).calls[number]? = some call := by
  rw [DaemonClient.exec, DaemonClient.readLine]
  split
  · split
    · exact there
    · rw [DaemonClient.handleMessage, message]
      refine (getElem?_settle_of_no_sender ?_).trans there
      intro named member
      rcases paired.senders named number member with ⟨sender, itself, its, _⟩
      cases there.symm.trans itself
      rw [← its]
      exact decide_eq_false other
  · exact there

theorem Paired.callsServed (paired : Paired client) : CallsServed client where
  hangs := by
    rintro ⟨rests, id, number, _, member, _⟩
    rw [paired.drained rests.ended] at member
    cases member
  own _ _ _ message _ _ there other := paired.getElem?_readLine message there other
  cleared number call failure there returned id := by
    intro member
    rcases paired.senders id number member with ⟨sender, itself, _, _, flies⟩
    cases there.symm.trans itself
    exact Call.not_inFlight_of_returned returned flies

/-- In every run in which the calls go on properly, all calls are served in every state. -/
theorem calls_served {steps : List (ClientStep Value)}
    (along : Along DaemonClient.exec GoesWell steps DaemonClient.fromIo) :
    Throughout DaemonClient.exec CallsServed steps (DaemonClient.fromIo : DaemonClient Value) := by
  have keeps (client : DaemonClient Value) (step : ClientStep Value) (goesWell : GoesWell client step)
      (paired : Paired client) : Paired (client.exec step) :=
    paired.exec goesWell
  exact (throughout_of_along keeps along paired_fromIo).mono fun _ paired => paired.callsServed

end Json

end Invariant

/-! ## Pings -/

section Ping

/-- The text of a ping. -/
def pingWith (id : Option JsonRpcId) : String :=
  match id with
  | some (.num number) => "\x7b\"jsonrpc\":\"2.0\",\"method\":\"ping\",\"id\":" ++ toString number ++ "\x7d"
  | _ => "\x7b\"jsonrpc\":\"2.0\",\"method\":\"ping\"\x7d"

/-- Pings are written, and nothing is read. -/
local instance writesPings : SerdeJson String where
  null := "null"
  toVec request := .ok (textBytes (pingWith request.id))
  fromStr _ := none
  get _ _ := none
  asI64 _ := none
  asStr _ := none
  errorFromValue _ := none

/-- The state after these steps. -/
def afterCalls (steps : List (ClientStep String)) : DaemonClient String :=
  run DaemonClient.exec steps DaemonClient.fromIo

/-- The daemon goes away while a ping is waiting. -/
def pingsWhileOpen : List (ClientStep String) :=
  [.call "ping" none, .resume 0, .resume 0, .recv, .write true, .close, .drain, .resume 0]

theorem goesWell_pingsWhileOpen :
    Along DaemonClient.exec GoesWell pingsWhileOpen DaemonClient.fromIo := by
  refine ⟨trivial, ?_, ?_, trivial, trivial, trivial, trivial, ?_, trivial⟩
  · rintro call ⟨⟩
    intro same
    cases same
  · rintro call ⟨⟩
    intro _
    exact ⟨by decide, rfl⟩
  · rintro call ⟨⟩
    trivial

theorem calls_served_of_pings :
    Throughout DaemonClient.exec CallsServed pingsWhileOpen (DaemonClient.fromIo : DaemonClient String) :=
  calls_served goesWell_pingsWhileOpen

/-- A call that begins after the drain. -/
def pingsAfterDrain : List (ClientStep String) :=
  [.close, .drain, .call "ping" none, .resume 0, .resume 0, .recv, .write false]

/-- The writer ends, and then there is another call. -/
def pingsAfterWriter : List (ClientStep String) :=
  [.call "ping" none, .resume 0, .resume 0, .recv, .write false, .call "ping" none, .resume 1, .resume 1]

theorem call_hangs : ¬ CallsServed (afterCalls pingsAfterDrain) ∧ ¬ CallsServed (afterCalls pingsAfterWriter) := by
  constructor
  · intro served
    apply served.hangs
    refine ⟨⟨rfl, ?_⟩, 1, 0, ⟨1, "ping", none, .empty, .waiting⟩, ?_, rfl, rfl⟩
    · intro step goes
      cases step with
      | call method params => exact ⟨method, params, rfl⟩
      | resume number =>
          cases number with
          | zero => cases goes
          | succ more => cases goes
      | recv => cases goes
      | write succeeds => cases goes
      | readLine line => cases goes
      | close => cases goes
      | drain => cases goes
    · exact List.mem_cons_self
  · intro served
    exact served.cleared 1 ⟨2, "ping", none, .empty, .returned (.error "writer task is dead")⟩ "writer task is dead"
      rfl rfl 2 List.mem_cons_self

end Ping

end App
end GDriver
