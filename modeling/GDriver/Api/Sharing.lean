import GDriver.Api.Engines
import GDriver.Library.Run
import Mathlib.Data.List.Basic
import Mathlib.Logic.Function.Basic

namespace GDriver
namespace Api

open Library

/-!
# Calls that share a client

All calls of a client share its token.  Each reads it before each of its requests, and a call that is answered
with 401 may replace it while others are under way.  Every request, answer and refresh is a step here, in any
order.
-/

/-- Where a call is: before its next request, under way with a token, or waiting for the refresher. -/
inductive Stage (α : Type) where
  | ready (retries : Retries)
  | sent (token : String) (retries : Retries)
  | refreshing (answer : Answer) (retries : Retries)
  | returned (result : Except String α)

/-- A client with its calls, by number. -/
structure SharedClient (α : Type) where
  accessToken : String
  stage : Nat → Stage α

/-- What happens to a client: a call sends its request, is answered, or gets a token, or somebody sets one. -/
inductive ClientEvent where
  | sends (call : Nat)
  | answered (call : Nat) (answer : Answer)
  | refreshed (call : Nat) (result : Except String String)
  | setAccessToken (token : String)

/-- Whether a call asks the refresher after an answer. -/
def DriveClient.asksRefresher (client : DriveClient) (retries : Retries) : Answer → Bool
  | .failed _ => false
  | .response status _ => status = 401 && !retries.tokenRefreshed && client.hasRefresher

namespace SharedClient

variable {α : Type}

/-- No call has sent anything yet. -/
def start (token : String) : SharedClient α where
  accessToken := token
  stage _ := .ready ⟨0, false⟩

def put (shared : SharedClient α) (call : Nat) (stage : Stage α) : SharedClient α :=
  { shared with stage := Function.update shared.stage call stage }

/-- A call goes on with a turn of its loop. -/
def goOn (shared : SharedClient α) (call : Nat) : Turn α → SharedClient α
  | .done result => shared.put call (.returned result)
  | .again next _ => { shared.put call (.ready next.retries) with accessToken := next.accessToken }

def exec (client : DriveClient) (turn : Loop → Exchange → Turn α) (shared : SharedClient α) :
    ClientEvent → SharedClient α
  | .sends call =>
      match shared.stage call with
      | .ready retries =>
          if isHeaderText shared.accessToken then shared.put call (.sent shared.accessToken retries)
          else shared.put call (.returned (.error (DriveClient.requestFailed "builder error")))
      | _ => shared
  | .answered call answer =>
      match shared.stage call with
      | .sent _ retries =>
          if client.asksRefresher retries answer then shared.put call (.refreshing answer retries)
          -- Without a refresh only the counters and the answer matter.
          else shared.goOn call (turn ⟨shared.accessToken, retries⟩ ⟨answer, .error ""⟩)
      | _ => shared
  | .refreshed call result =>
      match shared.stage call with
      | .refreshing answer retries => shared.goOn call (turn ⟨shared.accessToken, retries⟩ ⟨answer, result⟩)
      | _ => shared
  | .setAccessToken token => { shared with accessToken := token }

/-- The exchange that an event completes, and its call. -/
def completed (client : DriveClient) (shared : SharedClient α) : ClientEvent → Option (Nat × Exchange)
  | .answered call answer =>
      match shared.stage call with
      | .sent _ retries => if client.asksRefresher retries answer then none else some (call, ⟨answer, .error ""⟩)
      | _ => none
  | .refreshed call result =>
      match shared.stage call with
      | .refreshing answer _ => some (call, ⟨answer, result⟩)
      | _ => none
  | _ => none

/-- The exchange of this call that an event completes. -/
def exchangeOf (client : DriveClient) (call : Nat) (shared : SharedClient α) (event : ClientEvent) : Option Exchange :=
  match completed client shared event with
  | some (other, exchange) => if other = call then some exchange else none
  | none => none

end SharedClient

/-- What an event can do to a client. -/
inductive Happens {α : Type} (client : DriveClient) (turn : Loop → Exchange → Turn α) (shared : SharedClient α) :
    ClientEvent → Option (Nat × Exchange) → SharedClient α → Prop where
  /-- The call does not wait for this. -/
  | idle (event : ClientEvent) : Happens client turn shared event none shared
  | sends {call : Nat} {retries : Retries} (ready : shared.stage call = .ready retries)
      (sendable : isHeaderText shared.accessToken = true) :
      Happens client turn shared (.sends call) none (shared.put call (.sent shared.accessToken retries))
  | refuses {call : Nat} {retries : Retries} (ready : shared.stage call = .ready retries)
      (unsendable : ¬ isHeaderText shared.accessToken = true) :
      Happens client turn shared (.sends call) none
        (shared.put call (.returned (.error (DriveClient.requestFailed "builder error"))))
  | asks {call : Nat} {token : String} {retries : Retries} {answer : Answer}
      (sent : shared.stage call = .sent token retries) (asks : client.asksRefresher retries answer = true) :
      Happens client turn shared (.answered call answer) none (shared.put call (.refreshing answer retries))
  | goesOn {call : Nat} {token : String} {retries : Retries} {answer : Answer}
      (sent : shared.stage call = .sent token retries) (asksNot : ¬ client.asksRefresher retries answer = true) :
      Happens client turn shared (.answered call answer) (some (call, ⟨answer, .error ""⟩))
        (shared.goOn call (turn ⟨shared.accessToken, retries⟩ ⟨answer, .error ""⟩))
  | renews {call : Nat} {retries : Retries} {answer : Answer} (result : Except String String)
      (asked : shared.stage call = .refreshing answer retries) :
      Happens client turn shared (.refreshed call result) (some (call, ⟨answer, result⟩))
        (shared.goOn call (turn ⟨shared.accessToken, retries⟩ ⟨answer, result⟩))
  | sets (token : String) :
      Happens client turn shared (.setAccessToken token) none { shared with accessToken := token }

theorem happens_exec {α : Type} (client : DriveClient) (turn : Loop → Exchange → Turn α) (shared : SharedClient α)
    (event : ClientEvent) :
    Happens client turn shared event (SharedClient.completed client shared event) (shared.exec client turn event) := by
  cases event with
  | sends call =>
      change Happens client turn shared _ none _
      rw [SharedClient.exec]
      split
      · next retries ready =>
          split
          · next sendable => exact .sends ready sendable
          · next unsendable => exact .refuses ready unsendable
      · exact .idle _
  | answered call answer =>
      rw [SharedClient.completed, SharedClient.exec]
      cases sent : shared.stage call with
      | sent token retries =>
          dsimp only
          split
          · next asks => exact .asks sent asks
          · next asksNot => exact .goesOn sent asksNot
      | ready retries => exact .idle _
      | refreshing answer retries => exact .idle _
      | returned result => exact .idle _
  | refreshed call result =>
      rw [SharedClient.completed, SharedClient.exec]
      cases asked : shared.stage call with
      | refreshing answer retries => exact .renews result asked
      | ready retries => exact .idle _
      | sent token retries => exact .idle _
      | returned result => exact .idle _
  | setAccessToken token => exact .sets token

/-- The four loops of the client. -/
inductive IsEngine (client : DriveClient) : {α : Type} → (Loop → Exchange → Turn α) → Prop where
  | json {α : Type} (decode : String → Except String α) : IsEngine client (client.executeJson decode)
  | noContent : IsEngine client client.executeNoContent
  | raw : IsEngine client client.executeRaw
  | rawNoRedirect : IsEngine client client.executeRawNoRedirect

section Engines

variable {client : DriveClient} {α : Type} {turn : Loop → Exchange → Turn α}

theorem IsEngine.follows (engine : IsEngine client turn) : Follows client turn := by
  cases engine with
  | json decode => exact follows_executeJson client decode
  | noContent => exact follows_executeNoContent client
  | raw => exact follows_executeRaw client
  | rawNoRedirect => exact follows_executeRawNoRedirect client

/-- What a turn leaves of a call, beside the token. -/
def Turn.stage : Turn α → Stage α
  | .done result => .returned result
  | .again next _ => .ready next.retries

theorem repeats_token (client : DriveClient) (retries : Retries) (exchange : Exchange) (status : Nat)
    (token other : String) :
    (client.repeats ⟨token, retries⟩ exchange status).map (fun next => next.1.retries) =
      (client.repeats ⟨other, retries⟩ exchange status).map (fun next => next.1.retries) := by
  rw [retries_repeats, retries_repeats]

theorem stage_answered {exchange : Exchange} {retries : Retries} {status : Nat} {accepts : Bool} {token other : String}
    (result refusal : Except String α) :
    Turn.stage (if accepts then .done result
      else match client.repeats ⟨token, retries⟩ exchange status with
        | some (next, effect) => .again next effect
        | none => .done refusal) =
    Turn.stage (if accepts then .done result
      else match client.repeats ⟨other, retries⟩ exchange status with
        | some (next, effect) => .again next effect
        | none => .done refusal) := by
  have same := repeats_token client retries exchange status token other
  cases accepts with
  | true => rfl
  | false =>
      cases one : client.repeats ⟨token, retries⟩ exchange status with
      | none =>
          rw [one, Option.map_none, eq_comm, Option.map_eq_none_iff] at same
          rw [same]
      | some first =>
          rw [one, Option.map_some, eq_comm] at same
          rcases Option.map_eq_some_iff.mp same with ⟨second, two, alike⟩
          rw [two]
          exact congrArg Stage.ready alike.symm

/-- The token of the client does not matter to what follows an answer. -/
theorem IsEngine.stage_token (engine : IsEngine client turn) (retries : Retries) (exchange : Exchange)
    (token other : String) : (turn ⟨token, retries⟩ exchange).stage = (turn ⟨other, retries⟩ exchange).stage := by
  rcases exchange with ⟨answer, refresh⟩
  cases engine with
  | json decode =>
      cases answer with
      | failed failure => rfl
      | response status body => exact stage_answered _ _
  | noContent =>
      cases answer with
      | failed failure => rfl
      | response status body => exact stage_answered _ _
  | raw =>
      cases answer with
      | failed failure => rfl
      | response status body => exact stage_answered _ _
  | rawNoRedirect =>
      cases answer with
      | failed failure => rfl
      | response status body => exact stage_answered _ _

end Engines

/-! ## As if it were alone -/

/-- A call between two requests: a request under way is not counted yet. -/
def Stage.between {α : Type} : Stage α → Stage α
  | .sent _ retries => .ready retries
  | .refreshing _ retries => .ready retries
  | other => other

/-- A call that has had one more exchange. -/
def afterExchange {α : Type} (turn : Loop → Exchange → Turn α) (stage : Stage α) (exchange : Exchange) : Stage α :=
  match stage with
  | .ready retries => (turn ⟨"", retries⟩ exchange).stage
  | other => other

/-- A token that comes with the event can stand in a header. -/
def ClientEvent.IsSendable : ClientEvent → Prop
  | .refreshed _ (.ok token) => isHeaderText token = true
  | .setAccessToken token => isHeaderText token = true
  | _ => True

section Alone

variable {client : DriveClient} {α : Type} {turn : Loop → Exchange → Turn α} {shared : SharedClient α}

theorem stage_goOn (call : Nat) (went : Turn α) : (shared.goOn call went).stage call = went.stage := by
  cases went with
  | done result => exact Function.update_self _ _ _
  | again next effect => exact Function.update_self _ _ _

theorem stage_goOn_of_ne {call other : Nat} (apart : other ≠ call) (went : Turn α) :
    (shared.goOn call went).stage other = shared.stage other := by
  cases went with
  | done result => exact Function.update_of_ne apart _ _
  | again next effect => exact Function.update_of_ne apart _ _

/-- A loop goes on with the token of the refresher, once, or with the one that it had. -/
theorem IsEngine.of_again (engine : IsEngine client turn) {loop next : Loop} {exchange : Exchange} {effect : Effect}
    (again : turn loop exchange = .again next effect) :
    (exchange.refresh = .ok next.accessToken ∧ next.retries.tokenRefreshed = true) ∨
      (next.accessToken = loop.accessToken ∧ next.retries.tokenRefreshed = loop.retries.tokenRefreshed) := by
  have goesOn : client.next loop exchange = some (next, effect) := by
    rw [← engine.follows, again]
    rfl
  have waits {status : Nat} (backsOff : DriveClient.repeats.backsOff loop status = some (next, effect)) :
      next.accessToken = loop.accessToken ∧ next.retries.tokenRefreshed = loop.retries.tokenRefreshed := by
    rw [DriveClient.repeats.backsOff] at backsOff
    split at backsOff
    · cases backsOff
      exact ⟨rfl, rfl⟩
    · cases backsOff
  rw [DriveClient.next] at goesOn
  split at goesOn
  · cases goesOn
  · rw [DriveClient.repeats] at goesOn
    split at goesOn
    · next newToken renewed =>
        split at goesOn
        · cases goesOn
          exact Or.inl ⟨renewed, rfl⟩
        · exact Or.inr (waits goesOn)
    · exact Or.inr (waits goesOn)

/-- The exchanges of a call tell how it ends when it has the client for itself. -/
theorem IsEngine.result_of_exchanges (engine : IsEngine client turn) {loop : Loop} {exchanges : List Exchange}
    {result : Except String α} (sendable : isHeaderText loop.accessToken = true)
    (renewals : ∀ exchange ∈ exchanges, ∀ token, exchange.refresh = .ok token → isHeaderText token = true)
    (ends : exchanges.foldl (afterExchange turn) (.ready loop.retries) = .returned result) :
    (course turn loop exchanges).result = some result := by
  induction exchanges generalizing loop with
  | nil => cases ends
  | cons exchange rest inductionHypothesis =>
      have same := engine.stage_token loop.retries exchange "" loop.accessToken
      rw [List.foldl_cons, afterExchange, same] at ends
      rw [course, send, if_pos sendable]
      cases went : turn loop exchange with
      | done value =>
          rw [went, Turn.stage] at ends
          have stays : rest.foldl (afterExchange turn) (.returned value) = .returned value :=
            List.foldl_fixed' (fun _ => rfl) rest
          rw [stays] at ends
          cases ends
          rfl
      | again next effect =>
          rw [went, Turn.stage] at ends
          refine inductionHypothesis ?_ (fun other member => renewals other (List.mem_cons_of_mem _ member)) ends
          rcases engine.of_again went with ⟨renewed, _⟩ | ⟨kept, _⟩
          · exact renewals exchange List.mem_cons_self _ renewed
          · rw [kept]
            exact sendable

/-- The notes on a call, and where it is after them. -/
structure NotedCall (turn : Loop → Exchange → Turn α) (call : Nat) (noted : List Exchange)
    (shared : SharedClient α) : Prop where
  sendable : isHeaderText shared.accessToken = true
  renewals : ∀ exchange ∈ noted, ∀ token, exchange.refresh = .ok token → isHeaderText token = true
  stage : (shared.stage call).between = noted.foldl (afterExchange turn) (.ready ⟨0, false⟩)
  few : ∀ retries, (shared.stage call).between = .ready retries → noted.length + retries.left ≤ 4
  bounded : noted.length ≤ 5

/-- The token of a client after a turn can stand in a header. -/
theorem sendable_goOn (engine : IsEngine client turn) (call : Nat) {retries : Retries} {exchange : Exchange}
    (sendable : isHeaderText shared.accessToken = true)
    (renewal : ∀ token, exchange.refresh = .ok token → isHeaderText token = true) :
    isHeaderText (shared.goOn call (turn ⟨shared.accessToken, retries⟩ exchange)).accessToken = true := by
  cases went : turn ⟨shared.accessToken, retries⟩ exchange with
  | done result => exact sendable
  | again next effect =>
      rcases engine.of_again went with ⟨renewed, _⟩ | ⟨kept, _⟩
      · exact renewal _ renewed
      · rw [SharedClient.goOn, kept]
        exact sendable

/-- A call that has completed an exchange. -/
theorem NotedCall.completed (engine : IsEngine client turn) {call : Nat} {noted : List Exchange}
    (before : NotedCall turn call noted shared) {retries : Retries} {exchange : Exchange}
    (at_ : (shared.stage call).between = .ready retries)
    (renewal : ∀ token, exchange.refresh = .ok token → isHeaderText token = true) :
    NotedCall turn call (noted ++ [exchange]) (shared.goOn call (turn ⟨shared.accessToken, retries⟩ exchange)) := by
  have enough := before.few retries at_
  have between (went : Turn α) : went.stage.between = went.stage := by
    cases went with
    | done result => rfl
    | again next effect => rfl
  constructor
  · exact sendable_goOn engine call before.sendable renewal
  · intro other member token renewed
    rcases List.mem_append.mp member with old | new
    · exact before.renewals other old token renewed
    · rw [List.mem_singleton.mp new] at renewed
      exact renewal token renewed
  · rw [stage_goOn, between, List.foldl_append, ← before.stage, at_]
    exact engine.stage_token retries exchange shared.accessToken ""
  · intro later ready
    rw [stage_goOn, between] at ready
    cases went : turn ⟨shared.accessToken, retries⟩ exchange with
    | done result =>
        rw [went] at ready
        cases ready
    | again next effect =>
        have goesOn : client.next ⟨shared.accessToken, retries⟩ exchange = some (next, effect) := by
          rw [← engine.follows, went]
          rfl
        have fewer := left_next client goesOn
        rw [went, Turn.stage] at ready
        cases ready
        rw [List.length_append, List.length_singleton]
        dsimp only at fewer
        omega
  · rw [List.length_append, List.length_singleton]
    omega

/-- An event at another call only changes the token. -/
theorem NotedCall.of_stage {later : SharedClient α} {call : Nat} {noted : List Exchange}
    (before : NotedCall turn call noted shared) (sendable : isHeaderText later.accessToken = true)
    (same : (later.stage call).between = (shared.stage call).between) : NotedCall turn call noted later where
  sendable := sendable
  renewals := before.renewals
  stage := same.trans before.stage
  few retries ready := before.few retries (same.symm.trans ready)
  bounded := before.bounded

/-- What holds of a call holds after another call, or this one, has been put on. -/
theorem stage_put (property : Stage α → Prop) {call other : Nat} {stage : Stage α}
    (own : call = other → property stage) (others : property (shared.stage call)) :
    property ((shared.put other stage).stage call) := by
  by_cases same : call = other
  · have new : (shared.put other stage).stage call = stage := by
      rw [same]
      exact Function.update_self _ _ _
    rw [new]
    exact own same
  · have old : (shared.put other stage).stage call = shared.stage call := Function.update_of_ne same _ _
    rw [old]
    exact others

theorem notedCall_exec (engine : IsEngine client turn) {call : Nat} {noted : List Exchange}
    (before : NotedCall turn call noted shared) {event : ClientEvent} (sendable : event.IsSendable) :
    NotedCall turn call (noted ++ (SharedClient.exchangeOf client call shared event).toList)
      (shared.exec client turn event) := by
  have happens := happens_exec client turn shared event
  rw [SharedClient.exchangeOf]
  generalize SharedClient.completed client shared event = completed at happens
  generalize shared.exec client turn event = later at happens
  -- A call that has an exchange behind it goes on; for the others the token is all that can change.
  have goesOn {other : Nat} {retries : Retries} {exchange : Exchange}
      (between : (shared.stage other).between = .ready retries)
      (renewal : ∀ token, exchange.refresh = .ok token → isHeaderText token = true) :
      NotedCall turn call (noted ++ (if other = call then some exchange else none).toList)
        (shared.goOn other (turn ⟨shared.accessToken, retries⟩ exchange)) := by
    by_cases own : other = call
    · rw [if_pos own]
      rw [own] at between ⊢
      exact before.completed engine between renewal
    · rw [if_neg own, Option.toList_none, List.append_nil]
      refine before.of_stage (sendable_goOn engine other before.sendable renewal) ?_
      rw [stage_goOn_of_ne fun same => own same.symm]
  cases happens with
  | idle event =>
      rw [Option.toList_none, List.append_nil]
      exact before
  | sends ready header =>
      rw [Option.toList_none, List.append_nil]
      refine before.of_stage before.sendable
        (stage_put (fun stage => stage.between = _) (fun own => ?_) rfl)
      rw [own, ready]
      rfl
  | refuses ready unsendable => exact absurd before.sendable unsendable
  | asks sent asks =>
      rw [Option.toList_none, List.append_nil]
      refine before.of_stage before.sendable
        (stage_put (fun stage => stage.between = _) (fun own => ?_) rfl)
      rw [own, sent]
      rfl
  | goesOn sent asksNot =>
      refine goesOn (by rw [sent]; rfl) fun token impossible => ?_
      cases impossible
  | renews result asked =>
      refine goesOn (by rw [asked]; rfl) fun token same => ?_
      rw [show result = .ok token from same] at sendable
      exact sendable
  | sets token =>
      rw [Option.toList_none, List.append_nil]
      exact before.of_stage sendable rfl

/-- What the calls that share a client come to. -/
structure AsAlone (client : DriveClient) (turn : Loop → Exchange → Turn α) (token : String)
    (events : List ClientEvent) (call : Nat) : Prop where
  /-- A call that has returned has got what it gets when no other call is there. -/
  returned : ∀ result,
    (run (SharedClient.exec client turn) events (SharedClient.start token)).stage call = .returned result →
    (course turn (Loop.start token) (notes (SharedClient.exec client turn) (SharedClient.exchangeOf client call) events
      (SharedClient.start token))).result = some result
  /-- It has sent at most five requests that were answered. -/
  bounded : (notes (SharedClient.exec client turn) (SharedClient.exchangeOf client call) events
    (SharedClient.start token)).length ≤ 5

/-- Whatever the other calls do to the token, a call returns what its own answers make of it. -/
theorem calls_return_as_alone (engine : IsEngine client turn) {token : String} (sendable : isHeaderText token = true)
    {events : List ClientEvent}
    (sendables : Along (SharedClient.exec client turn) (fun _ event => event.IsSendable) events
      (SharedClient.start token)) (call : Nat) : AsAlone client turn token events call := by
  have initially : NotedCall turn call [] (SharedClient.start token) := by
    refine ⟨sendable, fun _ member => absurd member List.not_mem_nil, rfl, fun retries ready => ?_, Nat.zero_le 5⟩
    cases ready
    exact Nat.le_refl 4
  have preserved (noted : List Exchange) (shared : SharedClient α) (event : ClientEvent) (condition : event.IsSendable)
      (before : NotedCall turn call noted shared) :
      NotedCall turn call (noted ++ (SharedClient.exchangeOf client call shared event).toList)
        (shared.exec client turn event) :=
    notedCall_exec engine before condition
  have ends := run_with_notes_of_along preserved sendables initially
  rw [List.nil_append] at ends
  constructor
  · intro result returned
    have noted := ends.stage
    rw [returned] at noted
    exact engine.result_of_exchanges sendable ends.renewals noted.symm
  · exact ends.bounded

/-- Two calls are refused with one token, and each refreshes it while the other is under way. -/
def bothRefresh : List ClientEvent :=
  [.sends 0, .sends 1, .answered 0 (.response 401 ""), .answered 1 (.response 401 ""), .refreshed 0 (.ok "new"),
    .sends 0, .refreshed 1 (.ok "newer"), .answered 0 (.response 200 ""), .sends 1, .answered 1 (.response 503 ""),
    .sends 1, .answered 1 (.response 204 "")]

def trashed : DriveClient where
  hasRefresher := true
  method := "DELETE"
  url := "https://www.googleapis.com/drive/v3/files/1"

theorem two_calls_return_as_alone :
    AsAlone trashed trashed.executeNoContent "old" bothRefresh 0 ∧
      AsAlone trashed trashed.executeNoContent "old" bothRefresh 1 := by
  have new : isHeaderText "new" = true := by decide
  have newer : isHeaderText "newer" = true := by decide
  have sendables : Along (SharedClient.exec trashed trashed.executeNoContent) (fun _ event => event.IsSendable)
      bothRefresh (SharedClient.start "old") :=
    ⟨trivial, trivial, trivial, trivial, new, trivial, newer, trivial, trivial, trivial, trivial, trivial, trivial⟩
  exact ⟨calls_return_as_alone .noContent (by decide) sendables 0,
    calls_return_as_alone .noContent (by decide) sendables 1⟩

end Alone

/-! ## Tokens that have run out -/

/-- What a call under way remembers of its requests so far. -/
def Stage.retries {α : Type} : Stage α → Option Retries
  | .ready retries => some retries
  | .sent _ retries => some retries
  | .refreshing _ retries => some retries
  | .returned _ => none

/-- The refresher and whoever sets a token give one that is accepted, and one that is accepted is not answered
with 401. -/
def ClientEvent.Honours {α : Type} (accepted : String → Prop) (shared : SharedClient α) : ClientEvent → Prop
  | .sends _ => True
  | .answered call answer =>
      ∀ token retries, shared.stage call = .sent token retries → accepted token → ∀ body, answer ≠ .response 401 body
  | .refreshed _ result => ∃ token, result = .ok token ∧ accepted token ∧ isHeaderText token = true
  | .setAccessToken token => accepted token ∧ isHeaderText token = true

section Expiry

variable {client : DriveClient} {α : Type} {turn : Loop → Exchange → Turn α} {accepted : String → Prop}
  {shared : SharedClient α}

/-- A call that has refreshed the token goes on with one that is accepted, whatever the others have done since. -/
structure Fresh (client : DriveClient) (accepted : String → Prop) (shared : SharedClient α) : Prop where
  sendable : isHeaderText shared.accessToken = true
  current : ∀ call retries, (shared.stage call).retries = some retries → retries.tokenRefreshed = true →
    accepted shared.accessToken
  underWay : ∀ call token retries, shared.stage call = .sent token retries → retries.tokenRefreshed = true →
    accepted token
  asked : ∀ call answer retries, shared.stage call = .refreshing answer retries →
    client.asksRefresher retries answer = true

/-- Putting a call on keeps this when the call itself keeps it. -/
theorem Fresh.put (before : Fresh client accepted shared) {call : Nat} {stage : Stage α}
    (current : ∀ retries, stage.retries = some retries → retries.tokenRefreshed = true →
      accepted shared.accessToken)
    (underWay : ∀ token retries, stage = .sent token retries → retries.tokenRefreshed = true → accepted token)
    (asked : ∀ answer retries, stage = .refreshing answer retries → client.asksRefresher retries answer = true) :
    Fresh client accepted (shared.put call stage) where
  sendable := before.sendable
  current other :=
    stage_put (fun stage => ∀ retries, stage.retries = some retries → retries.tokenRefreshed = true →
      accepted shared.accessToken) (fun _ => current) (before.current other)
  underWay other :=
    stage_put (fun stage => ∀ token retries, stage = .sent token retries → retries.tokenRefreshed = true →
      accepted token) (fun _ => underWay) (before.underWay other)
  asked other :=
    stage_put (fun stage => ∀ answer retries, stage = .refreshing answer retries →
      client.asksRefresher retries answer = true) (fun _ => asked) (before.asked other)

/-- An accepted token in place of the one before. -/
theorem Fresh.setAccessToken (before : Fresh client accepted shared) {token : String} (accepts : accepted token)
    (sendable : isHeaderText token = true) : Fresh client accepted { shared with accessToken := token } where
  sendable := sendable
  current _ _ _ _ := accepts
  underWay := before.underWay
  asked := before.asked

theorem Fresh.goOn (engine : IsEngine client turn) (before : Fresh client accepted shared) {call : Nat}
    {retries : Retries} {exchange : Exchange} (here : (shared.stage call).retries = some retries)
    (renewal : ∀ token, exchange.refresh = .ok token → accepted token ∧ isHeaderText token = true) :
    Fresh client accepted (shared.goOn call (turn ⟨shared.accessToken, retries⟩ exchange)) := by
  cases went : turn ⟨shared.accessToken, retries⟩ exchange with
  | done result =>
      refine before.put (fun retries impossible => ?_) (fun token retries impossible => ?_)
        (fun answer retries impossible => ?_)
      · cases impossible
      · cases impossible
      · cases impossible
  | again next effect =>
      rcases engine.of_again went with ⟨renewed, _⟩ | ⟨kept, same⟩
      · have ⟨accepts, sendable⟩ := renewal _ renewed
        refine (before.setAccessToken accepts sendable).put (fun _ _ _ => accepts)
          (fun token retries impossible => ?_) (fun answer retries impossible => ?_)
        · cases impossible
        · cases impossible
      · have unchanged : shared.goOn call (.again next effect) = shared.put call (.ready next.retries) := by
          rw [SharedClient.goOn, kept]
          rfl
        rw [unchanged]
        refine before.put (fun later ready refreshed => ?_) (fun token retries impossible => ?_)
          (fun answer retries impossible => ?_)
        · cases ready
          exact before.current call retries here (same.symm.trans refreshed)
        · cases impossible
        · cases impossible

/-- A call that asks the refresher and gets a token sends its request again. -/
theorem IsEngine.again_of_renewed (engine : IsEngine client turn) {loop : Loop} {answer : Answer} (token : String)
    (asks : client.asksRefresher loop.retries answer = true) :
    ∃ next effect, turn loop ⟨answer, .ok token⟩ = .again next effect := by
  cases answer with
  | failed failure => cases asks
  | response status body =>
      have goesOn : client.next loop ⟨.response status body, .ok token⟩ =
          some (⟨token, { loop.retries with tokenRefreshed := true }⟩, .refreshed token) := if_pos asks
      rw [← engine.follows] at goesOn
      cases went : turn loop ⟨.response status body, .ok token⟩ with
      | done result =>
          rw [went] at goesOn
          cases goesOn
      | again next effect => exact ⟨next, effect, rfl⟩

/-- A call that has returned did not do so on a 401. -/
structure NotExpired (client : DriveClient) (accepted : String → Prop) (call : Nat) (noted : List Exchange)
    (shared : SharedClient α) : Prop extends Fresh client accepted shared where
  answered : ∀ result, shared.stage call = .returned result →
    ∀ exchange ∈ noted.getLast?, ∀ body, exchange.answer ≠ .response 401 body

/-- A call that is not put on to return. -/
theorem NotExpired.of_fresh {call : Nat} {noted : List Exchange}
    (before : NotExpired client accepted call noted shared) {later : SharedClient α}
    (fresh : Fresh client accepted later)
    (same : ∀ result, later.stage call = .returned result → shared.stage call = .returned result) :
    NotExpired client accepted call noted later where
  toFresh := fresh
  answered result returned := before.answered result (same result returned)

theorem notExpired_exec (engine : IsEngine client turn) (hasRefresher : client.hasRefresher = true) {call : Nat}
    {noted : List Exchange} (before : NotExpired client accepted call noted shared) {event : ClientEvent}
    (honours : event.Honours accepted shared) :
    NotExpired client accepted call (noted ++ (SharedClient.exchangeOf client call shared event).toList)
      (shared.exec client turn event) := by
  have happens := happens_exec client turn shared event
  rw [SharedClient.exchangeOf]
  generalize SharedClient.completed client shared event = completed at happens
  generalize shared.exec client turn event = later at happens
  -- A call that goes on after an exchange, and does not return on a 401.
  have goesOn {other : Nat} {retries : Retries} {exchange : Exchange}
      (here : (shared.stage other).retries = some retries)
      (renewal : ∀ token, exchange.refresh = .ok token → accepted token ∧ isHeaderText token = true)
      (notExpired : ∀ result body, exchange.answer = .response 401 body →
        (turn ⟨shared.accessToken, retries⟩ exchange).stage ≠ .returned result) :
      NotExpired client accepted call (noted ++ (if other = call then some exchange else none).toList)
        (shared.goOn other (turn ⟨shared.accessToken, retries⟩ exchange)) := by
    have fresh := before.toFresh.goOn engine here renewal
    by_cases own : other = call
    · rw [if_pos own]
      refine ⟨fresh, fun result returned exchange last body expired => ?_⟩
      rw [own, stage_goOn] at returned
      rw [Option.toList_some, List.getLast?_concat] at last
      cases last
      exact notExpired result body expired returned
    · rw [if_neg own, Option.toList_none, List.append_nil]
      refine before.of_fresh fresh fun result returned => ?_
      rw [stage_goOn_of_ne fun same => own same.symm] at returned
      exact returned
  cases happens with
  | idle event =>
      rw [Option.toList_none, List.append_nil]
      exact before
  | sends ready header =>
      rw [Option.toList_none, List.append_nil]
      refine before.of_fresh (before.toFresh.put (fun _ same => ?_) (fun _ _ same => ?_) (fun _ _ impossible => ?_))
        (fun result => stage_put (fun stage => stage = .returned result → _) (fun _ impossible => ?_) id)
      · cases same
        exact before.current _ _ (by rw [ready]; rfl)
      · cases same
        exact before.current _ _ (by rw [ready]; rfl)
      · cases impossible
      · cases impossible
  | refuses ready unsendable => exact absurd before.sendable unsendable
  | asks sent asks =>
      rw [Option.toList_none, List.append_nil]
      refine before.of_fresh (before.toFresh.put (fun _ same => ?_) (fun _ _ impossible => ?_) (fun _ _ same => ?_))
        (fun result => stage_put (fun stage => stage = .returned result → _) (fun _ impossible => ?_) id)
      · cases same
        exact before.current _ _ (by rw [sent]; rfl)
      · cases impossible
      · cases same
        exact asks
      · cases impossible
  | goesOn sent asksNot =>
      refine goesOn (by rw [sent]; rfl) (fun token impossible => ?_) (fun result body expired => ?_)
      · cases impossible
      · -- Its token was not accepted, so it has not been refreshed yet and the refresher would have been asked.
        refine absurd ?_ asksNot
        rename_i other token retries answer
        have stale : ¬ accepted token := fun accepts => honours token retries sent accepts body expired
        have unrefreshed : retries.tokenRefreshed = false :=
          Bool.not_eq_true _ ▸ fun refreshed => stale (before.underWay other token retries sent refreshed)
        rw [show answer = .response 401 body from expired, DriveClient.asksRefresher, unrefreshed, hasRefresher]
        rfl
  | renews result asked =>
      rename_i other retries answer
      obtain ⟨renewed, rfl, accepts⟩ := honours
      refine goesOn (by rw [asked]; rfl) (fun token same => ?_) (fun result body expired returned => ?_)
      · cases same
        exact accepts
      · have again : ∃ next effect, turn ⟨shared.accessToken, retries⟩ ⟨answer, .ok renewed⟩ = .again next effect :=
          engine.again_of_renewed renewed (before.asked other answer retries asked)
        rcases again with ⟨next, effect, went⟩
        rw [went] at returned
        cases returned
  | sets token =>
      rw [Option.toList_none, List.append_nil]
      exact before.of_fresh (before.toFresh.setAccessToken honours.1 honours.2) fun _ => id

/-- However the calls are interleaved, none of them gives up because its token has run out. -/
theorem no_call_gives_up_on_401 (engine : IsEngine client turn) (hasRefresher : client.hasRefresher = true)
    {token : String} (sendable : isHeaderText token = true) {events : List ClientEvent}
    (honours : Along (SharedClient.exec client turn) (fun shared event => event.Honours accepted shared) events
      (SharedClient.start token)) {call : Nat} {result : Except String α}
    (returned : (run (SharedClient.exec client turn) events (SharedClient.start token)).stage call =
      .returned result) :
    ∀ exchange ∈ (notes (SharedClient.exec client turn) (SharedClient.exchangeOf client call) events
      (SharedClient.start token)).getLast?, ∀ body, exchange.answer ≠ .response 401 body := by
  have initially : NotExpired client accepted call [] (SharedClient.start token : SharedClient α) := by
    refine ⟨⟨sendable, fun call retries same refreshed => ?_, fun call token retries impossible => ?_,
      fun call answer retries impossible => ?_⟩, fun result impossible => ?_⟩
    · cases same
      cases refreshed
    · cases impossible
    · cases impossible
    · cases impossible
  have preserved (noted : List Exchange) (shared : SharedClient α) (event : ClientEvent)
      (condition : event.Honours accepted shared) (before : NotExpired client accepted call noted shared) :
      NotExpired client accepted call (noted ++ (SharedClient.exchangeOf client call shared event).toList)
        (shared.exec client turn event) :=
    notExpired_exec engine hasRefresher before condition
  have ends := run_with_notes_of_along preserved honours initially
  rw [List.nil_append] at ends
  exact ends.answered result returned

theorem two_calls_outlive_a_token :
    ∃ exchange, (notes (SharedClient.exec trashed trashed.executeNoContent) (SharedClient.exchangeOf trashed 1)
      bothRefresh (SharedClient.start "old")).getLast? = some exchange ∧
        ∀ body, exchange.answer ≠ .response 401 body := by
  have honours : Along (SharedClient.exec trashed trashed.executeNoContent)
      (fun shared event => event.Honours (fun token => token ≠ "old") shared) bothRefresh
      (SharedClient.start "old") := by
    have stale {shared : SharedClient Unit} {call : Nat} {retries : Retries} {answer : Answer}
        (sent : shared.stage call = .sent "old" retries) :
        (ClientEvent.answered call answer).Honours (fun token => token ≠ "old") shared := by
      intro token retries same accepts
      rw [sent] at same
      cases same
      exact absurd rfl accepts
    have otherwise {shared : SharedClient Unit} {call status : Nat} (another : status ≠ 401) :
        (ClientEvent.answered call (.response status "")).Honours (fun token => token ≠ "old") shared := by
      intro token retries same accepts body expired
      cases expired
      exact another rfl
    exact ⟨trivial, trivial, stale rfl, stale rfl, ⟨"new", rfl, by decide, by decide⟩, trivial,
      ⟨"newer", rfl, by decide, by decide⟩, otherwise (by decide), trivial, otherwise (by decide), trivial,
      otherwise (by decide), trivial⟩
  have returned : (run (SharedClient.exec trashed trashed.executeNoContent) bothRefresh
      (SharedClient.start "old")).stage 1 = .returned (.ok ()) := rfl
  have last := no_call_gives_up_on_401 .noContent rfl (by decide) honours returned
  exact ⟨_, rfl, last _ rfl⟩

end Expiry

end Api
end GDriver
