import GDriver.Api.Client

namespace GDriver
namespace Api

/-!
# Request engines

The client has four copies of one loop: for JSON, for responses without content, for raw
responses, and for raw responses that may be 308.  Each sends the request with the token
of the moment, accepts a success, refreshes the token once after a 401, waits and repeats
after 429 or a server error, and gives up otherwise.
-/

/-- How one request ends. -/
inductive Answer where
  /-- No response arrives. -/
  | failed (failure : String)
  | response (status : Nat) (body : String)
  deriving DecidableEq, Repr

/-- What the client meets at one request: the answer, and what the refresher returns if it
is asked after it. -/
structure Exchange where
  answer : Answer
  refresh : Except String String
  deriving Repr

/-- What a loop keeps from one request to the next: the token of the client, and the
counters. -/
structure Loop where
  accessToken : String
  retries : Retries
  deriving DecidableEq, Repr

/-- What a loop does, as the server, the refresher and the clock see it. -/
inductive Effect where
  | sent (token : String)
  | refreshed (token : String)
  | slept (seconds : Nat)
  deriving DecidableEq, Repr

/-- One turn of a loop. -/
inductive Turn (α : Type) where
  | again (next : Loop) (effect : Effect)
  | done (result : Except String α)

/-- A run of a loop.  It has no result when the daemon is stopped before the last answer. -/
structure Course (α : Type) where
  effects : List Effect
  result : Option (Except String α)

def isSuccess (status : Nat) : Bool :=
  200 ≤ status && status < 300

/-- The characters that may stand in a header. -/
def isHeaderText (text : String) : Bool :=
  text.toList.all fun character => character = '\t' || (32 ≤ character.toNat && character.toNat ≠ 127)

/-- A client: whether it has a refresher, and the address of the request in hand. -/
structure DriveClient where
  hasRefresher : Bool
  method : String
  url : String
  deriving Repr

namespace DriveClient

/-- What follows a status that is not accepted, in all four loops: the token is refreshed,
the loop waits, or it gives up. -/
def repeats (client : DriveClient) (loop : Loop) (exchange : Exchange) (status : Nat) :
    Option (Loop × Effect) :=
  match exchange.refresh with
  | .ok newToken =>
      if status = 401 && !loop.retries.tokenRefreshed && client.hasRefresher then
        some (⟨newToken, { loop.retries with tokenRefreshed := true }⟩, .refreshed newToken)
      else backsOff
  | .error _ => backsOff
where
  backsOff :=
    if (status = 429 || isServerError status) && loop.retries.attempt < maxAttempts then
      some ({ loop with retries := { loop.retries with attempt := loop.retries.attempt + 1 } },
        .slept (Nat.pow 2 (loop.retries.attempt + 1)))
    else none

/-- The error of a loop that gives up. -/
def terminal (client : DriveClient) (status : Nat) (body : String) : String :=
  refusal client.method client.url status body

def requestFailed (failure : String) : String :=
  "Drive API request failed: " ++ failure

/-- One turn of `execute_json`. -/
def executeJson {α : Type} (decode : String → Except String α) (client : DriveClient) (loop : Loop)
    (exchange : Exchange) : Turn α :=
  match exchange.answer with
  | .failed failure => .done (.error (requestFailed failure))
  | .response status body =>
      if isSuccess status then
        .done ((decode body).mapError ("failed to deserialise Drive API response: " ++ ·))
      else
        match client.repeats loop exchange status with
        | some (next, effect) => .again next effect
        | none => .done (.error (client.terminal status body))

/-- One turn of `execute_no_content`. -/
def executeNoContent (client : DriveClient) (loop : Loop) (exchange : Exchange) : Turn Unit :=
  match exchange.answer with
  | .failed failure => .done (.error (requestFailed failure))
  | .response status body =>
      if isSuccess status then .done (.ok ())
      else
        match client.repeats loop exchange status with
        | some (next, effect) => .again next effect
        | none => .done (.error (client.terminal status body))

/-- One turn of `execute_raw`, which returns the response. -/
def executeRaw (client : DriveClient) (loop : Loop) (exchange : Exchange) : Turn (Nat × String) :=
  match exchange.answer with
  | .failed failure => .done (.error (requestFailed failure))
  | .response status body =>
      if isSuccess status then .done (.ok (status, body))
      else
        match client.repeats loop exchange status with
        | some (next, effect) => .again next effect
        | none => .done (.error (client.terminal status body))

/-- One turn of `execute_raw_no_redirect`, which accepts 308 as well. -/
def executeRawNoRedirect (client : DriveClient) (loop : Loop) (exchange : Exchange) :
    Turn (Nat × String) :=
  match exchange.answer with
  | .failed failure => .done (.error (requestFailed failure))
  | .response status body =>
      if isSuccess status || status = 308 then .done (.ok (status, body))
      else
        match client.repeats loop exchange status with
        | some (next, effect) => .again next effect
        | none => .done (.error (client.terminal status body))

end DriveClient

/-- The state a loop starts in. -/
def Loop.start (token : String) : Loop where
  accessToken := token
  retries := ⟨0, false⟩

/-- A loop sends its request and goes on with the answer.  A token that cannot stand in a
header is not sent. -/
def send {α : Type} (loop : Loop) (answered : Course α) : Course α :=
  if isHeaderText loop.accessToken then
    { answered with effects := .sent loop.accessToken :: answered.effects }
  else ⟨[], some (.error (DriveClient.requestFailed "builder error"))⟩

/-- A loop against the answers that the server would give. -/
def course {α : Type} (turn : Loop → Exchange → Turn α) : Loop → List Exchange → Course α
  | loop, [] => send loop ⟨[], none⟩
  | loop, exchange :: rest =>
      send loop
        (match turn loop exchange with
        | .done result => ⟨[], some result⟩
        | .again next effect =>
            { course turn next rest with effects := effect :: (course turn next rest).effects })

/-- The tokens of the requests, in order. -/
def sentTokens : List Effect → List String
  | [] => []
  | .sent token :: rest => token :: sentTokens rest
  | .refreshed _ :: rest => sentTokens rest
  | .slept _ :: rest => sentTokens rest

/-- The tokens that the refresher returned. -/
def refreshedTokens : List Effect → List String
  | [] => []
  | .sent _ :: rest => refreshedTokens rest
  | .refreshed token :: rest => token :: refreshedTokens rest
  | .slept _ :: rest => refreshedTokens rest

/-- The seconds waited for. -/
def backoffs : List Effect → List Nat
  | [] => []
  | .sent _ :: rest => backoffs rest
  | .refreshed _ :: rest => backoffs rest
  | .slept seconds :: rest => seconds :: backoffs rest

/-- The answer to the last request.  There is none before the first request, nor while an
answer is outstanding. -/
def lastAnswer (exchanges : List Exchange) (effects : List Effect) : Option Answer :=
  match sentTokens effects with
  | [] => none
  | _ :: earlier => exchanges[earlier.length]?.map Exchange.answer

/-- A response with an accepted status. -/
def Answer.IsAccepted (accepts : Nat → Bool) (answer : Answer) : Prop :=
  ∃ status body, answer = .response status body ∧ accepts status = true

/-! ## One course for all four loops -/

/-- What a turn goes on with. -/
def Turn.next {α : Type} : Turn α → Option (Loop × Effect)
  | .again next effect => some (next, effect)
  | .done _ => none

/-- What follows an answer when only a refused request is repeated. -/
def DriveClient.next (client : DriveClient) (loop : Loop) (exchange : Exchange) : Option (Loop × Effect) :=
  match exchange.answer with
  | .failed _ => none
  | .response status _ => client.repeats loop exchange status

/-- Neither a success nor 308 is repeated. -/
theorem repeats_of_accepted {status : Nat} (accepted : isSuccess status || decide (status = 308))
    (client : DriveClient) (loop : Loop) (exchange : Exchange) :
    client.repeats loop exchange status = none := by
  have small : status < 400 := by
    simp only [isSuccess, Bool.or_eq_true, Bool.and_eq_true, decide_eq_true_eq] at accepted
    omega
  have refused : ¬ ((status = 429 || isServerError status) && loop.retries.attempt < maxAttempts) = true := by
    simp only [isServerError, Bool.or_eq_true, Bool.and_eq_true, decide_eq_true_eq]
    omega
  have waits : DriveClient.repeats.backsOff loop status = none := if_neg refused
  rw [DriveClient.repeats]
  split
  · rw [if_neg, waits]
    simp only [Bool.and_eq_true, decide_eq_true_eq]
    omega
  · exact waits

/-- The counters go on as they do for the upload of a file in one request. -/
theorem retries_repeats (client : DriveClient) (loop : Loop) (exchange : Exchange) (status : Nat) :
    (client.repeats loop exchange status).map (fun next => next.1.retries) =
      loop.retries.after (client.hasRefresher && exchange.refresh.isOk) status := by
  have waits (unrefreshed : (decide (status = 401) && !loop.retries.tokenRefreshed &&
      (client.hasRefresher && exchange.refresh.isOk)) = false) :
      (DriveClient.repeats.backsOff loop status).map (fun next => next.1.retries) =
        loop.retries.after (client.hasRefresher && exchange.refresh.isOk) status := by
    rw [DriveClient.repeats.backsOff, Retries.after, if_neg (Bool.eq_false_iff.mp unrefreshed)]
    split
    · rfl
    · rfl
  rw [DriveClient.repeats]
  cases refreshed : exchange.refresh with
  | error failure =>
      rw [refreshed] at waits
      exact waits (by rw [Except.isOk, Except.toBool, Bool.and_false, Bool.and_false])
  | ok newToken =>
      rw [refreshed, Except.isOk, Except.toBool, Bool.and_true] at waits
      rw [Except.isOk, Except.toBool, Bool.and_true]
      dsimp only
      split
      · next refreshes => rw [Retries.after, if_pos refreshes, Option.map_some]
      · next unrefreshed => exact waits (Bool.eq_false_iff.mpr unrefreshed)

/-- A loop repeats what is refused, and nothing else. -/
def Follows {α : Type} (client : DriveClient) (turn : Loop → Exchange → Turn α) : Prop :=
  ∀ loop exchange, (turn loop exchange).next = client.next loop exchange

section Follows

variable (client : DriveClient)

theorem next_answered {α : Type} (loop : Loop) (exchange : Exchange) {status : Nat} {accepts : Bool}
    (accepted : accepts = true → (isSuccess status || decide (status = 308)) = true)
    (result refusal : Except String α) :
    Turn.next (if accepts then .done result
      else match client.repeats loop exchange status with
        | some (next, effect) => .again next effect
        | none => .done refusal) = client.repeats loop exchange status := by
  cases accepts with
  | true => exact (repeats_of_accepted (accepted rfl) client loop exchange).symm
  | false =>
      cases client.repeats loop exchange status with
      | none => rfl
      | some next => rfl

theorem follows_executeJson {α : Type} (decode : String → Except String α) :
    Follows client (client.executeJson decode) := by
  intro loop exchange
  rw [DriveClient.executeJson, DriveClient.next]
  cases exchange.answer with
  | failed failure => rfl
  | response status body =>
      exact next_answered client loop exchange (fun success => Bool.or_eq_true_iff.mpr (Or.inl success)) _ _

theorem follows_executeNoContent : Follows client client.executeNoContent := by
  intro loop exchange
  rw [DriveClient.executeNoContent, DriveClient.next]
  cases exchange.answer with
  | failed failure => rfl
  | response status body =>
      exact next_answered client loop exchange (fun success => Bool.or_eq_true_iff.mpr (Or.inl success)) _ _

theorem follows_executeRaw : Follows client client.executeRaw := by
  intro loop exchange
  rw [DriveClient.executeRaw, DriveClient.next]
  cases exchange.answer with
  | failed failure => rfl
  | response status body =>
      exact next_answered client loop exchange (fun success => Bool.or_eq_true_iff.mpr (Or.inl success)) _ _

theorem follows_executeRawNoRedirect : Follows client client.executeRawNoRedirect := by
  intro loop exchange
  rw [DriveClient.executeRawNoRedirect, DriveClient.next]
  cases exchange.answer with
  | failed failure => rfl
  | response status body => exact next_answered client loop exchange id _ _

/-- What a loop does while it repeats what is refused. -/
def DriveClient.effects : Loop → List Exchange → List Effect
  | loop, [] => if isHeaderText loop.accessToken then [.sent loop.accessToken] else []
  | loop, exchange :: rest =>
      if isHeaderText loop.accessToken then
        .sent loop.accessToken ::
          (match client.next loop exchange with
          | none => []
          | some (next, effect) => effect :: DriveClient.effects next rest)
      else []

theorem effects_course {α : Type} {turn : Loop → Exchange → Turn α} (follows : Follows client turn)
    (loop : Loop) (exchanges : List Exchange) :
    (course turn loop exchanges).effects = client.effects loop exchanges := by
  induction exchanges generalizing loop with
  | nil =>
      rw [course, send, DriveClient.effects]
      split
      · rfl
      · rfl
  | cons exchange rest inductionHypothesis =>
      rw [course, send, DriveClient.effects, ← follows loop exchange]
      split
      · cases turn loop exchange with
        | done result => rfl
        | again next effect =>
            dsimp only [Turn.next]
            rw [inductionHypothesis next]
      · rfl

/-! ## What a course is bounded by -/

/-- How a loop goes on: with a new token, once, or after a wait. -/
theorem of_next {loop next : Loop} {exchange : Exchange} {effect : Effect}
    (goesOn : client.next loop exchange = some (next, effect)) :
    (∃ token, effect = .refreshed token ∧ loop.retries.tokenRefreshed = false ∧
      next = ⟨token, ⟨loop.retries.attempt, true⟩⟩) ∨
    (effect = .slept (Nat.pow 2 (loop.retries.attempt + 1)) ∧ loop.retries.attempt < maxAttempts ∧
      next = ⟨loop.accessToken, ⟨loop.retries.attempt + 1, loop.retries.tokenRefreshed⟩⟩) := by
  have backedOff {status : Nat} (waits : DriveClient.repeats.backsOff loop status = some (next, effect)) :
      effect = .slept (Nat.pow 2 (loop.retries.attempt + 1)) ∧ loop.retries.attempt < maxAttempts ∧
        next = ⟨loop.accessToken, ⟨loop.retries.attempt + 1, loop.retries.tokenRefreshed⟩⟩ := by
    rw [DriveClient.repeats.backsOff] at waits
    split at waits
    · next within =>
        rw [Bool.and_eq_true, decide_eq_true_eq] at within
        cases waits
        exact ⟨rfl, within.2, rfl⟩
    · cases waits
  rw [DriveClient.next] at goesOn
  split at goesOn
  · cases goesOn
  · rw [DriveClient.repeats] at goesOn
    split at goesOn
    · next newToken _ =>
        split at goesOn
        · next refreshes =>
            simp only [Bool.and_eq_true, Bool.not_eq_true'] at refreshes
            cases goesOn
            exact Or.inl ⟨newToken, rfl, refreshes.1.2, rfl⟩
        · exact Or.inr (backedOff goesOn)
    · exact Or.inr (backedOff goesOn)

theorem left_next {loop next : Loop} {exchange : Exchange} {effect : Effect}
    (goesOn : client.next loop exchange = some (next, effect)) : next.retries.left < loop.retries.left := by
  rcases of_next client goesOn with ⟨token, _, fresh, rfl⟩ | ⟨_, below, rfl⟩
  · simp only [Retries.left, fresh, Bool.not_true, Bool.not_false, Bool.toNat_true, Bool.toNat_false]
    omega
  · simp only [Retries.left]
    omega

theorem length_sentTokens_effects (loop : Loop) (exchanges : List Exchange) :
    (sentTokens (client.effects loop exchanges)).length ≤ loop.retries.left + 1 := by
  induction exchanges generalizing loop with
  | nil =>
      rw [DriveClient.effects]
      split
      · exact Nat.le_add_left 1 _
      · exact Nat.zero_le _
  | cons exchange rest inductionHypothesis =>
      rw [DriveClient.effects]
      split
      · cases goesOn : client.next loop exchange with
        | none => exact Nat.le_add_left 1 _
        | some went =>
            have fewer := left_next client goesOn
            have later := inductionHypothesis went.1
            have counted : (sentTokens (.sent loop.accessToken :: went.2 :: client.effects went.1 rest)).length =
                (sentTokens (client.effects went.1 rest)).length + 1 := by
              rcases of_next client goesOn with ⟨token, same, _⟩ | ⟨same, _⟩
              · rw [same]
                rfl
              · rw [same]
                rfl
            dsimp only
            omega
      · exact Nat.zero_le _

theorem length_refreshedTokens_effects (loop : Loop) (exchanges : List Exchange) :
    (refreshedTokens (client.effects loop exchanges)).length ≤ (!loop.retries.tokenRefreshed).toNat := by
  induction exchanges generalizing loop with
  | nil =>
      rw [DriveClient.effects]
      split
      · exact Nat.zero_le _
      · exact Nat.zero_le _
  | cons exchange rest inductionHypothesis =>
      rw [DriveClient.effects]
      split
      · cases goesOn : client.next loop exchange with
        | none => exact Nat.zero_le _
        | some went =>
            have later := inductionHypothesis went.1
            rcases of_next client goesOn with ⟨token, same, fresh, next⟩ | ⟨same, _, next⟩
            · rw [next] at later
              rw [fresh]
              dsimp only
              rw [same, next]
              exact Nat.succ_le_succ later
            · rw [next] at later
              dsimp only
              rw [same, next]
              exact later
      · exact Nat.zero_le _

theorem drop_backoffs {attempt : Nat} (below : attempt < maxAttempts) :
    [2, 4, 8].drop attempt = Nat.pow 2 (attempt + 1) :: [2, 4, 8].drop (attempt + 1) := by
  match attempt, below with
  | 0, _ => rfl
  | 1, _ => rfl
  | 2, _ => rfl

/-- The waits double, from two seconds to eight. -/
theorem backoffs_effects (loop : Loop) (exchanges : List Exchange) :
    backoffs (client.effects loop exchanges) <+: [2, 4, 8].drop loop.retries.attempt := by
  induction exchanges generalizing loop with
  | nil =>
      rw [DriveClient.effects]
      split
      · exact List.nil_prefix
      · exact List.nil_prefix
  | cons exchange rest inductionHypothesis =>
      rw [DriveClient.effects]
      split
      · cases goesOn : client.next loop exchange with
        | none => exact List.nil_prefix
        | some went =>
            have later := inductionHypothesis went.1
            rcases of_next client goesOn with ⟨token, same, fresh, next⟩ | ⟨same, below, next⟩
            · rw [next] at later
              dsimp only
              rw [same, next]
              exact later
            · rw [next] at later
              dsimp only
              rw [same, next]
              rw [drop_backoffs below]
              exact (List.prefix_cons_inj _).mpr later
      · exact List.nil_prefix

/-- Every request bears the token of the moment. -/
def Bears : String → List Effect → Prop
  | _, [] => True
  | current, .sent token :: rest => token = current ∧ Bears current rest
  | _, .refreshed token :: rest => Bears token rest
  | current, .slept _ :: rest => Bears current rest

theorem bears_effects (loop : Loop) (exchanges : List Exchange) :
    Bears loop.accessToken (client.effects loop exchanges) := by
  induction exchanges generalizing loop with
  | nil =>
      rw [DriveClient.effects]
      split
      · exact ⟨rfl, trivial⟩
      · exact trivial
  | cons exchange rest inductionHypothesis =>
      rw [DriveClient.effects]
      split
      · cases goesOn : client.next loop exchange with
        | none => exact ⟨rfl, trivial⟩
        | some went =>
            have later := inductionHypothesis went.1
            rcases of_next client goesOn with ⟨token, same, _, next⟩ | ⟨same, _, next⟩
            · rw [next] at later
              dsimp only
              rw [same, next]
              exact ⟨rfl, later⟩
            · rw [next] at later
              dsimp only
              rw [same, next]
              exact ⟨rfl, later⟩
      · exact trivial

end Follows

theorem bears_append {current : String} {before after : List Effect} (bears : Bears current (before ++ after)) :
    Bears current before ∧ ∃ token, Bears token after := by
  induction before generalizing current with
  | nil => exact ⟨trivial, current, bears⟩
  | cons effect rest inductionHypothesis =>
      cases effect with
      | sent token =>
          rcases inductionHypothesis bears.2 with ⟨first, second⟩
          exact ⟨⟨bears.1, first⟩, second⟩
      | refreshed token => exact @inductionHypothesis token bears
      | slept seconds => exact @inductionHypothesis current bears

/-- Without a refresh, all requests bear one token. -/
theorem sent_of_bears {current : String} {effects : List Effect} (bears : Bears current effects)
    (unrefreshed : refreshedTokens effects = []) : ∀ token ∈ sentTokens effects, token = current := by
  induction effects with
  | nil =>
      intro token member
      cases member
  | cons effect rest inductionHypothesis =>
      cases effect with
      | sent first =>
          intro token member
          rcases List.mem_cons.mp member with same | later
          · exact same.trans bears.1
          · exact inductionHypothesis bears.2 unrefreshed token later
      | refreshed first => cases unrefreshed
      | slept seconds => exact inductionHypothesis bears unrefreshed

theorem refreshedTokens_append (before after : List Effect) :
    refreshedTokens (before ++ after) = refreshedTokens before ++ refreshedTokens after := by
  induction before with
  | nil => rfl
  | cons effect rest inductionHypothesis =>
      cases effect with
      | sent token => exact inductionHypothesis
      | refreshed token => exact congrArg (token :: ·) inductionHypothesis
      | slept seconds => exact inductionHypothesis

/-- The bounds on what one call sends, refreshes and waits for. -/
structure WithinBudget (token : String) (effects : List Effect) : Prop where
  requests : (sentTokens effects).length ≤ 5
  refreshes : (refreshedTokens effects).length ≤ 1
  waits : backoffs effects <+: [2, 4, 8]
  unrefreshed : refreshedTokens effects = [] → ∀ sent ∈ sentTokens effects, sent = token
  refreshed : ∀ before newToken after, effects = before ++ .refreshed newToken :: after →
    (∀ sent ∈ sentTokens before, sent = token) ∧ ∀ sent ∈ sentTokens after, sent = newToken

theorem withinBudget_effects (client : DriveClient) (token : String) (exchanges : List Exchange) :
    WithinBudget token (client.effects (.start token) exchanges) := by
  have refreshes : (refreshedTokens (client.effects (.start token) exchanges)).length ≤ 1 :=
    length_refreshedTokens_effects client (.start token) exchanges
  have bears := bears_effects client (.start token) exchanges
  refine ⟨length_sentTokens_effects client (.start token) exchanges, refreshes,
    backoffs_effects client (.start token) exchanges, sent_of_bears bears, ?_⟩
  intro before newToken after parts
  rw [parts, refreshedTokens_append, List.length_append] at refreshes
  have counted : (refreshedTokens (.refreshed newToken :: after)).length =
      (refreshedTokens after).length + 1 := rfl
  have noneBefore : refreshedTokens before = [] := List.length_eq_zero_iff.mp (by omega)
  have noneAfter : refreshedTokens after = [] := List.length_eq_zero_iff.mp (by omega)
  rw [parts] at bears
  rcases bears_append bears with ⟨first, _, second⟩
  exact ⟨sent_of_bears first noneBefore, @sent_of_bears newToken after second noneAfter⟩

/-! ## How a course ends -/

/-- A loop ends with a value exactly when the answer is of a certain kind, and does not go
on after such an answer. -/
def Turn.EndsOn {α : Type} (kind : Prop) : Turn α → Prop
  | .done result => (∃ value, result = .ok value) ↔ kind
  | .again _ _ => ¬ kind

theorem lastAnswer_again (exchange : Exchange) (rest : List Exchange) (token : String) {effect : Effect}
    (unsent : sentTokens [effect] = []) (later : List Effect) :
    lastAnswer (exchange :: rest) (.sent token :: effect :: later) =
      if sentTokens later = [] then some exchange.answer else lastAnswer rest later := by
  have counted : sentTokens (.sent token :: effect :: later) = token :: sentTokens later := by
    cases effect with
    | sent other => cases unsent
    | refreshed other => rfl
    | slept seconds => rfl
  rw [lastAnswer, counted, lastAnswer]
  cases sentTokens later with
  | nil => rfl
  | cons first others => rfl

theorem unsent_of_next {client : DriveClient} {loop next : Loop} {exchange : Exchange} {effect : Effect}
    (goesOn : client.next loop exchange = some (next, effect)) : sentTokens [effect] = [] := by
  rcases of_next client goesOn with ⟨token, same, _⟩ | ⟨same, _⟩
  · rw [same]
    rfl
  · rw [same]
    rfl

/-- A loop that cannot send ends with an error. -/
theorem result_of_unsent {α : Type} {turn : Loop → Exchange → Turn α} {loop : Loop} {exchanges : List Exchange}
    (unsent : sentTokens (course turn loop exchanges).effects = []) :
    ¬ ∃ value, (course turn loop exchanges).result = some (.ok value) := by
  have refused (answered : Course α) (unsent : sentTokens (send loop answered).effects = []) :
      ¬ ∃ value, (send loop answered).result = some (.ok value) := by
    rw [send] at unsent ⊢
    split at unsent
    · cases unsent
    · next invalid =>
        rw [if_neg invalid]
        rintro ⟨value, same⟩
        cases same
  cases exchanges with
  | nil => exact refused _ unsent
  | cons exchange rest => exact refused _ unsent

/-- A call returns a value exactly when the answer to its last request is of the kind. -/
theorem result_course {α : Type} {client : DriveClient} {turn : Loop → Exchange → Turn α} {kind : Answer → Prop}
    (follows : Follows client turn)
    (ends : ∀ loop exchange, (turn loop exchange).EndsOn (kind exchange.answer)) (loop : Loop)
    (exchanges : List Exchange) :
    (∃ value, (course turn loop exchanges).result = some (.ok value)) ↔
      ∃ answer, lastAnswer exchanges (course turn loop exchanges).effects = some answer ∧ kind answer := by
  induction exchanges generalizing loop with
  | nil =>
      rw [course, send]
      split
      · constructor
        · rintro ⟨value, same⟩
          cases same
        · rintro ⟨answer, same, _⟩
          cases same
      · constructor
        · rintro ⟨value, same⟩
          cases same
        · rintro ⟨answer, same, _⟩
          cases same
  | cons exchange rest inductionHypothesis =>
      rw [course, send]
      split
      · cases turned : turn loop exchange with
        | done result =>
            dsimp only
            have last : lastAnswer (exchange :: rest) [.sent loop.accessToken] = some exchange.answer := rfl
            simp only [last, Option.some.injEq, exists_eq_left']
            have ended := ends loop exchange
            rw [turned] at ended
            exact ended
        | again next effect =>
            have goesOn : client.next loop exchange = some (next, effect) := by
              rw [← follows, turned]
              rfl
            dsimp only
            rw [lastAnswer_again exchange rest loop.accessToken (unsent_of_next goesOn)]
            split
            · next unsent =>
                refine iff_of_false (result_of_unsent unsent) ?_
                rintro ⟨answer, same, isKind⟩
                cases same
                have going := ends loop exchange
                rw [turned] at going
                exact going isKind
            · exact inductionHypothesis next
      · constructor
        · rintro ⟨value, same⟩
          cases same
        · rintro ⟨answer, same, _⟩
          cases same

section Ends

variable (client : DriveClient) (loop : Loop) (exchange : Exchange)

/-- A turn that accepts some statuses returns what it makes of an accepted response. -/
theorem endsOn_answered {α : Type} {status : Nat} {body : String} {accepts : Nat → Bool} {kind : Answer → Prop}
    {result : Except String α} (refusal : String)
    (accepted : accepts status = true → ((∃ value, result = .ok value) ↔ kind (.response status body)))
    (isAccepted : kind (.response status body) → accepts status = true) :
    Turn.EndsOn (kind (.response status body)) (if accepts status then .done result
      else match client.repeats loop exchange status with
        | some (next, effect) => .again next effect
        | none => .done (.error refusal)) := by
  cases accepting : accepts status with
  | true => exact accepted accepting
  | false =>
      have other : ¬ kind (.response status body) := fun isKind =>
        Bool.false_ne_true (accepting.symm.trans (isAccepted isKind))
      cases client.repeats loop exchange status with
      | none =>
          refine iff_of_false ?_ other
          rintro ⟨value, same⟩
          cases same
      | some next => exact other

/-- A request without a response ends in an error. -/
theorem endsOn_failed {α : Type} {failure : String} {kind : Prop} (other : ¬ kind) :
    @Turn.EndsOn α kind (.done (.error (DriveClient.requestFailed failure))) := by
  refine iff_of_false ?_ other
  rintro ⟨value, same⟩
  cases same

theorem isAccepted_response {accepts : Nat → Bool} {status : Nat} {body : String} :
    Answer.IsAccepted accepts (.response status body) ↔ accepts status = true := by
  constructor
  · rintro ⟨_, _, same, accepted⟩
    cases same
    exact accepted
  · intro accepted
    exact ⟨status, body, rfl, accepted⟩

theorem not_isAccepted_failed {accepts : Nat → Bool} {failure : String} :
    ¬ Answer.IsAccepted accepts (.failed failure) := by
  rintro ⟨_, _, same, _⟩
  cases same

/-- A success whose body is decoded. -/
def Answer.Decodes {α : Type} (decode : String → Except String α) (answer : Answer) : Prop :=
  ∃ status body value, answer = .response status body ∧ isSuccess status = true ∧ decode body = .ok value

theorem endsOn_executeJson {α : Type} (decode : String → Except String α) :
    (client.executeJson decode loop exchange).EndsOn (exchange.answer.Decodes decode) := by
  rw [DriveClient.executeJson]
  cases exchange.answer with
  | failed failure =>
      refine endsOn_failed ?_
      rintro ⟨_, _, _, same, _⟩
      cases same
  | response status body =>
      refine @endsOn_answered client loop exchange α status body isSuccess (Answer.Decodes decode) _ _
        (fun success => ?_) ?_
      · constructor
        · rintro ⟨value, same⟩
          cases decoded : decode body with
          | error failure =>
              rw [decoded] at same
              cases same
          | ok value => exact ⟨status, body, value, rfl, success, decoded⟩
        · rintro ⟨_, _, value, same, _, decoded⟩
          cases same
          rw [decoded]
          exact ⟨value, rfl⟩
      · rintro ⟨_, _, _, same, success, _⟩
        cases same
        exact success

theorem endsOn_executeNoContent :
    (client.executeNoContent loop exchange).EndsOn (exchange.answer.IsAccepted isSuccess) := by
  rw [DriveClient.executeNoContent]
  cases exchange.answer with
  | failed failure => exact endsOn_failed not_isAccepted_failed
  | response status body =>
      exact endsOn_answered client loop exchange _
        (fun success => iff_of_true ⟨(), rfl⟩ (isAccepted_response.mpr success)) isAccepted_response.mp

theorem endsOn_executeRaw :
    (client.executeRaw loop exchange).EndsOn (exchange.answer.IsAccepted isSuccess) := by
  rw [DriveClient.executeRaw]
  cases exchange.answer with
  | failed failure => exact endsOn_failed not_isAccepted_failed
  | response status body =>
      exact endsOn_answered client loop exchange _
        (fun success => iff_of_true ⟨_, rfl⟩ (isAccepted_response.mpr success)) isAccepted_response.mp

/-- What the loop for chunks of an upload accepts. -/
def isSuccessOrResumes (status : Nat) : Bool :=
  isSuccess status || status = 308

theorem endsOn_executeRawNoRedirect :
    (client.executeRawNoRedirect loop exchange).EndsOn (exchange.answer.IsAccepted isSuccessOrResumes) := by
  rw [DriveClient.executeRawNoRedirect]
  cases exchange.answer with
  | failed failure => exact endsOn_failed not_isAccepted_failed
  | response status body =>
      exact endsOn_answered client loop exchange _
        (fun success => iff_of_true ⟨_, rfl⟩ (isAccepted_response.mpr success)) isAccepted_response.mp

end Ends

/-- A loop has no result exactly while its last request is unanswered. -/
theorem result_none_course {α : Type} {client : DriveClient} {turn : Loop → Exchange → Turn α}
    (follows : Follows client turn) (loop : Loop) (exchanges : List Exchange) :
    (course turn loop exchanges).result = none ↔
      (sentTokens (course turn loop exchanges).effects).length = exchanges.length + 1 := by
  induction exchanges generalizing loop with
  | nil =>
      rw [course, send]
      split
      · exact iff_of_true rfl rfl
      · refine iff_of_false ?_ ?_
        · intro impossible
          cases impossible
        · intro impossible
          cases impossible
  | cons exchange rest inductionHypothesis =>
      rw [course, send]
      split
      · cases turned : turn loop exchange with
        | done result =>
            refine iff_of_false ?_ ?_
            · intro impossible
              cases impossible
            · intro impossible
              cases impossible
        | again next effect =>
            have goesOn : client.next loop exchange = some (next, effect) := by
              rw [← follows, turned]
              rfl
            have counted : (sentTokens (.sent loop.accessToken :: effect :: (course turn next rest).effects)).length =
                (sentTokens (course turn next rest).effects).length + 1 := by
              rcases of_next client goesOn with ⟨token, same, _⟩ | ⟨same, _⟩
              · rw [same]
                rfl
              · rw [same]
                rfl
            dsimp only
            rw [counted, List.length_cons, Nat.add_right_cancel_iff]
            exact inductionHypothesis next
      · refine iff_of_false ?_ ?_
        · intro impossible
          cases impossible
        · intro impossible
          cases impossible

/-- A call that does what every other call does, and returns a value exactly when the
answer to its last request is of a certain kind. -/
structure Conforms {α : Type} (exchanges : List Exchange) (effects : List Effect) (kind : Answer → Prop)
    (course : Course α) : Prop where
  same : course.effects = effects
  value : (∃ value, course.result = some (.ok value)) ↔
    ∃ answer, lastAnswer exchanges effects = some answer ∧ kind answer
  waiting : course.result = none ↔ (sentTokens effects).length = exchanges.length + 1

theorem conforms_course {α : Type} {client : DriveClient} {turn : Loop → Exchange → Turn α} {kind : Answer → Prop}
    (follows : Follows client turn) (ends : ∀ loop exchange, (turn loop exchange).EndsOn (kind exchange.answer))
    (token : String) (exchanges : List Exchange) :
    Conforms exchanges (course client.executeRaw (.start token) exchanges).effects kind
      (course turn (.start token) exchanges) := by
  have same : (course client.executeRaw (.start token) exchanges).effects =
      (course turn (.start token) exchanges).effects := by
    rw [effects_course client follows, effects_course client (follows_executeRaw client)]
  rw [same]
  exact ⟨rfl, result_course follows ends _ _, result_none_course follows _ _⟩

/-- Against the same answers all four loops send the same requests, within the same bounds,
and they differ only in what they accept. -/
theorem engines_agree {α : Type} (decode : String → Except String α) (client : DriveClient) (token : String)
    (exchanges : List Exchange) :
    WithinBudget token (course client.executeRaw (.start token) exchanges).effects ∧
    Conforms exchanges (course client.executeRaw (.start token) exchanges).effects
      (Answer.Decodes decode) (course (client.executeJson decode) (.start token) exchanges) ∧
    Conforms exchanges (course client.executeRaw (.start token) exchanges).effects
      (Answer.IsAccepted isSuccess) (course client.executeNoContent (.start token) exchanges) ∧
    Conforms exchanges (course client.executeRaw (.start token) exchanges).effects
      (Answer.IsAccepted isSuccess) (course client.executeRaw (.start token) exchanges) ∧
    Conforms exchanges (course client.executeRaw (.start token) exchanges).effects
      (Answer.IsAccepted isSuccessOrResumes) (course client.executeRawNoRedirect (.start token) exchanges) := by
  refine ⟨?_, conforms_course (follows_executeJson client decode) (fun loop exchange =>
      endsOn_executeJson client loop exchange decode) token exchanges,
    conforms_course (follows_executeNoContent client) (endsOn_executeNoContent client) token exchanges,
    conforms_course (follows_executeRaw client) (endsOn_executeRaw client) token exchanges,
    conforms_course (follows_executeRawNoRedirect client) (endsOn_executeRawNoRedirect client) token exchanges⟩
  rw [effects_course client (follows_executeRaw client)]
  exact withinBudget_effects client token exchanges

example : (course (DriveClient.executeRaw ⟨true, "GET", "/files"⟩) (.start "old")
    [⟨.response 503 "busy", .ok "new"⟩, ⟨.response 401 "expired", .ok "new"⟩, ⟨.response 200 "", .ok "new"⟩]).effects =
      [.sent "old", .slept 2, .sent "old", .refreshed "new", .sent "new"] := by decide

end Api
end GDriver
