import GDriver.Auth.TokenStore
import GDriver.Library.Run

namespace GDriver
namespace Auth

open Library Routine Db Ipc

/-!
# Tokens of a disconnected account

Disconnecting an account wipes its tokens and deletes the account.  A refresh that has loaded the
refresh token before knows nothing of it: it waits for the server, and stores what it is given.
-/

/-- The tokens, the database, and the refreshes in the order in which they have begun.  A refresh
that is over has left nothing in its place. -/
structure AuthState where
  tokens : TokenStore
  db : Database
  refreshes : List (Option Refresh)

/-- The state right after the first start. -/
def AuthState.initial : AuthState where
  tokens := ⟨fun _ => none, fun _ => none⟩
  db := Database.fresh
  refreshes := []

def onTokens {α : Type} (routine : Routine String TokenStore α) : Routine String AuthState α :=
  zoom AuthState.tokens (fun tokens state => { state with tokens := tokens }) routine

def onAccounts {α : Type} (routine : Routine String Database α) : Routine String AuthState α :=
  zoom AuthState.db (fun db state => { state with db := db }) routine

/-- Disconnect an account: wipe tokens and database record.  The call does not fail when the keyring
is unavailable. -/
def handleAuthDisconnect (keyringFailure : Option String) (runs : Bool) (accountId : Option String) :
    Routine RpcError AuthState Unit :=
  match accountId with
  | none => throw (.invalidParams "account_id is required")
  | some accountId => do
      attempt (onTokens (deleteAll keyringFailure accountId))
      mapError .internalError (onAccounts (deleteAccount runs accountId))

/-- What the completion of an authorisation does to the tokens. -/
def completeOauthFlow (runs : Bool) (account : Account) (saveFailure : Option String) (tokens : TokenSet) :
    Routine String AuthState Unit := do
  onAccounts (insertAccount runs account)
  match tokens.refreshToken with
  | none => pure ()
  | some refreshToken => attempt (onTokens (saveRefreshToken saveFailure account.id refreshToken))
  onTokens (cacheAccessToken account.id tokens)

/-! ## Steps -/

/-- A single part of a refresh, of a disconnection or of an authorisation. -/
inductive AuthStep where
  | beginBuild (accountId : String) (oauth : Bool)
  | beginRefresh (accountId : String)
  | proceed (index : Nat) (answers : RefreshAnswers)
  | deleteRefreshToken (accountId : String) (failure : Option String)
  | clearAccessToken (accountId : String)
  | deleteAccount (runs : Bool) (accountId : String)
  | storeAccount (runs : Bool) (account : Account)
  | saveRefreshToken (accountId refreshToken : String) (failure : Option String)
  | cacheAccessToken (accountId : String) (tokens : TokenSet)
  /-- The daemon is stopped and started again. -/
  | restart

/-- What is next for a refresh after a part of it. -/
def nextPart : Except String (Option Refresh) → Option Refresh
  | .ok next => next
  | .error _ => none

/-- Take the next part of a refresh. -/
def AuthState.proceed (state : AuthState) (index : Nat) (answers : RefreshAnswers) : AuthState :=
  match state.refreshes[index]? with
  | some (some position) =>
      { state with
        tokens := final (position.step answers) state.tokens
        refreshes := state.refreshes.set index (nextPart (outcome (position.step answers) state.tokens)) }
  | _ => state

def AuthStep.exec (state : AuthState) : AuthStep → AuthState
  | .beginBuild accountId oauth => { state with refreshes := state.refreshes ++ [some (.looking accountId oauth)] }
  | .beginRefresh accountId => { state with refreshes := state.refreshes ++ [some (.loading accountId true)] }
  | .proceed index answers => state.proceed index answers
  | .deleteRefreshToken accountId failure => final (onTokens (Auth.deleteRefreshToken failure accountId)) state
  | .clearAccessToken accountId => final (onTokens (Auth.clearAccessToken accountId)) state
  | .deleteAccount runs accountId => final (onAccounts (Db.deleteAccount runs accountId)) state
  | .storeAccount runs account => final (onAccounts (insertAccount runs account)) state
  | .saveRefreshToken accountId refreshToken failure =>
      final (onTokens (Auth.saveRefreshToken failure accountId refreshToken)) state
  | .cacheAccessToken accountId tokens => final (onTokens (Auth.cacheAccessToken accountId tokens)) state
  | .restart =>
      { state with
        tokens := { state.tokens with accessTokens := fun _ => none }
        refreshes := state.refreshes.map fun _ => none }

/-- The parts of a disconnection. -/
def disconnectSteps (keyringFailure : Option String) (runs : Bool) (accountId : String) : List AuthStep := [
  .deleteRefreshToken accountId keyringFailure,
  .clearAccessToken accountId,
  .deleteAccount runs accountId]

/-- With nothing in between they are the handler. -/
theorem final_handleAuthDisconnect (keyringFailure : Option String) (runs : Bool) (accountId : String)
    (state : AuthState) :
    final (handleAuthDisconnect keyringFailure runs (some accountId)) state =
      run AuthStep.exec (disconnectSteps keyringFailure runs accountId) state := by
  have wipes : final (onTokens (deleteAll keyringFailure accountId)) state =
      run AuthStep.exec [.deleteRefreshToken accountId keyringFailure, .clearAccessToken accountId] state := by
    cases keyringFailure with
    | none => rfl
    | some failure => rfl
  rw [handleAuthDisconnect, final_bind_of_ok (outcome_attempt _ _), final_attempt, final_mapError, wipes]
  rfl

/-- The parts of an authorisation, after the account has been fetched. -/
def authoriseSteps (runs : Bool) (account : Account) (saveFailure : Option String) (tokens : TokenSet) :
    List AuthStep :=
  .storeAccount runs account ::
    (tokens.refreshToken.toList.map fun refreshToken => .saveRefreshToken account.id refreshToken saveFailure) ++
      [.cacheAccessToken account.id tokens]

/-- With nothing in between they are what completes the authorisation, once the account is stored. -/
theorem final_completeOauthFlow {runs : Bool} {account : Account} {state : AuthState}
    (stored : outcome (insertAccount runs account) state.db = .ok ()) (saveFailure : Option String)
    (tokens : TokenSet) :
    final (completeOauthFlow runs account saveFailure tokens) state =
      run AuthStep.exec (authoriseSteps runs account saveFailure tokens) state := by
  have answered : outcome (onAccounts (insertAccount runs account)) state = .ok () := by
    rw [onAccounts, outcome_zoom, stored]
  rw [completeOauthFlow, final_bind_of_ok answered, authoriseSteps]
  cases tokens.refreshToken with
  | none => rfl
  | some refreshToken => rfl

/-! ## What a part of a refresh does -/

/-- The refresh has loaded the refresh token. -/
def Refresh.loaded : Refresh → Bool
  | .looking _ _ => false
  | .loading _ _ => false
  | _ => true

/-- The next part of the refresh saves a new refresh token of the account. -/
def Refresh.Saves (accountId : String) (answers : RefreshAnswers) : Refresh → Prop
  | .saving owner refreshToken tokens =>
      owner = accountId ∧ answers.saveFailure = none ∧
        ∃ newRefreshToken, tokens.refreshToken = some newRefreshToken ∧ newRefreshToken ≠ refreshToken
  | _ => False

/-- The next part of the refresh caches an access token of the account. -/
def Refresh.Caches (accountId : String) (_ : RefreshAnswers) : Refresh → Prop
  | .caching owner _ => owner = accountId
  | _ => False

section Parts

variable {answers : RefreshAnswers} {position : Refresh} {accountId : String}

theorem Refresh.Saves.loaded (saves : position.Saves accountId answers) :
    position.accountId = accountId ∧ position.loaded = true := by
  cases position with
  | saving owner refreshToken tokens => exact ⟨saves.1, rfl⟩
  | _ => exact saves.elim

theorem Refresh.Caches.loaded (caches : position.Caches accountId answers) :
    position.accountId = accountId ∧ position.loaded = true := by
  cases position with
  | caching owner tokens => exact ⟨caches, rfl⟩
  | _ => exact caches.elim

/-- Only the last two parts of a refresh change the tokens. -/
theorem final_step_of_reads (reads : ∀ owner refreshToken tokens, position ≠ .saving owner refreshToken tokens)
    (more : ∀ owner tokens, position ≠ .caching owner tokens) (store : TokenStore) :
    final (position.step answers) store = store := by
  cases position with
  | looking owner oauth =>
      refine final_bind_of_reader (fun cached later => ?_) store
      split
      · rfl
      · rfl
  | loading owner oauth =>
      refine (final_bind_of_reader (fun loaded later => ?_) store).trans ?_
      · split
        · rfl
        · rfl
      · rw [loadRefreshToken]
        cases answers.loadFailure with
        | none => rfl
        | some message => rfl
  | waiting owner refreshToken =>
      exact (final_bind_of_reader (fun tokens later => rfl) store).trans (final_received _ store)
  | saving owner refreshToken tokens => exact absurd rfl (reads owner refreshToken tokens)
  | caching owner tokens => exact absurd rfl (more owner tokens)

theorem final_step_saving (owner refreshToken : String) (tokens : TokenSet) (store : TokenStore) :
    final ((Refresh.saving owner refreshToken tokens).step answers) store =
      final (saveRotated answers.saveFailure owner refreshToken tokens) store :=
  final_bind_of_reader (fun _ _ => rfl) store

theorem accessTokens_saveRotated (failure : Option String) (owner refreshToken : String) (tokens : TokenSet)
    (store : TokenStore) :
    (final (saveRotated failure owner refreshToken tokens) store).accessTokens = store.accessTokens := by
  rw [saveRotated]
  split
  · rfl
  · split
    · cases failure with
      | none => rfl
      | some message => rfl
    · rfl

theorem refreshToken_step (quiet : ¬ position.Saves accountId answers) (store : TokenStore) :
    (final (position.step answers) store).refreshToken accountId = store.refreshToken accountId := by
  cases position with
  | saving owner refreshToken tokens =>
      rw [final_step_saving, saveRotated]
      split
      · rfl
      · next newRefreshToken rotated =>
          split
          · next different =>
              cases failed : answers.saveFailure with
              | some message => rfl
              | none =>
                  refine (TokenStore.refreshToken_putRefreshToken store owner accountId _).trans (if_neg fun same => ?_)
                  exact quiet ⟨same.symm, failed, newRefreshToken, rotated, different⟩
          · rfl
  | caching owner tokens => rfl
  | _ => rw [final_step_of_reads (fun _ _ _ other => by cases other) fun _ _ other => by cases other]

theorem accessTokens_step (quiet : ¬ position.Caches accountId answers) (store : TokenStore) :
    (final (position.step answers) store).accessTokens accountId = store.accessTokens accountId := by
  cases position with
  | saving owner refreshToken tokens => rw [final_step_saving, accessTokens_saveRotated]
  | caching owner tokens =>
      exact (TokenStore.accessTokens_putAccessToken store owner accountId _).trans
        (if_neg fun same => quiet same.symm)
  | _ => rw [final_step_of_reads (fun _ _ _ other => by cases other) fun _ _ other => by cases other]

/-- A refresh goes on for the account it has begun for, and has loaded a token only if there was
one. -/
theorem of_step {store : TokenStore} {next : Refresh}
    (answered : outcome (position.step answers) store = .ok (some next)) :
    next.accountId = position.accountId ∧
      (position.loaded = false → store.refreshToken position.accountId = none → next.loaded = false) := by
  cases position with
  | looking owner oauth =>
      rcases outcome_bind_eq_ok_iff.mp answered with ⟨cached, _, rest⟩
      split at rest
      · cases rest
      · cases rest
        exact ⟨rfl, fun _ _ => rfl⟩
  | loading owner oauth =>
      rcases outcome_bind_eq_ok_iff.mp answered with ⟨loaded, loads, rest⟩
      have found : loaded = store.refreshToken owner := by
        rw [loadRefreshToken] at loads
        cases failed : answers.loadFailure with
        | none =>
            rw [failed] at loads
            cases loads
            rfl
        | some message =>
            rw [failed] at loads
            cases loads
      split at rest
      · cases rest
      · next refreshToken =>
          cases oauth with
          | false => cases rest
          | true =>
              cases rest
              refine ⟨rfl, fun _ missing => ?_⟩
              rw [Refresh.accountId, ← found] at missing
              cases missing
  | waiting owner refreshToken =>
      rcases outcome_bind_eq_ok_iff.mp answered with ⟨tokens, _, rest⟩
      cases rest
      exact ⟨rfl, fun impossible => by cases impossible⟩
  | saving owner refreshToken tokens =>
      rcases outcome_bind_eq_ok_iff.mp answered with ⟨_, _, rest⟩
      cases rest
      exact ⟨rfl, fun impossible => by cases impossible⟩
  | caching owner tokens =>
      rcases outcome_bind_eq_ok_iff.mp answered with ⟨_, _, rest⟩
      cases rest

end Parts

/-! ## Steps after the keyring entry was deleted -/

/-- The step stores a token of the account for an authorisation. -/
def AuthStep.Authorises (accountId : String) : AuthStep → Prop
  | .saveRefreshToken owner _ _ => owner = accountId
  | .cacheAccessToken owner _ => owner = accountId
  | _ => False

/-- One of the refreshes that had begun by then stores a token. -/
def Late (stores : RefreshAnswers → Refresh → Prop) (begun : Nat) (state : AuthState) : AuthStep → Prop
  | .proceed index answers =>
      index < begun ∧ ∃ position, state.refreshes[index]? = some (some position) ∧ stores answers position
  | _ => False

/-- The keyring has no token of the account, and the refreshes that have begun since have loaded none. -/
structure Wiped (accountId : String) (begun : Nat) (state : AuthState) : Prop where
  refreshToken : state.tokens.refreshToken accountId = none
  later : begun ≤ state.refreshes.length
  unloaded : ∀ index position, begun ≤ index → state.refreshes[index]? = some (some position) →
    position.accountId = accountId → position.loaded = false

section Steps

variable {accountId : String} {begun : Nat} {state : AuthState} {step : AuthStep}

/-- A refresh that has begun since stores nothing that takes a refresh token of the account. -/
theorem Wiped.quiet (wiped : Wiped accountId begun state) {stores : RefreshAnswers → Refresh → Prop}
    (needs : ∀ answers position, stores answers position →
      position.accountId = accountId ∧ position.loaded = true)
    {index : Nat} {answers : RefreshAnswers} (stays : ¬ Late stores begun state (.proceed index answers))
    {position : Refresh} (at_ : state.refreshes[index]? = some (some position)) : ¬ stores answers position := by
  intro here
  by_cases before : index < begun
  · exact stays ⟨before, position, at_, here⟩
  · have needed := needs answers position here
    have unloaded := wiped.unloaded index position (Nat.le_of_not_lt before) at_ needed.1
    rw [needed.2] at unloaded
    cases unloaded

theorem Wiped.of_begin (wiped : Wiped accountId begun state) {first : Refresh} (unloaded : first.loaded = false) :
    Wiped accountId begun { state with refreshes := state.refreshes ++ [some first] } where
  refreshToken := wiped.refreshToken
  later := by
    rw [List.length_append]
    exact Nat.le_add_right_of_le wiped.later
  unloaded index position since at_ owner := by
    by_cases old : index < state.refreshes.length
    · rw [List.getElem?_append_left old] at at_
      exact wiped.unloaded index position since at_ owner
    · rw [List.getElem?_append_right (Nat.le_of_not_lt old)] at at_
      rcases List.getElem?_eq_some_iff.mp at_ with ⟨inside, same⟩
      rw [List.getElem_singleton] at same
      rw [← Option.some.inj same]
      exact unloaded

theorem Wiped.of_tokens (wiped : Wiped accountId begun state) {tokens : TokenStore}
    (same : tokens.refreshToken accountId = none) : Wiped accountId begun { state with tokens := tokens } :=
  ⟨same, wiped.later, wiped.unloaded⟩

theorem wiped_proceed (wiped : Wiped accountId begun state) {index : Nat} {answers : RefreshAnswers}
    (stays : ¬ Late (fun answers position => position.Saves accountId answers) begun state (.proceed index answers)) :
    Wiped accountId begun (state.proceed index answers) := by
  rw [AuthState.proceed]
  split
  · next position at_ =>
      have quiet := wiped.quiet (fun _ _ saves => saves.loaded) stays at_
      refine ⟨(refreshToken_step quiet state.tokens).trans wiped.refreshToken, ?_, ?_⟩
      · rw [List.length_set]
        exact wiped.later
      · intro other next since there owner
        by_cases here : index = other
        · subst here
          have inside : index < state.refreshes.length := (List.getElem?_eq_some_iff.mp at_).1
          rw [List.getElem?_set_self inside] at there
          cases answered : outcome (position.step answers) state.tokens with
          | error failure =>
              rw [answered] at there
              cases there
          | ok reached =>
              rw [answered] at there
              have goes := of_step (answered.trans (congrArg Except.ok (Option.some.inj there)))
              rw [goes.1] at owner
              refine goes.2 (wiped.unloaded index position since at_ owner) ?_
              rw [owner]
              exact wiped.refreshToken
        · rw [List.getElem?_set_ne here] at there
          exact wiped.unloaded other next since there owner
  · exact wiped

/-- Without an authorisation, and without the refreshes that had begun before, the keyring gets no
token of the account. -/
theorem wiped_exec (wiped : Wiped accountId begun state) (quiet : ¬ step.Authorises accountId)
    (stays : ¬ Late (fun answers position => position.Saves accountId answers) begun state step) :
    Wiped accountId begun (step.exec state) := by
  cases step with
  | beginBuild owner oauth => exact wiped.of_begin rfl
  | beginRefresh owner => exact wiped.of_begin rfl
  | proceed index answers => exact wiped_proceed wiped stays
  | deleteRefreshToken owner failure =>
      cases failure with
      | some message => exact wiped
      | none =>
          refine wiped.of_tokens ((TokenStore.refreshToken_putRefreshToken state.tokens owner accountId none).trans ?_)
          split
          · rfl
          · exact wiped.refreshToken
  | clearAccessToken owner => exact wiped.of_tokens wiped.refreshToken
  | deleteAccount runs owner =>
      rw [AuthStep.exec, onAccounts, final_zoom]
      exact ⟨wiped.refreshToken, wiped.later, wiped.unloaded⟩
  | storeAccount runs account =>
      rw [AuthStep.exec, onAccounts, final_zoom]
      exact ⟨wiped.refreshToken, wiped.later, wiped.unloaded⟩
  | saveRefreshToken owner refreshToken failure =>
      cases failure with
      | some message => exact wiped
      | none =>
          refine wiped.of_tokens ((TokenStore.refreshToken_putRefreshToken state.tokens owner accountId _).trans ?_)
          rw [if_neg fun same => quiet same.symm]
          exact wiped.refreshToken
  | cacheAccessToken owner tokens => exact wiped.of_tokens wiped.refreshToken
  | restart =>
      refine ⟨wiped.refreshToken, ?_, fun index position _ at_ _ => ?_⟩
      · change begun ≤ (state.refreshes.map fun _ => none).length
        rw [List.length_map]
        exact wiped.later
      · change (state.refreshes.map fun _ => none)[index]? = some (some position) at at_
        rw [List.getElem?_map] at at_
        rcases Option.map_eq_some_iff.mp at_ with ⟨_, _, impossible⟩
        cases impossible

/-- The same for the cache. -/
theorem uncached_exec (wiped : Wiped accountId begun state) (missing : state.tokens.accessTokens accountId = none)
    (quiet : ¬ step.Authorises accountId)
    (stays : ¬ Late (fun answers position => position.Caches accountId answers) begun state step) :
    (step.exec state).tokens.accessTokens accountId = none := by
  cases step with
  | proceed index answers =>
      rw [AuthStep.exec, AuthState.proceed]
      split
      · next position at_ =>
          have quiet := wiped.quiet (fun _ _ caches => caches.loaded) stays at_
          exact (accessTokens_step quiet state.tokens).trans missing
      · exact missing
  | deleteRefreshToken owner failure =>
      cases failure with
      | some message => exact missing
      | none => exact missing
  | clearAccessToken owner =>
      refine (TokenStore.accessTokens_putAccessToken state.tokens owner accountId none).trans ?_
      split
      · rfl
      · exact missing
  | deleteAccount runs owner =>
      rw [AuthStep.exec, onAccounts, final_zoom]
      exact missing
  | storeAccount runs account =>
      rw [AuthStep.exec, onAccounts, final_zoom]
      exact missing
  | saveRefreshToken owner refreshToken failure =>
      cases failure with
      | some message => exact missing
      | none => exact missing
  | cacheAccessToken owner tokens =>
      refine (TokenStore.accessTokens_putAccessToken state.tokens owner accountId _).trans ?_
      rw [if_neg fun same => quiet same.symm]
      exact missing
  | restart => rfl
  | beginBuild owner oauth => exact missing
  | beginRefresh owner => exact missing

end Steps

/-- Once no refresh of the account is under way, neither the keyring nor the cache has a token of it. -/
def Revoked (accountId : String) (state : AuthState) : Prop :=
  (∀ refresh, some refresh ∈ state.refreshes → refresh.accountId ≠ accountId) →
    state.tokens.keyring (keyringAccount accountId) = none ∧ state.tokens.accessTokens accountId = none

/-- The step neither authorises the account, nor saves a refresh token of it for a refresh that had
begun before. -/
def KeepsKeyring (accountId : String) (begun : Nat) (state : AuthState) (step : AuthStep) : Prop :=
  ¬ step.Authorises accountId ∧ ¬ Late (fun answers position => position.Saves accountId answers) begun state step

/-- The step caches no access token of the account for such a refresh either. -/
def KeepsTokens (accountId : String) (begun : Nat) (state : AuthState) (step : AuthStep) : Prop :=
  KeepsKeyring accountId begun state step ∧
    ¬ Late (fun answers position => position.Caches accountId answers) begun state step

/-- Neither the keyring nor the cache has a token of the account, and none is on its way. -/
def Clean (accountId : String) (begun : Nat) (state : AuthState) : Prop :=
  Wiped accountId begun state ∧ state.tokens.accessTokens accountId = none

theorem clean_exec {accountId : String} {begun : Nat} (state : AuthState) (step : AuthStep)
    (keeps : KeepsTokens accountId begun state step) (clean : Clean accountId begun state) :
    Clean accountId begun (step.exec state) :=
  ⟨wiped_exec clean.1 keeps.1.1 keeps.1.2, uncached_exec clean.1 clean.2 keeps.1.1 keeps.2⟩

/-- The keyring has no token of the account once its entry was deleted, or if it had none. -/
theorem wiped_deleteRefreshToken {accountId : String} {failure : Option String} {state : AuthState}
    (deletes : failure = none ∨ state.tokens.keyring (keyringAccount accountId) = none) :
    Wiped accountId state.refreshes.length ((AuthStep.deleteRefreshToken accountId failure).exec state) := by
  have after {other : AuthState} (refreshes : other.refreshes = state.refreshes)
      (missing : other.tokens.refreshToken accountId = none) : Wiped accountId state.refreshes.length other := by
    refine ⟨missing, Nat.le_of_eq (congrArg List.length refreshes).symm, fun index position since at_ _ => ?_⟩
    rw [refreshes, List.getElem?_eq_none since] at at_
    cases at_
  cases failure with
  | none =>
      refine after rfl ?_
      exact (TokenStore.refreshToken_putRefreshToken state.tokens accountId accountId none).trans (if_pos rfl)
  | some message =>
      rcases deletes with impossible | missing
      · cases impossible
      · exact after rfl missing

/-- A disconnection revokes the tokens of its account, whatever comes in between and until the account
is authorised again, if the keyring deletes its entry, and no refresh that had begun before stores a
token of the account after its place has been wiped. -/
theorem disconnect_revokes_tokens :
    ∀ (state : AuthState) (accountId : String) (failure : Option String) (second third rest : List AuthStep),
      failure = none ∨ state.tokens.keyring (keyringAccount accountId) = none →
      Along AuthStep.exec (KeepsKeyring accountId state.refreshes.length) second
        ((AuthStep.deleteRefreshToken accountId failure).exec state) →
      Along AuthStep.exec (KeepsTokens accountId state.refreshes.length)
        (third ++ .deleteAccount true accountId :: rest)
        (run AuthStep.exec (.deleteRefreshToken accountId failure :: second ++ [.clearAccessToken accountId]) state) →
      Throughout AuthStep.exec (Revoked accountId) rest
        (run AuthStep.exec (.deleteRefreshToken accountId failure :: second ++ .clearAccessToken accountId ::
          third ++ [.deleteAccount true accountId]) state) := by
  intro state accountId failure second third rest deletes keyring keeps
  have reached := @run_of_along _ _ AuthStep.exec _ (Wiped accountId state.refreshes.length)
    (fun _ _ keeps before => wiped_exec before keeps.1 keeps.2) _ _ keyring (wiped_deleteRefreshToken deletes)
  have cleared : Clean accountId state.refreshes.length (run AuthStep.exec
      (.deleteRefreshToken accountId failure :: second ++ [.clearAccessToken accountId]) state) := by
    rw [run_append]
    refine ⟨reached.of_tokens reached.refreshToken, ?_⟩
    exact (TokenStore.accessTokens_putAccessToken _ accountId accountId none).trans (if_pos rfl)
  rcases (along_append _ _ _ _).mp keeps with ⟨between, deleted, after⟩
  have clean := @run_of_along _ _ AuthStep.exec _ (Clean accountId state.refreshes.length) clean_exec _ _ between
    cleared
  have finished := clean_exec _ _ deleted clean
  have arrived : run AuthStep.exec (.deleteRefreshToken accountId failure :: second ++ .clearAccessToken accountId ::
      third ++ [.deleteAccount true accountId]) state = (AuthStep.deleteAccount true accountId).exec
        (run AuthStep.exec third (run AuthStep.exec
          (.deleteRefreshToken accountId failure :: second ++ [.clearAccessToken accountId]) state)) := by
    rw [run_append, run_append, run_append]
    rfl
  rw [arrived]
  exact Throughout.mono (fun _ clean _ => ⟨clean.1.refreshToken, clean.2⟩)
    (@throughout_of_along _ _ AuthStep.exec _ (Clean accountId state.refreshes.length) clean_exec rest _ after finished)

/-- The server answers with a new access token and a new refresh token. -/
def rotates : RefreshAnswers :=
  ⟨1000, none, .ok ⟨"ya29.second", some "1//second", 3600⟩, none⟩

/-- ann@example.com is connected, and a refresh has loaded the refresh token. -/
def connectsAndRefreshes : List AuthStep :=
  authoriseSteps true ⟨"ann@example.com", "ann@example.com", 0⟩ none ⟨"ya29.first", some "1//first", 100⟩ ++ [
    .beginBuild "ann@example.com" true,
    .proceed 0 rotates,
    .proceed 0 rotates]

/-- The state in which ann@example.com is disconnected: the server has not answered yet. -/
def connectedState : AuthState :=
  run AuthStep.exec connectsAndRefreshes AuthState.initial

/-- Nothing comes back when the refresh stops there. -/
theorem disconnect_revokes_tokens_of_stopped :
    Throughout AuthStep.exec (Revoked "ann@example.com")
      [.proceed 0 ⟨2000, none, .error "timed out", none⟩, .beginRefresh "ann@example.com", .proceed 1 rotates]
      (run AuthStep.exec (.deleteRefreshToken "ann@example.com" none :: [] ++
        .clearAccessToken "ann@example.com" :: [] ++ [.deleteAccount true "ann@example.com"]) connectedState) := by
  have waits : (run AuthStep.exec (disconnectSteps none true "ann@example.com") connectedState).refreshes[0]? =
      some (some (.waiting "ann@example.com" "1//first")) := by decide
  refine disconnect_revokes_tokens connectedState "ann@example.com" none [] [] _ (Or.inl rfl) trivial ?_
  refine ⟨⟨⟨id, id⟩, id⟩, ⟨⟨id, ?_⟩, ?_⟩, ⟨⟨id, id⟩, id⟩, ⟨⟨id, ?_⟩, ?_⟩, trivial⟩
  · rintro ⟨_, position, at_, saves⟩
    rw [Option.some.inj (Option.some.inj (at_.symm.trans waits))] at saves
    exact saves
  · rintro ⟨_, position, at_, caches⟩
    rw [Option.some.inj (Option.some.inj (at_.symm.trans waits))] at caches
    exact caches
  · rintro ⟨before, _⟩
    exact absurd before (by decide)
  · rintro ⟨before, _⟩
    exact absurd before (by decide)

/-- The refresh goes on after the disconnection, and stores both tokens. -/
theorem refresh_restores_tokens :
    ¬ Revoked "ann@example.com" (run AuthStep.exec (disconnectSteps none true "ann@example.com" ++
      [.proceed 0 rotates, .proceed 0 rotates, .proceed 0 rotates]) connectedState) := by
  intro revoked
  have ended : (run AuthStep.exec (disconnectSteps none true "ann@example.com" ++
      [.proceed 0 rotates, .proceed 0 rotates, .proceed 0 rotates]) connectedState).refreshes = [none] := by decide
  have stored : (run AuthStep.exec (disconnectSteps none true "ann@example.com" ++
      [.proceed 0 rotates, .proceed 0 rotates, .proceed 0 rotates]) connectedState).tokens.refreshToken
        "ann@example.com" = some "1//second" := by decide
  have none_left (refresh : Refresh) (member : some refresh ∈ (run AuthStep.exec
      (disconnectSteps none true "ann@example.com" ++ [.proceed 0 rotates, .proceed 0 rotates, .proceed 0 rotates])
      connectedState).refreshes) : refresh.accountId ≠ "ann@example.com" := by
    rw [ended, List.mem_singleton] at member
    cases member
  cases stored.symm.trans (revoked none_left).1

end Auth
end GDriver
