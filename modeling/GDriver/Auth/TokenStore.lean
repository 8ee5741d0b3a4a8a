import GDriver.Db.Accounts
import GDriver.Ipc.Handlers

namespace GDriver
namespace Auth

open Library Routine Db Ipc

/-!
# Token store

The refresh token of an account is kept in the keyring of the operating system, its access token in
memory.  An access to the keyring may fail.  A refresh exchanges the refresh token for a new access
token; the server may hand out a new refresh token with it.
-/

/-- An access token with its calculated expiry, and the refresh token that came with it. -/
structure TokenSet where
  accessToken : String
  refreshToken : Option String
  expiresAt : Int
  deriving DecidableEq, Repr

/-- The body of an answer of the token endpoint. -/
structure RawTokenResponse where
  accessToken : String
  refreshToken : Option String
  expiresIn : Nat
  deriving DecidableEq, Repr

def TokenSet.ofRaw (now : Int) (raw : RawTokenResponse) : TokenSet where
  accessToken := raw.accessToken
  refreshToken := raw.refreshToken
  expiresAt := now + raw.expiresIn * 1000

/-- Whether the access token will expire within five minutes. -/
def TokenSet.shouldRefresh (now : Int) (tokens : TokenSet) : Bool :=
  tokens.expiresAt - 5 * 60 * 1000 ≤ now

/-- The name of an account in the keyring. -/
def keyringAccount (accountId : String) : String :=
  "refresh_token:" ++ accountId

theorem keyringAccount_inj {accountId other : String} :
    keyringAccount accountId = keyringAccount other ↔ accountId = other := by
  constructor
  · intro same
    have lists := congrArg String.toList same
    simp only [keyringAccount, String.toList_append] at lists
    exact String.toList_inj.mp (List.append_cancel_left lists)
  · exact congrArg keyringAccount

/-- The keyring, and the access tokens in memory. -/
structure TokenStore where
  keyring : String → Option String
  accessTokens : String → Option TokenSet

/-- The refresh token of an account in the keyring. -/
def TokenStore.refreshToken (store : TokenStore) (accountId : String) : Option String :=
  store.keyring (keyringAccount accountId)

def TokenStore.putRefreshToken (accountId : String) (token : Option String) (store : TokenStore) : TokenStore :=
  { store with keyring := Function.update store.keyring (keyringAccount accountId) token }

def TokenStore.putAccessToken (accountId : String) (tokens : Option TokenSet) (store : TokenStore) : TokenStore :=
  { store with accessTokens := Function.update store.accessTokens accountId tokens }

namespace TokenStore

variable (store : TokenStore) (accountId other : String) (token : Option String) (tokens : Option TokenSet)

theorem refreshToken_putRefreshToken :
    (store.putRefreshToken accountId token).refreshToken other =
      if other = accountId then token else store.refreshToken other := by
  simp only [refreshToken, putRefreshToken, Function.update_apply, keyringAccount_inj]

@[simp] theorem accessTokens_putRefreshToken :
    (store.putRefreshToken accountId token).accessTokens = store.accessTokens := rfl

@[simp] theorem refreshToken_putAccessToken :
    (store.putAccessToken accountId tokens).refreshToken other = store.refreshToken other := rfl

theorem accessTokens_putAccessToken :
    (store.putAccessToken accountId tokens).accessTokens other =
      if other = accountId then tokens else store.accessTokens other :=
  Function.update_apply store.accessTokens accountId tokens other

end TokenStore

/-- An access to the keyring. -/
def onKeyring {α : Type} (failure : Option String) (access : TokenStore → α × TokenStore) :
    Routine String TokenStore α := fun store =>
  match failure with
  | some message => .error message store
  | none => .ok (access store).1 (access store).2

/-- Persist a refresh token, replacing the one that is there. -/
def saveRefreshToken (failure : Option String) (accountId refreshToken : String) : Routine String TokenStore Unit :=
  onKeyring failure fun store => ((), store.putRefreshToken accountId (some refreshToken))

def loadRefreshToken (failure : Option String) (accountId : String) : Routine String TokenStore (Option String) :=
  onKeyring failure fun store => (store.refreshToken accountId, store)

/-- Remove the refresh token.  It is no error when there is none. -/
def deleteRefreshToken (failure : Option String) (accountId : String) : Routine String TokenStore Unit :=
  onKeyring failure fun store => ((), store.putRefreshToken accountId none)

def cacheAccessToken {ε : Type} (accountId : String) (tokens : TokenSet) : Routine ε TokenStore Unit := fun store =>
  .ok () (store.putAccessToken accountId (some tokens))

def getTokenSet {ε : Type} (accountId : String) : Routine ε TokenStore (Option TokenSet) := fun store =>
  .ok (store.accessTokens accountId) store

def clearAccessToken {ε : Type} (accountId : String) : Routine ε TokenStore Unit := fun store =>
  .ok () (store.putAccessToken accountId none)

/-- Wipe all tokens of an account.  The cache is cleared even when the keyring fails. -/
def deleteAll (failure : Option String) (accountId : String) : Routine String TokenStore Unit := do
  let deleted ← observe (deleteRefreshToken failure accountId)
  clearAccessToken accountId
  received deleted

/-! ## Refreshing -/

/-- What a refresh meets: the clock, the failures of the keyring, and the answer of the server. -/
structure RefreshAnswers where
  now : Int
  loadFailure : Option String
  reply : Except String RawTokenResponse
  saveFailure : Option String

/-- Exchange a refresh token.  It is kept when the server does not hand out another. -/
def refreshAccessToken (answers : RefreshAnswers) (refreshToken : String) : Except String TokenSet :=
  answers.reply.map fun raw =>
    TokenSet.ofRaw answers.now { raw with refreshToken := some (raw.refreshToken.getD refreshToken) }

/-- Persist a new refresh token.  A failure is ignored. -/
def saveRotated (failure : Option String) (accountId refreshToken : String) (tokens : TokenSet) :
    Routine String TokenStore Unit :=
  match tokens.refreshToken with
  | none => pure ()
  | some newRefreshToken =>
      if newRefreshToken ≠ refreshToken then attempt (saveRefreshToken failure accountId newRefreshToken)
      else pure ()

/-- The refresh that a client asks for after its access token was refused. -/
def refresh (answers : RefreshAnswers) (accountId : String) : Routine String TokenStore String := do
  match ← loadRefreshToken answers.loadFailure accountId with
  | none => throw ("no refresh token for " ++ accountId)
  | some refreshToken => do
      let tokens ← received (refreshAccessToken answers refreshToken)
      saveRotated answers.saveFailure accountId refreshToken tokens
      cacheAccessToken accountId tokens
      pure tokens.accessToken

/-- The access token of the client for an account: the cached one, unless it has to be refreshed.
Without the credentials of the application there is no refresh. -/
def buildClientForAccount (answers : RefreshAnswers) (oauth : Bool) (accountId : String) :
    Routine String TokenStore (Option String) := do
  match (← getTokenSet accountId).filter fun tokens => !tokens.shouldRefresh answers.now with
  | some tokens => pure (some tokens.accessToken)
  | none => do
      match ← observe (loadRefreshToken answers.loadFailure accountId) with
      | .error _ => pure none
      | .ok none => pure none
      | .ok (some refreshToken) =>
          if !oauth then pure none
          else
            match refreshAccessToken answers refreshToken with
            | .error _ => pure none
            | .ok tokens => do
                saveRotated answers.saveFailure accountId refreshToken tokens
                cacheAccessToken accountId tokens
                pure (some tokens.accessToken)

/-! ## Between the parts of a refresh -/

/-- Where a refresh stands: what it does next. -/
inductive Refresh where
  /-- Look for a cached access token. -/
  | looking (accountId : String) (oauth : Bool)
  /-- Load the refresh token. -/
  | loading (accountId : String) (oauth : Bool)
  /-- Wait for the server. -/
  | waiting (accountId refreshToken : String)
  /-- Save a new refresh token. -/
  | saving (accountId refreshToken : String) (tokens : TokenSet)
  /-- Cache the access token. -/
  | caching (accountId : String) (tokens : TokenSet)
  deriving DecidableEq, Repr

def Refresh.accountId : Refresh → String
  | .looking accountId _ => accountId
  | .loading accountId _ => accountId
  | .waiting accountId _ => accountId
  | .saving accountId _ _ => accountId
  | .caching accountId _ => accountId

/-- One part of a refresh: what is next, or nothing when the refresh is over. -/
def Refresh.step (answers : RefreshAnswers) : Refresh → Routine String TokenStore (Option Refresh)
  | .looking accountId oauth => do
      match (← getTokenSet accountId).filter fun tokens => !tokens.shouldRefresh answers.now with
      | some _ => pure none
      | none => pure (some (.loading accountId oauth))
  | .loading accountId oauth => do
      match ← loadRefreshToken answers.loadFailure accountId with
      | none => throw ("no refresh token for " ++ accountId)
      | some refreshToken => pure (if oauth then some (.waiting accountId refreshToken) else none)
  | .waiting accountId refreshToken => do
      let tokens ← received (refreshAccessToken answers refreshToken)
      pure (some (.saving accountId refreshToken tokens))
  | .saving accountId refreshToken tokens => do
      saveRotated answers.saveFailure accountId refreshToken tokens
      pure (some (.caching accountId tokens))
  | .caching accountId tokens => do
      cacheAccessToken accountId tokens
      pure none

/-- A refresh that nothing comes in between, for so many parts. -/
def Refresh.alone (answers : RefreshAnswers) : Nat → Refresh → Routine String TokenStore Unit
  | 0, _ => pure ()
  | count + 1, position => do
      match ← position.step answers with
      | none => pure ()
      | some next => next.alone answers count

/-- Saving and caching are the last two parts. -/
theorem final_save_eq_alone {α : Type} (answers : RefreshAnswers) (accountId refreshToken : String)
    (tokens : TokenSet) (result : α) (store : TokenStore) :
    final (do
      saveRotated answers.saveFailure accountId refreshToken tokens
      cacheAccessToken accountId tokens
      pure result) store = final ((Refresh.saving accountId refreshToken tokens).alone answers 2) store := by
  simp only [Refresh.alone, Refresh.step, bind_assoc, pure_bind]
  refine final_bind_congr (fun _ store => ?_) store
  rfl

/-- The parts of a refresh leave the tokens as the refresh does. -/
theorem final_refresh_eq_alone (answers : RefreshAnswers) (accountId : String) (store : TokenStore) :
    final (refresh answers accountId) store = final ((Refresh.loading accountId true).alone answers 4) store := by
  rw [refresh, Refresh.alone, Refresh.step, bind_assoc]
  refine final_bind_congr (fun loaded store => ?_) store
  cases loaded with
  | none => rfl
  | some refreshToken =>
      dsimp only
      rw [if_pos rfl, pure_bind]
      dsimp only
      rw [Refresh.alone, Refresh.step, bind_assoc]
      refine final_bind_congr (fun tokens store => ?_) store
      rw [pure_bind]
      exact final_save_eq_alone answers accountId refreshToken tokens _ store

/-- So do those of the refresh that builds a client. -/
theorem final_buildClientForAccount_eq_alone (answers : RefreshAnswers) (oauth : Bool) (accountId : String)
    (store : TokenStore) :
    final (buildClientForAccount answers oauth accountId) store =
      final ((Refresh.looking accountId oauth).alone answers 5) store := by
  rw [buildClientForAccount, Refresh.alone, Refresh.step, bind_assoc]
  refine final_bind_congr (fun cached store => ?_) store
  cases cached.filter fun tokens => !tokens.shouldRefresh answers.now with
  | some tokens => rfl
  | none =>
      dsimp only
      rw [pure_bind, final_bind_of_ok (outcome_observe _ _), final_observe]
      dsimp only
      rw [Refresh.alone, Refresh.step, bind_assoc, final_bind]
      cases outcome (loadRefreshToken answers.loadFailure accountId) store with
      | error failure => rfl
      | ok loaded =>
          cases loaded with
          | none => rfl
          | some refreshToken =>
              cases oauth with
              | false => rfl
              | true =>
                  dsimp only
                  rw [if_neg (by decide), if_pos rfl, pure_bind]
                  dsimp only
                  rw [Refresh.alone, Refresh.step, bind_assoc]
                  cases refreshAccessToken answers refreshToken with
                  | error failure => rfl
                  | ok tokens => exact final_save_eq_alone answers accountId refreshToken tokens _ _

end Auth
end GDriver
