import GDriver.Auth.Revocation

namespace GDriver
namespace Auth

open Library Routine Db

/-!
# Where tokens come from

Tokens are stored for the account that they were granted to, however refreshes, authorisations, disconnections
and restarts come between one another.  A refresh token stays until it is deleted.
-/

/-- What grants tokens to an account. -/
inductive Grant where
  /-- The answer of the server to a refresh. -/
  | answer (accountId : String) (raw : RawTokenResponse)
  /-- The refresh token of an authorisation. -/
  | refreshToken (accountId refreshToken : String)
  /-- The access token of an authorisation. -/
  | accessToken (accountId : String) (tokens : TokenSet)

/-- Grants this refresh token to this account. -/
def Grant.GivesRefresh (accountId refreshToken : String) : Grant → Prop
  | .answer owner raw => owner = accountId ∧ raw.refreshToken = some refreshToken
  | .refreshToken owner token => owner = accountId ∧ token = refreshToken
  | .accessToken _ _ => False

def Grant.GivesAccess (accountId accessToken : String) : Grant → Prop
  | .answer owner raw => owner = accountId ∧ raw.accessToken = accessToken
  | .refreshToken _ _ => False
  | .accessToken owner tokens => owner = accountId ∧ tokens.accessToken = accessToken

/-- The answer that a refresh waits for. -/
def Refresh.grant (answers : RefreshAnswers) : Refresh → Option Grant
  | .waiting accountId _ => answers.reply.toOption.map (.answer accountId)
  | _ => none

/-- What a step grants. -/
def AuthStep.grant (state : AuthState) : AuthStep → Option Grant
  | .proceed index answers => state.refreshes[index]?.join.bind (Refresh.grant answers)
  | .saveRefreshToken accountId refreshToken _ => some (.refreshToken accountId refreshToken)
  | .cacheAccessToken accountId tokens => some (.accessToken accountId tokens)
  | _ => none

/-- The grants in a run from the first start on. -/
def grantsIn (steps : List AuthStep) : List Grant :=
  notes AuthStep.exec AuthStep.grant steps AuthState.initial

def RefreshGranted (grants : List Grant) (accountId refreshToken : String) : Prop :=
  ∃ grant ∈ grants, grant.GivesRefresh accountId refreshToken

def AccessGranted (grants : List Grant) (accountId accessToken : String) : Prop :=
  ∃ grant ∈ grants, grant.GivesAccess accountId accessToken

/-- The tokens in the store were granted to the account that they are stored for. -/
structure StoreBelongs (grants : List Grant) (store : TokenStore) : Prop where
  keyring : ∀ accountId refreshToken, store.refreshToken accountId = some refreshToken →
    RefreshGranted grants accountId refreshToken
  cached : ∀ accountId tokens, store.accessTokens accountId = some tokens →
    AccessGranted grants accountId tokens.accessToken

/-- The tokens that a refresh carries were granted to its account. -/
def Refresh.Belongs (grants : List Grant) : Refresh → Prop
  | .looking _ _ => True
  | .loading _ _ => True
  | .waiting accountId refreshToken => RefreshGranted grants accountId refreshToken
  | .saving accountId _ tokens =>
      (∀ refreshToken, tokens.refreshToken = some refreshToken → RefreshGranted grants accountId refreshToken) ∧
        AccessGranted grants accountId tokens.accessToken
  | .caching accountId tokens => AccessGranted grants accountId tokens.accessToken

/-- All tokens, stored or under way, were granted to their accounts. -/
structure TokensBelong (grants : List Grant) (state : AuthState) : Prop where
  stored : StoreBelongs grants state.tokens
  underWay : ∀ position, some position ∈ state.refreshes → position.Belongs grants

section Steps

variable {grants : List Grant} {state : AuthState} {store : TokenStore} {position : Refresh} {answers : RefreshAnswers}

/-! ## More grants -/

theorem RefreshGranted.append {accountId refreshToken : String} (granted : RefreshGranted grants accountId refreshToken)
    (more : List Grant) : RefreshGranted (grants ++ more) accountId refreshToken := by
  rcases granted with ⟨grant, member, gives⟩
  exact ⟨grant, List.mem_append_left _ member, gives⟩

theorem AccessGranted.append {accountId accessToken : String} (granted : AccessGranted grants accountId accessToken)
    (more : List Grant) : AccessGranted (grants ++ more) accountId accessToken := by
  rcases granted with ⟨grant, member, gives⟩
  exact ⟨grant, List.mem_append_left _ member, gives⟩

theorem StoreBelongs.append (belongs : StoreBelongs grants store) (more : List Grant) :
    StoreBelongs (grants ++ more) store where
  keyring accountId refreshToken there := (belongs.keyring accountId refreshToken there).append more
  cached accountId tokens there := (belongs.cached accountId tokens there).append more

theorem Refresh.Belongs.append (belongs : position.Belongs grants) (more : List Grant) :
    position.Belongs (grants ++ more) := by
  cases position with
  | looking accountId oauth => trivial
  | loading accountId oauth => trivial
  | waiting accountId refreshToken => exact RefreshGranted.append belongs more
  | saving accountId refreshToken tokens =>
      exact ⟨fun token rotated => (belongs.1 token rotated).append more, belongs.2.append more⟩
  | caching accountId tokens => exact AccessGranted.append belongs more

theorem TokensBelong.append (belongs : TokensBelong grants state) (more : List Grant) :
    TokensBelong (grants ++ more) state where
  stored := belongs.stored.append more
  underWay position there := (belongs.underWay position there).append more

/-! ## Writes to the store -/

theorem StoreBelongs.putRefreshToken (belongs : StoreBelongs grants store) {accountId : String} {token : Option String}
    (granted : ∀ refreshToken, token = some refreshToken → RefreshGranted grants accountId refreshToken) :
    StoreBelongs grants (store.putRefreshToken accountId token) where
  keyring owner refreshToken there := by
    rw [TokenStore.refreshToken_putRefreshToken] at there
    split at there
    · next same =>
        rw [same]
        exact granted refreshToken there
    · exact belongs.keyring owner refreshToken there
  cached := belongs.cached

theorem StoreBelongs.putAccessToken (belongs : StoreBelongs grants store) {accountId : String}
    {tokens : Option TokenSet}
    (granted : ∀ set, tokens = some set → AccessGranted grants accountId set.accessToken) :
    StoreBelongs grants (store.putAccessToken accountId tokens) where
  keyring := belongs.keyring
  cached owner set there := by
    rw [TokenStore.accessTokens_putAccessToken] at there
    split at there
    · next same =>
        rw [same]
        exact granted set there
    · exact belongs.cached owner set there

/-- A call on the keyring that fails changes nothing. -/
theorem final_onKeyring {failure : Option String} {access : TokenStore → Unit × TokenStore} :
    final (onKeyring failure access) store = if failure.isSome then store else (access store).2 := by
  cases failure with
  | none => rfl
  | some message => rfl

theorem StoreBelongs.saveRefreshToken (belongs : StoreBelongs grants store) {failure : Option String}
    {accountId refreshToken : String} (granted : RefreshGranted grants accountId refreshToken) :
    StoreBelongs grants (final (saveRefreshToken failure accountId refreshToken) store) := by
  rw [Auth.saveRefreshToken, final_onKeyring]
  split
  · exact belongs
  · refine belongs.putRefreshToken fun token same => ?_
    cases same
    exact granted

/-! ## Parts of a refresh -/

/-- A refresh stores for its account what was granted to it. -/
theorem stored_step (belongs : StoreBelongs grants store) (carries : position.Belongs grants) :
    StoreBelongs grants (final (position.step answers) store) := by
  cases position with
  | saving accountId refreshToken tokens =>
      rw [final_step_saving, saveRotated]
      split
      · exact belongs
      · next newRefreshToken rotated =>
          split
          · rw [final_attempt]
            exact belongs.saveRefreshToken (carries.1 newRefreshToken rotated)
          · exact belongs
  | caching accountId tokens =>
      refine belongs.putAccessToken fun set same => ?_
      cases same
      exact carries
  | _ =>
      rw [final_step_of_reads (fun _ _ _ other => by cases other) fun _ _ other => by cases other]
      exact belongs

/-- What a refresh carries on was granted to its account before, or is granted now. -/
theorem carried_step {next : Refresh} (belongs : StoreBelongs grants store) (carries : position.Belongs grants)
    (goesOn : outcome (position.step answers) store = .ok (some next)) :
    next.Belongs (grants ++ (position.grant answers).toList) := by
  cases position with
  | looking accountId oauth =>
      rcases outcome_bind_eq_ok_iff.mp goesOn with ⟨cached, _, rest⟩
      split at rest
      · cases rest
      · cases rest
        trivial
  | loading accountId oauth =>
      rcases outcome_bind_eq_ok_iff.mp goesOn with ⟨loaded, found, rest⟩
      cases loaded with
      | none => cases rest
      | some refreshToken =>
          cases oauth with
          | false => cases rest
          | true =>
              cases rest
              refine RefreshGranted.append (belongs.keyring accountId refreshToken ?_) _
              cases failed : answers.loadFailure with
              | some message =>
                  rw [failed] at found
                  cases found
              | none =>
                  rw [failed] at found
                  exact Except.ok.inj found
  | waiting accountId refreshToken =>
      rcases outcome_bind_eq_ok_iff.mp goesOn with ⟨tokens, answered, rest⟩
      cases rest
      rw [outcome_received, refreshAccessToken] at answered
      cases reply : answers.reply with
      | error failure =>
          rw [reply] at answered
          cases answered
      | ok raw =>
          rw [reply] at answered
          cases answered
          rw [Refresh.grant, reply]
          have now : Grant.answer accountId raw ∈ grants ++ [Grant.answer accountId raw] :=
            List.mem_append_right _ List.mem_cons_self
          refine ⟨fun token rotated => ?_, Grant.answer accountId raw, now, rfl, rfl⟩
          cases handed : raw.refreshToken with
          | none =>
              have kept : token = refreshToken := by
                dsimp only [TokenSet.ofRaw] at rotated
                rw [handed] at rotated
                exact (Option.some.inj rotated).symm
              rw [kept]
              exact RefreshGranted.append carries _
          | some fresh =>
              have same : token = fresh := by
                dsimp only [TokenSet.ofRaw] at rotated
                rw [handed] at rotated
                exact (Option.some.inj rotated).symm
              rw [same]
              exact ⟨Grant.answer accountId raw, now, rfl, handed⟩
  | saving accountId refreshToken tokens =>
      rcases outcome_bind_eq_ok_iff.mp goesOn with ⟨_, _, rest⟩
      cases rest
      exact AccessGranted.append carries.2 _
  | caching accountId tokens =>
      rcases outcome_bind_eq_ok_iff.mp goesOn with ⟨_, _, rest⟩
      cases rest

/-! ## Every step -/

/-- What is added to the refreshes under way carries nothing yet. -/
theorem TokensBelong.begin (belongs : TokensBelong grants state) {first : Refresh} (fresh : first.Belongs grants) :
    TokensBelong grants { state with refreshes := state.refreshes ++ [some first] } where
  stored := belongs.stored
  underWay position there := by
    rcases List.mem_append.mp there with before | new
    · exact belongs.underWay position before
    · cases List.mem_singleton.mp new
      exact fresh

theorem TokensBelong.proceed (belongs : TokensBelong grants state) (index : Nat) (answers : RefreshAnswers) :
    TokensBelong (grants ++ ((AuthStep.proceed index answers).grant state).toList) (state.proceed index answers) := by
  rw [AuthState.proceed, AuthStep.grant]
  split
  · next position found =>
      rw [found, Option.join_some, Option.bind_some]
      have carries := belongs.underWay position (List.mem_of_getElem? found)
      refine ⟨(stored_step belongs.stored carries).append _, fun other there => ?_⟩
      rcases List.mem_or_eq_of_mem_set there with before | next
      · exact (belongs.underWay other before).append _
      · cases goesOn : outcome (position.step answers) state.tokens with
        | error failure =>
            rw [goesOn] at next
            cases next
        | ok following =>
            rw [goesOn] at next
            cases following with
            | none => cases next
            | some refresh =>
                cases next
                exact carried_step belongs.stored carries goesOn
  · exact belongs.append _

/-- A call on the store keeps what is under way. -/
theorem TokensBelong.onTokens (belongs : TokensBelong grants state) {α : Type} {routine : Routine String TokenStore α}
    (stored : StoreBelongs grants (final routine state.tokens)) :
    TokensBelong grants (final (onTokens routine) state) := by
  rw [Auth.onTokens, final_zoom]
  exact ⟨stored, belongs.underWay⟩

theorem TokensBelong.onAccounts (belongs : TokensBelong grants state) {α : Type} (routine : Routine String Database α) :
    TokensBelong grants (final (onAccounts routine) state) := by
  rw [Auth.onAccounts, final_zoom]
  exact ⟨belongs.stored, belongs.underWay⟩

theorem tokensBelong_exec (step : AuthStep) (belongs : TokensBelong grants state) :
    TokensBelong (grants ++ (step.grant state).toList) (step.exec state) := by
  cases step with
  | beginBuild accountId oauth =>
      have fresh : (Refresh.looking accountId oauth).Belongs grants := trivial
      exact (belongs.begin fresh).append _
  | beginRefresh accountId =>
      have fresh : (Refresh.loading accountId true).Belongs grants := trivial
      exact (belongs.begin fresh).append _
  | proceed index answers => exact belongs.proceed index answers
  | deleteRefreshToken accountId failure =>
      refine TokensBelong.append (belongs.onTokens ?_) _
      rw [Auth.deleteRefreshToken, final_onKeyring]
      split
      · exact belongs.stored
      · exact belongs.stored.putRefreshToken fun _ impossible => by cases impossible
  | clearAccessToken accountId =>
      refine TokensBelong.append (belongs.onTokens ?_) _
      exact belongs.stored.putAccessToken fun _ impossible => by cases impossible
  | deleteAccount runs accountId => exact (belongs.onAccounts _).append _
  | storeAccount runs account => exact (belongs.onAccounts _).append _
  | saveRefreshToken accountId refreshToken failure =>
      refine (belongs.append _).onTokens ((belongs.append _).stored.saveRefreshToken ?_)
      exact ⟨_, List.mem_append_right _ List.mem_cons_self, rfl, rfl⟩
  | cacheAccessToken accountId tokens =>
      refine (belongs.append _).onTokens ((belongs.append _).stored.putAccessToken fun set same => ?_)
      cases same
      exact ⟨_, List.mem_append_right _ List.mem_cons_self, rfl, rfl⟩
  | restart =>
      have cold : StoreBelongs grants { state.tokens with accessTokens := fun _ => none } :=
        ⟨belongs.stored.keyring, fun _ _ impossible => nomatch impossible⟩
      refine TokensBelong.append ⟨cold, fun position there => ?_⟩ _
      rcases List.mem_map.mp there with ⟨_, _, impossible⟩
      cases impossible

end Steps

/-! ## Staying authorised -/

/-- There is a refresh token for the account. -/
def Authorised (accountId : String) (store : TokenStore) : Prop :=
  store.refreshToken accountId ≠ none

/-- The refresh token of the account is deleted. -/
def AuthStep.Deauthorises (accountId : String) : AuthStep → Prop
  | .deleteRefreshToken owner failure => owner = accountId ∧ failure = none
  | _ => False

section Staying

variable {accountId : String} {state : AuthState} {store : TokenStore} {position : Refresh} {answers : RefreshAnswers}

theorem Authorised.putRefreshToken (authorised : Authorised accountId store) {owner : String} {token : Option String}
    (kept : owner = accountId → token ≠ none) : Authorised accountId (store.putRefreshToken owner token) := by
  rw [Authorised, TokenStore.refreshToken_putRefreshToken]
  split
  · next same => exact kept same.symm
  · exact authorised

theorem Authorised.saveRefreshToken (authorised : Authorised accountId store) (failure : Option String)
    (owner refreshToken : String) :
    Authorised accountId (final (saveRefreshToken failure owner refreshToken) store) := by
  rw [Auth.saveRefreshToken, final_onKeyring]
  split
  · exact authorised
  · exact authorised.putRefreshToken fun _ impossible => by cases impossible

/-- A refresh only replaces the refresh token. -/
theorem authorised_step (authorised : Authorised accountId store) :
    Authorised accountId (final (position.step answers) store) := by
  cases position with
  | saving owner refreshToken tokens =>
      rw [final_step_saving, saveRotated]
      split
      · exact authorised
      · split
        · rw [final_attempt]
          exact authorised.saveRefreshToken _ _ _
        · exact authorised
  | caching owner tokens => exact authorised
  | _ =>
      rw [final_step_of_reads (fun _ _ _ other => by cases other) fun _ _ other => by cases other]
      exact authorised

theorem authorised_exec {step : AuthStep} (kept : ¬ step.Deauthorises accountId)
    (authorised : Authorised accountId state.tokens) : Authorised accountId (step.exec state).tokens := by
  cases step with
  | beginBuild owner oauth => exact authorised
  | beginRefresh owner => exact authorised
  | proceed index answers =>
      rw [AuthStep.exec, AuthState.proceed]
      split
      · exact authorised_step authorised
      · exact authorised
  | deleteRefreshToken owner failure =>
      rw [AuthStep.exec, onTokens, final_zoom, Auth.deleteRefreshToken, final_onKeyring]
      split
      · exact authorised
      · next deletes =>
          refine authorised.putRefreshToken fun same => absurd ⟨same, ?_⟩ kept
          exact Option.not_isSome_iff_eq_none.mp deletes
  | clearAccessToken owner => exact authorised
  | deleteAccount runs owner =>
      rw [AuthStep.exec, onAccounts, final_zoom]
      exact authorised
  | storeAccount runs account =>
      rw [AuthStep.exec, onAccounts, final_zoom]
      exact authorised
  | saveRefreshToken owner refreshToken failure =>
      rw [AuthStep.exec, onTokens, final_zoom]
      exact authorised.saveRefreshToken _ _ _
  | cacheAccessToken owner tokens => exact authorised
  | restart => exact authorised

end Staying

/-- In every run, the tokens in the keyring and in the cache and those that refreshes carry were granted to the
account that they are kept and sent for; and an account that has a refresh token has one until it is deleted. -/
theorem tokens_belong_and_stay (before after : List AuthStep) :
    TokensBelong (grantsIn (before ++ after)) (run AuthStep.exec (before ++ after) AuthState.initial) ∧
      ∀ accountId, Authorised accountId (run AuthStep.exec before AuthState.initial).tokens →
        (∀ step ∈ after, ¬ step.Deauthorises accountId) →
          Authorised accountId (run AuthStep.exec (before ++ after) AuthState.initial).tokens := by
  constructor
  · have initially : TokensBelong [] AuthState.initial := by
      refine ⟨⟨fun _ _ impossible => ?_, fun _ _ impossible => ?_⟩, fun _ impossible => ?_⟩
      · cases impossible
      · cases impossible
      · cases impossible
    exact run_with_notes (fun _ _ step belongs => tokensBelong_exec step belongs) initially (before ++ after)
  · intro accountId authorised kept
    rw [run_append]
    have preserved (state : AuthState) (step : AuthStep) (kept : True ∧ ¬ step.Deauthorises accountId)
        (authorised : Authorised accountId state.tokens) : Authorised accountId (step.exec state).tokens :=
      authorised_exec kept.2 authorised
    have along := along_and_of_forall AuthStep.exec
      (along_true after (run AuthStep.exec before AuthState.initial)) kept
    exact run_of_along preserved along authorised

end Auth
end GDriver
