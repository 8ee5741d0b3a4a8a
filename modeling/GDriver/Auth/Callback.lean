import GDriver.Ipc.Server
import GDriver.Library.Path
import GDriver.Library.Percent
import Mathlib.Data.List.Induction

namespace GDriver
namespace Auth

open Library
open Ipc (isWhitespace)

/-!
# The redirect of an authorisation

The browser is sent back to a local port with a code and the nonce of the flow in the query of the
request.  The request is read piece by piece up to its first blank line.  An error is the list of its
messages, the outermost first.
-/

/-! ## What is read from the connection -/

/-- What one read gives: at least one byte, and no more than its buffer holds. -/
structure Chunk where
  bytes : List UInt8
  nonempty : bytes ≠ []
  short : bytes.length ≤ 1024

/-- What a connection does after the last bytes that come from it. -/
inductive Ending where
  | closed
  | broken (error : String)
  | silent

/-- The bytes `\r\n\r\n`. -/
def headerBoundary : List UInt8 := [13, 10, 13, 10]

/-- Some window of four bytes is the header boundary. -/
def hasBoundary (bytes : List UInt8) : Bool :=
  bytes.tails.any fun tail => headerBoundary.isPrefixOf tail

/-- Read until we see the HTTP header boundary.  There is no answer while the connection is silent. -/
def readRequest (buffer : List UInt8) : List Chunk → Ending → Option (Except (List String) (List UInt8))
  | [], .closed => some (.ok buffer)
  | [], .broken error => some (.error [error])
  | [], .silent => none
  | chunk :: rest, ending =>
      let filled := buffer ++ chunk.bytes
      if hasBoundary filled then some (.ok filled)
      else if 65536 < filled.length then some (.error ["OAuth callback request too large"])
      else readRequest filled rest ending

/-! ## The request -/

/-- The first line of a text, without its line break.  An empty text has no line. -/
def firstLine (text : String) : Option String :=
  if text = "" then none
  else if '\n' ∈ text.toList then
    let line := text.toList.takeWhile (· ≠ '\n')
    some (String.ofList (if line.getLast? = some '\r' then line.dropLast else line))
  else some text

/-- The words of a text between its white space. -/
def splitWhitespace (text : String) : List String :=
  ((text.toList.splitOnP isWhitespace).filter (· ≠ [])).map String.ofList

/-- A URL as the library gives it. -/
structure Url where
  query : Option String

/-- The URL library, and the texts of the errors that come from elsewhere. -/
structure UrlLibrary where
  parse : String → Except String Url
  /-- The text of bytes, where something stands in for what encodes none. -/
  fromUtf8Lossy : List UInt8 → String
  fromUtf8Lossy_of_text : ∀ text, fromUtf8Lossy (textBytes text) = text
  utf8Error : List UInt8 → String

section Queries

variable (library : UrlLibrary)

/-- A component of a query: plus signs are spaces, and what is percent-encoded is decoded. -/
def formDecode (component : List Char) : String :=
  library.fromUtf8Lossy (percentDecode (component.map fun char => if char = '+' then ' ' else char))

/-- The parameters of a query as they are written, each split at its first equals sign. -/
def rawPairs (query : String) : List (List Char × List Char) :=
  ((splitAtEvery '&' query.toList).filter (· ≠ [])).map fun part =>
    (part.takeWhile (· ≠ '='), (part.dropWhile (· ≠ '=')).tail)

def queryPairs (url : Url) : List (String × String) :=
  (rawPairs (url.query.getD "")).map fun pair => (formDecode library pair.1, formDecode library pair.2)

/-- The URL that a request line asks for. -/
def requestUrl (request : List UInt8) : Except (List String) Url :=
  match utf8 request with
  | none => .error ["callback request is not UTF-8", library.utf8Error request]
  | some requestText =>
      match firstLine requestText with
      | none => .error ["callback request is empty"]
      | some requestLine =>
          match (splitWhitespace requestLine)[1]? with
          | none => .error ["malformed callback request line"]
          | some path => (library.parse ("http://localhost" ++ path)).mapError fun error =>
              ["failed to parse callback path", error]

end Queries

/-- Authorization code and state nonce extracted from the OAuth redirect. -/
structure AuthCallback where
  code : String
  state : String
  deriving DecidableEq, Repr

/-- What has been seen of the parameters. -/
structure CallbackParams where
  code : Option String
  state : String
  oauthError : Option String

def CallbackParams.see (seen : CallbackParams) (pair : String × String) : CallbackParams :=
  match pair.1 with
  | "code" => { seen with code := some pair.2 }
  | "state" => { seen with state := pair.2 }
  | "error" => { seen with oauthError := some pair.2 }
  | _ => seen

/-- The page that the browser is shown. -/
def htmlResponse (success : Bool) : String :=
  let body :=
    if success then
      "<!DOCTYPE html><html><head><meta charset=\"UTF-8\">" ++
        "<title>gDriver — Authorized</title></head><body>" ++
        "<h1>Authorization successful!</h1>" ++
        "<p>You can close this window and return to gDriver.</p>" ++
        "</body></html>"
    else
      "<!DOCTYPE html><html><head><meta charset=\"UTF-8\">" ++
        "<title>gDriver — Authorization Failed</title></head><body>" ++
        "<h1>Authorization was denied.</h1>" ++
        "<p>You can close this window and return to gDriver.</p>" ++
        "</body></html>"
  "HTTP/1.1 200 OK\r\n" ++ "Content-Type: text/html; charset=utf-8\r\n" ++
    "Content-Length: " ++ toString body.utf8ByteSize ++ "\r\n" ++ "Connection: close\r\n" ++ "\r\n" ++ body

/-- What becomes of the one connection: the page that is sent to it, and what is found in it. -/
structure Handled where
  reply : Option String
  result : Except (List String) AuthCallback

/-- Parse the OAuth callback parameters of a request, and reply. -/
def answerRequest (library : UrlLibrary) (request : List UInt8) : Handled :=
  match requestUrl library request with
  | .error messages => ⟨none, .error messages⟩
  | .ok url =>
      let seen := (queryPairs library url).foldl CallbackParams.see ⟨none, "", none⟩
      match seen.oauthError with
      | some error => ⟨some (htmlResponse false), .error ["Google OAuth denied: " ++ error]⟩
      | none =>
          match seen.code with
          | none => ⟨none, .error ["no authorization code in OAuth callback"]⟩
          | some code => ⟨some (htmlResponse true), .ok ⟨code, seen.state⟩⟩

/-- What the listener gives: no connection, or the first one with its reads. -/
inductive Accepted where
  | failed (error : String)
  | connection (reads : List Chunk) (ending : Ending)

/-- Accept one HTTP connection, parse the OAuth callback parameters, and reply. -/
def handleCallback (library : UrlLibrary) : Accepted → Option Handled
  | .failed error => some ⟨none, .error ["OAuth callback accept failed", error]⟩
  | .connection reads ending =>
      (readRequest [] reads ending).map fun request =>
        match request with
        | .error messages => ⟨none, .error messages⟩
        | .ok bytes => answerRequest library bytes

/-! ## The flow -/

def base64UrlDigit (value : Nat) : Char :=
  if value < 26 then Char.ofNat (65 + value)
  else if value < 52 then Char.ofNat (71 + value)
  else if value < 62 then Char.ofNat (value - 4)
  else if value = 62 then '-'
  else '_'

/-- Base64 with the alphabet for URLs and without padding. -/
def base64Url : List UInt8 → List Char
  | [] => []
  | [first] => [base64UrlDigit (first.toNat / 4), base64UrlDigit (first.toNat % 4 * 16)]
  | [first, second] =>
      [base64UrlDigit (first.toNat / 4), base64UrlDigit (first.toNat % 4 * 16 + second.toNat / 16),
        base64UrlDigit (second.toNat % 16 * 4)]
  | first :: second :: third :: rest =>
      base64UrlDigit (first.toNat / 4) :: base64UrlDigit (first.toNat % 4 * 16 + second.toNat / 16) ::
        base64UrlDigit (second.toNat % 16 * 4 + third.toNat / 64) :: base64UrlDigit (third.toNat % 64) :: base64Url rest

/-- PKCE code-verifier and derived code-challenge. -/
structure PkceChallenge where
  codeVerifier : String
  codeChallenge : String

/-- Make a verifier and its challenge from sixty-four random bytes. -/
def generatePkce (sha256 : List UInt8 → List UInt8) (raw : Vector UInt8 64) : PkceChallenge :=
  let codeVerifier := String.ofList (base64Url raw.toList)
  ⟨codeVerifier, String.ofList (base64Url (sha256 (textBytes codeVerifier)))⟩

/-- Google OAuth 2.0 client credentials. -/
structure OauthConfig where
  clientId : String
  clientSecret : String

def authEndpoint : String := "https://accounts.google.com/o/oauth2/v2/auth"

def scopes : List String :=
  ["openid", "email", "profile", "https://www.googleapis.com/auth/drive",
    "https://www.googleapis.com/auth/photoslibrary"]

/-- The bytes that a form leaves as they are. -/
def isFormUnchanged (byte : UInt8) : Bool :=
  let char := Char.ofNat byte.toNat
  ('A' ≤ char && char ≤ 'Z') || ('a' ≤ char && char ≤ 'z') || ('0' ≤ char && char ≤ '9') || "*-._".toList.contains char

def formEncode (text : String) : String :=
  String.ofList ((textBytes text).flatMap fun byte =>
    if isFormUnchanged byte then [Char.ofNat byte.toNat] else if byte = 32 then ['+'] else percentByte byte)

/-- Build the Google OAuth2 authorization URL with PKCE and offline access. -/
def buildAuthUrl (config : OauthConfig) (pkce : PkceChallenge) (redirectUri state : String) : String :=
  let pairs := [("client_id", config.clientId), ("redirect_uri", redirectUri), ("response_type", "code"),
    ("scope", " ".intercalate scopes), ("code_challenge", pkce.codeChallenge), ("code_challenge_method", "S256"),
    ("access_type", "offline"), ("prompt", "consent"), ("state", state)]
  authEndpoint ++ "?" ++ "&".intercalate (pairs.map fun pair => formEncode pair.1 ++ "=" ++ formEncode pair.2)

/-- The form with which a code is exchanged for tokens. -/
def exchangeCode (config : OauthConfig) (code codeVerifier redirectUri : String) : List (String × String) :=
  [("code", code), ("code_verifier", codeVerifier), ("client_id", config.clientId),
    ("client_secret", config.clientSecret),
    ("redirect_uri", redirectUri), ("grant_type", "authorization_code")]

/-- What the rest of a flow keeps of its start. -/
structure AuthFlow where
  config : OauthConfig
  state : String
  codeVerifier : String
  redirectUri : String

/-- The nonce of a flow, made from sixteen random bytes. -/
def nonce (stateBytes : Vector UInt8 16) : String :=
  String.ofList (base64Url stateBytes.toList)

/-- Begin a flow: the URL to open, and what the future keeps.  The port is the one that the listener
is bound to, if it is. -/
def beginAuthFlow (config : OauthConfig) (sha256 : List UInt8 → List UInt8) (raw : Vector UInt8 64)
    (stateBytes : Vector UInt8 16) (bound : Except (List String) UInt16) : Except (List String) (String × AuthFlow) :=
  let pkce := generatePkce sha256 raw
  let state := nonce stateBytes
  bound.map fun port =>
    let redirectUri := "http://127.0.0.1:" ++ toString port.toNat ++ "/callback"
    (buildAuthUrl config pkce redirectUri state, ⟨config, state, pkce.codeVerifier, redirectUri⟩)

/-- What the future does: it waits, it fails, or it posts a form to the token endpoint.  The task that
serves the callback may be dropped. -/
def AuthFlow.tokenFuture (library : UrlLibrary) (flow : AuthFlow) :
    Option Accepted → Option (Except (List String) (List (String × String)))
  | none => some (.error ["OAuth callback server task was dropped", "channel closed"])
  | some accepted =>
      (handleCallback library accepted).map fun handled =>
        match handled.result with
        | .error messages => .error ("OAuth callback server error" :: messages)
        | .ok callback =>
            if callback.state ≠ flow.state then
              .error ["OAuth state mismatch — possible CSRF attack (expected " ++ flow.state ++ ", got " ++
                callback.state ++ ")"]
            else .ok (exchangeCode flow.config callback.code flow.codeVerifier flow.redirectUri)

/-! ## The parameters of the redirect -/

/-- The value that a name has last. -/
def lastValue (name : String) (pairs : List (String × String)) : Option String :=
  ((pairs.filter fun pair => pair.1 = name).getLast?).map Prod.snd

section LastValue

variable {name : String} {pairs : List (String × String)} {pair : String × String}

theorem lastValue_concat : lastValue name (pairs ++ [pair]) =
    if pair.1 = name then some pair.2 else lastValue name pairs := by
  rw [lastValue, List.filter_append]
  split
  · next same =>
      rw [List.filter_cons, if_pos (decide_eq_true same), List.filter_nil, List.getLast?_concat]
      rfl
  · next other =>
      rw [List.filter_cons, if_neg (by rw [decide_eq_true_eq]; exact other), List.filter_nil, List.append_nil]
      rfl

theorem lastValue_eq_none_iff : lastValue name pairs = none ↔ ∀ pair ∈ pairs, pair.1 ≠ name := by
  rw [lastValue, Option.map_eq_none_iff, List.getLast?_eq_none_iff, List.filter_eq_nil_iff]
  simp only [decide_eq_true_eq]

theorem mem_of_lastValue {value : String} (last : lastValue name pairs = some value) : (name, value) ∈ pairs := by
  rcases Option.map_eq_some_iff.mp last with ⟨found, at_, same⟩
  have member := List.mem_filter.mp (List.mem_of_getLast? at_)
  have named : found.1 = name := of_decide_eq_true member.2
  rw [← named, ← same]
  exact member.1

end LastValue

/-- After all parameters, the last value of each name is what has been seen. -/
theorem foldl_see (pairs : List (String × String)) :
    pairs.foldl CallbackParams.see ⟨none, "", none⟩ =
      ⟨lastValue "code" pairs, (lastValue "state" pairs).getD "", lastValue "error" pairs⟩ := by
  induction pairs using List.reverseRecOn with
  | nil => rfl
  | append_singleton before pair inductionHypothesis =>
      rw [List.foldl_append, inductionHypothesis, List.foldl_cons, List.foldl_nil, CallbackParams.see, lastValue_concat,
        lastValue_concat, lastValue_concat]
      split
      · next named =>
          rw [named, if_pos rfl, if_neg (by decide), if_neg (by decide)]
      · next named =>
          rw [named, if_neg (by decide), if_pos rfl, if_neg (by decide)]
          rfl
      · next named =>
          rw [named, if_neg (by decide), if_neg (by decide), if_pos rfl]
      · next noCode noState noError => rw [if_neg noCode, if_neg noState, if_neg noError]

theorem nonce_ne_empty (stateBytes : Vector UInt8 16) : nonce stateBytes ≠ "" := by
  have full : stateBytes.toList.length = 16 := Vector.length_toList
  have some_ : base64Url stateBytes.toList ≠ [] := by
    match bytes : stateBytes.toList with
    | [] =>
        rw [bytes] at full
        cases full
    | [_] => exact List.cons_ne_nil _ _
    | [_, _] => exact List.cons_ne_nil _ _
    | _ :: _ :: _ :: _ => exact List.cons_ne_nil _ _
  intro empty
  exact some_ (String.ofList_eq_empty_iff.mp empty)

/-! ## What is read -/

/-- All bytes that the reads give. -/
def sent (reads : List Chunk) : List UInt8 :=
  reads.flatMap Chunk.bytes

/-- A request is what the connection sends up to a point after its first blank line, or everything. -/
structure IsRequest (reads : List Chunk) (request : List UInt8) : Prop where
  begins : request <+: sent reads
  complete : hasBoundary request = true ∨ request = sent reads

/-- The first blank line of a request is at its end. -/
structure EndsAtBoundary (request : List UInt8) : Prop where
  ends : hasBoundary request = true
  first : ∀ earlier, earlier <+: request → earlier ≠ request → hasBoundary earlier = false

/-- Whatever is read is what was there before, and more of what is sent. -/
theorem of_readRequest {reads : List Chunk} {ending : Ending} {buffer request : List UInt8}
    (given : readRequest buffer reads ending = some (.ok request)) :
    request <+: buffer ++ sent reads ∧ (hasBoundary request = true ∨ request = buffer ++ sent reads) := by
  induction reads generalizing buffer with
  | nil =>
      have all : buffer ++ sent [] = buffer := List.append_nil buffer
      rw [all]
      cases ending with
      | closed =>
          cases given
          exact ⟨List.prefix_refl _, Or.inr rfl⟩
      | broken error => cases given
      | silent => cases given
  | cons chunk rest inductionHypothesis =>
      have all : buffer ++ sent (chunk :: rest) = (buffer ++ chunk.bytes) ++ sent rest := (List.append_assoc _ _ _).symm
      rw [all]
      rw [readRequest] at given
      split at given
      · next boundary =>
          cases given
          exact ⟨List.prefix_append _ _, Or.inl boundary⟩
      · split at given
        · cases given
        · exact inductionHypothesis given

/-- However a request is cut that ends at its first blank line, it is read as a whole. -/
theorem readRequest_of_cut {request : List UInt8} (bounded : EndsAtBoundary request) (fits : request.length ≤ 65536)
    (ending : Ending) {reads : List Chunk} {buffer : List UInt8} (cut : buffer ++ sent reads = request)
    (unfinished : buffer ≠ request) : readRequest buffer reads ending = some (.ok request) := by
  induction reads generalizing buffer with
  | nil => exact absurd ((List.append_nil buffer).symm.trans cut) unfinished
  | cons chunk rest inductionHypothesis =>
      have later : (buffer ++ chunk.bytes) ++ sent rest = request := (List.append_assoc _ _ _).trans cut
      have begins : buffer ++ chunk.bytes <+: request := ⟨sent rest, later⟩
      rw [readRequest]
      by_cases whole : buffer ++ chunk.bytes = request
      · rw [whole]
        exact if_pos bounded.ends
      · have goesOn := bounded.first _ begins whole
        have short : ¬ 65536 < (buffer ++ chunk.bytes).length := Nat.not_lt.mpr (Nat.le_trans begins.length_le fits)
        rw [if_neg (ne_true_of_eq_false goesOn), if_neg short]
        exact inductionHypothesis later whole

/-! ## What is exchanged -/

section Exchange

variable {library : UrlLibrary} {flow : AuthFlow}

/-- A code is found in a request exactly if no parameter reports an error and one is a code. -/
theorem answerRequest_result_iff {request : List UInt8} {callback : AuthCallback} :
    (answerRequest library request).result = .ok callback ↔
      ∃ url, requestUrl library request = .ok url ∧ lastValue "error" (queryPairs library url) = none ∧
        lastValue "code" (queryPairs library url) = some callback.code ∧
          (lastValue "state" (queryPairs library url)).getD "" = callback.state := by
  rw [answerRequest]
  cases asked : requestUrl library request with
  | error messages =>
      refine iff_of_false (fun impossible => by cases impossible) ?_
      rintro ⟨url, impossible, _⟩
      cases impossible
  | ok url =>
      simp only [foldl_see, Except.ok.injEq, exists_eq_left']
      cases lastValue "error" (queryPairs library url) with
      | some error => exact iff_of_false (fun impossible => by cases impossible) fun impossible => by cases impossible.1
      | none =>
          cases lastValue "code" (queryPairs library url) with
          | none => exact iff_of_false (fun impossible => by cases impossible) fun impossible => by cases impossible.2.1
          | some code =>
              constructor
              · intro found
                cases found
                exact ⟨rfl, rfl, rfl⟩
              · rintro ⟨_, code_, state⟩
                cases callback
                cases code_
                cases state
                rfl

/-- A form is posted exactly if a request is read in which a code is found with the nonce. -/
theorem tokenFuture_eq_ok_iff {served : Option Accepted} {form : List (String × String)} :
    flow.tokenFuture library served = some (.ok form) ↔
      ∃ reads ending request code, served = some (.connection reads ending) ∧
        readRequest [] reads ending = some (.ok request) ∧
        (answerRequest library request).result = .ok ⟨code, flow.state⟩ ∧
        form = exchangeCode flow.config code flow.codeVerifier flow.redirectUri := by
  constructor
  · intro posted
    cases served with
    | none => cases posted
    | some accepted =>
        rcases Option.map_eq_some_iff.mp posted with ⟨handled, given, answered⟩
        cases accepted with
        | failed error =>
            cases given
            cases answered
        | connection reads ending =>
            rcases Option.map_eq_some_iff.mp given with ⟨read, whole, same⟩
            cases read with
            | error messages =>
                cases same
                cases answered
            | ok request =>
                cases same
                cases found : (answerRequest library request).result with
                | error messages =>
                    rw [found] at answered
                    cases answered
                | ok callback =>
                    rw [found] at answered
                    dsimp only at answered
                    split at answered
                    · cases answered
                    · next agrees =>
                        have state : callback.state = flow.state := Decidable.not_not.mp agrees
                        refine ⟨reads, ending, request, callback.code, rfl, whole, ?_, (Except.ok.inj answered).symm⟩
                        rw [found, ← state]
  · rintro ⟨reads, ending, request, code, rfl, whole, found, rfl⟩
    rw [AuthFlow.tokenFuture, handleCallback, whole, Option.map_some, Option.map_some]
    dsimp only
    rw [found]
    exact congrArg some (if_neg (not_not_intro rfl))

/-- The query of a request holds the nonce as a state and no error, and its last code is this one. -/
structure IsRedirect (library : UrlLibrary) (state code : String) (request : List UInt8) (url : Url) : Prop where
  asks : requestUrl library request = .ok url
  hasState : ("state", state) ∈ queryPairs library url
  noError : ∀ pair ∈ queryPairs library url, pair.1 ≠ "error"
  lastCode : lastValue "code" (queryPairs library url) = some code

theorem isRedirect_of_answerRequest {request : List UInt8} {code state : String} (named : state ≠ "")
    (found : (answerRequest library request).result = .ok ⟨code, state⟩) :
    ∃ url, IsRedirect library state code request url := by
  rcases answerRequest_result_iff.mp found with ⟨url, asks, noError, lastCode, lastState⟩
  refine ⟨url, asks, ?_, lastValue_eq_none_iff.mp noError, lastCode⟩
  cases last : lastValue "state" (queryPairs library url) with
  | none =>
      rw [last] at lastState
      exact absurd lastState.symm named
  | some value =>
      rw [last] at lastState
      have same : value = state := lastState
      rw [← same]
      exact mem_of_lastValue last

end Exchange

/-- Whatever the first connection sends and however it is cut, a code is exchanged only if the query
of its request holds the nonce and no error, and then the last code; and a request that ends at its
first blank line gives the same however it is cut. -/
theorem only_redirect_exchanged (library : UrlLibrary) (config : OauthConfig) (sha256 : List UInt8 → List UInt8)
    (raw : Vector UInt8 64) (stateBytes : Vector UInt8 16) (port : UInt16) :
    ∃ authUrl flow, beginAuthFlow config sha256 raw stateBytes (.ok port) = .ok (authUrl, flow) ∧
      (∀ served form, flow.tokenFuture library served = some (.ok form) →
        ∃ reads ending request url code, served = some (.connection reads ending) ∧ IsRequest reads request ∧
          IsRedirect library (nonce stateBytes) code request url ∧
          form = exchangeCode config code flow.codeVerifier flow.redirectUri) ∧
      ∀ request, EndsAtBoundary request → request.length ≤ 65536 →
        ∀ reads ending otherReads otherEnding, sent reads = request → sent otherReads = request →
          handleCallback library (.connection reads ending) =
              handleCallback library (.connection otherReads otherEnding) ∧
            flow.tokenFuture library (some (.connection reads ending)) =
              flow.tokenFuture library (some (.connection otherReads otherEnding)) := by
  refine ⟨_, _, rfl, ?_, ?_⟩
  · intro served form posted
    rcases tokenFuture_eq_ok_iff.mp posted with ⟨reads, ending, request, code, connected, whole, found, same⟩
    rcases isRedirect_of_answerRequest (nonce_ne_empty stateBytes) found with ⟨url, redirect⟩
    have isRead := of_readRequest whole
    exact ⟨reads, ending, request, url, code, connected, ⟨isRead.1, isRead.2⟩, redirect, same⟩
  · intro request bounded fits reads ending otherReads otherEnding cut otherCut
    have some_ : [] ≠ request := by
      intro empty
      have none := bounded.ends
      rw [← empty] at none
      exact absurd none (by decide)
    have same : handleCallback library (.connection reads ending) =
        handleCallback library (.connection otherReads otherEnding) := by
      rw [handleCallback, handleCallback, readRequest_of_cut bounded fits ending cut some_,
        readRequest_of_cut bounded fits otherEnding otherCut some_]
    refine ⟨same, ?_⟩
    rw [AuthFlow.tokenFuture, AuthFlow.tokenFuture, same]

/-- URLs with a path and a query, and texts that are all valid. -/
def plainUrls : UrlLibrary where
  parse url := .ok ⟨if '?' ∈ url.toList then some (String.ofList (url.toList.dropWhile (· ≠ '?')).tail) else none⟩
  fromUtf8Lossy bytes := (utf8 bytes).getD "\uFFFD"
  fromUtf8Lossy_of_text text := congrArg (Option.getD · "\uFFFD") (utf8_textBytes text)
  utf8Error _ := "invalid utf-8 sequence"

/-- A redirect with two codes that comes in two pieces. -/
def redirectReads : List Chunk :=
  [⟨textBytes "GET /callback?code=1&code=4%2Fabc&sta", by decide, by decide⟩,
    ⟨textBytes "te=AAAAAAAAAAAAAAAAAAAAAA HTTP/1.1\r\n\r\n", by decide, by decide⟩]

/-- The redirect to a flow is exchanged, and then it is one with its nonce and its last code. -/
theorem only_redirect_exchanged_of_redirectReads :
    ∃ authUrl flow, beginAuthFlow ⟨"client", "secret"⟩ id (Vector.replicate 64 0) (Vector.replicate 16 0) (.ok 4000) =
        .ok (authUrl, flow) ∧
      flow.tokenFuture plainUrls (some (.connection redirectReads .closed)) =
        some (.ok (exchangeCode ⟨"client", "secret"⟩ "4/abc" flow.codeVerifier flow.redirectUri)) ∧
      ∃ request url, IsRequest redirectReads request ∧
        IsRedirect plainUrls (nonce (Vector.replicate 16 0)) "4/abc" request url := by
  rcases only_redirect_exchanged plainUrls ⟨"client", "secret"⟩ id (Vector.replicate 64 0)
    (Vector.replicate 16 0) 4000 with
    ⟨authUrl, flow, begun, exchanges, _⟩
  cases begun
  have posts : (AuthFlow.mk ⟨"client", "secret"⟩ (nonce (Vector.replicate 16 0))
      (generatePkce id (Vector.replicate 64 0)).codeVerifier
      ("http://127.0.0.1:" ++ toString 4000 ++ "/callback")).tokenFuture
        plainUrls (some (.connection redirectReads .closed)) =
      some (.ok (exchangeCode ⟨"client", "secret"⟩ "4/abc" (generatePkce id (Vector.replicate 64 0)).codeVerifier
        ("http://127.0.0.1:" ++ toString 4000 ++ "/callback"))) := by
    decide +kernel
  refine ⟨_, _, rfl, posts, ?_⟩
  rcases exchanges _ _ posts with ⟨reads, ending, request, url, code, connected, isRequest, redirect, same⟩
  cases connected
  have last : code = "4/abc" := by
    injection same with first
    injection first with _ value
    exact value.symm
  rw [last] at redirect
  exact ⟨request, url, isRequest, redirect⟩

end Auth
end GDriver
