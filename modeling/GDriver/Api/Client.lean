import GDriver.World

namespace GDriver
namespace Api

/-!
# Repeated requests

The client repeats a request that is answered with 429 or a server error up to three
times, and once more after it has refreshed its token.  It does so for every request,
also for one that creates a file.  What the server stores for an attempt is stored
whatever it answers, so one upload can store several files.
-/

/-- How one attempt of a request ends. -/
inductive Response where
  /-- No response arrives. -/
  | lost (failure : String)
  /-- A success, with the body as it is deserialised. -/
  | success (body : Except String DriveFile)
  /-- Any other status, with the body as text. -/
  | refused (status : Nat) (body : String)
  deriving Repr

/-- One attempt: the file that the server stores for it, the response, and whether the
token can be refreshed after it. -/
structure Attempt where
  stored : Option (String × List String)
  response : Response
  refreshes : Bool

/-- What a request remembers of its attempts so far. -/
structure Retries where
  attempt : Nat
  tokenRefreshed : Bool
  deriving DecidableEq, Repr

def maxAttempts : Nat := 3

def isServerError (status : Nat) : Bool :=
  500 ≤ status && status < 600

/-- Whether a request is repeated after this status, and what it remembers then. -/
def Retries.after (retries : Retries) (refreshes : Bool) (status : Nat) : Option Retries :=
  if status = 401 && !retries.tokenRefreshed && refreshes then
    some { retries with tokenRefreshed := true }
  else if (status = 429 || isServerError status) && retries.attempt < maxAttempts then
    some { retries with attempt := retries.attempt + 1 }
  else none

/-- How often a request can still be repeated. -/
def Retries.left (retries : Retries) : Nat :=
  (maxAttempts - retries.attempt) + (!retries.tokenRefreshed).toNat

/-- The error of a request that is not repeated, with the beginning of the body. -/
def refusal (method url : String) (status : Nat) (body : String) : String :=
  "Drive API error (HTTP " ++ toString status ++ " on " ++ method ++ " " ++ url ++ "): " ++
    String.ofList (body.toList.take 500)

namespace Attempt

/-- What the request remembers when it is repeated after this attempt. -/
def repeats (retries : Retries) (attempt : Attempt) : Option Retries :=
  match attempt.response with
  | .lost _ => none
  | .success _ => none
  | .refused status _ => retries.after attempt.refreshes status

/-- How the request ends when this attempt is its last. -/
def last (method url : String) (attempt : Attempt) : UploadReply where
  stored := attempt.stored
  reply := match attempt.response with
    | .lost failure => .error ("Drive API request failed: " ++ failure)
    | .success body => body
    | .refused status body => .error (refusal method url status body)
  earlier := []

end Attempt

/-- Send a request until it is answered, or not repeated any more.  When there is no next
attempt, the daemon has been stopped before it. -/
def executeRaw (method url : String) : Retries → Attempt → List Attempt → UploadReply
  | _, first, [] => first.last method url
  | retries, first, second :: rest =>
      match first.repeats retries with
      | none => first.last method url
      | some next =>
          let reply := executeRaw method url next second rest
          { reply with earlier := first.stored.toList ++ reply.earlier }

/-- The endpoint that files are uploaded to in one request. -/
def uploadUrl : String :=
  "https://www.googleapis.com/upload/drive/v3/files?uploadType=multipart&fields=id,name,mimeType," ++
    "parents,size,version,modifiedTime,createdTime,trashed,shared,md5Checksum,webViewLink"

/-- Upload a file in one request. -/
def filesUploadMultipart (first : Attempt) (later : List Attempt) : UploadReply :=
  executeRaw "POST" uploadUrl ⟨0, false⟩ first later

end Api
end GDriver
