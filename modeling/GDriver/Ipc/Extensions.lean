import GDriver.Ipc.Events
import GDriver.Ipc.Exchanges

namespace GDriver
namespace Ipc

open Library

/-!
# The file manager extensions

The extensions for Nautilus, Dolphin and the Windows Explorer ask the daemon for the state of a file, and to
pin it or to answer its link.  The daemon routes a request by the name of its method.
-/

/-! ## Routing -/

/-- The methods that the router has a handler for. -/
def routes : List String :=
  ["ping", "prefs.get", "prefs.save", "auth.start_flow", "auth.get_accounts", "auth.disconnect", "auth.get_locale",
    "auth.get_quota", "sync.get_status", "sync.pause", "sync.resume", "sync.get_recent_items", "sync.get_activity",
    "sync.retry_error", "sync.get_errors", "notification.list", "notification.dismiss", "notification.mark_read",
    "notification.mark_all_read", "folder.list", "folder.add", "folder.remove", "folder.get_size",
    "folder.get_suggested", "system.set_sync_mode", "system.get_drive_stats", "system.submit_feedback",
    "system.get_platform", "offline.get_stats", "offline.clear_cache", "fs.get_sync_state", "fs.set_offline",
    "fs.get_share_link", "fp.get_item", "fp.list_children", "fp.fetch_contents", "fp.create_item", "fp.modify_item",
    "fp.delete_item"]

section Routing

variable {Double : Type}

def JsonRpcError.methodNotFound (method : String) : JsonRpcError (Json Double) where
  code := -32601
  message := "Method not found"
  data := some (.string method)

/-- Route a method name and its parameters to the handler. -/
def dispatch (handlers : String → Option (Json Double) → Except (JsonRpcError (Json Double)) (Json Double))
    (method : String) (params : Option (Json Double)) : Except (JsonRpcError (Json Double)) (Json Double) :=
  if method ∈ routes then handlers method params else .error (.methodNotFound method)

end Routing

/-! ## What an extension asks, and what it makes of the answer -/

/-- The calls of an extension. -/
inductive ExtensionCall where
  | getSyncState (path : String)
  | setOffline (path : String) (enabled : Bool)
  | getShareLink (path : String)

section Extensions

variable {Double : Type}

def ExtensionCall.method : ExtensionCall → String
  | getSyncState _ => "fs.getSyncState"
  | setOffline _ _ => "fs.setOffline"
  | getShareLink _ => "fs.getShareLink"

def ExtensionCall.params : ExtensionCall → Json Double
  | getSyncState path => .object [("path", .string path)]
  | setOffline path enabled => .object [("path", .string path), ("enabled", .bool enabled)]
  | getShareLink path => .object [("path", .string path)]

/-- The state of a file, if the call succeeds. -/
def getSyncState (result : Except (JsonRpcError (Json Double)) (Json Double)) : Option (Json Double) :=
  result.toOption

/-- Whether the call succeeds. -/
def setOffline (result : Except (JsonRpcError (Json Double)) (Json Double)) : Bool :=
  result.isOk

/-- The link to a file, if the call succeeds and answers one. -/
def getShareLink (result : Except (JsonRpcError (Json Double)) (Json Double)) : Option String :=
  match result with
  | .ok (.object fields) => (Json.lookup "url" fields).bind Json.readString
  | _ => none

def emblemMap : List (String × String) :=
  [("cloud_only", "emblem-gdriver-cloud"), ("syncing", "emblem-gdriver-syncing"), ("synced", "emblem-gdriver-synced"),
    ("cached", "emblem-gdriver-synced"), ("offline", "emblem-gdriver-synced"), ("error", "emblem-gdriver-error")]

/-- The name of the state in an answer. -/
def stateIn (state : Option (Json Double)) : Option String :=
  match state with
  | some (.object fields) => (Json.lookup "state" fields).bind Json.readString
  | _ => none

/-- The emblem that Nautilus puts on a file. -/
def updateFileInfo (state : Option (Json Double)) : Option String :=
  (stateIn state).bind fun name => emblemMap.lookup name

/-- The items of the menu of Nautilus, by their names. -/
def fileItems (state : Option (Json Double)) : List String :=
  let toggle :=
    match stateIn state with
    | some name =>
        if name ∈ ["cloud_only", "syncing"] then ["available_offline"]
        else if name ∈ ["synced", "cached", "offline"] then ["online_only"]
        else []
    | none => []
  toggle ++ ["copy_link", "view_in_drive", "share"]

/-- Whether an overlay of the Explorer shows a state. -/
def shouldApply (overlay syncState : String) : Bool :=
  match overlay with
  | "cloud_only" => syncState = "cloud_only"
  | "syncing" => syncState = "syncing" || syncState = "downloading" || syncState = "uploading"
  | "synced" => syncState = "synced" || syncState = "cached" || syncState = "offline"
  | "error" => syncState = "error"
  | "uploading" => syncState = "uploading"
  | _ => false

/-- Whether the Explorer puts an overlay on a file. -/
def checkOverlay (overlay : String) (state : Option (Json Double)) : Bool :=
  state.isSome && shouldApply overlay ((stateIn state).getD "unknown")

/-- An extension shows nothing of a file and can do nothing with it. -/
structure Inert (result : Except (JsonRpcError (Json Double)) (Json Double)) : Prop where
  emblem : updateFileInfo (getSyncState result) = none
  items : fileItems (getSyncState result) = ["copy_link", "view_in_drive", "share"]
  overlay : ∀ overlay, checkOverlay overlay (getSyncState result) = false
  offline : setOffline result = false
  link : getShareLink result = none

theorem inert_error (error : JsonRpcError (Json Double)) : Inert (.error error) where
  emblem := rfl
  items := rfl
  overlay _ := rfl
  offline := rfl
  link := rfl

/-- No method of an extension has a handler. -/
theorem dispatch_extensionCall (handlers : String → Option (Json Double) →
    Except (JsonRpcError (Json Double)) (Json Double))
    (call : ExtensionCall) (params : Option (Json Double)) :
    dispatch handlers call.method params = .error (.methodNotFound call.method) := by
  refine if_neg ?_
  cases call with
  | getSyncState path => exact (by decide : "fs.getSyncState" ∉ routes)
  | setOffline path enabled => exact (by decide : "fs.setOffline" ∉ routes)
  | getShareLink path => exact (by decide : "fs.getShareLink" ∉ routes)

end Extensions

/-! ## Runs of an extension -/

section Runs

variable {Double : Type}

instance : JsonNull (Json Double) where
  null := .null

variable [WireTexts (Json Double)]

/-- The calls are those of an extension, and the server routes what it reads. -/
def UsesRouter (socket : Socket (Json Double)) (step : SocketStep (Json Double)) : Prop :=
  ReadsAsWritten socket step ∧
    match step with
    | .call method params => ∃ call : ExtensionCall, method = call.method ∧ params = some call.params
    | .read _ answers => ∃ handlers, ∀ request, answers.dispatch request =
        dispatch handlers request.method request.params
    | _ => True

/-- A request was answered as the router answers it. -/
def Routed (entry : JsonRpcRequest (Json Double) × Except (JsonRpcError (Json Double)) (Json Double)) : Prop :=
  ∃ handlers, entry.2 = dispatch handlers entry.1.method entry.1.params

omit [WireTexts (Json Double)] in
/-- A read passes on a request with what it is answered, or nothing. -/
theorem passed_read [Serde (Json Double)] {conn : Connection (Json Double)} {more : Nat}
    {answers : LineAnswers (Json Double)}
    {entry : JsonRpcRequest (Json Double) × Except (JsonRpcError (Json Double)) (Json Double)}
    (member : entry ∈ (conn.exec (.read more answers)).passed) :
    entry ∈ conn.passed ∨ ∃ request, entry = (request, answers.dispatch request) := by
  have kept := (fill_keeps conn more).2.1
  rw [Connection.exec] at member
  split at member
  · exact Or.inl member
  · rw [Connection.goOn] at member
    split at member
    · exact Or.inl (kept ▸ member)
    · rw [(receives _ _ _).passed] at member
      rcases List.mem_append.mp member with before | now
      · exact Or.inl (kept ▸ before)
      · rcases List.mem_map.mp now with ⟨request, _, same⟩
        exact Or.inr ⟨request, same.symm⟩

/-- What an extension has sent are its calls, and what the server has passed on was routed. -/
structure Extending (called : List (JsonRpcRequest (Json Double))) (socket : Socket (Json Double)) : Prop where
  exchanging : Exchanging called socket
  calls : ∀ request ∈ called, ∃ call : ExtensionCall, request.method = call.method
  routed : ∀ entry ∈ socket.server.passed, Routed entry

theorem extending_exec (noted : List (JsonRpcRequest (Json Double))) (socket : Socket (Json Double))
    (step : SocketStep (Json Double)) (uses : UsesRouter socket step) (extending : Extending noted socket) :
    Extending (noted ++ (step.called socket).toList) (socket.exec step) where
  exchanging := exchanging_exec noted socket step uses.1 extending.exchanging
  calls := by
    intro request member
    rcases List.mem_append.mp member with before | now
    · exact extending.calls request before
    · cases step with
      | call method params =>
          rcases uses.2 with ⟨call, same, _⟩
          rw [SocketStep.called] at now
          split at now
          · cases now
          · rw [List.mem_singleton.mp now]
            exact ⟨call, same⟩
      | read more answers => cases now
      | push message writes => cases now
      | lagged skipped => cases now
      | shutdown => cases now
      | receive more => cases now
  routed := by
    have unserved {happening : Happening (Json Double)}
        (kept : ∀ conn : Connection (Json Double), (conn.goOn happening).passed = conn.passed) :
        ∀ entry ∈ (socket.serve happening).server.passed, Routed entry := by
      intro entry member
      refine extending.routed entry ?_
      change entry ∈ (socket.server.exec happening).passed at member
      rw [Connection.exec] at member
      split at member
      · exact member
      · rw [kept] at member
        exact member
    cases step with
    | call method params =>
        rw [Socket.exec, Socket.call]
        split
        · exact extending.routed
        · exact extending.routed
    | read more answers =>
        intro entry member
        rcases uses.2 with ⟨handlers, routes⟩
        rcases passed_read member with before | ⟨request, same⟩
        · exact extending.routed entry before
        · rw [same]
          exact ⟨handlers, routes request⟩
    | push message writes =>
        refine unserved fun conn => ?_
        rw [Connection.goOn]
        split
        · rfl
        · rfl
    | lagged skipped => exact unserved fun _ => rfl
    | shutdown => exact unserved fun _ => rfl
    | receive more =>
        rw [Socket.exec, Socket.receive]
        split
        · exact extending.routed
        · split
          · exact extending.routed
          · split
            · split
              · exact extending.routed
              · exact extending.routed
            · exact extending.routed

/-- Whatever the handlers would answer and however the bytes arrive: every call of an extension returns with the
error that there is no such method, so that the extension shows nothing of any file. -/
theorem extensions_are_inert (steps : List (SocketStep (Json Double)))
    (uses : Along Socket.exec UsesRouter steps Socket.opened) :
    ∀ entry ∈ (run Socket.exec steps Socket.opened).client.returned,
      entry.2 = .error (.methodNotFound entry.1.method) ∧ Inert entry.2 := by
  have initially : Extending [] (Socket.opened : Socket (Json Double)) := by
    constructor
    · exact exchanging_opened
    · exact fun _ impossible => by cases impossible
    · exact fun _ impossible => by cases impossible
  have reached := run_with_notes_of_along extending_exec uses initially
  rcases reached.exchanging with ⟨unpassed, awaited, lost, lines, underway⟩
  intro entry member
  have passed : entry ∈ (run Socket.exec steps Socket.opened).server.passed := by
    rw [← underway.passed]
    exact List.mem_append_left _ (List.mem_append_left _ member)
  have called := underway.called ▸ List.mem_append_left unpassed (List.mem_map_of_mem passed)
  rcases reached.calls entry.1 called with ⟨call, named⟩
  rcases reached.routed entry passed with ⟨handlers, routed⟩
  rw [named, dispatch_extensionCall] at routed
  rw [routed, named]
  exact ⟨rfl, inert_error _⟩

end Runs

/-! ## The state of one file -/

section Notes

abbrev Numbers : Type := Events.wholeNumbers.Double

def asksForNotes : ExtensionCall :=
  .getSyncState "/home/ann/GoogleDrive/notes.txt"

def notesRequest : JsonRpcRequest (Json Numbers) :=
  .new asksForNotes.method (some asksForNotes.params) (.num 1)

def notesResponse : JsonRpcResponse (Json Numbers) :=
  .ofError (some (.num 1)) (.methodNotFound asksForNotes.method)

def notesText : String :=
  "\x7b\"jsonrpc\": \"2.0\", \"method\": \"fs.getSyncState\", \"id\": 1, \"params\": \x7b\"path\": " ++
    "\"/home/ann/GoogleDrive/notes.txt\"\x7d\x7d"

def noMethodText : String :=
  "\x7b\"jsonrpc\":\"2.0\",\"error\":\x7b\"code\":-32601,\"message\":\"Method not found\"," ++
    "\"data\":\"fs.getSyncState\"\x7d,\"id\":1\x7d"

/-- The texts of the request and of its response. -/
local instance notesTexts : WireTexts (Json Numbers) where
  requestFromStr text := if text = notesText then some notesRequest else none
  requestText request := if request.method = asksForNotes.method then notesText else ""
  responseText message := if message.isSuccess then "" else noMethodText
  incomingFromLine line := if line = textBytes noMethodText then .response notesResponse else .broken

/-- The handlers would answer anything. -/
def routesAll : LineAnswers (Json Numbers) where
  dispatch request := dispatch (fun _ _ => .ok .null) request.method request.params
  writes := true

def notesOverSocket : List (SocketStep (Json Numbers)) :=
  [.call asksForNotes.method (some asksForNotes.params), .read 40 routesAll, .read 200 routesAll, .receive 400,
    .receive 0]

set_option maxRecDepth 4000 in
theorem readable_notes : Readable notesRequest where
  whole := by decide
  read := by
    have content : trim notesText ≠ "" := by decide
    have parsed : Serde.requestFromStr (trim notesText) = some notesRequest := if_pos (by decide)
    rw [requestBytes, show WireTexts.requestText notesRequest = notesText from if_pos rfl, requestOf, utf8_textBytes,
      Option.bind_some, if_neg content, parsed]
  named := rfl

set_option maxRecDepth 4000 in
theorem legible_notes : Legible (.response notesResponse : Written (Json Numbers)) where
  whole := by decide
  read := if_pos rfl

theorem notes_are_not_shown :
    ∃ entry, (run Socket.exec notesOverSocket Socket.opened).client.returned = [entry] ∧
      entry.2 = .error (.methodNotFound entry.1.method) ∧ Inert entry.2 := by
  have answered (request : JsonRpcRequest (Json Numbers)) (waits : request ∈ some notesRequest) :
      Legible (.response (respond (request, routesAll.dispatch request))) := by
    have refused : routesAll.dispatch notesRequest = .error (.methodNotFound asksForNotes.method) :=
      dispatch_extensionCall (fun _ _ => .ok .null) asksForNotes (some asksForNotes.params)
    rw [← Option.some.inj waits, refused]
    exact legible_notes
  have routes : ∃ handlers, ∀ request, routesAll.dispatch request = dispatch handlers request.method request.params :=
    ⟨fun _ _ => .ok .null, fun _ => rfl⟩
  have every := extensions_are_inert notesOverSocket
    ⟨⟨readable_notes, asksForNotes, rfl, rfl⟩, ⟨answered, routes⟩, ⟨answered, routes⟩, ⟨trivial, trivial⟩,
      ⟨trivial, trivial⟩, trivial⟩
  have one : (run Socket.exec notesOverSocket Socket.opened).client.returned.length = 1 := by decide +kernel
  rcases List.length_eq_one_iff.mp one with ⟨entry, same⟩
  exact ⟨entry, same, every entry (same ▸ List.mem_singleton_self entry)⟩

end Notes

end Ipc
end GDriver
