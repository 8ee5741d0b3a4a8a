import GDriver.Ipc.Client
import GDriver.Ipc.Server
import GDriver.Library.Frames
import GDriver.Library.Run

namespace GDriver
namespace Ipc

open Library

/-!
# Calls over the socket

Both ends of a connection and the bytes between them: the blocking client of the file manager extensions
writes a request and reads lines until one of them is a response, the server reads requests and writes
responses, with notifications in between.  Both streams arrive in pieces of any size.  No read times out here.
-/

/-- The JSON texts of messages, and what a client takes a line for, which it decodes and parses. -/
class WireTexts (Value : Type) extends Serde Value where
  requestText : JsonRpcRequest Value → String
  responseText : JsonRpcResponse Value → String
  incomingFromLine : List UInt8 → Incoming Value

/-- The client of an extension. -/
structure ExtensionClient (Value : Type) where
  buf : List UInt8
  nextId : Int
  /-- The request whose response a call is waiting for. -/
  calling : Option (JsonRpcRequest Value)
  /-- The requests of the calls that have returned with a result or an error of the daemon. -/
  returned : List (JsonRpcRequest Value × Except (JsonRpcError Value) Value)

structure Socket (Value : Type) where
  client : ExtensionClient Value
  server : Connection Value
  /-- What the server has written and the client has not received. -/
  sent : List UInt8

def Socket.opened {Value : Type} : Socket Value where
  client := ⟨[], 1, none, []⟩
  server := .opened []
  sent := []

inductive SocketStep (Value : Type) where
  | call (method : String) (params : Option Value)
  /-- The read of the server goes on with so many bytes more than one. -/
  | read (more : Nat) (answers : LineAnswers Value)
  | push (message : String) (writes : Bool)
  | lagged (skipped : Nat)
  | shutdown
  /-- The call goes on with the next line, or receives so many bytes more than one. -/
  | receive (more : Nat)

section Steps

variable {Value : Type} [WireTexts Value]

/-- The text of a line that the server writes. -/
def Written.text : Written Value → String
  | .response message => WireTexts.responseText message
  | .push message => message

/-- The lines as they are written. -/
def lineBytes (lines : List (Written Value)) : List UInt8 :=
  framed newline (lines.map fun line => textBytes line.text)

def requestBytes (request : JsonRpcRequest Value) : List UInt8 :=
  textBytes (WireTexts.requestText request)

/-- The request of the next call. -/
def ExtensionClient.request (client : ExtensionClient Value) (method : String) (params : Option Value) :
    JsonRpcRequest Value :=
  .new method params (.num client.nextId)

/-- Send a request and begin to wait for the response. -/
def Socket.call (socket : Socket Value) (method : String) (params : Option Value) : Socket Value :=
  match socket.client.calling with
  | some _ => socket
  | none =>
      let request := socket.client.request method params
      { socket with
        client := { socket.client with nextId := socket.client.nextId + 1, calling := some request }
        server := { socket.server with inbound := socket.server.inbound ++ (requestBytes request ++ [newline]) } }

/-- Something comes first at the server, and what it writes is sent. -/
def Socket.serve (socket : Socket Value) (happening : Happening Value) : Socket Value :=
  let server := socket.server.exec happening
  { socket with
    server := server
    sent := socket.sent ++ lineBytes (server.written.drop socket.server.written.length) }

variable [JsonNull Value]

/-- A call takes a line: it skips a notification, and returns with a response. -/
def ExtensionClient.take (client : ExtensionClient Value) (request : JsonRpcRequest Value) (rest : List UInt8) :
    Incoming Value → ExtensionClient Value
  | .push => { client with buf := rest }
  | .broken => { client with buf := rest, calling := none }
  | .response message =>
      { client with buf := rest, calling := none, returned := client.returned ++ [(request, message.outcome)] }

/-- Read a line from the buffer, or fill the buffer; the call fails at the end of the stream. -/
def Socket.receive (socket : Socket Value) (more : Nat) : Socket Value :=
  match socket.client.calling with
  | none => socket
  | some request =>
      match takeLine socket.client.buf with
      | some (line, rest) =>
          { socket with
            client := socket.client.take request rest (WireTexts.incomingFromLine line) }
      | none =>
          if socket.sent = [] then
            if socket.server.ended.isSome then { socket with client := { socket.client with calling := none } }
            else socket
          else
            let count := min (more + 1) 4096
            { socket with
              client := { socket.client with buf := socket.client.buf ++ socket.sent.take count }
              sent := socket.sent.drop count }

def Socket.exec (socket : Socket Value) : SocketStep Value → Socket Value
  | .call method params => socket.call method params
  | .read more answers => socket.serve (.read more answers)
  | .push message writes => socket.serve (.push message writes)
  | .lagged skipped => socket.serve (.lagged skipped)
  | .shutdown => socket.serve .closed
  | .receive more => socket.receive more

omit [JsonNull Value] in
/-- The request that a step sends. -/
def SocketStep.called (socket : Socket Value) : SocketStep Value → Option (JsonRpcRequest Value)
  | .call method params =>
      match socket.client.calling with
      | some _ => none
      | none => some (socket.client.request method params)
  | _ => none

end Steps

/-! ## What a run meets -/

section Conditions

variable {Value : Type} [WireTexts Value]

/-- The server reads a request from its line. -/
structure Readable (request : JsonRpcRequest Value) : Prop where
  whole : newline ∉ requestBytes request
  read : requestOf (requestBytes request) = some request
  named : request.isNotification = false

/-- What the server writes is there for the client. -/
def Written.incoming : Written Value → Incoming Value
  | .response message => .response message
  | .push _ => .push

/-- The client reads a line as what it is. -/
structure Legible (line : Written Value) : Prop where
  whole : newline ∉ textBytes line.text
  read : WireTexts.incomingFromLine (textBytes line.text) = line.incoming

/-- The response to a request. -/
def respond (entry : JsonRpcRequest Value × Except (JsonRpcError Value) Value) : JsonRpcResponse Value :=
  match entry.2 with
  | .ok value => .success entry.1.id value
  | .error error => .ofError entry.1.id error

/-- The texts of a step are read as what they are, and a notification comes only when the server has not
begun to read a request. -/
def ReadsAsWritten (socket : Socket Value) : SocketStep Value → Prop
  | .call method params => Readable (socket.client.request method params)
  | .read _ answers => ∀ request ∈ socket.client.calling,
      Legible (.response (respond (request, answers.dispatch request)))
  | .push message _ => Legible (.push message : Written Value) ∧ socket.server.line = []
  | .lagged _ => socket.server.line = []
  | .shutdown => True
  | .receive _ => True

end Conditions

/-! ## One step of the server -/

section Serving

variable {Value : Type} [WireTexts Value] {conn : Connection Value}

omit [WireTexts Value] in
/-- A response carries the result of its request. -/
theorem outcome_respond [JsonNull Value] (entry : JsonRpcRequest Value × Except (JsonRpcError Value) Value) :
    (respond entry).outcome = entry.2 := by
  rw [respond]
  cases entry.2 with
  | ok value => rfl
  | error error => rfl

/-- A request is passed on, and its response written if that succeeds. -/
theorem receive_request {line : List UInt8} {request : JsonRpcRequest Value} (reads : requestOf line = some request)
    (named : request.isNotification = false) (answers : LineAnswers Value) :
    conn.receive answers line =
      ({ conn with passed := conn.passed ++ [(request, answers.dispatch request)] } : Connection Value).send
        answers.writes (.response (respond (request, answers.dispatch request))) := by
  rcases Option.bind_eq_some_iff.mp reads with ⟨text, decoded, parsed⟩
  have content : trim text ≠ "" := by
    intro blank
    rw [if_pos blank] at parsed
    cases parsed
  have handled : routerHandle answers.dispatch request = some (respond (request, answers.dispatch request)) := by
    rw [routerHandle, if_neg (by rw [named]; exact Bool.false_ne_true)]
    rfl
  rw [if_neg content] at parsed
  rw [Connection.receive, decoded]
  dsimp only
  rw [if_neg content, parsed]
  dsimp only
  rw [handled]

/-- What a read does to the connection when the client has sent these requests: it takes something of the next
one, or passes it on. -/
inductive Serves (answers : LineAnswers Value) (requests : List (JsonRpcRequest Value))
    (conn after : Connection Value) :
    Prop where
  | waits (passed : after.passed = conn.passed) (written : after.written = conn.written)
      (ended : after.ended = conn.ended)
      (unread : after.rest = conn.rest) (unfinished : newline ∉ after.line)
  | answers (request : JsonRpcRequest Value) (later : List (JsonRpcRequest Value)) (first : requests = request :: later)
      (passed : after.passed = conn.passed ++ [(request, answers.dispatch request)])
      (written : after.written = conn.written ++ [.response (respond (request, answers.dispatch request))])
      (ended : after.ended = none) (unread : after.rest = framed newline (later.map requestBytes))
      (line : after.line = [])
  | loses (request : JsonRpcRequest Value) (later : List (JsonRpcRequest Value)) (first : requests = request :: later)
      (passed : after.passed = conn.passed ++ [(request, answers.dispatch request)])
      (written : after.written = conn.written) (ended : after.ended = some .writeError)
      (unread : after.rest = framed newline (later.map requestBytes)) (line : after.line = [])

theorem serves {requests : List (JsonRpcRequest Value)} (readable : ∀ request ∈ requests, Readable request)
    (unread : conn.rest = framed newline (requests.map requestBytes)) (unfinished : newline ∉ conn.line)
    (open_ : conn.ended = none) (more : Nat) (answers : LineAnswers Value) :
    Serves answers requests conn (conn.exec (.read more answers)) := by
  rcases fill_keeps conn more with ⟨atLine, passed, written, ended⟩
  have same := rest_fill conn more
  cases taken : takeLine (conn.fill more).buffered with
  | none =>
      rw [exec_of_open open_, Connection.goOn, taken]
      refine .waits passed written ended ?_ ?_
      · change (conn.fill more).line ++ (conn.fill more).buffered ++ (conn.fill more).inbound = conn.rest
        rw [atLine, List.append_assoc, same]
      · intro member
        rcases List.mem_append.mp member with before | now
        · exact unfinished (atLine ▸ before)
        · exact of_takeLine_none taken now
  | some parts =>
      rcases of_takeLine_some taken with ⟨whole, absent⟩
      have joined : newline ∉ conn.line ++ parts.1 :=
        fun member => (List.mem_append.mp member).elim unfinished absent
      have stream : (conn.line ++ parts.1) ++ newline :: (parts.2 ++ (conn.fill more).inbound) =
          framed newline (requests.map requestBytes) := by
        rw [← unread, ← same, whole, List.append_assoc, List.append_assoc]
        rfl
      have frames : ∀ frame ∈ requests.map requestBytes, newline ∉ frame := by
        intro frame member
        rcases List.mem_map.mp member with ⟨request, inside, bytes⟩
        rw [← bytes]
        exact (readable request inside).whole
      rcases of_framed_received frames joined stream with ⟨_, split_, left⟩
      rcases List.map_eq_cons_iff.mp split_ with ⟨request, later, first, bytes, others⟩
      have readsFirst := readable request (by rw [first]; exact List.mem_cons_self)
      have reads : requestOf (conn.line ++ parts.1 ++ [newline]) = some request := by
        rw [requestOf_newline, ← bytes]
        exact readsFirst.read
      have unreadLater : ([] ++ (parts.2 ++ (conn.fill more).inbound)) = framed newline (later.map requestBytes) := by
        rw [others]
        exact left
      rw [read_of_taken open_ taken, receive_request reads readsFirst.named, Connection.send]
      split
      · exact .answers request later first (congrArg (· ++ _) passed) (congrArg (· ++ _) written) (ended.trans open_)
          unreadLater rfl
      · exact .loses request later first (congrArg (· ++ _) passed) written rfl unreadLater rfl

end Serving

/-! ## Runs of both ends -/

/-- The response in a line. -/
def Written.message {Value : Type} : Written Value → Option (JsonRpcResponse Value)
  | .response message => some message
  | .push _ => none

section Runs

variable {Value : Type} [WireTexts Value]

/-- How far the calls have come: the requests that the server has not passed on, the answers that the client has
not read and those that could not be written, and the lines that the client has not read. -/
structure Underway (called unpassed : List (JsonRpcRequest Value))
    (awaited lost : List (JsonRpcRequest Value × Except (JsonRpcError Value) Value)) (lines : List (Written Value))
    (socket : Socket Value) : Prop where
  called : socket.server.passed.map Prod.fst ++ unpassed = called
  passed : socket.client.returned ++ awaited ++ lost = socket.server.passed
  unread : socket.server.rest = framed newline (unpassed.map requestBytes)
  readable : ∀ request ∈ unpassed, Readable request
  unfinished : newline ∉ socket.server.line
  unreceived : socket.client.buf ++ socket.sent = lineBytes lines
  legible : ∀ line ∈ lines, Legible line
  responses : lines.filterMap Written.message = awaited.map respond
  awaits : awaited.map Prod.fst <:+ socket.client.calling.toList
  live : socket.server.ended = none → lost = [] ∧ unpassed ++ awaited.map Prod.fst = socket.client.calling.toList

/-- The calls have come that far. -/
def Exchanging (called : List (JsonRpcRequest Value)) (socket : Socket Value) : Prop :=
  ∃ unpassed awaited lost lines, Underway called unpassed awaited lost lines socket

variable {called unpassed : List (JsonRpcRequest Value)}
  {awaited lost : List (JsonRpcRequest Value × Except (JsonRpcError Value) Value)} {lines : List (Written Value)}
  {socket : Socket Value}

theorem exchanging_opened : Exchanging [] (Socket.opened : Socket Value) := by
  refine ⟨[], [], [], [], ?_⟩
  constructor
  · rfl
  · rfl
  · rfl
  · exact fun _ impossible => by cases impossible
  · exact List.not_mem_nil
  · rfl
  · exact fun _ impossible => by cases impossible
  · rfl
  · exact List.suffix_rfl
  · exact fun _ => ⟨rfl, rfl⟩

theorem lineBytes_append (first second : List (Written Value)) :
    lineBytes (first ++ second) = lineBytes first ++ lineBytes second := by
  rw [lineBytes, List.map_append, framed_append]
  rfl

/-- No answer is awaited while no call is waiting. -/
theorem Underway.idle (underway : Underway called unpassed awaited lost lines socket)
    (idle : socket.client.calling = none) : awaited = [] := by
  have awaits := underway.awaits
  rw [idle] at awaits
  exact List.map_eq_nil_iff.mp (List.suffix_nil.mp awaits)

theorem Underway.call (underway : Underway called unpassed awaited lost lines socket) {method : String}
    {params : Option Value} (idle : socket.client.calling = none)
    (readable : Readable (socket.client.request method params)) :
    Exchanging (called ++ [socket.client.request method params]) (socket.call method params) := by
  have nothing := underway.idle idle
  rw [Socket.call, idle]
  refine ⟨unpassed ++ [socket.client.request method params], awaited, lost, lines, ?_⟩
  constructor
  · rw [← List.append_assoc, underway.called]
  · exact underway.passed
  · rw [List.map_append, framed_append, List.map_singleton, framed_singleton, ← underway.unread]
    change socket.server.line ++ (socket.server.buffered ++ (socket.server.inbound ++ _)) = _
    rw [Connection.rest, List.append_assoc, List.append_assoc]
  · intro request member
    rcases List.mem_append.mp member with before | now
    · exact underway.readable request before
    · rw [List.mem_singleton.mp now]
      exact readable
  · exact underway.unfinished
  · exact underway.unreceived
  · exact underway.legible
  · exact underway.responses
  · rw [nothing]
    exact List.nil_suffix
  · intro open_
    rcases underway.live open_ with ⟨kept, live⟩
    rw [idle, nothing] at live
    rw [nothing, (List.append_eq_nil_iff.mp live).1]
    exact ⟨kept, rfl⟩

/-- The server goes on without writing anything, and still has to read the same. -/
theorem Underway.serve_quiet (underway : Underway called unpassed awaited lost lines socket)
    {happening : Happening Value}
    (passed : (socket.server.exec happening).passed = socket.server.passed)
    (written : (socket.server.exec happening).written = socket.server.written)
    (unread : (socket.server.exec happening).rest = socket.server.rest)
    (unfinished : newline ∉ (socket.server.exec happening).line)
    (stays : (socket.server.exec happening).ended = none → socket.server.ended = none) :
    Exchanging called (socket.serve happening) := by
  have nothing : socket.sent ++ lineBytes ((socket.server.exec happening).written.drop socket.server.written.length) =
      socket.sent := by
    rw [written, List.drop_length]
    exact List.append_nil _
  rw [Socket.serve, nothing]
  refine ⟨unpassed, awaited, lost, lines, ?_⟩
  constructor
  · rw [passed]
    exact underway.called
  · rw [passed]
    exact underway.passed
  · rw [unread]
    exact underway.unread
  · exact underway.readable
  · exact unfinished
  · exact underway.unreceived
  · exact underway.legible
  · exact underway.responses
  · exact underway.awaits
  · exact fun open_ => underway.live (stays open_)

/-- A line that the server writes is sent behind the others. -/
theorem Underway.sent (underway : Underway called unpassed awaited lost lines socket) {happening : Happening Value}
    {line : Written Value} (written : (socket.server.exec happening).written = socket.server.written ++ [line]) :
    socket.client.buf ++ (socket.serve happening).sent = lineBytes (lines ++ [line]) := by
  rw [Socket.serve, written, List.drop_left, lineBytes_append, ← underway.unreceived, List.append_assoc]

/-- A step at a connection that has ended changes nothing. -/
theorem Underway.serve_ended (underway : Underway called unpassed awaited lost lines socket)
    {happening : Happening Value}
    {ending : Ending} (ended : socket.server.ended = some ending) : Exchanging called (socket.serve happening) := by
  have stays : socket.server.exec happening = socket.server := by
    rw [Connection.exec, ended]
    rfl
  apply underway.serve_quiet
  · rw [stays]
  · rw [stays]
  · rw [stays]
  · rw [stays]
    exact underway.unfinished
  · rw [stays]
    exact fun open_ => open_

/-- The server reads on. -/
theorem Underway.serve_read (underway : Underway called unpassed awaited lost lines socket)
    (open_ : socket.server.ended = none) (more : Nat) (answers : LineAnswers Value)
    (legible : ∀ request ∈ socket.client.calling, Legible (.response (respond (request, answers.dispatch request)))) :
    Exchanging called (socket.serve (.read more answers)) := by
  rcases underway.live open_ with ⟨kept, live⟩
  -- A request is read only when its call is the one that waits, and nothing else is on the way.
  have alone {request : JsonRpcRequest Value} {later : List (JsonRpcRequest Value)}
      (first : unpassed = request :: later) :
      later = [] ∧ awaited = [] ∧ socket.client.calling = some request := by
    rw [first, List.cons_append] at live
    cases calling : socket.client.calling with
    | none =>
        rw [calling] at live
        cases live
    | some waiting =>
        rw [calling] at live
        have rest := List.append_eq_nil_iff.mp (List.tail_eq_of_cons_eq live)
        have same : request = waiting := List.head_eq_of_cons_eq live
        rw [same]
        exact ⟨rest.1, List.map_eq_nil_iff.mp rest.2, rfl⟩
  have step := serves underway.readable underway.unread underway.unfinished open_ more answers
  cases step with
  | waits passed written ended unread unfinished =>
      exact underway.serve_quiet passed written unread unfinished fun _ => open_
  | answers request later first passed written ended unread line =>
      rcases alone first with ⟨none_, nothing, calling⟩
      refine ⟨[], [(request, answers.dispatch request)], [], lines ++
        [.response (respond (request, answers.dispatch request))], ?_⟩
      constructor
      · change (socket.server.exec _).passed.map Prod.fst ++ [] = called
        rw [passed, ← underway.called, first, none_, List.map_append, List.append_nil]
        rfl
      · change _ = (socket.server.exec _).passed
        rw [passed, ← underway.passed, kept, nothing, List.append_nil, List.append_nil, List.append_nil]
        rfl
      · change (socket.server.exec _).rest = _
        rw [unread, none_]
      · exact fun _ impossible => by cases impossible
      · change newline ∉ (socket.server.exec _).line
        rw [line]
        exact List.not_mem_nil
      · exact underway.sent written
      · intro other member
        rcases List.mem_append.mp member with before | now
        · exact underway.legible other before
        · rw [List.mem_singleton.mp now]
          exact legible request calling
      · rw [List.filterMap_append, underway.responses, nothing]
        rfl
      · change _ <:+ socket.client.calling.toList
        rw [calling]
        exact List.suffix_rfl
      · intro _
        change _ ∧ _ = socket.client.calling.toList
        rw [calling]
        exact ⟨rfl, rfl⟩
  | loses request later first passed written ended unread line =>
      rcases alone first with ⟨none_, nothing, calling⟩
      refine ⟨[], [], [(request, answers.dispatch request)], lines, ?_⟩
      constructor
      · change (socket.server.exec _).passed.map Prod.fst ++ [] = called
        rw [passed, ← underway.called, first, none_, List.map_append, List.append_nil]
        rfl
      · change _ = (socket.server.exec _).passed
        rw [passed, ← underway.passed, kept, nothing, List.append_nil, List.append_nil, List.append_nil]
        rfl
      · change (socket.server.exec _).rest = _
        rw [unread, none_]
      · exact fun _ impossible => by cases impossible
      · change newline ∉ (socket.server.exec _).line
        rw [line]
        exact List.not_mem_nil
      · change socket.client.buf ++ (socket.sent ++ lineBytes _) = _
        rw [written, List.drop_length, ← underway.unreceived]
        exact congrArg _ (List.append_nil _)
      · exact underway.legible
      · rw [underway.responses, nothing]
      · exact List.nil_suffix
      · intro impossible
        change (socket.server.exec _).ended = none at impossible
        rw [ended] at impossible
        cases impossible

/-- A notification is written, or the connection ends. -/
theorem Underway.serve_push (underway : Underway called unpassed awaited lost lines socket)
    (open_ : socket.server.ended = none) {message : String} (writes : Bool)
    (legible : Legible (.push message : Written Value)) (between : socket.server.line = []) :
    Exchanging called (socket.serve (.push message writes)) := by
  have goesOn := exec_of_open open_ (.push message writes)
  cases writes with
  | false =>
      apply underway.serve_quiet
      · rw [goesOn]
        rfl
      · rw [goesOn]
        rfl
      · rw [goesOn]
        rfl
      · rw [goesOn]
        exact underway.unfinished
      · exact fun _ => open_
  | true =>
      have written : (socket.server.exec (.push message true)).written = socket.server.written ++ [.push message] := by
        rw [goesOn]
        rfl
      refine ⟨unpassed, awaited, lost, lines ++ [.push message], ?_⟩
      constructor
      · change (socket.server.exec _).passed.map Prod.fst ++ _ = called
        rw [goesOn]
        exact underway.called
      · change _ = (socket.server.exec _).passed
        rw [goesOn]
        exact underway.passed
      · change (socket.server.exec _).rest = _
        rw [goesOn, ← underway.unread, Connection.rest, Connection.rest, between]
        rfl
      · exact underway.readable
      · change newline ∉ (socket.server.exec _).line
        rw [goesOn]
        exact List.not_mem_nil
      · exact underway.sent written
      · intro other member
        rcases List.mem_append.mp member with before | now
        · exact underway.legible other before
        · rw [List.mem_singleton.mp now]
          exact legible
      · rw [List.filterMap_append, underway.responses]
        exact List.append_nil _
      · exact underway.awaits
      · exact fun _ => underway.live open_

variable [JsonNull Value]

omit [JsonNull Value] in
/-- The line that the client reads is the first of those on their way. -/
theorem Underway.first (underway : Underway called unpassed awaited lost lines socket) {line rest : List UInt8}
    (taken : takeLine socket.client.buf = some (line, rest)) :
    ∃ first later, lines = first :: later ∧ WireTexts.incomingFromLine line = first.incoming ∧
      rest ++ socket.sent = lineBytes later := by
  rcases of_takeLine_some taken with ⟨whole, absent⟩
  have stream : line ++ newline :: (rest ++ socket.sent) =
      framed newline (lines.map fun line => textBytes line.text) := by
    have unreceived := underway.unreceived
    rw [whole, List.append_assoc] at unreceived
    exact unreceived
  have frames : ∀ frame ∈ lines.map fun line => textBytes line.text, newline ∉ frame := by
    intro frame member
    rcases List.mem_map.mp member with ⟨written, inside, bytes⟩
    rw [← bytes]
    exact (underway.legible written inside).whole
  rcases of_framed_received frames absent stream with ⟨_, split_, left⟩
  rcases List.map_eq_cons_iff.mp split_ with ⟨first, later, same, bytes, others⟩
  refine ⟨first, later, same, ?_, ?_⟩
  · rw [← bytes]
    exact (underway.legible first (by rw [same]; exact List.mem_cons_self)).read
  · rw [left, ← others]
    rfl

/-- A call that waits takes the first line. -/
theorem Underway.take (underway : Underway called unpassed awaited lost lines socket) {request : JsonRpcRequest Value}
    (calling : socket.client.calling = some request) {line rest : List UInt8}
    (taken : takeLine socket.client.buf = some (line, rest)) :
    Exchanging called
      { socket with client := socket.client.take request rest (WireTexts.incomingFromLine line) } := by
  rcases underway.first taken with ⟨first, later, same, incoming, unreceived⟩
  have legible (other : Written Value) (member : other ∈ later) : Legible other :=
    underway.legible other (by rw [same]; exact List.mem_cons_of_mem _ member)
  have responses := underway.responses
  rw [incoming]
  rw [same] at responses
  cases first with
  | push message =>
      refine ⟨unpassed, awaited, lost, later, ?_⟩
      constructor
      · exact underway.called
      · exact underway.passed
      · exact underway.unread
      · exact underway.readable
      · exact underway.unfinished
      · exact unreceived
      · exact legible
      · exact responses
      · exact underway.awaits
      · exact underway.live
  | response message =>
      have awaits := underway.awaits
      rw [calling] at awaits
      -- The line is the response to the only request whose answer is awaited: that of this call.
      cases answers : awaited with
      | nil =>
          rw [answers] at responses
          cases responses
      | cons entry others =>
          rw [answers] at responses awaits
          have heads : message = respond entry := List.head_eq_of_cons_eq responses
          have tails : later.filterMap Written.message = others.map respond := List.tail_eq_of_cons_eq responses
          have short := awaits.length_le
          have one : others = [] := by
            rw [List.length_map, List.length_cons] at short
            exact List.length_eq_zero_iff.mp (Nat.le_zero.mp (Nat.le_of_succ_le_succ short))
          have own : entry.1 = request := by
            rw [one] at awaits
            exact List.head_eq_of_cons_eq (awaits.eq_of_length rfl)
          have result : (request, message.outcome) = entry := by
            rw [heads, outcome_respond, ← own]
          refine ⟨unpassed, [], lost, later, ?_⟩
          constructor
          · exact underway.called
          · change socket.client.returned ++ [(request, message.outcome)] ++ [] ++ lost = _
            rw [result, List.append_nil, ← underway.passed, answers, one]
          · exact underway.unread
          · exact underway.readable
          · exact underway.unfinished
          · exact unreceived
          · exact legible
          · rw [tails, one]
          · exact List.nil_suffix
          · intro open_
            rcases underway.live open_ with ⟨kept, live⟩
            rw [calling, answers, one, List.map_singleton, own] at live
            have none_ : unpassed = [] := List.append_left_eq_self.mp live
            rw [none_]
            exact ⟨kept, rfl⟩

/-- A call reads on. -/
theorem Underway.receive (underway : Underway called unpassed awaited lost lines socket) (more : Nat) :
    Exchanging called (socket.receive more) := by
  have stays : Exchanging called socket := ⟨unpassed, awaited, lost, lines, underway⟩
  rw [Socket.receive]
  split
  · exact stays
  · next request calling =>
      split
      · next line rest taken => exact underway.take calling taken
      · next unfinished =>
          have absent := of_takeLine_none unfinished
          split
          · next nothing =>
              split
              · next ended =>
                  have unreceived := underway.unreceived
                  have none_ : lines.map (fun line => textBytes line.text) = [] :=
                    of_framed_unfinished absent unreceived nothing
                  have responses := underway.responses
                  rw [List.map_eq_nil_iff.mp none_] at responses
                  refine ⟨unpassed, awaited, lost, lines, ?_⟩
                  constructor
                  · exact underway.called
                  · exact underway.passed
                  · exact underway.unread
                  · exact underway.readable
                  · exact underway.unfinished
                  · exact unreceived
                  · exact underway.legible
                  · exact underway.responses
                  · rw [List.map_eq_nil_iff.mp responses.symm]
                    exact List.suffix_rfl
                  · intro open_
                    rw [open_] at ended
                    cases ended
              · exact stays
          · refine ⟨unpassed, awaited, lost, lines, ?_⟩
            constructor
            · exact underway.called
            · exact underway.passed
            · exact underway.unread
            · exact underway.readable
            · exact underway.unfinished
            · rw [List.append_assoc, List.take_append_drop]
              exact underway.unreceived
            · exact underway.legible
            · exact underway.responses
            · exact underway.awaits
            · exact underway.live

omit [JsonNull Value] in
/-- A step that sends no request. -/
theorem Exchanging.no_call (exchanging : Exchanging called socket) : Exchanging (called ++ []) socket := by
  rw [List.append_nil]
  exact exchanging

theorem exchanging_exec (noted : List (JsonRpcRequest Value)) (socket : Socket Value) (step : SocketStep Value)
    (reads : ReadsAsWritten socket step) (exchanging : Exchanging noted socket) :
    Exchanging (noted ++ (step.called socket).toList) (socket.exec step) := by
  rcases exchanging with ⟨unpassed, awaited, lost, lines, underway⟩
  cases step with
  | call method params =>
      cases calling : socket.client.calling with
      | some request =>
          rw [SocketStep.called, calling, Socket.exec, Socket.call, calling]
          exact Exchanging.no_call ⟨unpassed, awaited, lost, lines, underway⟩
      | none =>
          rw [SocketStep.called, calling]
          exact underway.call calling reads
  | receive more => exact (underway.receive more).no_call
  | read more answers =>
      apply Exchanging.no_call
      cases open_ : socket.server.ended with
      | some ending => exact underway.serve_ended open_
      | none => exact underway.serve_read open_ more answers reads
  | push message writes =>
      apply Exchanging.no_call
      cases open_ : socket.server.ended with
      | some ending => exact underway.serve_ended open_
      | none => exact underway.serve_push open_ writes reads.1 reads.2
  | lagged skipped =>
      apply Exchanging.no_call
      cases open_ : socket.server.ended with
      | some ending => exact underway.serve_ended open_
      | none =>
          have between : socket.server.line = [] := reads
          have goesOn := exec_of_open open_ (.lagged skipped)
          apply underway.serve_quiet
          · rw [goesOn]
            rfl
          · rw [goesOn]
            rfl
          · rw [goesOn, Connection.rest, Connection.rest, between]
            rfl
          · rw [goesOn]
            exact List.not_mem_nil
          · exact fun _ => open_
  | shutdown =>
      apply Exchanging.no_call
      cases open_ : socket.server.ended with
      | some ending => exact underway.serve_ended open_
      | none =>
          have goesOn := exec_of_open open_ .closed
          apply underway.serve_quiet
          · rw [goesOn]
            rfl
          · rw [goesOn]
            rfl
          · rw [goesOn]
            rfl
          · rw [goesOn]
            exact underway.unfinished
          · exact fun _ => open_

/-- Nothing is on its way in either direction. -/
structure Socket.Quiet (socket : Socket Value) : Prop where
  read : socket.server.rest = []
  received : socket.client.buf ++ socket.sent = []

omit [JsonNull Value] in
/-- When nothing is on its way at a connection that lasts, every call has returned. -/
theorem Underway.settled (underway : Underway called unpassed awaited lost lines socket)
    (open_ : socket.server.ended = none) (quiet : socket.Quiet) :
    socket.client.calling = none ∧ socket.client.returned = socket.server.passed ∧
      socket.server.passed.map Prod.fst = called := by
  rcases underway.live open_ with ⟨kept, live⟩
  have unread := underway.unread
  have unreceived := underway.unreceived
  have responses := underway.responses
  rw [quiet.read] at unread
  rw [quiet.received] at unreceived
  have passedAll : unpassed = [] := List.map_eq_nil_iff.mp (framed_eq_nil_iff.mp unread.symm)
  have readAll : lines = [] := List.map_eq_nil_iff.mp (framed_eq_nil_iff.mp unreceived.symm)
  rw [readAll] at responses
  have nothing : awaited = [] := List.map_eq_nil_iff.mp responses.symm
  rw [passedAll, nothing] at live
  refine ⟨Option.toList_eq_nil_iff.mp live.symm, ?_, ?_⟩
  · rw [← underway.passed, kept, nothing, List.append_nil, List.append_nil]
  · rw [← underway.called, passedAll, List.append_nil]

end Runs

/-! ## A ping with a notification in between -/

section Ping

def spacedPing : String :=
  "\x7b\"jsonrpc\": \"2.0\", \"method\": \"ping\", \"id\": 1\x7d"

def pongText : String :=
  "\x7b\"jsonrpc\":\"2.0\",\"result\":\"pong\",\"id\":1\x7d"

def accountsText : String :=
  "\x7b\"jsonrpc\":\"2.0\",\"method\":\"account:changed\",\"params\":\x7b\"accounts\":[]\x7d\x7d"

def pong : JsonRpcResponse String :=
  .success (some (.num 1)) "pong"

local instance nullString : JsonNull String where
  null := "null"

/-- The texts of the ping, of its response and of one notification. -/
local instance pingTexts : WireTexts String where
  requestFromStr text := if text = spacedPing then some ping else none
  requestText request := if request = ping then spacedPing else ""
  responseText message := if message = pong then pongText else ""
  incomingFromLine line :=
    if line = textBytes pongText then .response pong else if line = textBytes accountsText then .push else .broken

/-- The request arrives in two parts, and the client finds a notification before the response. -/
def pingOverSocket : List (SocketStep String) :=
  [.call "ping" none, .push accountsText true, .read 9 answersPong, .read 60 answersPong, .receive 40,
    .receive 4000, .receive 0, .receive 0]

set_option maxRecDepth 4000 in
theorem readable_ping : Readable ping where
  whole := by decide
  read := by
    have content : trim spacedPing ≠ "" := by decide
    have parsed : Serde.requestFromStr (trim spacedPing) = some ping := by decide
    rw [requestBytes, show WireTexts.requestText ping = spacedPing from if_pos rfl, requestOf, utf8_textBytes,
      Option.bind_some, if_neg content, parsed]
  named := rfl

set_option maxRecDepth 4000 in
theorem legible_pong : Legible (.response pong : Written String) where
  whole := by decide
  read := if_pos rfl

set_option maxRecDepth 4000 in
theorem legible_accounts : Legible (.push accountsText : Written String) where
  whole := by decide
  read := by
    have other : textBytes accountsText ≠ textBytes pongText := by decide
    exact (if_neg other).trans (if_pos rfl)

end Ping

end Ipc
end GDriver
