import GDriver.Ipc.Protocol
import GDriver.Library.Run
import GDriver.Library.Utf8

namespace GDriver
namespace Ipc

open Library

/-!
# One connection of the server

`handle_connection` waits for a line of the client and for a push notification at once, and goes on
with whichever comes first.  When a notification comes first, the read that was waiting is dropped,
with everything it has taken of its line: the buffer keeps only what no read has taken yet.
-/

/-! ## Lines -/

def newline : UInt8 := 10

/-- The characters with the property `White_Space`. -/
def isWhitespace (character : Char) : Bool :=
  let code := character.toNat
  (9 ≤ code && code ≤ 13) || code = 32 || code = 133 || code = 160 || code = 5760 ||
    (8192 ≤ code && code ≤ 8202) || code = 8232 || code = 8233 || code = 8239 || code = 8287 || code = 12288

def trim (text : String) : String :=
  String.ofList ((text.toList.dropWhile isWhitespace).reverse.dropWhile isWhitespace).reverse

theorem trim_append_of_whitespace {first : String} (blank : ∀ character ∈ first.toList, isWhitespace character = true)
    (text : String) : trim (first ++ text) = trim text := by
  rw [trim, trim, String.toList_append, List.dropWhile_append_of_pos blank]

theorem trim_newline (text : String) : trim (text ++ "\n") = trim text := by
  have ends : List.dropWhile isWhitespace ['\n'] = [] := rfl
  rw [trim, trim, String.toList_append, List.dropWhile_append]
  cases rest : text.toList.dropWhile isWhitespace with
  | nil => exact congrArg (fun left => String.ofList (List.dropWhile isWhitespace (List.reverse left)).reverse) ends
  | cons character more =>
      change String.ofList (((character :: more) ++ ['\n']).reverse.dropWhile isWhitespace).reverse = _
      rw [List.reverse_append]
      rfl

section Requests

variable {Value : Type} [Serde Value]

/-- The request that the server reads from a line: none from a blank one. -/
def requestOf (line : List UInt8) : Option (JsonRpcRequest Value) :=
  (utf8 line).bind fun text => if trim text = "" then none else Serde.requestFromStr (trim text)

/-- The requests of a stream that is split at its newlines. -/
def requestsIn (stream : List UInt8) : List (JsonRpcRequest Value) :=
  (stream.splitOn newline).filterMap requestOf

/-- The bytes are white space. -/
def Blank (line : List UInt8) : Prop :=
  ∃ text, utf8 line = some text ∧ ∀ character ∈ text.toList, isWhitespace character = true

theorem blank_nil : Blank [] :=
  ⟨"", utf8_textBytes "", fun _ member => by cases member⟩

theorem requestOf_append_of_blank {line : List UInt8} (blank : Blank line) (rest : List UInt8) :
    requestOf (line ++ rest) = (requestOf rest : Option (JsonRpcRequest Value)) := by
  rcases blank with ⟨text, decoded, white⟩
  rw [requestOf, requestOf, ← utf8_eq_some_iff.mp decoded, utf8_append, Option.bind_map]
  refine congrArg (Option.bind (utf8 rest)) ?_
  funext more
  rw [Function.comp_apply, trim_append_of_whitespace white]

theorem requestOf_newline (line : List UInt8) :
    requestOf (line ++ [newline]) = (requestOf line : Option (JsonRpcRequest Value)) := by
  rw [requestOf, requestOf, show [newline] = [10] from rfl, utf8_newline, Option.bind_map]
  refine congrArg (Option.bind (utf8 line)) ?_
  funext text
  rw [Function.comp_apply, trim_newline]

theorem requestsIn_of_unfinished {line : List UInt8} (unfinished : newline ∉ line) :
    requestsIn line = ((requestOf line).toList : List (JsonRpcRequest Value)) := by
  rw [requestsIn, List.splitOn_eq_singleton unfinished, List.filterMap_cons]
  cases (requestOf line : Option (JsonRpcRequest Value)) with
  | none => rfl
  | some request => rfl

theorem requestsIn_line {line : List UInt8} (unfinished : newline ∉ line) (rest : List UInt8) :
    requestsIn (line ++ newline :: rest) =
      ((requestOf line).toList ++ requestsIn rest : List (JsonRpcRequest Value)) := by
  rw [requestsIn, List.splitOn_append_cons_self_of_not_mem unfinished, List.filterMap_cons, requestsIn]
  cases (requestOf line : Option (JsonRpcRequest Value)) with
  | none => rfl
  | some request => rfl

/-- A line up to its newline, and what comes after it. -/
def takeLine (bytes : List UInt8) : Option (List UInt8 × List UInt8) :=
  match bytes.dropWhile (· != newline) with
  | [] => none
  | _ :: rest => some (bytes.takeWhile (· != newline), rest)

theorem newline_notMem_takeWhile (bytes : List UInt8) : newline ∉ bytes.takeWhile (· != newline) := by
  intro member
  have others := List.all_takeWhile (p := fun byte => byte != newline) (l := bytes)
  exact absurd (List.all_eq_true.mp others newline member) (by decide)

theorem of_takeLine_some {bytes line rest : List UInt8} (taken : takeLine bytes = some (line, rest)) :
    bytes = line ++ newline :: rest ∧ newline ∉ line := by
  rw [takeLine] at taken
  split at taken
  · cases taken
  · next first more dropped =>
      cases taken
      have stops := List.head?_dropWhile_not (fun byte => byte != newline) bytes
      rw [dropped] at stops
      have same : first = newline := bne_eq_false_iff_eq.mp stops
      refine ⟨?_, newline_notMem_takeWhile bytes⟩
      rw [same] at dropped
      rw [← dropped, List.takeWhile_append_dropWhile]

theorem of_takeLine_none {bytes : List UInt8} (taken : takeLine bytes = none) : newline ∉ bytes := by
  rw [takeLine] at taken
  split at taken
  · next dropped =>
      have whole := List.takeWhile_append_dropWhile (p := fun byte => byte != newline) (l := bytes)
      rw [dropped, List.append_nil] at whole
      rw [← whole]
      exact newline_notMem_takeWhile bytes
  · cases taken

/-- What is white space before a line does not matter. -/
theorem requestsIn_append_of_blank {line : List UInt8} (blank : Blank line) (unfinished : newline ∉ line)
    (rest : List UInt8) : requestsIn (line ++ rest) = (requestsIn rest : List (JsonRpcRequest Value)) := by
  cases taken : takeLine rest with
  | none =>
      have noLine := of_takeLine_none taken
      have joined : newline ∉ line ++ rest := fun member => (List.mem_append.mp member).elim unfinished noLine
      rw [requestsIn_of_unfinished joined, requestsIn_of_unfinished noLine, requestOf_append_of_blank blank]
  | some parts =>
      rcases of_takeLine_some taken with ⟨whole, noLine⟩
      have joined : newline ∉ line ++ parts.1 := fun member => (List.mem_append.mp member).elim unfinished noLine
      rw [whole, ← List.append_assoc, requestsIn_line joined, requestsIn_line noLine, requestOf_append_of_blank blank]

end Requests

/-! ## The connection -/

/-- Why a connection has ended. -/
inductive Ending where
  /-- The client has closed it, and everything was read. -/
  | disconnected
  | readError
  | writeError
  /-- The daemon is shutting down. -/
  | shutdown
  deriving DecidableEq, Repr

/-- A line that the server writes. -/
inductive Written (Value : Type) where
  | response (message : JsonRpcResponse Value)
  | push (message : String)

structure Connection (Value : Type) where
  /-- What the client sends and the server has not read. -/
  inbound : List UInt8
  /-- What the server has read into its buffer. -/
  buffered : List UInt8
  /-- What the read that is waiting has taken from the buffer. -/
  line : List UInt8
  /-- The requests passed to the router, and what it has answered. -/
  passed : List (JsonRpcRequest Value × Except (JsonRpcError Value) Value)
  written : List (Written Value)
  ended : Option Ending

/-- A connection on which the client sends a stream and closes. -/
def Connection.opened {Value : Type} (stream : List UInt8) : Connection Value where
  inbound := stream
  buffered := []
  line := []
  passed := []
  written := []
  ended := none

/-- What the handling of a line meets. -/
structure LineAnswers (Value : Type) where
  dispatch : JsonRpcRequest Value → Except (JsonRpcError Value) Value
  writes : Bool

/-- What can happen while the server waits. -/
inductive Happening (Value : Type) where
  /-- The read goes on; when the buffer is empty, so many bytes more than one arrive. -/
  | read (more : Nat) (answers : LineAnswers Value)
  /-- The read comes to the end of the stream. -/
  | endOfStream (answers : LineAnswers Value)
  | push (message : String) (writes : Bool)
  /-- Messages were skipped because the connection was too slow. -/
  | lagged (skipped : Nat)
  | closed

section Steps

variable {Value : Type} [Serde Value]

/-- Process one inbound message: there is no response to a notification. -/
def routerHandle (dispatch : JsonRpcRequest Value → Except (JsonRpcError Value) Value)
    (request : JsonRpcRequest Value) :
    Option (JsonRpcResponse Value) :=
  let result := dispatch request
  if request.isNotification then none
  else some (match result with
    | .ok value => .success request.id value
    | .error error => .ofError request.id error)

/-- Write a line, and end the connection if that fails. -/
def Connection.send (conn : Connection Value) (writes : Bool) (message : Written Value) : Connection Value :=
  if writes then { conn with written := conn.written ++ [message] } else { conn with ended := some .writeError }

/-- A line was read. -/
def Connection.receive (conn : Connection Value) (answers : LineAnswers Value) (line : List UInt8) : Connection Value :=
  match utf8 line with
  | none => { conn with ended := some .readError }
  | some text =>
      let trimmed := trim text
      if trimmed = "" then conn
      else
        match Serde.requestFromStr trimmed with
        | some request =>
            let passed := { conn with passed := conn.passed ++ [(request, answers.dispatch request)] }
            match routerHandle answers.dispatch request with
            | some response => passed.send answers.writes (.response response)
            | none => passed
        | none =>
            -- A failure to write is ignored here.
            if answers.writes then { conn with written := conn.written ++ [.response (.ofError none .parseError)] }
            else conn

/-- The buffer is filled when it is empty. -/
def Connection.fill (conn : Connection Value) (more : Nat) : Connection Value :=
  if conn.buffered = [] then
    { conn with buffered := conn.inbound.take (more + 1), inbound := conn.inbound.drop (more + 1) }
  else conn

/-- What the server does with what has come first. -/
def Connection.goOn (conn : Connection Value) : Happening Value → Connection Value
  | .read more answers =>
      let filled := conn.fill more
      match takeLine filled.buffered with
      | none => { filled with line := filled.line ++ filled.buffered, buffered := [] }
      | some (line, rest) =>
          { filled with line := [], buffered := rest }.receive answers (filled.line ++ line ++ [newline])
  | .endOfStream answers =>
      if conn.buffered = [] ∧ conn.inbound = [] then
        if conn.line = [] then { conn with ended := some .disconnected }
        else { conn with line := [] }.receive answers conn.line
      else conn
  | .push message writes =>
      if writes then { conn with line := [], written := conn.written ++ [.push message] }
      else { conn with ended := some .writeError }
  | .lagged _ => { conn with line := [] }
  | .closed => { conn with ended := some .shutdown }

def Connection.exec (conn : Connection Value) (happening : Happening Value) : Connection Value :=
  if conn.ended.isSome then conn else conn.goOn happening

/-- What has not been passed on yet. -/
def Connection.rest (conn : Connection Value) : List UInt8 :=
  conn.line ++ (conn.buffered ++ conn.inbound)

/-- The response to a request that has an id. -/
def responseTo (passed : JsonRpcRequest Value × Except (JsonRpcError Value) Value) : Option (JsonRpcResponse Value) :=
  passed.1.id.map fun id =>
    match passed.2 with
    | .ok value => .success (some id) value
    | .error error => .ofError (some id) error

/-- A line that answers a request with an id. -/
def Written.answer : Written Value → Option (JsonRpcResponse Value)
  | response message => if message.id.isSome then some message else none
  | push _ => none

/-- The requests that were passed on and the requests of the rest are those of the stream, no request is
left when the server has stopped reading, and the requests with an id were answered one by one. -/
structure SeesLines (stream : List UInt8) (conn : Connection Value) : Prop where
  passed : conn.passed.map Prod.fst ++ requestsIn conn.rest = requestsIn stream
  all : conn.ended = some .disconnected ∨ conn.ended = some .readError →
    requestsIn conn.rest = ([] : List (JsonRpcRequest Value))
  answered : conn.ended ≠ some .writeError → conn.written.filterMap Written.answer = conn.passed.filterMap responseTo

/-- The server stops at a line that is no text, and loses what a dropped read has taken.  Neither does
harm when there is no request after the line, and when what was taken is white space. -/
def KeepsLines (conn : Connection Value) : Happening Value → Prop
  | .read more _ => ∀ line rest, takeLine (conn.fill more).buffered = some (line, rest) →
      (utf8 (conn.line ++ line)).isSome = true ∨
        requestsIn (rest ++ (conn.fill more).inbound) = ([] : List (JsonRpcRequest Value))
  | .endOfStream _ => True
  | .push _ writes => writes = true → Blank conn.line
  | .lagged _ => Blank conn.line
  | .closed => True

/-- What the handling of a line does to the connection. -/
structure Receives (answers : LineAnswers Value) (line : List UInt8) (conn after : Connection Value) : Prop where
  passed : after.passed = conn.passed ++ (requestOf line).toList.map fun request => (request, answers.dispatch request)
  unread : after.line = conn.line ∧ after.buffered = conn.buffered ∧ after.inbound = conn.inbound
  ends : after.ended = conn.ended ∨ after.ended = some .writeError ∨ (after.ended = some .readError ∧ utf8 line = none)
  answered : after.ended ≠ some .writeError → after.written.filterMap Written.answer =
    conn.written.filterMap Written.answer ++
      ((requestOf line).toList.map fun request => (request, answers.dispatch request)).filterMap responseTo

omit [Serde Value] in
theorem routerHandle_eq (dispatch : JsonRpcRequest Value → Except (JsonRpcError Value) Value)
    (request : JsonRpcRequest Value) : routerHandle dispatch request = responseTo (request, dispatch request) := by
  rw [routerHandle, responseTo]
  generalize dispatch request = result
  rcases request with ⟨jsonrpc, method, params, id⟩
  cases id with
  | none => rfl
  | some id => rfl

omit [Serde Value] in
theorem answer_of_responseTo {passed : JsonRpcRequest Value × Except (JsonRpcError Value) Value}
    {response : JsonRpcResponse Value} (answered : responseTo passed = some response) :
    Written.answer (.response response) = some response := by
  rcases Option.map_eq_some_iff.mp answered with ⟨id, _, same⟩
  have identified : response.id = some id := by
    rw [← same]
    cases passed.2 with
    | ok value => rfl
    | error error => rfl
  rw [Written.answer, identified]
  rfl

/-- A line without a request leaves the connection as it is. -/
theorem receives_nothing (conn : Connection Value) (answers : LineAnswers Value) {line : List UInt8}
    (nothing : (requestOf line : Option (JsonRpcRequest Value)) = none) : Receives answers line conn conn := by
  constructor
  · rw [nothing]
    exact (List.append_nil _).symm
  · exact ⟨rfl, rfl, rfl⟩
  · exact Or.inl rfl
  · intro _
    rw [nothing]
    exact (List.append_nil _).symm

/-- The response of the router is written, or the connection ends. -/
theorem receives_response (conn : Connection Value) (answers : LineAnswers Value) {line : List UInt8}
    {request : JsonRpcRequest Value} {response : JsonRpcResponse Value} (reads : requestOf line = some request)
    (handled : routerHandle answers.dispatch request = some response) :
    Receives answers line conn
      (({ conn with passed := conn.passed ++ [(request, answers.dispatch request)] } : Connection Value).send
        answers.writes (.response response)) := by
  have replies := routerHandle_eq answers.dispatch request
  rw [handled] at replies
  cases writes : answers.writes with
  | false =>
      constructor
      · rw [reads]
        rfl
      · exact ⟨rfl, rfl, rfl⟩
      · exact Or.inr (Or.inl rfl)
      · intro impossible
        exact absurd rfl impossible
  | true =>
      constructor
      · rw [reads]
        rfl
      · exact ⟨rfl, rfl, rfl⟩
      · exact Or.inl rfl
      · intro _
        rw [reads, Option.toList_some, List.map_singleton, List.filterMap_cons, ← replies]
        change (conn.written ++ [Written.response response]).filterMap Written.answer = _
        rw [List.filterMap_append, List.filterMap_cons, answer_of_responseTo replies.symm]
        rfl

theorem receives (conn : Connection Value) (answers : LineAnswers Value) (line : List UInt8) :
    Receives answers line conn (conn.receive answers line) := by
  rw [Connection.receive]
  cases decoded : utf8 line with
  | none =>
      have nothing : (requestOf line : Option (JsonRpcRequest Value)) = none := by
        rw [requestOf, decoded]
        rfl
      constructor
      · rw [nothing]
        exact (List.append_nil _).symm
      · exact ⟨rfl, rfl, rfl⟩
      · exact Or.inr (Or.inr ⟨rfl, decoded⟩)
      · intro _
        rw [nothing]
        exact (List.append_nil _).symm
  | some text =>
      have reads : (requestOf line : Option (JsonRpcRequest Value)) =
          if trim text = "" then none else Serde.requestFromStr (trim text) := by
        rw [requestOf, decoded]
        rfl
      dsimp only
      split
      · next blank => exact receives_nothing conn answers (reads.trans (if_pos blank))
      · next content =>
          rw [if_neg content] at reads
          split
          · next request parsed =>
              rw [parsed] at reads
              cases handled : routerHandle answers.dispatch request with
              | none =>
                  have replies := routerHandle_eq answers.dispatch request
                  rw [handled] at replies
                  constructor
                  · rw [reads]
                    rfl
                  · exact ⟨rfl, rfl, rfl⟩
                  · exact Or.inl rfl
                  · intro _
                    rw [reads, Option.toList_some, List.map_singleton, List.filterMap_cons, ← replies]
                    exact (List.append_nil _).symm
              | some response => exact receives_response conn answers reads handled
          · next unparsed =>
              rw [unparsed] at reads
              split
              · constructor
                · rw [reads]
                  exact (List.append_nil _).symm
                · exact ⟨rfl, rfl, rfl⟩
                · exact Or.inl rfl
                · intro _
                  rw [reads, List.filterMap_append]
                  rfl
              · exact receives_nothing conn answers reads

theorem requestsIn_nil : requestsIn [] = ([] : List (JsonRpcRequest Value)) := by
  have nothing : (requestOf [] : Option (JsonRpcRequest Value)) = none := by
    rw [requestOf, show utf8 [] = some "" from utf8_textBytes ""]
    rfl
  rw [requestsIn_of_unfinished List.not_mem_nil, nothing]
  rfl

/-- The lines are seen, and the read that is waiting has taken no newline. -/
structure Reading (stream : List UInt8) (conn : Connection Value) : Prop where
  sees : SeesLines stream conn
  unfinished : newline ∉ conn.line

theorem reading_opened (stream : List UInt8) : Reading stream (Connection.opened stream : Connection Value) where
  sees := by
    constructor
    · rfl
    · intro impossible
      rcases impossible with impossible | impossible
      · cases impossible
      · cases impossible
    · exact fun _ => rfl
  unfinished := List.not_mem_nil

omit [Serde Value] in
theorem rest_fill (conn : Connection Value) (more : Nat) :
    conn.line ++ ((conn.fill more).buffered ++ (conn.fill more).inbound) = conn.rest := by
  rw [Connection.fill, Connection.rest]
  split
  · next empty =>
      rw [empty]
      exact congrArg (fun bytes => conn.line ++ bytes) (List.take_append_drop _ _)
  · rfl

omit [Serde Value] in
theorem fill_keeps (conn : Connection Value) (more : Nat) :
    (conn.fill more).line = conn.line ∧ (conn.fill more).passed = conn.passed ∧
      (conn.fill more).written = conn.written ∧ (conn.fill more).ended = conn.ended := by
  rw [Connection.fill]
  split
  · exact ⟨rfl, rfl, rfl, rfl⟩
  · exact ⟨rfl, rfl, rfl, rfl⟩

/-- The lines are seen after one of them was handled. -/
theorem reading_receive {stream line : List UInt8} {conn start : Connection Value} {answers : LineAnswers Value}
    (reading : Reading stream conn) (open_ : conn.ended = none)
    (same : start.passed = conn.passed ∧ start.written = conn.written ∧ start.ended = conn.ended)
    (took : start.line = [])
    (ahead : requestsIn conn.rest = ((requestOf line).toList ++ requestsIn start.rest : List (JsonRpcRequest Value)))
    (safe : (utf8 line).isSome = true ∨ requestsIn start.rest = ([] : List (JsonRpcRequest Value))) :
    Reading stream (start.receive answers line) := by
  have done := receives start answers line
  rcases same with ⟨passed, written, ended⟩
  have left : (start.receive answers line).rest = start.rest := by
    rcases done.unread with ⟨atLine, atBuffer, atInbound⟩
    rw [Connection.rest, atLine, atBuffer, atInbound]
    rfl
  constructor
  · constructor
    · rw [left, done.passed, List.map_append, List.map_map, passed, List.append_assoc]
      have names : (Prod.fst ∘ fun request : JsonRpcRequest Value => (request, answers.dispatch request)) = id := rfl
      rw [names, List.map_id, ← ahead]
      exact reading.sees.passed
    · intro stopped
      rw [left]
      rcases done.ends with same | broken | ⟨_, broken⟩
      · rw [same, ended, open_] at stopped
        rcases stopped with impossible | impossible
        · cases impossible
        · cases impossible
      · rw [broken] at stopped
        rcases stopped with impossible | impossible
        · cases impossible
        · cases impossible
      · rw [broken] at safe
        rcases safe with impossible | nothing
        · cases impossible
        · exact nothing
    · intro goesOn
      rw [done.answered goesOn, done.passed, List.filterMap_append, written, passed, reading.sees.answered]
      rw [open_]
      exact fun impossible => by cases impossible
  · rw [done.unread.1, took]
    exact List.not_mem_nil

/-- The lines are still seen when nothing was passed on, and the rest asks for the same. -/
theorem Reading.of_same {stream : List UInt8} {conn after : Connection Value} (reading : Reading stream conn)
    (open_ : conn.ended = none) (passed : after.passed = conn.passed)
    (written : after.written.filterMap Written.answer = conn.written.filterMap Written.answer)
    (rest : requestsIn after.rest = (requestsIn conn.rest : List (JsonRpcRequest Value)))
    (ended : after.ended = some .disconnected ∨ after.ended = some .readError →
      requestsIn after.rest = ([] : List (JsonRpcRequest Value)))
    (unfinished : newline ∉ after.line) : Reading stream after := by
  constructor
  · constructor
    · rw [passed, rest]
      exact reading.sees.passed
    · exact ended
    · intro _
      rw [written, passed, reading.sees.answered]
      rw [open_]
      exact fun impossible => by cases impossible
  · exact unfinished

theorem exec_of_open {conn : Connection Value} (open_ : conn.ended = none) (happening : Happening Value) :
    conn.exec happening = conn.goOn happening := by
  rw [Connection.exec, if_neg (by rw [open_]; exact Bool.false_ne_true)]

/-- A read that completes a line leaves nothing of it. -/
theorem read_of_taken {conn : Connection Value} (open_ : conn.ended = none) {more : Nat} {answers : LineAnswers Value}
    {line rest : List UInt8} (taken : takeLine (conn.fill more).buffered = some (line, rest)) :
    conn.exec (.read more answers) =
      ({ conn.fill more with line := [], buffered := rest } : Connection Value).receive answers
        (conn.line ++ line ++ [newline]) := by
  rw [exec_of_open open_, Connection.goOn, taken, (fill_keeps conn more).1]

/-- A read leaves the lines seen. -/
theorem reading_read {stream : List UInt8} {conn : Connection Value} {more : Nat} {answers : LineAnswers Value}
    (keeps : KeepsLines conn (.read more answers)) (reading : Reading stream conn) (open_ : conn.ended = none) :
    Reading stream (conn.goOn (.read more answers)) := by
  rcases fill_keeps conn more with ⟨atLine, passed, written, ended⟩
  have whole := rest_fill conn more
  cases taken : takeLine (conn.fill more).buffered with
  | none =>
      rw [Connection.goOn, taken]
      refine reading.of_same open_ passed (congrArg _ written) (congrArg requestsIn ?_) ?_ ?_
      · rw [← whole, ← List.append_assoc, ← atLine]
        rfl
      · intro stopped
        rw [ended, open_] at stopped
        rcases stopped with impossible | impossible
        · cases impossible
        · cases impossible
      · intro member
        rcases List.mem_append.mp member with before | now
        · exact reading.unfinished (atLine ▸ before)
        · exact of_takeLine_none taken now
  | some parts =>
      rcases of_takeLine_some taken with ⟨split_, noNewline⟩
      have joined : newline ∉ conn.line ++ parts.1 :=
        fun member => (List.mem_append.mp member).elim reading.unfinished noNewline
      have ahead : requestsIn conn.rest = ((requestOf (conn.line ++ parts.1)).toList ++
          requestsIn (parts.2 ++ (conn.fill more).inbound) : List (JsonRpcRequest Value)) := by
        rw [← whole, split_, ← requestsIn_line joined, List.append_assoc, List.append_assoc]
        rfl
      rw [← exec_of_open open_, read_of_taken open_ taken]
      refine reading_receive reading open_ ⟨passed, written, ended⟩ rfl ?_ ?_
      · rw [requestOf_newline]
        exact ahead
      · rw [show [newline] = [10] from rfl, utf8_newline, Option.isSome_map]
        exact keeps parts.1 parts.2 taken

/-- The end of the stream is met after all lines. -/
theorem reading_endOfStream {stream : List UInt8} {conn : Connection Value} {answers : LineAnswers Value}
    (reading : Reading stream conn) (open_ : conn.ended = none) :
    Reading stream (conn.goOn (.endOfStream answers)) := by
  rw [Connection.goOn]
  split
  · next read =>
      have atEnd : conn.rest = conn.line := by
        rw [Connection.rest, read.1, read.2]
        exact List.append_nil _
      split
      · next nothing =>
          refine reading.of_same open_ rfl rfl rfl ?_ reading.unfinished
          intro _
          change requestsIn conn.rest = _
          rw [atEnd, nothing]
          exact requestsIn_nil
      · have empty : requestsIn (conn.buffered ++ conn.inbound) = ([] : List (JsonRpcRequest Value)) := by
          rw [read.1, read.2]
          exact requestsIn_nil
        refine reading_receive reading open_ ⟨rfl, rfl, rfl⟩ rfl ?_ (Or.inr empty)
        change _ = _ ++ requestsIn (conn.buffered ++ conn.inbound)
        rw [atEnd, empty, List.append_nil]
        exact requestsIn_of_unfinished reading.unfinished
  · exact reading

/-- What happens while the server waits leaves the lines seen. -/
theorem reading_exec {stream : List UInt8} {conn : Connection Value} {happening : Happening Value}
    (keeps : KeepsLines conn happening) (reading : Reading stream conn) : Reading stream (conn.exec happening) := by
  cases open_ : conn.ended with
  | some ending =>
      have stays : conn.exec happening = conn := by
        rw [Connection.exec, open_]
        rfl
      rw [stays]
      exact reading
  | none =>
      have goesOn (stopped : conn.ended = some .disconnected ∨ conn.ended = some .readError) : False := by
        rw [open_] at stopped
        rcases stopped with impossible | impossible
        · cases impossible
        · cases impossible
      have dropped (blank : Blank conn.line) :
          requestsIn (conn.buffered ++ conn.inbound) = (requestsIn conn.rest : List (JsonRpcRequest Value)) :=
        (requestsIn_append_of_blank blank reading.unfinished _).symm
      rw [exec_of_open open_]
      cases happening with
      | read more answers => exact reading_read keeps reading open_
      | endOfStream answers => exact reading_endOfStream reading open_
      | push message writes =>
          cases writes with
          | false =>
              refine reading.of_same open_ rfl rfl rfl ?_ reading.unfinished
              intro stopped
              rcases stopped with impossible | impossible
              · cases impossible
              · cases impossible
          | true =>
              refine reading.of_same open_ rfl ?_ (dropped (keeps rfl)) (fun stopped => (goesOn stopped).elim)
                List.not_mem_nil
              exact List.filterMap_append.trans (List.append_nil _)
      | lagged skipped =>
          exact reading.of_same open_ rfl rfl (dropped keeps) (fun stopped => (goesOn stopped).elim) List.not_mem_nil
      | closed =>
          refine reading.of_same open_ rfl rfl rfl ?_ reading.unfinished
          intro stopped
          rcases stopped with impossible | impossible
          · cases impossible
          · cases impossible

/-- In every run of a connection along which no read is dropped that has taken something of a line, and no
line that is no text comes before a request, the router sees the requests of the stream and nothing else. -/
theorem lines_reach_router (stream : List UInt8) (happenings : List (Happening Value))
    (keeps : Along Connection.exec KeepsLines happenings (Connection.opened stream)) :
    Throughout Connection.exec (SeesLines stream) happenings (Connection.opened stream) := by
  have preserved (conn : Connection Value) (happening : Happening Value) (keeps : KeepsLines conn happening)
      (reading : Reading stream conn) : Reading stream (conn.exec happening) := reading_exec keeps reading
  have throughout := throughout_of_along preserved keeps (reading_opened stream)
  exact throughout.mono fun _ reading => reading.sees

end Steps

/-! ## A ping -/

section Ping

def pingText : String :=
  "\x7b\"jsonrpc\":\"2.0\",\"method\":\"ping\",\"id\":1\x7d"

def ping : JsonRpcRequest String :=
  .new "ping" none (.num 1)

/-- The request is read from its text. -/
local instance readsPing : Serde String where
  requestFromStr text := if text = pingText then some ping else none

/-- The ping is answered. -/
def answersPong : LineAnswers String where
  dispatch _ := .ok "pong"
  writes := true

def pingStream : List UInt8 :=
  textBytes (pingText ++ "\n")

/-- The line of the ping arrives in two parts, and a notification is written after it. -/
def pingThenPush : List (Happening String) :=
  [.read 9 answersPong, .read 60 answersPong, .push "synced" true, .endOfStream answersPong]

set_option maxRecDepth 4000 in
theorem lines_reach_router_of_ping :
    Along Connection.exec KeepsLines pingThenPush (Connection.opened pingStream) ∧
      Throughout Connection.exec (SeesLines pingStream) pingThenPush (Connection.opened pingStream) := by
  have keeps : Along Connection.exec KeepsLines pingThenPush (Connection.opened pingStream) := by
    refine ⟨?_, ?_, ?_, trivial, trivial⟩
    · intro line rest taken
      have unfinished : takeLine ((Connection.opened pingStream : Connection String).fill 9).buffered =
          none := by decide
      rw [unfinished] at taken
      cases taken
    · intro line rest taken
      have whole : (takeLine (((Connection.opened pingStream).exec (.read 9 answersPong)).fill 60).buffered).map
          Prod.snd =
          some [] := by decide
      rw [taken] at whole
      cases whole
      exact Or.inr requestsIn_nil
    · intro _
      have whole : takeLine (((Connection.opened pingStream).exec (.read 9 answersPong)).fill 60).buffered =
          some ((textBytes pingText).drop 10, []) := by decide
      have taken : ((Connection.opened pingStream).exec (.read 9 answersPong)).exec (.read 60 answersPong) = _ :=
        read_of_taken rfl whole
      have nothing : (((Connection.opened pingStream).exec (.read 9 answersPong)).exec (.read 60 answersPong)).line =
          [] := by
        rw [taken]
        exact (receives _ _ _).unread.1
      change Blank (((Connection.opened pingStream).exec (.read 9 answersPong)).exec (.read 60 answersPong)).line
      rw [nothing]
      exact blank_nil
  exact ⟨keeps, lines_reach_router _ _ keeps⟩

theorem requestsIn_pingStream : requestsIn pingStream = [ping] := by
  have unfinished : newline ∉ textBytes pingText := by decide
  have content : trim pingText ≠ "" := by decide
  have parsed : Serde.requestFromStr (trim pingText) = some ping := by decide
  have ends : textBytes "\n" = newline :: [] := by decide
  rw [pingStream, textBytes_append, ends, requestsIn_line unfinished, requestsIn_nil, requestOf, utf8_textBytes,
    Option.bind_some, if_neg content, parsed]
  rfl

/-- A notification comes when a part of the line has arrived. -/
def pushIntoPing : List (Happening String) :=
  [.read 9 answersPong, .push "synced" true, .read 60 answersPong, .endOfStream answersPong]

/-- What is left of the line. -/
def pingFragment : String :=
  String.ofList (pingText.toList.drop 10) ++ "\n"

set_option maxRecDepth 4000 in
theorem receive_pingFragment (conn : Connection String) :
    conn.receive answersPong (textBytes pingFragment) =
      { conn with written := conn.written ++ [.response (.ofError none .parseError)] } := by
  have content : trim pingFragment ≠ "" := by decide
  have unparsed : Serde.requestFromStr (trim pingFragment) = (none : Option (JsonRpcRequest String)) := by decide
  rw [Connection.receive, utf8_textBytes]
  dsimp only
  rw [if_neg content, unparsed]
  rfl

set_option maxRecDepth 4000 in
/-- The router never sees the ping. -/
theorem push_loses_ping :
    ¬ Throughout Connection.exec (SeesLines pingStream) pushIntoPing (Connection.opened pingStream) := by
  intro throughout
  rcases throughout with ⟨_, _, _, sees, _⟩
  generalize at_ : ((Connection.opened pingStream).exec (.read 9 answersPong)).exec (.push "synced" true) =
    waiting at sees
  have whole : takeLine (waiting.fill 60).buffered = some ((textBytes pingText).drop 10, []) := by
    rw [← at_]
    decide
  have open_ : waiting.ended = none := by
    rw [← at_]
    rfl
  have bytes : waiting.line ++ (textBytes pingText).drop 10 ++ [newline] = textBytes pingFragment := by
    rw [← at_]
    decide
  have nothing : (waiting.fill 60).passed = [] := by
    rw [← at_]
    rfl
  have inbound : (waiting.fill 60).inbound = [] := by
    rw [← at_]
    decide
  rw [read_of_taken open_ whole, bytes, receive_pingFragment] at sees
  have passed := sees.passed
  rw [requestsIn_pingStream] at passed
  dsimp only [Connection.rest] at passed
  rw [nothing, inbound] at passed
  have rest : requestsIn [] = [ping] := passed
  rw [requestsIn_nil] at rest
  cases rest

end Ping

end Ipc
end GDriver
