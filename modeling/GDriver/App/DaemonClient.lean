import GDriver.Ipc.Server

namespace GDriver
namespace App

open Library Ipc

/-!
# The client of the app

A call of the app takes an id, puts the sender of its channel into the map of pending requests,
hands its line to the writer task and waits for its channel.  The reader task takes senders out of
the map, one for each response and all of them when the connection ends.  The three kinds of tasks
take turns at their waits.
-/

/-- What the client uses of `serde_json`. -/
class SerdeJson (Value : Type) extends JsonNull Value where
  toVec : JsonRpcRequest Value → Except String (List UInt8)
  fromStr : String → Option Value
  get : Value → String → Option Value
  asI64 : Value → Option Int
  asStr : Value → Option String
  errorFromValue : Value → Option (JsonRpcError Value)

/-- The channel of a call: nothing yet, what was sent, or the sender is gone. -/
inductive Oneshot (Value : Type) where
  | empty
  | sent (result : Except (JsonRpcError Value) Value)
  | dropped

/-- How far a call has come. -/
inductive CallPhase (Value : Type) where
  /-- It has its id and its channel. -/
  | begun
  /-- Its sender has been put into the map. -/
  | inserted
  /-- Its line has been handed to the writer. -/
  | waiting
  | returned (result : Except String Value)

structure Call (Value : Type) where
  id : Int
  method : String
  params : Option Value
  channel : Oneshot Value
  phase : CallPhase Value

inductive ReaderTask where
  | reading
  /-- It has left its loop. -/
  | stopping
  | ended
  deriving DecidableEq

inductive WriterTask where
  | receiving
  | writing (bytes : List UInt8)
  | ended
  deriving DecidableEq

/-- One connection, with all calls that have been made on it. -/
structure DaemonClient (Value : Type) where
  nextId : Int
  /-- The senders by id, each as the number of its call. -/
  pending : List (Int × Nat)
  calls : List (Call Value)
  /-- The lines that the writer has not received. -/
  sending : List (List UInt8)
  writer : WriterTask
  reader : ReaderTask
  /-- The lines that the writer has written. -/
  written : List (List UInt8)
  /-- The events that were emitted to the windows. -/
  emitted : List (String × Value)

/-- A message of the daemon. -/
inductive Message (Value : Type) where
  | unparsed
  | push (method : String) (params : Value)
  | unidentified
  | response (id : Int) (result : Except (JsonRpcError Value) Value)

inductive ClientStep (Value : Type) where
  /-- A command of the app begins a call. -/
  | call (method : String) (params : Option Value)
  /-- A call goes on to its next wait. -/
  | resume (number : Nat)
  | recv
  | write (succeeds : Bool)
  | readLine (line : String)
  /-- The connection ends, or reading fails. -/
  | close
  | drain

section Steps

variable {Value : Type}

def DaemonClient.fromIo : DaemonClient Value where
  nextId := 1
  pending := []
  calls := []
  sending := []
  writer := .receiving
  reader := .reading
  written := []
  emitted := []

def Call.request (call : Call Value) : JsonRpcRequest Value :=
  .new call.method call.params (.num call.id)

namespace DaemonClient

/-- `fetch_add` wraps around at the end of `i64`. -/
def begin (client : DaemonClient Value) (method : String) (params : Option Value) : DaemonClient Value :=
  { client with
    nextId := Int.bmod (client.nextId + 1) 0x10000000000000000
    calls := client.calls ++ [⟨client.nextId, method, params, .empty, .begun⟩] }

/-- The call comes to this phase. -/
def moveTo (client : DaemonClient Value) (number : Nat) (phase : CallPhase Value) : DaemonClient Value :=
  { client with calls := client.calls.modify number fun call => { call with phase := phase } }

/-- The map has a sender of this call under one of the ids. -/
def hasSender (client : DaemonClient Value) (taken : Int → Bool) (number : Nat) : Bool :=
  client.pending.any fun entry => taken entry.1 && entry.2 = number

/-- Take the senders under these ids out of the map and leave their channels like this. -/
def settle (client : DaemonClient Value) (taken : Int → Bool) (channel : Oneshot Value) : DaemonClient Value :=
  { client with
    pending := client.pending.filter fun entry => !taken entry.1
    calls := client.calls.mapIdx fun number call =>
      if client.hasSender taken number then { call with channel := channel } else call }

/-- `HashMap::insert` drops the sender that was there under the id. -/
def insert (client : DaemonClient Value) (number : Nat) (call : Call Value) : DaemonClient Value :=
  let without := client.settle (fun id => id = call.id) .dropped
  { without with pending := (call.id, number) :: without.pending }.moveTo number .inserted

/-- What `rx.await` makes of the channel. -/
def receive (client : DaemonClient Value) (number : Nat) (call : Call Value) : DaemonClient Value :=
  match call.channel with
  | .empty => client
  | .sent (.ok value) => client.moveTo number (.returned (.ok value))
  | .sent (.error error) =>
      client.moveTo number (.returned (.error ("RPC error " ++ toString error.code ++ ": " ++ error.message)))
  | .dropped => client.moveTo number (.returned (.error "request dropped (daemon disconnected)"))

/-- Fail all in-flight requests. -/
def drain (client : DaemonClient Value) : DaemonClient Value :=
  { client.settle (fun _ => true) (.sent (.error (.internalError "daemon disconnected"))) with reader := .ended }

section Json

variable [SerdeJson Value]

def send (client : DaemonClient Value) (number : Nat) (call : Call Value) : DaemonClient Value :=
  match SerdeJson.toVec call.request with
  | .error error => client.moveTo number (.returned (.error ("serialise error: " ++ error)))
  | .ok bytes =>
      if client.writer = .ended then client.moveTo number (.returned (.error "writer task is dead"))
      else { client with sending := client.sending ++ [bytes ++ [newline]] }.moveTo number .waiting

def resume (client : DaemonClient Value) (number : Nat) (call : Call Value) : DaemonClient Value :=
  match call.phase with
  | .begun => client.insert number call
  | .inserted => client.send number call
  | .waiting => client.receive number call
  | .returned _ => client

/-- The result in a response: `result`, or the error object, or null. -/
def resultOf (val : Value) : Except (JsonRpcError Value) Value :=
  match SerdeJson.get val "result" with
  | some result => .ok result
  | none =>
      match SerdeJson.get val "error" with
      | some error => .error ((SerdeJson.errorFromValue error).getD (.internalError "malformed error object"))
      | none => .ok JsonNull.null

def messageOf (line : String) : Message Value :=
  match SerdeJson.fromStr line with
  | none => .unparsed
  | some val =>
      match SerdeJson.get val "method" with
      | some method =>
          .push ((SerdeJson.asStr method).getD "daemon:unknown") ((SerdeJson.get val "params").getD JsonNull.null)
      | none =>
          match (SerdeJson.get val "id").bind SerdeJson.asI64 with
          | none => .unidentified
          | some id => .response id (resultOf val)

def handleMessage (client : DaemonClient Value) (line : String) : DaemonClient Value :=
  match messageOf line with
  | .unparsed => client
  | .push method params => { client with emitted := client.emitted ++ [(method, params)] }
  | .unidentified => client
  | .response id result => client.settle (fun other => other = id) (.sent result)

def readLine (client : DaemonClient Value) (line : String) : DaemonClient Value :=
  if trim line = "" then client else client.handleMessage (trim line)

/-- A step whose turn it is not does nothing. -/
def exec (client : DaemonClient Value) : ClientStep Value → DaemonClient Value
  | .call method params => client.begin method params
  | .resume number =>
      match client.calls[number]? with
      | none => client
      | some call => client.resume number call
  | .recv =>
      match client.writer, client.sending with
      | .receiving, bytes :: rest => { client with writer := .writing bytes, sending := rest }
      | _, _ => client
  | .write succeeds =>
      match client.writer with
      | .writing bytes =>
          if succeeds then { client with writer := .receiving, written := client.written ++ [bytes] }
          else { client with writer := .ended }
      | _ => client
  | .readLine line => if client.reader = .reading then client.readLine line else client
  | .close => if client.reader = .reading then { client with reader := .stopping } else client
  | .drain => if client.reader = .stopping then client.drain else client

end Json

end DaemonClient

end Steps

end App
end GDriver
