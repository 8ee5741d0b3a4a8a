import GDriver.Ipc.Server
import GDriver.Library.Broadcast
import GDriver.Library.Run
import Mathlib.Logic.Function.Basic

namespace GDriver
namespace Ipc

open Library

/-!
# Push notifications

What the daemon pushes goes to all connections through one channel, from which each connection forwards it
when it does nothing else.  A client that reads too slowly holds up its own connection only, and skips the
oldest notifications.  What is sent while there is no connection at all is counted here and not by the
channel, which no connection that comes later can tell.
-/

/-- The notifications that the channel keeps. -/
def pushCapacity : Nat := 256

/-- A connection, and where it is in the channel. -/
structure Subscriber (Value : Type) where
  subscribed : Nat
  next : Nat
  /-- The numbers of skipped notifications in the log. -/
  skipped : List Nat
  conn : Connection Value

structure IpcServer (Value : Type) where
  pushTx : Channel String
  clients : Nat → Option (Subscriber Value)

/-- What comes first at a connection. -/
inductive ClientStep (Value : Type) where
  | accept (stream : List UInt8)
  | read (more : Nat) (answers : LineAnswers Value)
  | endOfStream (answers : LineAnswers Value)
  | forward (writes : Bool)
  | closed

inductive ServerStep (Value : Type) where
  | push (message : String)
  | client (number : Nat) (step : ClientStep Value)

/-- The notification in a line. -/
def Written.pushed {Value : Type} : Written Value → Option String
  | response _ => none
  | push message => some message

/-- The notifications that were written. -/
def Connection.pushes {Value : Type} (conn : Connection Value) : List String :=
  conn.written.filterMap Written.pushed

section Server

variable {Value : Type} [Serde Value]

/-- Forward what comes next in the channel, if there is anything. -/
def Subscriber.forward (pushTx : Channel String) (writes : Bool) (client : Subscriber Value) : Subscriber Value :=
  if client.conn.ended.isSome then client
  else
    match pushTx.receive client.next with
    | none => client
    | some (.message message, later) =>
        { client with next := later, conn := client.conn.exec (.push message writes) }
    | some (.lagged skipped, later) =>
        { client with next := later, skipped := client.skipped ++ [skipped], conn :=
          client.conn.exec (.lagged skipped) }

namespace IpcServer

def new : IpcServer Value where
  pushTx := .empty
  clients _ := none

/-- Go on with one connection. -/
def on (server : IpcServer Value) (client : Nat) (goOn : Subscriber Value → Subscriber Value) : IpcServer Value :=
  { server with clients := Function.update server.clients client ((server.clients client).map goOn) }

/-- Something comes first at a connection that is no notification. -/
def happens (server : IpcServer Value) (client : Nat) (happening : Happening Value) : IpcServer Value :=
  server.on client fun subscriber => { subscriber with conn := subscriber.conn.exec happening }

/-- Accept a connection, which waits for what is sent next. -/
def accept (server : IpcServer Value) (client : Nat) (stream : List UInt8) : IpcServer Value :=
  if (server.clients client).isSome then server
  else
    { server with
      clients := Function.update server.clients client
        (some ⟨server.pushTx.sent, server.pushTx.sent, [], Connection.opened stream⟩) }

def goOn (server : IpcServer Value) (client : Nat) : ClientStep Value → IpcServer Value
  | .accept stream => server.accept client stream
  | .read more answers => server.happens client (.read more answers)
  | .endOfStream answers => server.happens client (.endOfStream answers)
  | .forward writes => server.on client (Subscriber.forward server.pushTx writes)
  | .closed => server.happens client .closed

def push (server : IpcServer Value) (message : String) : IpcServer Value :=
  { server with pushTx := server.pushTx.send pushCapacity message }

def exec (server : IpcServer Value) : ServerStep Value → IpcServer Value
  | .push message => server.push message
  | .client number step => server.goOn number step

end IpcServer

/-- What is pushed. -/
def ServerStep.published : IpcServer Value → ServerStep Value → Option String
  | _, .push message => some message
  | _, _ => none

/-- What a client has got. -/
def Subscriber.receiver (client : Subscriber Value) : Receiver String where
  subscribed := client.subscribed
  next := client.next
  got := client.conn.pushes
  skipped := client.skipped

/-! ## What a connection writes -/

section Writing

variable {conn : Connection Value}

omit [Serde Value] in
theorem pushes_response (message : JsonRpcResponse Value) (written : List (Written Value)) :
    (written ++ [Written.response message]).filterMap Written.pushed = written.filterMap Written.pushed := by
  rw [List.filterMap_append]
  exact List.append_nil _

/-- A request is answered with a response. -/
theorem pushes_receive (answers : LineAnswers Value) (line : List UInt8) :
    (conn.receive answers line).pushes = conn.pushes := by
  have sends (later : Connection Value) (message : JsonRpcResponse Value) (same : later.written = conn.written) :
      (later.send answers.writes (.response message)).pushes = conn.pushes := by
    rw [Connection.send, Connection.pushes, Connection.pushes, ← same]
    cases answers.writes with
    | false => rfl
    | true => exact pushes_response _ _
  rw [Connection.receive]
  split
  · rfl
  · dsimp only
    split
    · rfl
    · split
      · split
        · exact sends _ _ rfl
        · rfl
      · split
        · exact pushes_response _ _
        · rfl

omit [Serde Value] in
theorem pushes_fill (more : Nat) : (conn.fill more).pushes = conn.pushes := by
  rw [Connection.fill]
  split
  · rfl
  · rfl

/-- Only a notification adds to the notifications. -/
theorem pushes_exec {happening : Happening Value} (other : ∀ message writes, happening ≠ .push message writes) :
    (conn.exec happening).pushes = conn.pushes := by
  rw [Connection.exec]
  split
  · rfl
  · cases happening with
    | read more answers =>
        rw [Connection.goOn]
        split
        · exact pushes_fill more
        · exact (pushes_receive answers _).trans (pushes_fill more)
    | endOfStream answers =>
        rw [Connection.goOn]
        split
        · split
          · rfl
          · exact pushes_receive answers _
        · rfl
    | push message writes => exact absurd rfl (other message writes)
    | lagged skipped => rfl
    | closed => rfl

/-- A connection to which nothing can be written stays one. -/
theorem writes_before {happening : Happening Value} (writes : (conn.exec happening).ended ≠ some .writeError) :
    conn.ended ≠ some .writeError := by
  cases ended : conn.ended with
  | none => exact fun impossible => by cases impossible
  | some ending =>
      rw [Connection.exec, ended] at writes
      rw [← ended]
      exact writes

theorem pushes_push {message : String} {writes : Bool} (open_ : conn.ended = none)
    (written : (conn.exec (.push message writes)).ended ≠ some .writeError) :
    (conn.exec (.push message writes)).pushes = conn.pushes ++ [message] := by
  rw [exec_of_open open_] at written ⊢
  cases writes with
  | false => exact absurd rfl written
  | true =>
      rw [Connection.goOn, if_pos rfl, Connection.pushes, List.filterMap_append]
      rfl

end Writing

/-! ## Runs of the server -/

/-- The channel holds what was pushed, and the clients follow it as long as they can be written to. -/
structure Forwards (published : List String) (server : IpcServer Value) : Prop where
  holds : server.pushTx.Holds pushCapacity published
  follows : ∀ number client, server.clients number = some client → client.conn.ended ≠ some .writeError →
    client.receiver.Follows pushCapacity published

section Steps

variable {published : List String} {server : IpcServer Value}

omit [Serde Value] in
/-- Going on with one connection keeps this when it is kept there. -/
theorem Forwards.on (forwards : Forwards published server) (number : Nat) {goOn : Subscriber Value → Subscriber Value}
    (keeps : ∀ client, (client.conn.ended ≠ some .writeError → client.receiver.Follows pushCapacity published) →
      (goOn client).conn.ended ≠ some .writeError → (goOn client).receiver.Follows pushCapacity published) :
    Forwards published (server.on number goOn) where
  holds := forwards.holds
  follows := by
    intro other client there writes
    by_cases own : other = number
    · have updated : (server.on number goOn).clients other = (server.clients number).map goOn := by
        rw [own]
        exact Function.update_self _ _ _
      rw [updated] at there
      rcases Option.map_eq_some_iff.mp there with ⟨before, found, same⟩
      rw [← same] at writes ⊢
      exact keeps before (forwards.follows number before found) writes
    · have stays : (server.on number goOn).clients other = server.clients other := Function.update_of_ne own _ _
      rw [stays] at there
      exact forwards.follows other client there writes

/-- What comes first at a connection, if it is no notification, leaves what was forwarded. -/
theorem Forwards.happens (forwards : Forwards published server) (number : Nat) {happening : Happening Value}
    (other : ∀ message writes, happening ≠ .push message writes) :
      Forwards published (server.happens number happening) := by
  refine forwards.on number fun client follows writes => ?_
  have before := follows (writes_before writes)
  rw [Subscriber.receiver] at before ⊢
  dsimp only
  rw [pushes_exec other]
  exact before

theorem Forwards.forward (forwards : Forwards published server) (number : Nat) (writes : Bool) :
    Forwards published (server.on number (Subscriber.forward server.pushTx writes)) := by
  refine forwards.on number fun client follows written => ?_
  rw [Subscriber.forward] at written ⊢
  split at written
  · next ended =>
      rw [if_pos ended]
      exact follows written
  · next open_ =>
      rw [if_neg open_]
      rw [Option.not_isSome_iff_eq_none] at open_
      have before := follows (by rw [open_]; exact fun impossible => by cases impossible)
      cases gets : server.pushTx.receive client.next with
      | none => exact before
      | some received =>
          have after := before.take forwards.holds gets
          rcases received with ⟨received, later⟩
          rw [gets] at written
          cases received with
          | message message =>
              dsimp only at written ⊢
              rw [Subscriber.receiver]
              dsimp only
              rw [pushes_push open_ written]
              exact after
          | lagged skipped =>
              dsimp only
              rw [Subscriber.receiver]
              dsimp only
              rw [pushes_exec fun _ _ impossible => by cases impossible]
              exact after

omit [Serde Value] in
theorem Forwards.push (forwards : Forwards published server) (message : String) :
    Forwards (published ++ [message]) (server.push message) where
  holds := forwards.holds.send message
  follows number client there writes := (forwards.follows number client there writes).send message

omit [Serde Value] in
theorem Forwards.accept (forwards : Forwards published server) (number : Nat) (stream : List UInt8) :
    Forwards published (server.accept number stream) := by
  rw [IpcServer.accept]
  split
  · exact forwards
  · refine ⟨forwards.holds, fun other client there writes => ?_⟩
    dsimp only at there
    by_cases own : other = number
    · rw [own, Function.update_self] at there
      cases there
      rw [Subscriber.receiver, forwards.holds.sent]
      exact Receiver.follows_subscribed pushCapacity published
    · rw [Function.update_of_ne own] at there
      exact forwards.follows other client there writes

theorem Forwards.goOn (forwards : Forwards published server) (number : Nat) (step : ClientStep Value) :
    Forwards published (server.goOn number step) := by
  cases step with
  | accept stream => exact forwards.accept number stream
  | read more answers => exact forwards.happens number fun _ _ impossible => by cases impossible
  | endOfStream answers => exact forwards.happens number fun _ _ impossible => by cases impossible
  | forward writes => exact forwards.forward number writes
  | closed => exact forwards.happens number fun _ _ impossible => by cases impossible

end Steps

omit [Serde Value] in
theorem forwards_new : Forwards [] (IpcServer.new : IpcServer Value) where
  holds := Channel.holds_empty pushCapacity
  follows _ _ impossible := by cases impossible

/-- What was pushed in a run. -/
def pushedIn (steps : List (ServerStep Value)) : List String :=
  notes IpcServer.exec ServerStep.published steps (IpcServer.new : IpcServer Value)

/-- However slowly the clients read: each gets, in order and with a gap only for what it skips, what was pushed
since it was accepted; it gets the newest without a gap, and everything if it skips nothing. -/
theorem clients_get_what_is_pushed (steps : List (ServerStep Value)) :
    Forwards (pushedIn steps) (run IpcServer.exec steps (IpcServer.new : IpcServer Value)) ∧
      ∀ number client, (run IpcServer.exec steps (IpcServer.new : IpcServer Value)).clients number = some client →
        client.conn.ended ≠ some .writeError → client.skipped = [] →
          client.conn.pushes = ((pushedIn steps).take client.next).drop client.subscribed := by
  have forwards : Forwards (pushedIn steps) (run IpcServer.exec steps (IpcServer.new : IpcServer Value)) := by
    refine run_with_notes (fun published server step forwards => ?_) forwards_new steps
    cases step with
    | push message => exact forwards.push message
    | client number step =>
        have same : published ++ (none : Option String).toList = published := List.append_nil published
        rw [ServerStep.published, same]
        · exact forwards.goOn number step
        · exact fun _ impossible => by cases impossible
  refine ⟨forwards, fun number client there writes nothing => ?_⟩
  exact (forwards.follows number client there writes).got_eq nothing

end Server

end Ipc
end GDriver
