import GDriver.Ipc.Events
import GDriver.Ipc.Pushes
import GDriver.Loop.Quiescence

namespace GDriver
namespace Loop

open Library Routine Db Api Sync Ipc Ipc.Events

/-!
# What the clients show

The engine pushes its status whenever its state changes, while other parts of the daemon push events of
their own over the same channel.  A client shows the status that it has got last.  When all is pushed and a
client has got to the end, that is the status of the engine, unless too much else came after it.
-/

/-! ## The engine pushes more and more -/

theorem pushed_transitionTo (newState : SyncEngineState) (course : Course) :
    course.pushed <+: (course.transitionTo newState).pushed := by
  by_cases same : course.state = newState
  · rw [Course.transitionTo_of_same same]
  · rw [Course.transitionTo_of_other same]
    exact List.prefix_append _ _

theorem pushed_handleCommand (answers : SwitchAnswers) (command : SyncCommand) (loop : SyncLoop) :
    loop.course.pushed <+: (handleCommand answers command loop).course.pushed := by
  cases command with
  | pause => exact pushed_transitionTo _ _
  | resume =>
      rw [handleCommand]
      split
      · exact pushed_transitionTo _ _
      · exact List.prefix_rfl
  | switchMode newMode =>
      rw [handleCommand]
      by_cases same : loop.cfg.syncMode = newMode
      · rw [handleModeSwitch_of_same same]
      · rw [course_handleModeSwitch answers newMode same]
        exact (pushed_transitionTo _ _).trans (pushed_transitionTo _ _)

section Engine

variable [Rfc3339]

theorem pushed_handleRemotePoll (answers : PollAnswers) (loop : SyncLoop) :
    loop.course.pushed <+: (handleRemotePoll answers loop).course.pushed := by
  by_cases paused : loop.course.state = .paused
  · rw [handleRemotePoll_of_paused paused]
  · rcases course_handleRemotePoll paused answers with same | through
    · rw [same]
    · rw [through]
      exact ((pushed_transitionTo _ _).trans (pushed_transitionTo _ _)).trans (pushed_transitionTo _ _)

theorem pushed_handleWatcherTask (answers : WatcherAnswers) (task : SyncTask) (loop : SyncLoop) :
    loop.course.pushed <+: (handleWatcherTask answers task loop).course.pushed := by
  by_cases paused : loop.course.state = .paused
  · rw [handleWatcherTask_of_paused paused]
  · rw [course_handleWatcherTask paused]
    split
    · exact pushed_transitionTo _ _
    · exact List.prefix_rfl

theorem pushed_exec (daemon : Daemon) (step : DaemonStep) :
    daemon.loop.course.pushed <+: (daemon.exec step).loop.course.pushed := by
  have courses := Daemon.courses_exec daemon step
  generalize (daemon.exec step).loop.course = course at courses ⊢
  cases courses with
  | stays _ _ _ => exact List.prefix_rfl
  | command _ => exact pushed_handleCommand _ _ _
  | poll answers => exact pushed_handleRemotePoll answers _
  | task _ => exact pushed_handleWatcherTask _ _ _

end Engine

/-! ## The daemon and its clients -/

section Showing

variable {floats : FloatFormat}

/-- The status that an event tells. -/
def tells : PushEvent floats → Option SyncStatus
  | .syncStatusChanged payload => some payload.status
  | _ => none

/-- The event for a status of the engine. -/
def statusChanged (status : SyncStatus) (ts : Int64) : PushEvent floats :=
  .syncStatusChanged ⟨status, ts, none, none⟩

/-- What is sent for an event. -/
def message (event : PushEvent floats) : String :=
  .ofList (eventText event)

/-- The daemon, and the server that pushes its events. -/
structure Showing (floats : FloatFormat) where
  daemon : Daemon
  /-- How many of its statuses the engine has pushed. -/
  told : Nat
  server : IpcServer (Json floats.Double)

inductive ShowingStep (floats : FloatFormat) where
  | engine (step : DaemonStep)
  /-- The engine pushes its next status. -/
  | pushStatus (ts : Int64)
  /-- Another part of the daemon pushes an event. -/
  | pushEvent (event : PushEvent floats)
  | client (number : Nat) (step : ClientStep (Json floats.Double))

/-- The event that a step pushes. -/
def ShowingStep.event (showing : Showing floats) : ShowingStep floats → Option (PushEvent floats)
  | .pushStatus ts => showing.daemon.loop.course.pushed[showing.told]?.map fun status => statusChanged status ts
  | .pushEvent event => some event
  | _ => none

/-- What a step sends. -/
def ShowingStep.sends (showing : Showing floats) (step : ShowingStep floats) : Option String :=
  (step.event showing).map message

namespace Showing

def start (world : World) (cfg : VfsPreferences) : Showing floats where
  daemon := Daemon.start world cfg
  told := 0
  server := IpcServer.new

def exec [Rfc3339] [Serde (Json floats.Double)] (showing : Showing floats) : ShowingStep floats → Showing floats
  | .engine step => { showing with daemon := showing.daemon.exec step }
  | .pushStatus ts =>
      match showing.daemon.loop.course.pushed[showing.told]? with
      | none => showing
      | some status =>
          { showing with told := showing.told + 1, server :=
            showing.server.push (message (statusChanged status ts : PushEvent floats)) }
  | .pushEvent event => { showing with server := showing.server.push (message event) }
  | .client number step => { showing with server := showing.server.goOn number step }

end Showing

section Reading

variable (parse : String → Option (Json floats.Double))

/-- The status that a client reads in a message. -/
def statusIn (text : String) : Option SyncStatus :=
  ((parse text).bind eventOfValue).bind tells

/-- The status that a client shows. -/
def shownBy (client : Subscriber (Json floats.Double)) : Option SyncStatus :=
  (client.conn.pushes.filterMap (statusIn parse)).getLast?

/-- What is sent can be sent and is parsed as what was printed, and only the engine sends a status. -/
def Understood (showing : Showing floats) (step : ShowingStep floats) : Prop :=
  (∀ event, step.event showing = some event →
    event.Sendable ∧ parse (message event) = some (requestToValue (toNotification event))) ∧
    ∀ event, step = .pushEvent event → tells event = none

variable {parse}

theorem statusIn_message {event : PushEvent floats} (sendable : event.Sendable)
    (parsed : parse (message event) = some (requestToValue (toNotification event))) :
    statusIn parse (message event) = tells event := by
  have reads : (parse (message event)).bind eventOfValue = some event := by
    rw [parsed, Option.bind_some, toNotification_eq, eventOfValue, notification,
      requestFromValue_requestToValue _ (params_toNotification sendable)]
    exact fromNotification_toNotification sendable
  rw [statusIn, reads, Option.bind_some]

/-- What was sent holds the statuses that the engine has told. -/
structure Tells (parse : String → Option (Json floats.Double)) (sent : List String) (showing : Showing floats) :
    Prop where
  forwards : Forwards sent showing.server
  statuses : sent.filterMap (statusIn parse) = showing.daemon.loop.course.pushed.take showing.told
  within : showing.told ≤ showing.daemon.loop.course.pushed.length
  shows : ShowsState showing.daemon.loop.course

theorem tells_start (world : World) (cfg : VfsPreferences) : Tells parse [] (Showing.start world cfg) where
  forwards := forwards_new
  statuses := rfl
  within := Nat.zero_le _
  shows := showsState_start

variable [Rfc3339] [Serde (Json floats.Double)]

theorem Tells.exec {sent : List String} {showing : Showing floats} (telling : Tells parse sent showing)
    {step : ShowingStep floats} (understood : Understood parse showing step) :
    Tells parse (sent ++ (step.sends showing).toList) (showing.exec step) := by
  have silent : sent ++ (none : Option String).toList = sent := List.append_nil sent
  cases step with
  | engine step =>
      rw [ShowingStep.sends, ShowingStep.event, Option.map_none, silent]
      · have grows := pushed_exec showing.daemon step
        refine ⟨telling.forwards, ?_, Nat.le_trans telling.within grows.length_le, showsState_exec telling.shows step⟩
        rw [telling.statuses]
        rcases grows with ⟨more, same⟩
        rw [Showing.exec, ← same, List.take_append_of_le_length telling.within]
      · exact fun _ impossible => by cases impossible
      · exact fun _ impossible => by cases impossible
  | pushStatus ts =>
      cases next : showing.daemon.loop.course.pushed[showing.told]? with
      | none =>
          rw [ShowingStep.sends, ShowingStep.event, next, Option.map_none, Option.map_none, silent]
          rw [Showing.exec, next]
          exact telling
      | some status =>
          have pushes : (ShowingStep.pushStatus ts).event showing = some (statusChanged status ts) := by
            rw [ShowingStep.event, next, Option.map_some]
          have read := understood.1 _ pushes
          rw [ShowingStep.sends, pushes, Option.map_some, Option.toList_some]
          rw [Showing.exec, next]
          refine ⟨telling.forwards.push _, ?_, (List.getElem?_eq_some_iff.mp next).1, telling.shows⟩
          rw [List.filterMap_append, telling.statuses, List.filterMap_cons, statusIn_message read.1 read.2]
          dsimp only
          rw [List.take_add_one, next]
          rfl
  | pushEvent event =>
      have read := understood.1 event rfl
      refine ⟨telling.forwards.push _, ?_, telling.within, telling.shows⟩
      rw [ShowingStep.sends, ShowingStep.event, Option.map_some, Option.toList_some, List.filterMap_append,
        telling.statuses, List.filterMap_cons, statusIn_message read.1 read.2, understood.2 event rfl]
      exact List.append_nil _
  | client number step =>
      rw [ShowingStep.sends, ShowingStep.event, Option.map_none, silent]
      · exact ⟨telling.forwards.goOn number step, telling.statuses, telling.within, telling.shows⟩
      · exact fun _ impossible => by cases impossible
      · exact fun _ impossible => by cases impossible

/-- When the engine has told all and a client has got to the end, it shows the status of the engine, if one of
the messages that were kept for it was a status. -/
theorem caught_up_client_shows_state {world : World} {cfg : VfsPreferences} {steps : List (ShowingStep floats)}
    (understood : Along Showing.exec (Understood parse) steps (Showing.start world cfg))
    (told : (run Showing.exec steps (Showing.start world cfg)).told =
      (run Showing.exec steps (Showing.start world cfg)).daemon.loop.course.pushed.length)
    {number : Nat} {client : Subscriber (Json floats.Double)}
    (there : (run Showing.exec steps (Showing.start world cfg)).server.clients number = some client)
    (writes : client.conn.ended ≠ some .writeError)
    (caughtUp : client.next = (notes Showing.exec ShowingStep.sends steps (Showing.start world cfg)).length)
    (recent : ((notes Showing.exec ShowingStep.sends steps (Showing.start world cfg)).drop
      (max ((notes Showing.exec ShowingStep.sends steps (Showing.start world cfg)).length - pushCapacity)
        client.subscribed)).filterMap (statusIn parse) ≠ []) :
    shownBy parse client =
      some (run Showing.exec steps (Showing.start world cfg)).daemon.loop.course.state.toSyncStatus := by
  have preserved (sent : List String) (showing : Showing floats) (step : ShowingStep floats)
      (understood : Understood parse showing step) (telling : Tells parse sent showing) :
      Tells parse (sent ++ (step.sends showing).toList) (showing.exec step) :=
    telling.exec understood
  have telling := run_with_notes_of_along preserved understood (tells_start world cfg)
  rw [List.nil_append] at telling
  generalize notes Showing.exec ShowingStep.sends steps (Showing.start world cfg) = sent at telling caughtUp recent
  generalize run Showing.exec steps (Showing.start world cfg) = showing at telling told there ⊢
  have follows := telling.forwards.follows number client there writes
  have last := follows.getLast?_filterMap caughtUp (statusIn parse) recent
  rw [telling.statuses, told, List.take_length] at last
  exact last.trans telling.shows

end Reading

end Showing

/-! ## A client that shows the pause -/

section Pause

/-- What the engine pushes before and after the pause. -/
def upToDateAtNoon : PushEvent wholeNumbers := statusChanged .upToDate 43200000

def pausedAtOne : PushEvent wholeNumbers := statusChanged .paused 46800000

/-- A parser that reads what is sent for these events. -/
def parseStatuses (text : String) : Option (Json wholeNumbers.Double) :=
  if text = message upToDateAtNoon then some (requestToValue (toNotification upToDateAtNoon))
  else if text = message pausedAtOne then some (requestToValue (toNotification pausedAtOne))
  else none

/-- No client asks for anything. -/
local instance readsNothing : Serde (Json wholeNumbers.Double) where
  requestFromStr _ := none

/-- A client is told that the engine is paused, while one that came with it is closed. -/
def pausesForClient : List (ShowingStep wholeNumbers) :=
  [.client 0 (.accept []), .client 1 (.accept []), .pushStatus 43200000, .client 0 (.forward true), .client 1 .closed,
    .engine .pause, .engine (.receiveCommand SwitchAnswers.allRun), .pushStatus 46800000,
    .client 0 (.forward true)]

/-- What the client has got in the end. -/
def toldOfPause : Subscriber (Json wholeNumbers.Double) where
  subscribed := 0
  next := 2
  skipped := []
  conn :=
    { Connection.opened [] with written := [.push (message upToDateAtNoon), .push (message pausedAtOne)] }

theorem pausedAtOne_other : message pausedAtOne ≠ message upToDateAtNoon := by
  decide +kernel

theorem parses_upToDateAtNoon :
    parseStatuses (message upToDateAtNoon) = some (requestToValue (toNotification upToDateAtNoon)) :=
  if_pos rfl

theorem parses_pausedAtOne :
    parseStatuses (message pausedAtOne) = some (requestToValue (toNotification pausedAtOne)) := by
  rw [parseStatuses, if_neg pausedAtOne_other, if_pos rfl]

/-- The client shows that the engine is paused. -/
theorem client_shows_pause :
    shownBy parseStatuses toldOfPause = some (SyncEngineState.toSyncStatus .paused) := by
  have quiet (step : ShowingStep wholeNumbers) (showing : Showing wholeNumbers)
      (sends : step.event showing = none) : Understood parseStatuses showing step := by
    refine ⟨fun event pushed => ?_, fun event same => ?_⟩
    · rw [sends] at pushed
      cases pushed
    · rw [same] at sends
      cases sends
  have tellsOf (event : PushEvent wholeNumbers) (showing : Showing wholeNumbers) (ts : Int64)
      (pushes : (ShowingStep.pushStatus ts).event showing = some event) (sendable : event.Sendable)
      (parsed : parseStatuses (message event) = some (requestToValue (toNotification event))) :
      Understood parseStatuses showing (.pushStatus ts) := by
    refine ⟨fun other pushed => ?_, fun event same => by cases same⟩
    rw [pushes] at pushed
    cases pushed
    exact ⟨sendable, parsed⟩
  refine @caught_up_client_shows_state wholeNumbers parseStatuses untimed _ (World.around Database.fresh)
    ⟨.stream, "/mnt"⟩ pausesForClient ?_ ?_ 0 toldOfPause ?_ ?_ ?_ ?_
  · exact ⟨quiet _ _ rfl, quiet _ _ rfl, tellsOf upToDateAtNoon _ _ rfl trivial parses_upToDateAtNoon, quiet _ _ rfl,
      quiet _ _ rfl, quiet _ _ rfl, quiet _ _ rfl, tellsOf pausedAtOne _ _ rfl trivial parses_pausedAtOne,
      quiet _ _ rfl, trivial⟩
  · rfl
  · rfl
  · decide
  · rfl
  · have read : statusIn parseStatuses (message upToDateAtNoon) = some .upToDate :=
      statusIn_message trivial parses_upToDateAtNoon
    change [message upToDateAtNoon, message pausedAtOne].filterMap (statusIn parseStatuses) ≠ []
    rw [List.filterMap_cons_some read]
    exact List.cons_ne_nil _ _

end Pause

end Loop
end GDriver
