import GDriver.Sync.Loop
import GDriver.System
import GDriver.Watcher.Debounce

namespace GDriver

open Library Routine Db Api Sync Watcher

/-!
# The daemon

The engine loop with the channels that lead to it.  The request handlers share
the preferences with the loop and send it commands; the watcher sends it tasks.
A request to switch the mode writes the preferences first and sends its command
afterwards, so that anything may happen in between.

The steps of all parties interleave in any order.  The loop handles one message
at a time; what the others do meanwhile is a step before or after it.
-/

structure Daemon where
  loop : SyncLoop
  /-- The commands in the channel to the engine, the next one first. -/
  commands : List SyncCommand
  /-- The modes of the requests that have written them and not yet sent the
  command. -/
  sending : List SyncMode
  debouncing : List DebounceEntry
  folders : List WatchedFolder
  /-- The tasks in the channel from the watcher to the engine. -/
  watched : List SyncTask

namespace Daemon

/-- The daemon when its loop begins. -/
def start (world : World) (cfg : VfsPreferences) : Daemon where
  loop := SyncLoop.start world cfg
  commands := []
  sending := []
  debouncing := []
  folders := []
  watched := []

def commandCapacity : Nat := 32

def watchedCapacity : Nat := 128

/-- Send a command.  The sender waits as long as the channel is full. -/
def send (command : SyncCommand) (daemon : Daemon) : Daemon :=
  if daemon.commands.length < commandCapacity then
    { daemon with commands := daemon.commands ++ [command] }
  else daemon

def withLoop (loop : SyncLoop) (daemon : Daemon) : Daemon :=
  { daemon with loop := loop }

def withCfg (cfg : VfsPreferences) (daemon : Daemon) : Daemon :=
  daemon.withLoop { daemon.loop with cfg := cfg }

/-- A request to switch the mode: the preferences are written. -/
def beginSetSyncMode (newMode : SyncMode) (daemon : Daemon) : Daemon :=
  { daemon.withCfg { daemon.loop.cfg with syncMode := newMode } with
    sending := daemon.sending ++ [newMode] }

/-- One of the requests to switch the mode sends its command. -/
def sendSwitch (position : Nat) (daemon : Daemon) : Daemon :=
  match daemon.sending[position]? with
  | none => daemon
  | some newMode =>
      if daemon.commands.length < commandCapacity then
        { daemon.send (.switchMode newMode) with sending := daemon.sending.eraseIdx position }
      else daemon

/-- Preferences are saved: to disk first, and then for everyone to read. -/
def handlePrefsSave (saves : Bool) (prefs : VfsPreferences) (daemon : Daemon) : Daemon :=
  if saves then daemon.withCfg prefs else daemon

/-- An event of the file system is held back. -/
def hear (now : Nat) (kind : EventKind) (paths : List String) (daemon : Daemon) : Daemon :=
  { daemon with debouncing := paths.foldl (note now kind) daemon.debouncing }

/-- The watcher sends the tasks that are due, in the order in which the map
gives out its entries. -/
def flush (view : FlushView) (entries : List DebounceEntry) (daemon : Daemon) : Daemon :=
  if entries.isPerm daemon.debouncing then
    { daemon with
      debouncing := entries.filter fun entry => !isDue view.now entry
      watched := (dueTasks view daemon.folders entries).foldl (trySend watchedCapacity)
        daemon.watched }
  else daemon

/-- New folders are watched. -/
def watchFolders (folders : List WatchedFolder) (daemon : Daemon) : Daemon :=
  { daemon with folders := daemon.folders ++ folders }

/-- The scan of a new folder sends the task of a file.  It waits as long as the
channel is full. -/
def scan (task : SyncTask) (daemon : Daemon) : Daemon :=
  if daemon.watched.length < watchedCapacity then
    { daemon with watched := daemon.watched ++ [task] }
  else daemon

/-- The loop receives a command. -/
def receiveCommand (answers : SwitchAnswers) (daemon : Daemon) : Daemon :=
  match daemon.commands with
  | [] => daemon
  | command :: rest =>
      { daemon.withLoop (handleCommand answers command daemon.loop) with commands := rest }

section Execution

variable [Rfc3339]

/-- The poll timer fires. -/
def tick (answers : PollAnswers) (daemon : Daemon) : Daemon :=
  daemon.withLoop (handleRemotePoll answers daemon.loop)

/-- The loop receives a task of the watcher. -/
def receiveTask (answers : WatcherAnswers) (daemon : Daemon) : Daemon :=
  match daemon.watched with
  | [] => daemon
  | task :: rest =>
      { daemon.withLoop (handleWatcherTask answers task daemon.loop) with watched := rest }

/-- Whether an operation is none of the engine's and none of the watcher's. -/
def comesFromElsewhere : Operation → Bool
  | .engine _ => false
  | .event .. => false
  | _ => true

/-- Another part of the program, or the user, does something. -/
def elsewhere (operation : Operation) (daemon : Daemon) : Daemon :=
  if comesFromElsewhere operation then
    daemon.withLoop { daemon.loop with
      world := (System.exec ⟨daemon.loop.world, .idle⟩ operation).world }
  else daemon

end Execution

end Daemon

/-- A step of one of the parties. -/
inductive DaemonStep where
  | pause
  | resume
  | setSyncMode (newMode : SyncMode)
  | sendSwitch (position : Nat)
  | savePrefs (saves : Bool) (prefs : VfsPreferences)
  | hear (now : Nat) (kind : EventKind) (paths : List String)
  | flush (view : FlushView) (entries : List DebounceEntry)
  | watchFolders (folders : List WatchedFolder)
  | scan (task : SyncTask)
  | receiveCommand (answers : SwitchAnswers)
  | tick (answers : PollAnswers)
  | receiveTask (answers : WatcherAnswers)
  | elsewhere (operation : Operation)

/-- Carry out one step. -/
def Daemon.exec [Rfc3339] (daemon : Daemon) : DaemonStep → Daemon
  | .pause => daemon.send .pause
  | .resume => daemon.send .resume
  | .setSyncMode newMode => daemon.beginSetSyncMode newMode
  | .sendSwitch position => daemon.sendSwitch position
  | .savePrefs saves prefs => daemon.handlePrefsSave saves prefs
  | .hear now kind paths => daemon.hear now kind paths
  | .flush view entries => daemon.flush view entries
  | .watchFolders folders => daemon.watchFolders folders
  | .scan task => daemon.scan task
  | .receiveCommand answers => daemon.receiveCommand answers
  | .tick answers => daemon.tick answers
  | .receiveTask answers => daemon.receiveTask answers
  | .elsewhere operation => daemon.elsewhere operation

end GDriver
