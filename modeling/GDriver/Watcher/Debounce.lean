import GDriver.Watcher.Events

namespace GDriver
namespace Watcher

open Db

/-!
# Debouncing

The watcher holds an event back until its path has been known for a while, and
then turns it into a task with whatever was reported last.  The tasks of one
flush are offered to the engine through a bounded channel; one that finds the
channel full is dropped.
-/

/-- Events for the same path within this window are coalesced. -/
def debounceMs : Nat := 300

/-- An event that is held back. -/
structure DebounceEntry where
  /-- When the path was first heard of, in milliseconds of the monotonic clock. -/
  firstSeen : Nat
  path : String
  kind : EventKind
  deriving DecidableEq, Repr

/-- Note an event for a path.  What is reported below a watched root begins with the text of that
root, so a path is known by its text. -/
def note (now : Nat) (kind : EventKind) (pending : List DebounceEntry) (path : String) :
    List DebounceEntry :=
  if pending.any fun entry => entry.path = path then
    pending.map fun entry => if entry.path = path then { entry with kind := kind } else entry
  else pending ++ [⟨now, path, kind⟩]

/-- Whether the entry has been held back long enough. -/
def isDue (now : Nat) (entry : DebounceEntry) : Bool :=
  debounceMs ≤ now - entry.firstSeen

/-- What the watcher sees of the file system and the time when it flushes. -/
structure FlushView where
  now : Nat
  isDir : String → Bool
  clock : Int

/-- The tasks of the entries that are due. -/
def dueTasks (view : FlushView) (folders : List WatchedFolder) (entries : List DebounceEntry) :
    List SyncTask :=
  (entries.filter (isDue view.now)).filterMap fun entry =>
    eventToTask entry.path (view.isDir entry.path) entry.kind folders view.clock

/-- Offer a message to a channel; when it is full the message is dropped. -/
def trySend {α : Type} (capacity : Nat) (channel : List α) (message : α) : List α :=
  if channel.length < capacity then channel ++ [message] else channel

end Watcher
end GDriver
