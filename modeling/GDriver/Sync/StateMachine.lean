import GDriver.Db.Schema

namespace GDriver
namespace Sync

open Db

/-!
# Engine state machine

The states of the sync engine, the commands it receives, and the transitions
that the state machine allows.  The user interface is shown a status for each
state.
-/

/-- The status of the engine as the user interface shows it. -/
inductive SyncStatus where
  | upToDate
  | syncing
  | paused
  | error
  | offline
  deriving DecidableEq, Repr

/-- Internal state of the sync engine. -/
inductive SyncEngineState where
  /-- No work to do. -/
  | idle
  /-- Looking for changes. -/
  | scanning
  /-- Uploading, downloading, or reconciling files. -/
  | syncing
  /-- Suspended by the user. -/
  | paused
  deriving DecidableEq, Repr

/-- Map the internal engine state to the user-visible status. -/
def SyncEngineState.toSyncStatus : SyncEngineState → SyncStatus
  | .idle => .upToDate
  | .scanning | .syncing => .syncing
  | .paused => .paused

/-- Commands sent from the request handlers to the sync engine. -/
inductive SyncCommand where
  | pause
  | resume
  | switchMode (newMode : SyncMode)
  deriving DecidableEq, Repr

/-- Valid transitions for the sync engine state machine. -/
def canTransition : SyncEngineState → SyncEngineState → Bool
  | .idle, _ => true
  | .scanning, .syncing | .scanning, .idle => true
  | .syncing, .idle | .syncing, .paused | .syncing, .scanning => true
  | .paused, .idle => true
  | _, _ => false

end Sync
end GDriver
