import GDriver.Accounts.Owned
import GDriver.Accounts.Tasks
import GDriver.Api.Client
import GDriver.Api.Engines
import GDriver.Api.Fields
import GDriver.Api.Multipart
import GDriver.Api.Queries
import GDriver.Api.Resources
import GDriver.Api.Resumable
import GDriver.Api.Sharing
import GDriver.App.Calls
import GDriver.App.DaemonClient
import GDriver.Atomic.Callbacks
import GDriver.Atomic.Requests
import GDriver.Auth.Callback
import GDriver.Auth.Credentials
import GDriver.Auth.Revocation
import GDriver.Auth.TokenStore
import GDriver.Conflict.Detection
import GDriver.Conflict.Recovery
import GDriver.Conflict.Resolution
import GDriver.Conflict.Tags
import GDriver.Conflict.Versions
import GDriver.Daemon
import GDriver.Db.Accounts
import GDriver.Db.Files
import GDriver.Db.Queue
import GDriver.Db.Schema
import GDriver.Errors.Retries
import GDriver.Ipc.Activity
import GDriver.Ipc.Client
import GDriver.Ipc.Events
import GDriver.Ipc.Exchanges
import GDriver.Ipc.Extensions
import GDriver.Ipc.Handlers
import GDriver.Ipc.Json
import GDriver.Ipc.Preferences
import GDriver.Ipc.Protocol
import GDriver.Ipc.Pushes
import GDriver.Ipc.Restarts
import GDriver.Ipc.Saves
import GDriver.Ipc.Server
import GDriver.Library.Broadcast
import GDriver.Library.Checked
import GDriver.Library.Failure
import GDriver.Library.Follow
import GDriver.Library.Frames
import GDriver.Library.Infix
import GDriver.Library.Joining
import GDriver.Library.KeyedUpdates
import GDriver.Library.Like
import GDriver.Library.Marker
import GDriver.Library.Normal
import GDriver.Library.Paging
import GDriver.Library.Path
import GDriver.Library.Percent
import GDriver.Library.Presence
import GDriver.Library.Reach
import GDriver.Library.Resuming
import GDriver.Library.Routine
import GDriver.Library.Run
import GDriver.Library.Serving
import GDriver.Library.Splice
import GDriver.Library.Table
import GDriver.Library.Text
import GDriver.Library.Triple
import GDriver.Library.Utf8
import GDriver.Local.Checksums
import GDriver.Local.Contents
import GDriver.Local.Copies
import GDriver.Local.Deletes
import GDriver.Local.Disk
import GDriver.Local.Edits
import GDriver.Local.Losses
import GDriver.Local.Owners
import GDriver.Local.Pins
import GDriver.Local.Present
import GDriver.Local.Reading
import GDriver.Local.Redownloads
import GDriver.Local.Restores
import GDriver.Local.Storing
import GDriver.Local.Uploads
import GDriver.Local.Waiting
import GDriver.Local.Writes
import GDriver.Lookup.Deletes
import GDriver.Lookup.Paths
import GDriver.Loop.Echo
import GDriver.Loop.Handlers
import GDriver.Loop.Modes
import GDriver.Loop.Pausing
import GDriver.Loop.Quiescence
import GDriver.Loop.Showing
import GDriver.Loop.Steps
import GDriver.Loop.Timing
import GDriver.Loop.Watching
import GDriver.Metadata.Agreement
import GDriver.Metadata.Completeness
import GDriver.Metadata.Delivery
import GDriver.Metadata.LocalColumns
import GDriver.Metadata.Replay
import GDriver.Metadata.Versions
import GDriver.Metadata.Writes
import GDriver.Mirror.Chains
import GDriver.Mirror.Converging
import GDriver.Mirror.Eligible
import GDriver.Mirror.Lines
import GDriver.Mirror.Placement
import GDriver.Mirror.Placing
import GDriver.Mirror.Streaming
import GDriver.Moves.Engine
import GDriver.Moves.Loop
import GDriver.Moves.Mount
import GDriver.Moves.Rows
import GDriver.Moves.Stored
import GDriver.Moves.Sync
import GDriver.Moves.Targets
import GDriver.Moves.Tasks
import GDriver.Queue.Attempts
import GDriver.Queue.Budget
import GDriver.Queue.Draining
import GDriver.Queue.Flight
import GDriver.Queue.Order
import GDriver.Queue.Status
import GDriver.Queue.Stranded
import GDriver.Queue.Turns
import GDriver.Queue.Views
import GDriver.Sync.ChunkLoop
import GDriver.Sync.ChunkPlan
import GDriver.Sync.ChunkProgress
import GDriver.Sync.ChunkRanges
import GDriver.Sync.ChunkServer
import GDriver.Sync.Conflict
import GDriver.Sync.Deleter
import GDriver.Sync.Downloader
import GDriver.Sync.Engine
import GDriver.Sync.Incremental
import GDriver.Sync.Initial
import GDriver.Sync.Loop
import GDriver.Sync.Photos
import GDriver.Sync.Resumable
import GDriver.Sync.StateMachine
import GDriver.Sync.Tasks
import GDriver.Sync.Uploader
import GDriver.System
import GDriver.Tree.Announced
import GDriver.Tree.Calls
import GDriver.Tree.Edits
import GDriver.Tree.Emptiness
import GDriver.Tree.Markers
import GDriver.Tree.NameSteps
import GDriver.Tree.Names
import GDriver.Tree.OnDrive
import GDriver.Tree.Reaching
import GDriver.Tree.RenameCalls
import GDriver.Tree.Renames
import GDriver.Tree.Root
import GDriver.Tree.Streams
import GDriver.Tree.WindowsCalls
import GDriver.Tree.WindowsPaths
import GDriver.Vfs.Directories
import GDriver.Vfs.Linux
import GDriver.Vfs.Queries
import GDriver.Vfs.WinFsp
import GDriver.Vfs.Windows
import GDriver.Watcher.Covering
import GDriver.Watcher.Debounce
import GDriver.Watcher.Depth
import GDriver.Watcher.Events
import GDriver.Watcher.Folders
import GDriver.Watcher.Outcomes
import GDriver.Watcher.Reloads
import GDriver.Watcher.Sizes
import GDriver.Watcher.Trees
import GDriver.Watcher.Windows
import GDriver.World
