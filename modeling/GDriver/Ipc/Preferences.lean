import GDriver.Ipc.Handlers
import GDriver.Sync.Loop

namespace GDriver
namespace Ipc

open Library Routine Db Sync

/-!
# Preferences

The preferences are kept in memory and in a file.  The file is replaced by writing a sibling
and renaming it.  Two requests change them: one saves new preferences, file first, and one
switches the mode, memory first.
-/

inductive Appearance where
  | light
  | dark
  | followSystem
  deriving DecidableEq, Repr

structure GeneralPrefs where
  launchOnLogin : Bool
  appearance : Appearance
  language : String
  promptBackupDevices : Bool
  deriving DecidableEq, Repr

structure NetworkPrefs where
  proxy : String
  downloadRateLimit : UInt32
  uploadRateLimit : UInt32
  deriving DecidableEq, Repr

structure HotkeyPrefs where
  searchEnabled : Bool
  searchKey : String
  deriving DecidableEq, Repr

structure TelemetryPrefs where
  autoSendDiagnostics : Bool
  deriving DecidableEq, Repr

/-- Full application preferences. -/
structure Preferences where
  general : GeneralPrefs
  network : NetworkPrefs
  hotkeys : HotkeyPrefs
  telemetry : TelemetryPrefs
  vfs : VfsPreferences
  deriving DecidableEq, Repr

/-- The preferences of a fresh installation. -/
def Preferences.default : Preferences where
  general := ⟨true, .followSystem, "follow_account", true⟩
  network := ⟨"auto", 0, 0⟩
  hotkeys := ⟨true, "Ctrl+Alt+G"⟩
  telemetry := ⟨true⟩
  vfs := ⟨.stream, "~/GoogleDrive"⟩

/-- The preferences with another mode. -/
def Preferences.withMode (newMode : SyncMode) (prefs : Preferences) : Preferences :=
  { prefs with vfs := { prefs.vfs with syncMode := newMode } }

/-- The writing of preferences as text, taken from a serialisation library. -/
class Toml where
  toStringPretty : Preferences → Except String String

/-- The text of preferences none of whose strings needs an escape. -/
def plainToml (prefs : Preferences) : String :=
  let quoted (text : String) := "\"" ++ text ++ "\""
  let appearance := match prefs.general.appearance with
    | .light => "light"
    | .dark => "dark"
    | .followSystem => "follow_system"
  let syncMode := match prefs.vfs.syncMode with
    | .stream => "stream"
    | .mirror => "mirror"
  String.intercalate "\n" [
    "[general]",
    "launch_on_login = " ++ toString prefs.general.launchOnLogin,
    "appearance = " ++ quoted appearance,
    "language = " ++ quoted prefs.general.language,
    "prompt_backup_devices = " ++ toString prefs.general.promptBackupDevices,
    "",
    "[network]",
    "proxy = " ++ quoted prefs.network.proxy,
    "download_rate_limit = " ++ toString prefs.network.downloadRateLimit,
    "upload_rate_limit = " ++ toString prefs.network.uploadRateLimit,
    "",
    "[hotkeys]",
    "search_enabled = " ++ toString prefs.hotkeys.searchEnabled,
    "search_key = " ++ quoted prefs.hotkeys.searchKey,
    "",
    "[telemetry]",
    "auto_send_diagnostics = " ++ toString prefs.telemetry.autoSendDiagnostics,
    "",
    "[vfs]",
    "mount_point = " ++ quoted prefs.vfs.mountPoint,
    "sync_mode = " ++ quoted syncMode,
    ""]

/-- The preferences file and the sibling it is written to first. -/
structure ConfigFiles where
  file : Option String
  tmp : Option String
  deriving DecidableEq, Repr

/-- What one `saveTo` meets: the error of each of its calls, and what a write that fails
leaves in the sibling. -/
structure SaveAnswers where
  writes : Option String
  left : Option String
  renames : Option String

/-- Every call succeeds. -/
def SaveAnswers.allRun : SaveAnswers where
  writes := none
  left := none
  renames := none

/-- Write text to the sibling. -/
def writeTmp (answers : SaveAnswers) (content : String) : Routine String ConfigFiles Unit := fun files =>
  match answers.writes with
  | some failure => .error failure { files with tmp := answers.left }
  | none => .ok () { files with tmp := some content }

/-- Rename the sibling over the file. -/
def renameTmp (answers : SaveAnswers) : Routine String ConfigFiles Unit := fun files =>
  match answers.renames, files.tmp with
  | some failure, _ => .error failure files
  | none, none => .error noSuchFile files
  | none, some content => .ok () ⟨some content, none⟩

/-- Atomically write preferences to the file. -/
def saveTo [Toml] (answers : SaveAnswers) (prefs : Preferences) : Routine String ConfigFiles Unit := do
  let content ← mapError (fun failure => "failed to serialise preferences: " ++ failure)
    (received (Toml.toStringPretty prefs))
  writeTmp answers content
  renameTmp answers

/-- What stands behind the request handlers. -/
structure Backend where
  db : Database
  config : Preferences
  files : ConfigFiles
  /-- The commands in the channel to the engine. -/
  commands : List SyncCommand

/-- What one request that changes the preferences meets: the error of the blocking task it
saves them in, that of the path of the file, the calls of the save, and whether the engine
still receives commands. -/
structure PrefsAnswers where
  joins : Option String
  configPath : Option String
  save : SaveAnswers
  engineReceives : Bool

/-- Everything succeeds. -/
def PrefsAnswers.allRun : PrefsAnswers where
  joins := none
  configPath := none
  save := SaveAnswers.allRun
  engineReceives := true

/-- A call that fails, or has no effect. -/
def orFailure {σ : Type} (failure : Option String) : Routine String σ Unit :=
  match failure with
  | some message => throw message
  | none => pure ()

/-- Write preferences to the file of the platform, in a blocking task. -/
def save [Toml] (answers : PrefsAnswers) (prefs : Preferences) : Routine String Backend Unit := do
  orFailure answers.joins
  orFailure answers.configPath
  zoom Backend.files (fun files backend => { backend with files := files }) (saveTo answers.save prefs)

/-- Set the preferences in memory. -/
def setConfig {ε : Type} (change : Preferences → Preferences) : Routine ε Backend Unit := fun backend =>
  .ok () { backend with config := change backend.config }

/-- Save new preferences. -/
def handlePrefsSave [Toml] (answers : PrefsAnswers) (params : Except String Preferences) :
    Routine RpcError Backend Unit := do
  let newPrefs ← mapError .invalidParams (received params)
  mapError .internalError (save answers newPrefs)
  setConfig fun _ => newPrefs

/-- Send a command to the engine. -/
def sendCommand (answers : PrefsAnswers) (command : SyncCommand) : Routine RpcError Backend Unit := fun backend =>
  if answers.engineReceives then .ok () { backend with commands := backend.commands ++ [command] }
  else .error (.internalError "channel closed") backend

/-- Switch the sync mode.  What is saved is what is in memory; a save that fails is only
logged. -/
def handleSetSyncMode [Toml] (answers : PrefsAnswers) (mode : Except String SyncMode) :
    Routine RpcError Backend SyncMode := do
  let newMode ← mapError .invalidParams (received mode)
  setConfig (Preferences.withMode newMode)
  sendCommand answers (.switchMode newMode)
  let prefs : Preferences ← fun backend => .ok backend.config backend
  attempt (save answers prefs)
  pure newMode

end Ipc
end GDriver
