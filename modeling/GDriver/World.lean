import GDriver.Api.Resources
import GDriver.Db.Accounts
import GDriver.Db.Queue
import GDriver.Library.Normal
import Mathlib.Logic.Function.Basic

namespace GDriver

open Library Routine Db

/-!
# The state around the daemon

What the daemon and the file system it mounts work on: the database, the
regular files on disk, the files the server holds for each account, the
requests sent so far, and the open handles of the mount.

The database compares paths by their texts, the disk does not: two texts that
lead to the same place, such as one with a doubled slash, name one file.

A call that leaves the database is given what it meets: whether it fails,
and what the server answers.  A request can take effect on the server without
being answered, so an answer carries both.
-/

/-- A regular file on disk, with its modification time in Unix milliseconds. -/
structure DiskFile where
  bytes : List UInt8
  mtime : Int
  deriving DecidableEq, Repr

/-- A file the server holds. -/
structure RemoteFile where
  name : String
  mimeType : String
  parents : List String
  bytes : List UInt8
  deriving DecidableEq, Repr

/-- The metadata sent when a file is created. -/
structure CreateFileMetadata where
  name : String
  mimeType : String
  parents : Option (List String)
  deriving DecidableEq, Repr

/-- A request to the server. -/
inductive Request where
  | upload (metadata : CreateFileMetadata) (content : List UInt8)
  | download (fileId : String)
  | export (fileId mimeType : String)
  | get (fileId : String)
  | delete (fileId : String)
  | uploadMedia (content : List UInt8)
  | batchCreate (uploadToken fileName : String)
  deriving DecidableEq, Repr

/-- An open file, from `open` to `release`. -/
structure OpenHandle where
  ino : Nat
  localPath : String
  deriving DecidableEq, Repr

structure World where
  db : Database
  /-- The files on disk, by the places where their paths lead. -/
  files : Place → Option DiskFile
  /-- The files of each account, by id. -/
  drive : String → String → Option RemoteFile
  /-- The requests sent so far, each with the account it was sent for. -/
  requests : List (String × Request)
  openFiles : Nat → Option OpenHandle
  nextFh : Nat

/-- What is at the paths of a disk after a file is put at one of them, or what
is there is taken away. -/
def putAt (disk : String → Option DiskFile) (path : String) (file : Option DiskFile) :
    String → Option DiskFile :=
  fun other => if placeOf other = placeOf path then file else disk other

section Places

variable {disk : String → Option DiskFile} {path other : String} {file : Option DiskFile}

theorem putAt_of_same (same : placeOf other = placeOf path) : putAt disk path file other = file :=
  if_pos same

theorem putAt_self : putAt disk path file path = file :=
  putAt_of_same rfl

theorem putAt_of_apart (apart : placeOf other ≠ placeOf path) : putAt disk path file other = disk other :=
  if_neg apart

end Places

namespace World

/-- A database with nothing around it. -/
def around (db : Database) : World where
  db := db
  files := fun _ => none
  drive := fun _ _ => none
  requests := []
  openFiles := fun _ => none
  nextFh := 1

def withDb (db : Database) (world : World) : World :=
  { world with db := db }

/-- What is on disk at a path. -/
def disk (world : World) (path : String) : Option DiskFile :=
  world.files (placeOf path)

def putOnDisk (path : String) (file : Option DiskFile) (world : World) : World :=
  { world with files := Function.update world.files (placeOf path) file }

def putOnDrive (accountId fileId : String) (file : Option RemoteFile) (world : World) : World :=
  { world with
    drive := Function.update world.drive accountId
      (Function.update (world.drive accountId) fileId file) }

def send (accountId : String) (request : Request) (world : World) : World :=
  { world with requests := world.requests ++ [(accountId, request)] }

def openFile (handle : OpenHandle) (world : World) : World :=
  { world with
    openFiles := Function.update world.openFiles world.nextFh (some handle)
    nextFh := world.nextFh + 1 }

def releaseFile (fh : Nat) (world : World) : World :=
  { world with openFiles := Function.update world.openFiles fh none }

@[simp] theorem withDb_db (db : Database) (world : World) : (world.withDb db).db = db := rfl

@[simp] theorem withDb_disk (db : Database) (world : World) :
    (world.withDb db).disk = world.disk := rfl

@[simp] theorem withDb_drive (db : Database) (world : World) :
    (world.withDb db).drive = world.drive := rfl

@[simp] theorem withDb_requests (db : Database) (world : World) :
    (world.withDb db).requests = world.requests := rfl

theorem disk_congr {first second : String} (same : placeOf first = placeOf second) (world : World) :
    world.disk first = world.disk second :=
  congrArg world.files same

theorem disk_putOnDisk (path : String) (file : Option DiskFile) (world : World) :
    (world.putOnDisk path file).disk = putAt world.disk path file := by
  funext other
  exact Function.update_apply world.files (placeOf path) file (placeOf other)

@[simp] theorem disk_putOnDisk_self (path : String) (file : Option DiskFile) (world : World) :
    (world.putOnDisk path file).disk path = file := by
  rw [disk_putOnDisk, putAt_self]

@[simp] theorem putOnDisk_db (path : String) (file : Option DiskFile) (world : World) :
    (world.putOnDisk path file).db = world.db := rfl

@[simp] theorem putOnDisk_drive (path : String) (file : Option DiskFile) (world : World) :
    (world.putOnDisk path file).drive = world.drive := rfl

/-- What was put on disk last is there. -/
theorem putOnDisk_putOnDisk (path : String) (first second : Option DiskFile) (world : World) :
    (world.putOnDisk path first).putOnDisk path second = world.putOnDisk path second := by
  simp only [putOnDisk, Function.update_idem]

@[simp] theorem putOnDisk_requests (path : String) (file : Option DiskFile) (world : World) :
    (world.putOnDisk path file).requests = world.requests := rfl

@[simp] theorem putOnDrive_db (accountId fileId : String) (file : Option RemoteFile)
    (world : World) : (world.putOnDrive accountId fileId file).db = world.db := rfl

@[simp] theorem putOnDrive_disk (accountId fileId : String) (file : Option RemoteFile)
    (world : World) : (world.putOnDrive accountId fileId file).disk = world.disk := rfl

@[simp] theorem putOnDrive_requests (accountId fileId : String) (file : Option RemoteFile)
    (world : World) : (world.putOnDrive accountId fileId file).requests = world.requests := rfl

@[simp] theorem send_db (accountId : String) (request : Request) (world : World) :
    (world.send accountId request).db = world.db := rfl

@[simp] theorem send_disk (accountId : String) (request : Request) (world : World) :
    (world.send accountId request).disk = world.disk := rfl

@[simp] theorem send_drive (accountId : String) (request : Request) (world : World) :
    (world.send accountId request).drive = world.drive := rfl

end World

/-! ## Steps on the state -/

/-- Run a database routine on the database of the state. -/
def onDb {α : Type} (routine : Routine String Database α) : Routine String World α :=
  zoom World.db World.withDb routine

/-- A step that cannot fail. -/
def perform {ε : Type} (effect : World → World) : Routine ε World Unit :=
  fun world => .ok () (effect world)

/-- Look at the state. -/
def inspect {ε α : Type} (read : World → α) : Routine ε World α :=
  fun world => .ok (read world) world

/-- The text of the error of a call on a path where there is no file. -/
def noSuchFile : String := "No such file or directory"

/-- A call on the file at a path, which fails for a reason of its own or
because there is no such file. -/
def onFile {α : Type} (failure : Option String) (path : String)
    (effect : DiskFile → World → α × World) : Routine String World α :=
  fun world =>
    match failure, world.disk path with
    | some message, _ => .error message world
    | none, none => .error noSuchFile world
    | none, some file => .ok (effect file world).1 (effect file world).2

def readFile (failure : Option String) (path : String) : Routine String World (List UInt8) :=
  onFile failure path fun file world => (file.bytes, world)

def removeFile (failure : Option String) (path : String) : Routine String World Unit :=
  onFile failure path fun _ world => ((), world.putOnDisk path none)

/-- Move a file, replacing what is at the target. -/
def renameFile (failure : Option String) (source target : String) : Routine String World Unit :=
  onFile failure source fun file world =>
    ((), (world.putOnDisk source none).putOnDisk target (some file))

/-- The server's side of the creation of a file: the id and the parents of
the file if it was stored, and the answer. -/
structure UploadReply where
  stored : Option (String × List String)
  reply : Except String Api.DriveFile
  /-- The files stored for earlier attempts of the request, which were answered
  with an error and repeated. -/
  earlier : List (String × List String)

/-- All files stored for a request. -/
def UploadReply.files (server : UploadReply) : List (String × List String) :=
  server.earlier ++ server.stored.toList

/-- What the server makes of a new file. -/
def UploadReply.store (server : UploadReply) (accountId : String) (metadata : CreateFileMetadata)
    (content : List UInt8) (world : World) : World :=
  server.files.foldl (fun world file =>
    world.putOnDrive accountId file.1 (some ⟨metadata.name, metadata.mimeType, file.2, content⟩)) world

/-- Send a new file. -/
def filesUpload (accountId : String) (metadata : CreateFileMetadata) (content : List UInt8)
    (server : UploadReply) : Routine String World Api.DriveFile := do
  perform (World.send accountId (.upload metadata content))
  perform (server.store accountId metadata content)
  received server.reply

/-- The server's side of a deletion. -/
structure DeleteReply where
  deleted : Bool
  reply : Except String Unit

/-- What the server makes of a deletion. -/
def DeleteReply.carryOut (server : DeleteReply) (accountId fileId : String) (world : World) :
    World :=
  if server.deleted then world.putOnDrive accountId fileId none else world

/-- Delete a file on the server. -/
def filesDelete (accountId fileId : String) (server : DeleteReply) : Routine String World Unit := do
  perform (World.send accountId (.delete fileId))
  perform (server.carryOut accountId fileId)
  received server.reply

/-- What a transfer leaves in the temporary file, and the error that ended it
if there is one.  A transfer creates its file before it can succeed. -/
structure Fetched where
  written : Option DiskFile
  failure : Option String
  creates : failure = none → written.isSome = true
  deriving DecidableEq, Repr

theorem isSome_written (written : DiskFile) :
    (none : Option String) = none → (some written).isSome = true :=
  fun _ => rfl

/-- Write what is fetched to a file. -/
def writeFetched (fetched : Fetched) (path : String) : Routine String World Unit := do
  perform fun world =>
    match fetched.written with
    | none => world
    | some file => world.putOnDisk path (some file)
  match fetched.failure with
  | none => pure ()
  | some failure => throw failure

/-- A call on a file does its work when the file is there and nothing fails. -/
theorem onFile_of_found {α : Type} {path : String} {world : World} {file : DiskFile}
    (found : world.disk path = some file) (effect : DiskFile → World → α × World) :
    onFile none path effect world = .ok (effect file world).1 (effect file world).2 := by
  simp only [onFile, found]

theorem onFile_of_missing {α : Type} {path : String} {world : World} (missing : world.disk path = none)
    (failure : Option String) (effect : DiskFile → World → α × World) :
    onFile failure path effect world = .error (failure.getD noSuchFile) world := by
  cases failure <;> simp only [onFile, missing, Option.getD]

/-- Whether a call on the file at a path finds one and does not fail. -/
def finds (failure : Option String) (path : String) (world : World) : Bool :=
  failure.isNone && (world.disk path).isSome

section Finding

variable {α : Type} {failure : Option String} {path : String} {world : World}

/-- A call on a file answers when the file is found. -/
theorem isOk_onFile (failure : Option String) (path : String)
    (effect : DiskFile → World → α × World) :
    (outcome (onFile failure path effect) world).isOk = finds failure path world := by
  rw [finds]
  cases found : world.disk path with
  | none =>
      simp only [outcome, onFile_of_missing found, answer, Option.isSome_none, Bool.and_false]
      rfl
  | some file =>
      cases failure with
      | none =>
          simp only [outcome, onFile_of_found found, answer, Option.isSome_some]
          rfl
      | some message => rfl

/-- A call that does not find its file does nothing. -/
theorem final_onFile_of_lost (lost : finds failure path world = false)
    (effect : DiskFile → World → α × World) : final (onFile failure path effect) world = world := by
  cases found : world.disk path with
  | none => simp only [final, onFile_of_missing found, endState]
  | some file =>
      cases failure with
      | none =>
          rw [finds, found] at lost
          cases lost
      | some message => rfl

/-- A file that is found is moved. -/
theorem final_renameFile_of_finds (there : finds failure path world = true) (target : String) :
    final (renameFile failure path target) world =
      (world.putOnDisk path none).putOnDisk target (world.disk path) := by
  rw [finds, Bool.and_eq_true] at there
  rcases Option.isSome_iff_exists.mp there.2 with ⟨file, found⟩
  rw [Option.isNone_iff_eq_none.mp there.1, found]
  simp only [final, renameFile, onFile_of_found found, endState]

theorem finds_congr {marked : World} (same : marked.disk = world.disk) (failure : Option String)
    (path : String) : finds failure path marked = finds failure path world := by
  rw [finds, finds, same]

end Finding

section Rules

variable {ε α : Type} {allowed : World → World → Prop}

theorem keeps_onDb {onDatabase : Database → Database → Prop} {routine : Routine String Database α}
    (lifts : ∀ (world : World) db, onDatabase world.db db → allowed world (world.withDb db))
    (keeps : Keeps onDatabase routine) : Keeps allowed (onDb routine) :=
  keeps_zoom lifts keeps

theorem keeps_perform {effect : World → World} (moves : ∀ world, allowed world (effect world)) :
    Keeps allowed (perform effect : Routine ε World Unit) :=
  moves

theorem keeps_inspect [Std.Refl allowed] (read : World → α) :
    Keeps allowed (inspect read : Routine ε World α) :=
  fun world => Std.Refl.refl world

theorem keeps_onFile [Std.Refl allowed] (failure : Option String) (path : String)
    {effect : DiskFile → World → α × World}
    (moves : ∀ file world, world.disk path = some file → allowed world (effect file world).2) :
    Keeps allowed (onFile failure path effect) := by
  intro world
  cases found : world.disk path with
  | none =>
      simp only [final, onFile_of_missing found, endState]
      exact Std.Refl.refl world
  | some file =>
      cases failure with
      | none =>
          simp only [final, onFile_of_found found, endState]
          exact moves file world found
      | some message => exact Std.Refl.refl world

end Rules

section Specifications

variable {ε α : Type}

@[simp] theorem final_onDb (routine : Routine String Database α) (world : World) :
    final (onDb routine) world = world.withDb (final routine world.db) :=
  final_zoom _ _ routine world

@[simp] theorem outcome_onDb (routine : Routine String Database α) (world : World) :
    outcome (onDb routine) world = outcome routine world.db :=
  outcome_zoom _ _ routine world

theorem outcome_onDb_updateTaskStatus (runs : Bool) (now : Int) (id : Nat) (status : TaskStatus)
    (errorMsg : Option String) (world : World) :
    outcome (onDb (updateTaskStatus runs now id status errorMsg)) world =
      if runs then .ok () else .error databaseError := by
  rw [outcome_onDb, outcome_updateTaskStatus]

theorem outcome_onDb_getFileById (runs : Bool) (id accountId : String) (world : World) :
    outcome (onDb (getFileById runs id accountId)) world =
      if runs then .ok (world.db.file id accountId) else .error databaseError := by
  rw [outcome_onDb, outcome_getFileById]

@[simp] theorem final_perform (effect : World → World) (world : World) :
    final (perform effect : Routine ε World Unit) world = effect world := rfl

@[simp] theorem outcome_perform (effect : World → World) (world : World) :
    outcome (perform effect : Routine ε World Unit) world = .ok () := rfl

@[simp] theorem final_readFile (failure : Option String) (path : String) (world : World) :
    final (readFile failure path) world = world := by
  cases found : world.disk path with
  | none => simp only [final, readFile, onFile_of_missing found, endState]
  | some file =>
      cases failure with
      | none => simp only [final, readFile, onFile_of_found found, endState]
      | some message => rfl

/-- Storing files on the server changes nothing else. -/
theorem store_eq (server : UploadReply) (accountId : String) (metadata : CreateFileMetadata)
    (content : List UInt8) (world : World) :
    server.store accountId metadata content world =
      { world with drive := (server.store accountId metadata content world).drive } := by
  rw [UploadReply.store]
  induction server.files generalizing world with
  | nil => rfl
  | cons file rest inductionHypothesis => exact inductionHypothesis _

@[simp] theorem db_store (server : UploadReply) (accountId : String)
    (metadata : CreateFileMetadata) (content : List UInt8) (world : World) :
    (server.store accountId metadata content world).db = world.db := by
  rw [store_eq]

@[simp] theorem disk_store (server : UploadReply) (accountId : String)
    (metadata : CreateFileMetadata) (content : List UInt8) (world : World) :
    (server.store accountId metadata content world).disk = world.disk := by
  rw [store_eq]
  rfl

@[simp] theorem requests_store (server : UploadReply) (accountId : String)
    (metadata : CreateFileMetadata) (content : List UInt8) (world : World) :
    (server.store accountId metadata content world).requests = world.requests := by
  rw [store_eq]

@[simp] theorem requests_carryOut (server : DeleteReply) (accountId fileId : String)
    (world : World) : (server.carryOut accountId fileId world).requests = world.requests := by
  simp only [DeleteReply.carryOut]
  split <;> rfl

/-- What the server answers is what the upload ends with. -/
@[simp] theorem outcome_filesUpload (accountId : String) (metadata : CreateFileMetadata)
    (content : List UInt8) (server : UploadReply) (world : World) :
    outcome (filesUpload accountId metadata content server) world = server.reply := by
  rw [filesUpload, outcome_bind_of_ok (outcome_perform _ world),
    outcome_bind_of_ok (outcome_perform _ _), outcome_received]

/-- An upload leaves a request, and what the server stored. -/
@[simp] theorem final_filesUpload (accountId : String) (metadata : CreateFileMetadata)
    (content : List UInt8) (server : UploadReply) (world : World) :
    final (filesUpload accountId metadata content server) world =
      server.store accountId metadata content
        (world.send accountId (.upload metadata content)) := by
  rw [filesUpload, final_bind_of_ok (outcome_perform _ world),
    final_bind_of_ok (outcome_perform _ _), final_received]
  rfl

@[simp] theorem outcome_filesDelete (accountId fileId : String) (server : DeleteReply)
    (world : World) : outcome (filesDelete accountId fileId server) world = server.reply := by
  rw [filesDelete, outcome_bind_of_ok (outcome_perform _ world),
    outcome_bind_of_ok (outcome_perform _ _), outcome_received]

@[simp] theorem final_filesDelete (accountId fileId : String) (server : DeleteReply)
    (world : World) :
    final (filesDelete accountId fileId server) world =
      server.carryOut accountId fileId (world.send accountId (.delete fileId)) := by
  rw [filesDelete, final_bind_of_ok (outcome_perform _ world),
    final_bind_of_ok (outcome_perform _ _), final_received]
  rfl

@[simp] theorem final_inspect (read : World → α) (world : World) :
    final (inspect read : Routine ε World α) world = world := rfl

@[simp] theorem outcome_inspect (read : World → α) (world : World) :
    outcome (inspect read : Routine ε World α) world = .ok (read world) := rfl

end Specifications

end GDriver
