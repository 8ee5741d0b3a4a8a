import GDriver.Sync.Incremental

namespace GDriver
namespace Sync

open Library Routine Db Api

/-!
# Initial sync

Run once for an account after it is connected: store the start page token,
then list all files page by page and upsert a row for each, and in Mirror
mode give every file without one a local path and a download task.
-/

/-- Walk the parent chain of a file, collecting names from the file upwards.
The walk ends at an unknown id or at a row without a parent; none when it has
not ended after the given number of steps. -/
def ancestorNames (nameMap : String → Option (String × Option String)) :
    Nat → String → List String → Option (List String)
  | 0, _, _ => none
  | steps + 1, currentId, segments =>
      match nameMap currentId with
      | none => some segments
      | some (name, none) => some (segments ++ [name])
      | some (name, some parentId) => ancestorNames nameMap steps parentId (segments ++ [name])

/-- Build the relative path of a file from its parent chain. -/
def resolveRelativePath (steps : Nat) (fileId : String)
    (nameMap : String → Option (String × Option String)) : Option String :=
  (ancestorNames nameMap steps fileId []).map fun segments => join "/" segments.reverse

/-- What one `enqueueMirrorDownloads` meets.  `steps` bounds how far the
daemon gets in any one walk before it is stopped. -/
structure MirrorAnswers where
  listsFiles : Bool
  upserts : Nat → Bool
  enqueues : Nat → Bool
  steps : Nat
  now : Int

/-- Every statement is executed and the daemon is not stopped within a walk
of this many steps. -/
def MirrorAnswers.allRun (steps : Nat) (now : Int) : MirrorAnswers where
  listsFiles := true
  upserts := fun _ => true
  enqueues := fun _ => true
  steps := steps
  now := now

/-- Whether the file gets a path and a download task in Mirror mode. -/
def needsMirroring (folders : List String) (file : Db.DriveFile) : Bool :=
  !folders.contains file.id &&
    (file.syncState != .cached && file.syncState != .synced && file.syncState != .offline &&
      file.syncState != .downloading) &&
    file.localPath.isNone

/-- Give the files of the list their paths and download tasks, one by one. -/
def mirrorFiles (answers : MirrorAnswers) (accountId mountPoint : String) (folders : List String)
    (nameMap : String → Option (String × Option String)) :
    Nat → List Db.DriveFile → Routine String Database Nat
  | _, [] => pure 0
  | index, file :: rest =>
      if needsMirroring folders file then
        match resolveRelativePath answers.steps file.id nameMap with
        | none => throw stopped
        | some relativePath => do
            let localPath := trimEndMatches mountPoint '/' ++ "/" ++ relativePath
            upsertFile (answers.upserts index) { file with localPath := some localPath }
            let enqueued ← observe (enqueue (answers.enqueues index)
              (pendingTask answers.now accountId (some file.id) .download (some localPath) 5))
            let count ←
              mirrorFiles answers accountId mountPoint folders nameMap (index + 1) rest
            match enqueued with
            | .ok _ => pure (count + 1)
            | .error _ => pure count
      else mirrorFiles answers accountId mountPoint folders nameMap (index + 1) rest

/-- The non-trashed files of an account, in scan order. -/
def Database.filesOfAccount (db : Database) (accountId : String) : List Db.DriveFile :=
  db.driveFiles.records.filter fun file => file.accountId = accountId && !file.isTrashed

/-- The name and parent of each listed file, under its id. -/
def nameMapOf (files : List Db.DriveFile) (id : String) : Option (String × Option String) :=
  (files.reverse.find? fun file => file.id = id).map fun file => (file.name, file.parentId)

/-- Enqueue download tasks for every non-folder, non-trashed file that is not
yet present locally. -/
def enqueueMirrorDownloads (answers : MirrorAnswers) (accountId mountPoint : String) :
    Routine String Database Nat := do
  let allFiles ← select answers.listsFiles fun db => Database.filesOfAccount db accountId
  let folders := (allFiles.filter Db.DriveFile.isFolder).map Db.DriveFile.id
  mirrorFiles answers accountId mountPoint folders (nameMapOf allFiles) 0 allFiles

/-- One turn of the listing loop. -/
structure ListPage where
  response : Option String → Except String FileListResponse
  upserts : Nat → Bool

/-- Upsert the files of one page.  The first error ends the sync. -/
def upsertListed [Rfc3339] (accountId : String) :
    (Nat → Bool) → List Api.DriveFile → Routine String Database Unit
  | _, [] => pure ()
  | upserts, apiFile :: rest => do
      upsertFile (upserts 0) (mapApiFileToDb apiFile accountId)
      upsertListed accountId (fun index => upserts (index + 1)) rest

/-- When the statements of a page are executed, the first one stores its row and the others follow. -/
theorem upsertListed_cons [Rfc3339] {accountId : String} {upserts : Nat → Bool} {apiFile : Api.DriveFile}
    {rest : List Api.DriveFile} (executed : (List.range (apiFile :: rest).length).all upserts = true) {db : Database}
    (stored : db.hasAccount accountId = true) :
    (List.range rest.length).all (fun index => upserts (index + 1)) = true ∧
      outcome (upsertListed accountId upserts (apiFile :: rest)) db =
        outcome (upsertListed accountId (fun index => upserts (index + 1)) rest)
          (db.putFile (mapApiFileToDb apiFile accountId)) ∧
      final (upsertListed accountId upserts (apiFile :: rest)) db =
        final (upsertListed accountId (fun index => upserts (index + 1)) rest)
          (db.putFile (mapApiFileToDb apiFile accountId)) := by
  have runs (index : Nat) (bound : index < rest.length + 1) : upserts index = true :=
    List.all_eq_true.mp executed index (List.mem_range.mpr bound)
  have accepted : (upserts 0 && db.acceptsFile (mapApiFileToDb apiFile accountId)) = true := by
    rw [Database.acceptsFile, runs 0 (Nat.succ_pos _), mapApiFileToDb_accountId, stored,
      Bool.or_true, Bool.and_self]
  have upserting := outcome_upsertFile (upserts 0) db (mapApiFileToDb apiFile accountId)
  rw [if_pos accepted] at upserting
  refine ⟨?_, ?_, ?_⟩
  · rw [List.all_eq_true]
    intro index member
    exact runs (index + 1) (Nat.succ_lt_succ (List.mem_range.mp member))
  · rw [upsertListed, outcome_bind_of_ok upserting, final_upsertFile, if_pos accepted]
  · rw [upsertListed, final_bind_of_ok upserting, final_upsertFile, if_pos accepted]

/-- Paginate through all files. -/
def listPages [Rfc3339] (accountId : String) :
    List ListPage → Option String → Routine String Database Unit
  | [], _ => throw stopped
  | page :: pages, nextPageToken => do
      let response ← received (page.response nextPageToken)
      upsertListed accountId page.upserts response.files
      match response.nextPageToken with
      | some token => listPages accountId pages (some token)
      | none => pure ()

/-- What one initial sync meets. -/
structure InitialSyncAnswers where
  startPageToken : Except String String
  setsToken : Bool
  now : Int
  pages : List ListPage
  mirror : MirrorAnswers

/-- Run the initial full sync for a newly authenticated account. -/
def initialSync [Rfc3339] (answers : InitialSyncAnswers) (accountId : String)
    (syncMode : SyncMode) (mountPoint : String) : Routine String Database Unit := do
  let pageToken ← received answers.startPageToken
  setToken answers.setsToken answers.now accountId pageToken
  listPages accountId answers.pages none
  if syncMode = .mirror then
    let _ ← enqueueMirrorDownloads answers.mirror accountId mountPoint
    pure ()
  else pure ()

end Sync
end GDriver
