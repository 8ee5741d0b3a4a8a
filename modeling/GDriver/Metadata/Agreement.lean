import GDriver.Api.Fields
import GDriver.Metadata.Writes

namespace GDriver
namespace Metadata

open Library Routine Db Api Sync

/-!
# The same file in both syncs

Both syncs map the answer of the server with one function, but they ask for different
fields.  A listing names whether a file is shared, a poll for changes does not, so the
rows agree exactly for files that are not shared.
-/

/-- The columns of a row that describe the file as it is on the server. -/
structure RemoteColumns where
  name : String
  mimeType : String
  parentId : Option String
  size : Option Int
  version : Option Int
  modifiedTime : Option Int
  isTrashed : Bool
  isShared : Bool
  deriving DecidableEq, Repr

def remoteColumns (file : Db.DriveFile) : RemoteColumns where
  name := file.name
  mimeType := file.mimeType
  parentId := file.parentId
  size := file.size
  version := file.version
  modifiedTime := file.modifiedTime
  isTrashed := file.isTrashed
  isShared := file.isShared

/-- A change that reports a file as it is on the server. -/
def changeOf (removed : Option Bool) (remote : Api.DriveFile) : Change where
  fileId := remote.id
  removed := removed
  file := some (remote.only changeFields)

section Rows

variable [Rfc3339] {accountId fileId : String} {remote : Api.DriveFile}

/-- The row that a poll for changes writes. -/
theorem file_processChange {answers : ProcessChangeAnswers} {db : Database} {removed : Option Bool}
    (named : remote.id = some fileId) (present : removed.getD false = false)
    (looksUp : answers.looksUp = true) (upserts : answers.upserts = true)
    (stored : db.hasAccount accountId = true) (syncMode : SyncMode) (mountPoint : String) :
    (final (processChange answers accountId (changeOf removed remote) syncMode mountPoint) db).file
        fileId accountId =
      some (mapApiFileToDb (remote.only changeFields) accountId) := by
  have spec := processChange_spec answers accountId (changeOf removed remote) syncMode mountPoint db
  have accepts : db.acceptsFile (mapApiFileToDb (remote.only changeFields) accountId) = true := by
    rw [Database.acceptsFile, mapApiFileToDb_accountId, stored, Bool.or_true]
  have written : changeWritten answers accountId (changeOf removed remote) db =
      db.putFile (mapApiFileToDb (remote.only changeFields) accountId) := by
    rw [changeWritten, changeWrite_of_record named present rfl]
    dsimp only
    rw [writeRuns_store, looksUp, upserts, accepts]
    rfl
  have here : (mapApiFileToDb (remote.only changeFields) accountId).id = fileId := by
    rw [mapApiFileToDb_id]
    exact congrArg (Option.getD · "") named
  rw [Database.file, spec.writes.driveFiles, written]
  exact (Database.file_putFile _ _ _ _).trans (if_pos ⟨here.symm, rfl⟩)

/-- The row that the upserts of a listed page write. -/
theorem file_upsertListed {listed : Api.DriveFile} (here : listed.id.getD "" = fileId)
    {files : List Api.DriveFile} (once : ∀ other ∈ files, other.id.getD "" = fileId → other = listed)
    {upserts : Nat → Bool} (executed : (List.range files.length).all upserts = true) {db : Database}
    (stored : db.hasAccount accountId = true)
    (found : listed ∈ files ∨ db.file fileId accountId = some (mapApiFileToDb listed accountId)) :
    (final (upsertListed accountId upserts files) db).file fileId accountId =
      some (mapApiFileToDb listed accountId) := by
  induction files generalizing upserts db with
  | nil =>
      rcases found with member | before
      · cases member
      · exact before
  | cons apiFile rest inductionHypothesis =>
      rcases upsertListed_cons executed stored with ⟨restRuns, _, leaves⟩
      have storedLater : (db.putFile (mapApiFileToDb apiFile accountId)).hasAccount accountId = true :=
        stored
      rw [leaves]
      apply inductionHypothesis (fun other member => once other (List.mem_cons_of_mem _ member)) restRuns
        storedLater
      by_cases same : apiFile = listed
      · refine Or.inr ?_
        rw [same]
        exact (Database.file_putFile _ _ _ _).trans (if_pos ⟨here.symm, rfl⟩)
      · rcases found with member | before
        · exact Or.inl ((List.mem_cons.mp member).resolve_left fun equal => same equal.symm)
        · refine Or.inr ((Database.file_putFile _ _ _ _).trans ?_)
          rw [if_neg]
          · exact before
          · intro both
            exact same (once apiFile List.mem_cons_self both.1.symm)

/-- The two rows differ in whether the file is shared, and only there. -/
theorem remoteColumns_agree_iff (remote : Api.DriveFile) (accountId : String) :
    remoteColumns (mapApiFileToDb (remote.only changeFields) accountId) =
        remoteColumns (mapApiFileToDb (remote.only defaultFileFields) accountId) ↔
      remote.shared ≠ some true := by
  have changed : remoteColumns (mapApiFileToDb (remote.only changeFields) accountId) =
      { remoteColumns (mapApiFileToDb remote accountId) with isShared := false } := rfl
  have listed : remoteColumns (mapApiFileToDb (remote.only defaultFileFields) accountId) =
      remoteColumns (mapApiFileToDb remote accountId) := rfl
  rw [changed, listed]
  constructor
  · intro same shared
    have flags := congrArg RemoteColumns.isShared same
    simp only [remoteColumns, mapApiFileToDb, shared] at flags
    cases flags
  · intro unshared
    have flag : (mapApiFileToDb remote accountId).isShared = false := by
      cases shared : remote.shared with
      | none => simp only [mapApiFileToDb, shared, Option.getD_none]
      | some value =>
          cases value with
          | true => exact absurd shared unshared
          | false => simp only [mapApiFileToDb, shared, Option.getD_some]
    simp only [remoteColumns, flag]

/-- The row that a poll for changes writes for a file and the one that a listing writes agree
in what they say of the server's side, exactly when the file is not shared. -/
theorem syncs_agree_iff (named : remote.id = some fileId) {removed : Option Bool}
    (present : removed.getD false = false) {answers : ProcessChangeAnswers}
    (looksUp : answers.looksUp = true) (writes : answers.upserts = true) (syncMode : SyncMode)
    (mountPoint : String) {polled : Database} (known : polled.hasAccount accountId = true)
    {files : List Api.DriveFile} (listed : remote.only defaultFileFields ∈ files)
    (once : ∀ other ∈ files, other.id.getD "" = fileId → other = remote.only defaultFileFields)
    {upserts : Nat → Bool} (executed : (List.range files.length).all upserts = true)
    {initial : Database} (stored : initial.hasAccount accountId = true) :
    ((final (processChange answers accountId (changeOf removed remote) syncMode mountPoint) polled).file
        fileId accountId).map remoteColumns =
      ((final (upsertListed accountId upserts files) initial).file fileId accountId).map remoteColumns ↔
        remote.shared ≠ some true := by
  have here : (remote.only defaultFileFields).id.getD "" = fileId := congrArg (Option.getD · "") named
  rw [file_processChange named present looksUp writes known,
    file_upsertListed here once executed stored (Or.inl listed), Option.map_some, Option.map_some,
    Option.some_inj]
  exact remoteColumns_agree_iff remote accountId

end Rows

/-- Notes that are shared with others, as they are on the server. -/
def sharedNotes : Api.DriveFile :=
  { Api.DriveFile.named "notes" "notes.txt" with shared := some true }

/-- A database with one account. -/
def annsDatabase : Database :=
  final (insertAccount true ⟨"ann@example.com", "ann@example.com", 0⟩) Database.fresh

/-- Notes that are not shared get the same row from both syncs. -/
theorem syncs_agree_of_unshared :
    ((final (@processChange untimed (ProcessChangeAnswers.allRun 1) "ann@example.com"
        (changeOf none (Api.DriveFile.named "notes" "notes.txt")) .stream "/mnt") annsDatabase).file
        "notes" "ann@example.com").map remoteColumns =
      ((final (@upsertListed untimed "ann@example.com" (fun _ => true)
        [(Api.DriveFile.named "notes" "notes.txt").only defaultFileFields]) annsDatabase).file
        "notes" "ann@example.com").map remoteColumns :=
  (@syncs_agree_iff untimed "ann@example.com" "notes" (Api.DriveFile.named "notes" "notes.txt") rfl none
    rfl (ProcessChangeAnswers.allRun 1) rfl rfl .stream "/mnt" annsDatabase (by decide)
    [(Api.DriveFile.named "notes" "notes.txt").only defaultFileFields] List.mem_cons_self
    (fun _ member _ => List.mem_singleton.mp member) (fun _ => true) rfl annsDatabase (by decide)).mpr
      (by decide)

/-- The row of shared notes says that they are not shared after a poll for changes. -/
theorem poll_unshares_notes :
    ((final (@processChange untimed (ProcessChangeAnswers.allRun 1) "ann@example.com"
        (changeOf none sharedNotes) .stream "/mnt") annsDatabase).file
        "notes" "ann@example.com").map Db.DriveFile.isShared = some false ∧
      ((final (@upsertListed untimed "ann@example.com" (fun _ => true)
        [sharedNotes.only defaultFileFields]) annsDatabase).file
        "notes" "ann@example.com").map Db.DriveFile.isShared = some true := by
  decide

end Metadata
end GDriver
