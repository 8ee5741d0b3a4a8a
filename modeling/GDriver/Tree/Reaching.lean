import GDriver.Metadata.Agreement
import GDriver.Metadata.Completeness
import GDriver.Moves.Sync
import GDriver.Vfs.Directories

namespace GDriver
namespace Tree

open Library Routine Db Api Sync Vfs

/-!
# What a mount leads to

The initial sync stores for every file the id of its parent, also for the files of My Drive,
whose parent has no row.  The mount shows under its root the rows without a parent.
-/

/-- The rows that are found from the root of the mount by listings, each under its name. -/
inductive Reached (db : Database) : Row Db.DriveFile → Prop where
  | atRoot {row : Row Db.DriveFile} (listed : row ∈ Database.childrenByInode db rootInode)
      (named : Database.childNamed db rootInode row.data.name = some row) : Reached db row
  | under {directory row : Row Db.DriveFile} (above : Reached db directory)
      (listed : row ∈ Database.childrenByInode db directory.rowid)
      (named : Database.childNamed db directory.rowid row.data.name = some row) : Reached db row

/-- The file of the account with this id is reached. -/
def FileReached (db : Database) (accountId fileId : String) : Prop :=
  ∃ row ∈ db.driveFiles.rows, row.data.key = (fileId, accountId) ∧ Reached db row

/-! ## Families without an ancestor -/

/-- The ids of the files of a listing. -/
def listedIds (files : List Api.DriveFile) : List String :=
  files.map fun apiFile => apiFile.id.getD ""

/-- A listing of a Drive: every file is in the root folder or in a folder that is listed
itself, and the root folder is not listed. -/
structure ListedUnder (rootId : String) (files : List Api.DriveFile) : Prop where
  rootUnlisted : rootId ∉ listedIds files
  parents : ∀ apiFile ∈ files, ∃ parentId, apiFile.parents.bind List.head? = some parentId ∧
    (parentId = rootId ∨ parentId ∈ listedIds files)

/-- The rows with these ids have parents among them, or the one that has no row. -/
structure Detached (rootId accountId : String) (ids : List String) (db : Database) : Prop where
  rootless : db.file rootId accountId = none
  parents : ∀ fileId ∈ ids, ∀ file, db.file fileId accountId = some file →
    ∃ parentId, file.parentId = some parentId ∧ (parentId = rootId ∨ parentId ∈ ids)

theorem file_of_mem {db : Database} {row : Row Db.DriveFile} (member : row ∈ db.driveFiles.rows) :
    db.file row.data.id row.data.accountId = some row.data :=
  (db.driveFiles.mem_records_iff row.data).mp (List.mem_map_of_mem member)

/-- A child of a directory other than the root has the id of that directory's row. -/
theorem parent_of_isChildOf {db : Database} {inode : Nat} {file : Db.DriveFile}
    (child : Database.isChildOf db inode file = true) :
    inode = rootInode ∧ file.parentId = none ∨
      ∃ parent ∈ db.driveFiles.rows, parent.rowid = inode ∧ file.parentId = some parent.data.id ∧
        parent.data.accountId = file.accountId := by
  rw [Database.isChildOf] at child
  split at child
  · next atRoot => exact Or.inl ⟨atRoot, Option.isNone_iff_eq_none.mp child⟩
  · rcases List.any_eq_true.mp child with ⟨parent, member, matched⟩
    simp only [Bool.and_eq_true, decide_eq_true_eq] at matched
    exact Or.inr ⟨parent, member, matched.1.1, matched.1.2.symm, matched.2⟩

/-- A row that is listed is stored, and at the root it has no parent. -/
theorem orphan_of_listed_atRoot {db : Database} {row : Row Db.DriveFile}
    (listed : row ∈ Database.childrenByInode db rootInode) : row.data.parentId = none := by
  have child := (Database.mem_childrenByInode.mp listed).2.1
  rw [Database.isChildOf, if_pos rfl] at child
  exact Option.isNone_iff_eq_none.mp child

/-- A reached row was listed in its directory. -/
theorem Reached.stored {db : Database} {row : Row Db.DriveFile} (reached : Reached db row) :
    row ∈ db.driveFiles.rows ∧ row.data.isTrashed = false := by
  cases reached with
  | atRoot listed named =>
      have facts := Database.mem_childrenByInode.mp listed
      exact ⟨facts.1, facts.2.2⟩
  | under above listed named =>
      have facts := Database.mem_childrenByInode.mp listed
      exact ⟨facts.1, facts.2.2⟩

section Detached

variable {rootId accountId : String} {ids : List String} {db : Database}

/-- The parent of a detached row is not that of a row at the root. -/
theorem Detached.parent_of_mem (detached : Detached rootId accountId ids db) {row : Row Db.DriveFile}
    (member : row ∈ db.driveFiles.rows) (owned : row.data.accountId = accountId) (among : row.data.id ∈ ids) :
    ∃ parentId, row.data.parentId = some parentId ∧ (parentId = rootId ∨ parentId ∈ ids) := by
  have file := file_of_mem member
  rw [owned] at file
  exact detached.parents _ among _ file

/-- None of the detached rows is reached. -/
theorem Detached.not_reached (detached : Detached rootId accountId ids db) {row : Row Db.DriveFile}
    (reached : Reached db row) (owned : row.data.accountId = accountId) : row.data.id ∉ ids := by
  induction reached with
  | atRoot listed named =>
      intro among
      have stored := (Database.mem_childrenByInode.mp listed).1
      rcases detached.parent_of_mem stored owned among with ⟨parentId, parentOf, _⟩
      rw [orphan_of_listed_atRoot listed] at parentOf
      cases parentOf
  | @under directory row above listed named inductionHypothesis =>
      intro among
      rcases Database.mem_childrenByInode.mp listed with ⟨stored, child, _⟩
      rcases detached.parent_of_mem stored owned among with ⟨parentId, parentOf, known⟩
      rcases parent_of_isChildOf child with ⟨_, orphan⟩ | ⟨parent, present, place, leads, alike⟩
      · rw [orphan] at parentOf
        cases parentOf
      · rw [leads] at parentOf
        cases parentOf
        rcases known with isRoot | others
        · have found := file_of_mem present
          rw [alike, owned, isRoot, detached.rootless] at found
          cases found
        · have same : parent = directory := by
            have here := Table.rowAt_of_mem present
            rw [place, Table.rowAt_of_mem above.stored.1] at here
            exact (Option.some.inj here).symm
          subst same
          exact inductionHypothesis (alike.trans owned) others

end Detached

/-! ## The initial sync keeps them so -/

/-- A database whose rows were detached stays so. -/
def StaysDetached (rootId accountId : String) (ids : List String) (db later : Database) : Prop :=
  Detached rootId accountId ids db → Detached rootId accountId ids later

instance (rootId accountId : String) (ids : List String) :
    IsPreorder Database (StaysDetached rootId accountId ids) where
  refl _ := id
  trans _ _ _ one two := two ∘ one

section Syncing

variable {rootId accountId : String} {ids : List String}

/-- A row may be stored whose parent is among the rows, unless it is that of the root. -/
theorem stays_putFile {file : Db.DriveFile} (other : file.id ≠ rootId)
    (parents : file.id ∈ ids → ∃ parentId, file.parentId = some parentId ∧ (parentId = rootId ∨ parentId ∈ ids))
    (db : Database) : StaysDetached rootId accountId ids db (db.putFile file) := by
  intro detached
  constructor
  · rw [Database.file_putFile, if_neg fun both => other both.1.symm]
    exact detached.rootless
  · intro fileId among stored found
    rw [Database.file_putFile] at found
    split at found
    · next same =>
        cases found
        exact parents (same.1 ▸ among)
    · exact detached.parents fileId among stored found

/-- A statement on another table changes no row. -/
theorem stays_of_sameFiles {db later : Database} (same : later.driveFiles = db.driveFiles) :
    StaysDetached rootId accountId ids db later := by
  intro detached
  constructor
  · rw [Database.file, same]
    exact detached.rootless
  · intro fileId among stored found
    rw [Database.file, same] at found
    exact detached.parents fileId among stored found

/-- The listing of an initial sync stores the rows of the files it lists. -/
theorem keeps_upsertListed_of [Rfc3339] {allowed : Database → Database → Prop} [IsPreorder Database allowed]
    {accountId : String} {files : List Api.DriveFile}
    (stores : ∀ apiFile ∈ files, ∀ db : Database, allowed db (db.putFile (mapApiFileToDb apiFile accountId)))
    (upserts : Nat → Bool) : Keeps allowed (upsertListed accountId upserts files) := by
  induction files generalizing upserts with
  | nil => exact keeps_pure ()
  | cons apiFile rest inductionHypothesis =>
      refine keeps_bind (keeps_upsertFile_of _ (stores apiFile List.mem_cons_self)) fun _ => ?_
      exact inductionHypothesis (fun later member => stores later (List.mem_cons_of_mem _ member)) _

theorem keeps_listPages_of [Rfc3339] {allowed : Database → Database → Prop} [IsPreorder Database allowed]
    {accountId : String} {pages : List ListPage} {nextPageToken : Option String}
    {files : List Api.DriveFile} (ends : Metadata.listing pages nextPageToken = some files)
    (stores : ∀ apiFile ∈ files, ∀ db : Database, allowed db (db.putFile (mapApiFileToDb apiFile accountId))) :
    Keeps allowed (listPages accountId pages nextPageToken) := by
  induction pages generalizing nextPageToken files with
  | nil => exact keeps_throw stopped
  | cons page pages inductionHypothesis =>
      rw [Metadata.listing] at ends
      rw [listPages]
      cases responded : page.response nextPageToken with
      | error failure =>
          rw [responded] at ends
          cases ends
      | ok response =>
          rw [responded] at ends
          have listed : (∀ apiFile ∈ response.files, apiFile ∈ files) ∧
              ∀ token, response.nextPageToken = some token →
                ∃ rest, Metadata.listing pages (some token) = some rest ∧ ∀ apiFile ∈ rest, apiFile ∈ files := by
            cases next : response.nextPageToken with
            | none =>
                simp only [next, Option.some.injEq] at ends
                subst ends
                exact ⟨fun _ member => member, fun _ impossible => by cases impossible⟩
            | some token =>
                simp only [next, Option.map_eq_some_iff] at ends
                rcases ends with ⟨rest, ends, same⟩
                subst same
                refine ⟨fun _ member => List.mem_append_left _ member, fun other again => ?_⟩
                cases again
                exact ⟨rest, ends, fun _ member => List.mem_append_right _ member⟩
          refine keeps_bind_of_answers (keeps_received _) fun db answered received => ?_
          rw [outcome_received] at received
          cases received
          refine keeps_bind (keeps_upsertListed_of (fun apiFile member => stores apiFile (listed.1 apiFile member)) _)
            fun _ => ?_
          cases next : response.nextPageToken with
          | none => exact keeps_pure ()
          | some token =>
              rcases listed.2 token next with ⟨rest, ends, inFiles⟩
              exact inductionHypothesis ends fun apiFile member => stores apiFile (inFiles apiFile member)

/-- After an initial sync of a listing none of its rows has an ancestor. -/
theorem detached_initialSync [Rfc3339] (answers : InitialSyncAnswers) {accountId : String}
    (syncMode : SyncMode) (mountPoint : String) {rootId : String} {files : List Api.DriveFile}
    (listed : Metadata.listing answers.pages none = some files) (underRoot : ListedUnder rootId files)
    {db : Database} (detached : Detached rootId accountId (listedIds files) db) :
    Detached rootId accountId (listedIds files)
      (final (initialSync answers accountId syncMode mountPoint) db) := by
  have stores : ∀ apiFile ∈ files, ∀ db : Database, StaysDetached rootId accountId (listedIds files) db
      (db.putFile (mapApiFileToDb apiFile accountId)) := by
    intro apiFile member db
    refine stays_putFile (fun isRoot => underRoot.rootUnlisted ?_) (fun _ => underRoot.parents apiFile member) db
    rw [← isRoot]
    exact List.mem_map_of_mem member
  have mirrors : Keeps (StaysDetached rootId accountId (listedIds files))
      (enqueueMirrorDownloads answers.mirror accountId mountPoint) := by
    intro db before
    refine moves_enqueueMirrorDownloads (fun placement placed => ?_)
      (fun placement _ _ db => stays_of_sameFiles rfl) before
    have stored := stored_of_mem_placements placed
    refine stays_putFile (fun isRoot => ?_) fun among => before.parents placement.file.id among placement.file stored
    have found : db.file placement.file.id accountId = none :=
        (congrArg (db.file · accountId) isRoot).trans before.rootless
    rw [stored] at found
    cases found
  have goes : Keeps (StaysDetached rootId accountId (listedIds files))
      (initialSync answers accountId syncMode mountPoint) := by
    refine keeps_bind (keeps_received _) fun pageToken => keeps_bind (fun db => ?_) fun _ =>
      keeps_bind (keeps_listPages_of listed stores) fun _ => ?_
    · rw [final_setToken]
      split
      · exact stays_of_sameFiles rfl
      · exact id
    · split
      · exact keeps_bind mirrors fun _ => keeps_pure ()
      · exact keeps_pure ()
  exact goes db detached

end Syncing

/-! ## After the initial sync -/

/-- No row of the account is stored yet under the id of the root folder or of a listed file. -/
def NewTo (rootId : String) (files : List Api.DriveFile) (accountId : String) (db : Database) : Prop :=
  ∀ fileId, fileId = rootId ∨ fileId ∈ listedIds files → db.file fileId accountId = none

/-- No file of a listing is reached after the initial sync. -/
theorem not_fileReached_initialSync [Rfc3339] (answers : InitialSyncAnswers) {accountId : String}
    (syncMode : SyncMode) (mountPoint : String) {rootId : String} {files : List Api.DriveFile}
    (listed : Metadata.listing answers.pages none = some files) (underRoot : ListedUnder rootId files)
    {db : Database} (new : NewTo rootId files accountId db) {fileId : String} (among : fileId ∈ listedIds files) :
    ¬ FileReached (final (initialSync answers accountId syncMode mountPoint) db) accountId fileId := by
  have detached : Detached rootId accountId (listedIds files) db := by
    refine ⟨new rootId (Or.inl rfl), fun other listed file found => ?_⟩
    rw [new other (Or.inr listed)] at found
    cases found
  rintro ⟨row, member, key, reached⟩
  have named : row.data.id = fileId := congrArg Prod.fst key
  refine (detached_initialSync answers syncMode mountPoint listed underRoot detached).not_reached reached
    (congrArg Prod.snd key) ?_
  rw [named]
  exact among

/-- Every file of a listing is reached after the initial sync only if there is none to reach. -/
theorem all_reached_iff_all_trashed [Rfc3339] (answers : InitialSyncAnswers) (accountId : String)
    (syncMode : SyncMode) (mountPoint : String) {rootId : String} {files : List Api.DriveFile}
    (listed : Metadata.listing answers.pages none = some files) (underRoot : ListedUnder rootId files)
    {db : Database} (new : NewTo rootId files accountId db) :
    (∀ apiFile ∈ files, apiFile.trashed.getD false = false →
        FileReached (final (initialSync answers accountId syncMode mountPoint) db) accountId
          (apiFile.id.getD "")) ↔
      ∀ apiFile ∈ files, apiFile.trashed.getD false = true := by
  constructor
  · intro reached apiFile member
    by_contra kept
    refine not_fileReached_initialSync answers syncMode mountPoint listed underRoot new ?_
      (reached apiFile member (Bool.eq_false_iff.mpr kept))
    exact List.mem_map_of_mem member
  · intro trashed apiFile member kept
    rw [trashed apiFile member] at kept
    cases kept

/-- The notes in My Drive. -/
def notesInMyDrive : Api.DriveFile :=
  { Api.DriveFile.named "notes" "notes.txt" with parents := some ["root-id"] }

/-- A connection that lists the notes and nothing else. -/
def listsNotesInMyDrive : InitialSyncAnswers where
  startPageToken := .ok "1"
  setsToken := true
  now := 1
  pages := [⟨fun _ => .ok ⟨[notesInMyDrive], none, none⟩, fun _ => true⟩]
  mirror := MirrorAnswers.allRun 1 1

theorem listsNotes_underRoot : Metadata.listing listsNotesInMyDrive.pages none = some [notesInMyDrive] ∧
    ListedUnder "root-id" [notesInMyDrive] ∧
      NewTo "root-id" [notesInMyDrive] "ann@example.com" Metadata.annsDatabase := by
  refine ⟨rfl, ⟨by decide, fun apiFile member => ?_⟩, fun fileId _ => rfl⟩
  rw [List.mem_singleton.mp member]
  exact ⟨"root-id", rfl, Or.inl rfl⟩

/-- The notes are listed, stored and not reached. -/
theorem notes_not_reached :
    ¬ (∀ apiFile ∈ [notesInMyDrive], apiFile.trashed.getD false = false →
        FileReached (final (@initialSync untimed listsNotesInMyDrive "ann@example.com" .stream "/mnt")
          Metadata.annsDatabase) "ann@example.com" (apiFile.id.getD "")) ∧
      ((final (@initialSync untimed listsNotesInMyDrive "ann@example.com" .stream "/mnt")
        Metadata.annsDatabase).file "notes" "ann@example.com").isSome = true := by
  refine ⟨fun reached => ?_, by decide⟩
  exact @not_fileReached_initialSync untimed listsNotesInMyDrive "ann@example.com" .stream "/mnt" "root-id" _
    listsNotes_underRoot.1 listsNotes_underRoot.2.1 _ listsNotes_underRoot.2.2 "notes" List.mem_cons_self
    (reached notesInMyDrive List.mem_cons_self rfl)

theorem all_reached_iff_of_notes :
    (∀ apiFile ∈ [notesInMyDrive], apiFile.trashed.getD false = false →
        FileReached (final (@initialSync untimed listsNotesInMyDrive "ann@example.com" .stream "/mnt")
          Metadata.annsDatabase) "ann@example.com" (apiFile.id.getD "")) ↔
      ∀ apiFile ∈ [notesInMyDrive], apiFile.trashed.getD false = true :=
  @all_reached_iff_all_trashed untimed listsNotesInMyDrive "ann@example.com" .stream "/mnt" "root-id" _
    listsNotes_underRoot.1 listsNotes_underRoot.2.1 _ listsNotes_underRoot.2.2

end Tree
end GDriver
