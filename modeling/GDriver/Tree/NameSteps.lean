import GDriver.Tree.Calls
import GDriver.Tree.Names

namespace GDriver
namespace Tree

open Library Routine Db Vfs Sync Local

/-!
# Who gives names

The syncs store what Drive has, where several files of one folder may have one name, and accounts share
the root.  In the mount files are created, folders made, and both are renamed.  Each of these stores at
most one record that is new in its name or its place.
-/

/-- A step after which a directory may have other names in it. -/
inductive TreeStep where
  | sync (work : SyncWork)
  | create (cacheDir : String) (answers : CallbackAnswers) (parent : Nat) (name : Option String)
  | mkdir (answers : CallbackAnswers) (parent : Nat) (name : Option String)
  | rename (answers : CallbackAnswers) (parent : Nat) (name : Option String) (newParent : Nat)
      (newName : Option String)

/-- The record, if it can be inserted. -/
def TreeStep.inserted (db : Database) (runs : Bool) (file : DriveFile) : Option DriveFile :=
  if runs && (db.file file.id file.accountId).isNone && db.hasAccount file.accountId then some file else none

theorem givesNames_insertFile {db : Database} (runs : Bool) (file : DriveFile) :
    GivesNames (TreeStep.inserted db runs file) db (final (insertFile runs file) db) := by
  rw [final_insertFile, TreeStep.inserted]
  split
  · exact puts_putFile db file
  · exact Thins.refl db

section Steps

variable [Api.Rfc3339]

namespace TreeStep

def exec (world : World) : TreeStep → World
  | sync work => world.withDb (final work.run world.db)
  | create cacheDir answers parent name => final (Vfs.create answers cacheDir parent name) world
  | mkdir answers parent name => final (Vfs.mkdir answers parent name) world
  | rename answers parent name newParent newName => final (Vfs.rename answers parent name newParent newName) world

/-- The record that a sync stores from Drive. -/
def synced (db : Database) : SyncWork → Option DriveFile
  | .listed runs accountId apiFile =>
      if runs && db.acceptsFile (Api.mapApiFileToDb apiFile accountId) then
        some (Api.mapApiFileToDb apiFile accountId)
      else none
  | .change answers accountId reported _ _ =>
      match Metadata.changeWrite accountId reported with
      | some (.store file) => if Metadata.writeRuns answers db (.store file) then some file else none
      | _ => none
  | _ => none

/-- The record that the step stores: an entry of Drive, a new row, or a row with its new name and place. -/
def stored (world : World) : TreeStep → Option DriveFile
  | sync work => synced world.db work
  | create cacheDir answers parent name => do
      let owner ← createdFor answers parent name world
      inserted world.db (answers.runs 2) (createdRow cacheDir answers owner (← name))
  | mkdir answers parent name => do
      let owner ← madeFor answers parent name world
      inserted world.db (answers.runs 3) (madeRow answers owner (← name))
  | rename answers parent name newParent newName => do
      let row ← renamedRow answers parent name newParent newName world
      let newParentId ← newDirectory (answers.runs 4) newParent world
      return moved answers.now (← newName) newParentId row.data

end TreeStep

variable {world : World} {db : Database}

theorem givesNames_change (answers : ProcessChangeAnswers) (accountId : String) (reported : Api.Change)
    (syncMode : SyncMode) (mountPoint : String) :
    GivesNames (TreeStep.synced db (.change answers accountId reported syncMode mountPoint)) db
      (final (processChange answers accountId reported syncMode mountPoint) db) := by
  have writes := (Metadata.processChange_spec answers accountId reported syncMode mountPoint db).writes.driveFiles
  refine GivesNames.of_same writes ?_
  rw [TreeStep.synced]
  cases asked : Metadata.changeWrite accountId reported with
  | none =>
      rw [Metadata.changeWritten_of_not_asked asked]
      exact Thins.refl db
  | some write =>
      rw [Metadata.changeWritten_of_asked asked]
      cases write with
      | store file =>
          dsimp only
          split
          · exact puts_putFile db file
          · exact Thins.refl db
      | trash fileId owner =>
          dsimp only
          split
          · have rows : RowsFrom (fun file => ∃ row, db.Holds row ∧ file = row.trashed) db
                ((Metadata.FileWrite.trash fileId owner).apply db) :=
              rowsFrom_updateFileAt fun row found => ⟨row, (Database.holds_of_file found).1, rfl⟩
            refine thins_of_rowsFrom rows fun file trashed => ?_
            rcases trashed with ⟨row, held, same⟩
            rw [same]
            exact ⟨row, held, rfl, fun impossible => by cases impossible⟩
          · exact Thins.refl db

theorem givesNames_sync (work : SyncWork) :
    GivesNames (TreeStep.synced db work) db (final work.run db) := by
  cases work with
  | connect runs account => exact thins_of_rowsFrom (rowsFrom_sync _ db) fun _ stores => stores.elim
  | disconnect runs accountId => exact thins_of_rowsFrom (rowsFrom_sync _ db) fun _ stores => stores.elim
  | storeToken runs now accountId token => exact thins_of_rowsFrom (rowsFrom_sync _ db) fun _ stores => stores.elim
  | listed runs accountId apiFile =>
      rw [SyncWork.run, final_upsertFile, TreeStep.synced]
      by_cases stores : (runs && db.acceptsFile (Api.mapApiFileToDb apiFile accountId)) = true
      · rw [if_pos stores, if_pos stores]
        exact puts_putFile db _
      · rw [if_neg stores, if_neg stores]
        exact Thins.refl db
  | change answers accountId reported syncMode mountPoint =>
      exact givesNames_change answers accountId reported syncMode mountPoint
  | mirror answers accountId mountPoint =>
      refine thins_of_rowsFrom (rowsFrom_sync _ db) fun file stores => ?_
      rcases stores with ⟨placement, placed, same⟩
      rcases Database.holds_of_file (stored_of_mem_placements placed) with ⟨held, _⟩
      rw [same]
      exact ⟨placement.file, held, rfl, fun live => ⟨live, rfl, rfl⟩⟩
  | resetMirror runs accountId =>
      refine thins_of_rowsFrom (rowsFrom_sync _ db) fun file stores => ?_
      rcases stores with ⟨_, row, held, same⟩
      rw [same]
      exact ⟨row, held, rfl, fun live => ⟨live, rfl, rfl⟩⟩

theorem givesNames_exec (step : TreeStep) : GivesNames (step.stored world) world.db (step.exec world).db := by
  cases step with
  | sync work => exact givesNames_sync work
  | create cacheDir answers parent name =>
      rw [TreeStep.stored, TreeStep.exec]
      cases created : createdFor answers parent name world with
      | none =>
          rw [final_create_of_none created]
          exact Thins.refl world.db
      | some owner =>
          rcases @driveFiles_create _ _ cacheDir _ _ _ created with ⟨newName, named, _, same⟩
          subst named
          exact GivesNames.of_same same (givesNames_insertFile _ _)
  | mkdir answers parent name =>
      rw [TreeStep.stored, TreeStep.exec]
      cases made : madeFor answers parent name world with
      | none =>
          rw [final_mkdir_of_none made]
          exact Thins.refl world.db
      | some owner =>
          rcases driveFiles_mkdir made with ⟨newName, named, _, same⟩
          subst named
          exact GivesNames.of_same same (givesNames_insertFile _ _)
  | rename answers parent name newParent newName =>
      rw [TreeStep.stored, TreeStep.exec]
      cases found : renamedRow answers parent name newParent newName world with
      | none =>
          rw [final_rename_of_none found]
          exact Thins.refl world.db
      | some row =>
          rcases of_renamedRow found with ⟨_, member, _⟩
          rcases driveFiles_rename found with ⟨wanted, newParentId, named, directory, same⟩
          subst named
          rw [directory]
          exact GivesNames.of_same same (puts_changedAt member)

end Steps

/-! ## The number of the root stays free -/

/-- No row gets the number of the root. -/
def StaysNumbered (db later : Database) : Prop :=
  Numbered db → Numbered later

section Numbers

instance : IsPreorder Database StaysNumbered where
  refl _ numbered := numbered
  trans _ _ _ one two numbered := two (one numbered)

def StaysNumberedIn (world later : World) : Prop :=
  StaysNumbered world.db later.db

instance : IsPreorder World StaysNumberedIn where
  refl _ numbered := numbered
  trans _ _ _ one two numbered := two (one numbered)

theorem staysNumbered_of_same {db later : Database} (same : later.driveFiles = db.driveFiles) :
    StaysNumbered db later :=
  (numbered_congr same).mpr

theorem staysNumbered_updateFiles (db : Database) (selected : Row DriveFile → Bool) (change : DriveFile → DriveFile)
    (keeps : ∀ file, (change file).key = file.key) : StaysNumbered db (db.updateFiles selected change keeps) := by
  intro numbered row member
  rcases List.mem_map.mp member with ⟨before, stored, same⟩
  rw [← same]
  split
  · exact numbered before stored
  · exact numbered before stored

theorem staysNumbered_putFile (db : Database) (file : DriveFile) : StaysNumbered db (db.putFile file) := by
  intro numbered
  cases there : db.file file.id file.accountId with
  | none => exact numbered_putFile there numbered
  | some before =>
      rcases Database.holds_of_file there with ⟨held, sameId, sameAccount⟩
      have rows : (db.putFile file).driveFiles.rows = db.driveFiles.rows.map fun row =>
          if row.data.key = file.key then { row with data := file } else row :=
        KeyedTable.rows_upsert_of_mem ((db.driveFiles.mem_records_iff before).mpr held)
          (Prod.ext sameId sameAccount)
      intro row member
      rw [rows] at member
      rcases List.mem_map.mp member with ⟨stored, inside, same⟩
      rw [← same]
      split
      · exact numbered stored inside
      · exact numbered stored inside

theorem allowsEdits_staysNumbered : AllowsEdits StaysNumbered where
  enqueues db task _ := staysNumbered_of_same (Database.driveFiles_putTask db task)
  inserts db _ _ _ _ _ _ _ _ := staysNumbered_putFile db _
  updates db selected change keeps _ := staysNumbered_updateFiles db selected change keeps

theorem allowsCallbacks_staysNumbered : AllowsCallbacks StaysNumbered StaysNumberedIn where
  lifts _ _ stays := stays
  disk _ _ _ numbered := numbered
  opens _ _ numbered := numbered
  releases _ _ numbered := numbered

variable [Api.Rfc3339]

theorem staysNumbered_sync (work : SyncWork) : Keeps StaysNumbered work.run := by
  intro db
  cases work with
  | connect runs account =>
      rw [SyncWork.run, final_insertAccount]
      split
      · exact staysNumbered_of_same rfl
      · exact Std.Refl.refl db
  | disconnect runs accountId =>
      rw [SyncWork.run, deleteAccount, final_execute]
      split
      · exact fun numbered row member => numbered row (List.mem_of_mem_filter member)
      · exact Std.Refl.refl db
  | storeToken runs now accountId token =>
      rw [SyncWork.run, final_setToken]
      split
      · exact staysNumbered_of_same rfl
      · exact Std.Refl.refl db
  | listed runs accountId apiFile => exact keeps_upsertFile_of runs (fun db => staysNumbered_putFile db _) db
  | change answers accountId reported syncMode mountPoint =>
      refine keeps_processChange_of (fun _ _ _ db => ?_) (fun _ _ _ db => ?_) (fun _ _ _ db => ?_)
        (fun _ _ _ _ _ db => ?_) db
      · exact staysNumbered_updateFiles db _ _ _
      · exact staysNumbered_of_same (Database.driveFiles_putTask db _)
      · exact staysNumbered_putFile db _
      · exact staysNumbered_of_same (Database.driveFiles_putTask db _)
  | mirror answers accountId mountPoint =>
      rw [SyncWork.run, final_attempt]
      refine moves_enqueueMirrorDownloads (fun _ _ db => staysNumbered_putFile db _) fun _ _ _ db => ?_
      exact staysNumbered_of_same (Database.driveFiles_putTask db _)
  | resetMirror runs accountId =>
      have updates (db : Database) := staysNumbered_updateFiles db
      exact @keeps_execute runs StaysNumbered inferInstance _ (fun db => updates db _ _ _) db

theorem staysNumbered_exec (world : World) (step : TreeStep) : StaysNumberedIn world (step.exec world) := by
  have callback (cacheDir : String) (answers : CallbackAnswers) (callback : Callback) :
      StaysNumberedIn world (final (callback.run cacheDir answers) world) :=
    keeps_callback allowsEdits_staysNumbered allowsCallbacks_staysNumbered cacheDir answers callback world
  cases step with
  | sync work => exact staysNumbered_sync work world.db
  | create cacheDir answers parent name =>
      have keeps := callback cacheDir answers (.create parent name)
      rw [Callback.run, final_attempt] at keeps
      exact keeps
  | mkdir answers parent name =>
      have keeps := callback "" answers (.mkdir parent name)
      rw [Callback.run, final_attempt] at keeps
      exact keeps
  | rename answers parent name newParent newName => exact callback "" answers (.rename parent name newParent newName)

end Numbers

/-! ## Runs -/

section Runs

variable [Api.Rfc3339]

/-- A step leaves the names unique exactly when the record that it stores has a free name. -/
theorem namesUnique_exec_iff {world : World} (unique : NamesUnique world.db) (step : TreeStep) :
    NamesUnique (step.exec world).db ↔ ∀ record, step.stored world = some record → NameFree world.db record := by
  have gives := @givesNames_exec _ world step
  cases stores : step.stored world with
  | none =>
      rw [stores] at gives
      exact iff_of_true (Thins.namesUnique gives unique) fun record impossible => by cases impossible
  | some record =>
      rw [stores] at gives
      rw [namesUnique_iff_nameFree gives unique]
      constructor
      · intro free other same
        cases same
        exact free
      · exact fun free => free record rfl

/-- In every run of the syncs and of calls that create, make and rename, all children of all directories
are found by their names throughout exactly when every record that is stored has a free name. -/
theorem names_resolve_iff (steps : List TreeStep) :
    Throughout TreeStep.exec (fun world => Resolvable world.db) steps (World.around Database.fresh) ↔
      Along TreeStep.exec (fun world step => ∀ record, step.stored world = some record → NameFree world.db record)
        steps (World.around Database.fresh) := by
  refine @throughout_iff_along _ _ _ _ (fun world : World => Numbered world.db) _ ?_ ?_ _ ?_ ?_ steps
  · exact fun world step numbered => staysNumbered_exec world step numbered
  · intro world step numbered resolvable
    rw [resolvable_iff (staysNumbered_exec world step numbered)]
    exact namesUnique_exec_iff ((resolvable_iff numbered).mp resolvable) step
  · intro row member
    cases member
  · constructor
    · intro directory one member
      cases (Database.mem_childrenByInode.mp member).1
    · intro directory one member
      cases (Database.mem_childrenByInode.mp member).1

end Runs

/-- A user creates two files of one name in the root of the mount. -/
def createsNotesTwice : List TreeStep :=
  [.sync (.connect true ⟨"ann@example.com", "ann@example.com", 0⟩),
    .create "/cache" (.allRun 5 1) rootInode (some "notes.txt"),
    .create "/cache" (.allRun 6 2) rootInode (some "notes.txt")]

/-- Both files are stored. -/
def bothNotes : World :=
  run (@TreeStep.exec Api.untimed) createsNotesTwice (World.around Database.fresh)

/-- The second of the two is not found. -/
theorem second_notes_are_not_found :
    ¬ Throughout (@TreeStep.exec Api.untimed) (fun world => Resolvable world.db) createsNotesTwice
      (World.around Database.fresh) := by
  intro throughout
  have resolvable : Resolvable bothNotes.db := Throughout.last _ throughout
  have stored : ∃ one ∈ bothNotes.db.driveFiles.rows, ∃ two ∈ bothNotes.db.driveFiles.rows,
      one.rowid ≠ two.rowid ∧ one.data.name = two.data.name ∧
        (one.data.parentId = none ∧ one.data.isTrashed = false) ∧
          two.data.parentId = none ∧ two.data.isTrashed = false := by decide
  rcases stored with ⟨one, member, two, also, apart, named, child, childToo⟩
  have first : one ∈ Database.childrenByInode bothNotes.db rootInode :=
    Database.mem_childrenByInode.mpr ⟨member, isChildOf_root.mpr child.1, child.2⟩
  have second : two ∈ Database.childrenByInode bothNotes.db rootInode :=
    Database.mem_childrenByInode.mpr ⟨also, isChildOf_root.mpr childToo.1, childToo.2⟩
  exact apart (congrArg Row.rowid (resolvable.unique rootInode one first two second named))

end Tree
end GDriver
