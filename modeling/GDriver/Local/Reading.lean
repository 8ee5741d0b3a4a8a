import GDriver.Local.Writes
import GDriver.Vfs.Windows

namespace GDriver
namespace Local

open Library Routine Db Sync Vfs

/-!
# Reading a file by its inode

To read a file it is opened first.  A read takes what is at the path of the row, or has it downloaded
to this path and takes that.  The callbacks of the two systems differ in what they open and in the
errors that they end with, and return the same bytes.
-/

/-- Where the content of a file is looked for. -/
def contentAt (paths : PathFunctions) (cacheDir : String) (file : DriveFile) : String :=
  file.localPath.getD (paths.cachePath cacheDir file.accountId file.id)

/-- A wait for a download that brings this file to the path, or nothing. -/
def bringing (path : String) (brought : Option DiskFile) : DownloadWait where
  meanwhile world := brought.elim world fun file => world.putOnDisk path (some file)
  downloaded := .ok brought.isSome

/-- A read from an offset on, which may have to wait. -/
abbrev Reader (ε : Type) := CallbackAnswers → Nat → Nat → DownloadWait → Routine ε World (List UInt8)

/-- Open an inode and read from it. -/
def readOpened (cacheDir : String) (ino : Nat) : Reader Errno := fun answers offset size wait => do
  let fh ← openFile answers cacheDir ino
  Vfs.read answers cacheDir ino fh offset size wait

/-- Open an inode and read from it, on Windows. -/
def readOpenedOnWindows (paths : PathFunctions) (cacheDir : String) (ino : Nat) : Reader Windows.NtStatus :=
  fun answers offset size wait => do
    let handle ← Windows.openInode paths answers cacheDir ino
    Windows.read paths answers cacheDir handle.ino offset size wait

/-- The files that are opened. -/
def Opens (ino : Nat) (file : DriveFile) : Prop :=
  ino ≠ rootInode ∧ file.isFolder = false ∧ isGoogleWorkspaceMime file.mimeType = false

/-- The files that are opened and read on Windows. -/
def OpensOnWindows (ino : Nat) (file : DriveFile) : Prop :=
  ino ≠ rootInode ∧ isGoogleWorkspaceMime file.mimeType = false

/-- The lookups of a read and its calls on the file succeed. -/
structure Goes (answers : CallbackAnswers) : Prop where
  looksUp : answers.runs 0 = true
  opens : answers.failures 1 = none
  seeks : answers.failures 2 = none
  reads : answers.failures 3 = none

/-- Whether a read has a file downloaded. -/
def needsDownload (file : DriveFile) (there : Option DiskFile) : Bool :=
  file.syncState = .cloudOnly || !there.isSome

/-- The file that a read takes its bytes from: the one that is there, or the one that it has
downloaded. -/
def readFrom (answers : CallbackAnswers) (file : DriveFile) (there brought : Option DiskFile) : Option DiskFile :=
  if needsDownload file there then
    if (answers.failures 0).isNone && answers.runs 1 then brought else none
  else there

/-- A read of the inode succeeds on the files that are opened, and returns what is there or what it
has downloaded. -/
def ReadsFiles {ε : Type} (reader : Reader ε) (opens : DriveFile → Prop) (paths : PathFunctions)
    (cacheDir : String) (ino : Nat) : Prop :=
  ∀ {world : World} {row : Row DriveFile}, Vfs.Database.rowAtInode world.db ino = some row →
    ∀ answers offset size brought bytes,
      outcome (reader answers offset size (bringing (contentAt paths cacheDir row.data) brought)) world = .ok bytes ↔
        opens row.data ∧ Goes answers ∧ ∃ file,
          readFrom answers row.data (world.disk (contentAt paths cacheDir row.data)) brought = some file ∧
            bytes = (file.bytes.drop offset).take size

section Reading

variable {world : World} {answers : CallbackAnswers} {file : DriveFile} {localPath : String} {offset size : Nat}
  {brought : Option DiskFile} {wait : DownloadWait} {bytes : List UInt8}

/-- A read gets to its file when there is one to take its bytes from. -/
theorem outcome_awaitContent_eq_ok_iff :
    outcome (Vfs.awaitContent answers file localPath (bringing localPath brought)) world = .ok () ↔
      (readFrom answers file (world.disk localPath) brought).isSome = true := by
  rw [Vfs.awaitContent, outcome_bind_of_ok (outcome_inspect _ _), final_inspect, readFrom, needsDownload]
  split
  · cases answers.failures 0 with
    | some failure => exact iff_of_false (fun impossible => by cases impossible) Bool.false_ne_true
    | none =>
        cases answers.runs 1 with
        | false => exact iff_of_false (fun impossible => by cases impossible) Bool.false_ne_true
        | true =>
            cases brought with
            | none => exact iff_of_false (fun impossible => by cases impossible) Bool.false_ne_true
            | some there => exact iff_of_true rfl rfl
  · next local_ =>
      rw [Bool.or_eq_true, not_or, Bool.not_eq_true', Bool.not_eq_false] at local_
      exact iff_of_true rfl local_.2

/-- What is at the path when a read gets to it. -/
theorem disk_awaitContent
    (waited : outcome (Vfs.awaitContent answers file localPath (bringing localPath brought)) world = .ok ()) :
    (final (Vfs.awaitContent answers file localPath (bringing localPath brought)) world).disk localPath =
      readFrom answers file (world.disk localPath) brought := by
  rw [Vfs.awaitContent, outcome_bind_of_ok (outcome_inspect _ _), final_inspect] at waited
  rw [Vfs.awaitContent, final_bind_of_ok (outcome_inspect _ _), final_inspect, readFrom, needsDownload]
  split at waited
  · next needs =>
      rw [if_pos needs, if_pos needs]
      cases fails : answers.failures 0 with
      | some failure =>
          rw [fails] at waited
          cases waited
      | none =>
          rw [fails] at waited
          cases runs : answers.runs 1 with
          | false =>
              rw [runs] at waited
              cases waited
          | true =>
              rw [runs] at waited
              cases brought with
              | none => cases waited
              | some there => exact Function.update_self _ _ _
  · next local_ => rw [if_neg local_, if_neg local_, final_pure]

theorem outcome_readContent_eq_ok_iff :
    outcome (readContent answers localPath offset size) world = .ok bytes ↔
      (answers.failures 1 = none ∧ answers.failures 2 = none ∧ answers.failures 3 = none) ∧
        ∃ there, world.disk localPath = some there ∧ bytes = (there.bytes.drop offset).take size := by
  rw [readContent]
  cases answers.failures 1 with
  | some failure =>
      refine iff_of_false (fun impossible => ?_) fun impossible => ?_
      · cases impossible
      · cases impossible.1.1
  | none =>
      rw [outcome_bind_of_ok (outcome_callOrEio_eq_ok_iff.mpr rfl), final_callOrEio,
        outcome_bind_of_ok (outcome_inspect _ _), final_inspect]
      cases world.disk localPath with
      | none =>
          refine iff_of_false (fun impossible => ?_) fun ⟨_, _, impossible, _⟩ => ?_
          · cases impossible
          · cases impossible
      | some there =>
          cases answers.failures 2 with
          | some failure =>
              refine iff_of_false (fun impossible => ?_) fun impossible => ?_
              · cases impossible
              · cases impossible.1.2.1
          | none =>
              cases answers.failures 3 with
              | some failure =>
                  refine iff_of_false (fun impossible => ?_) fun impossible => ?_
                  · cases impossible
                  · cases impossible.1.2.2
              | none =>
                  constructor
                  · intro read
                    exact ⟨⟨rfl, rfl, rfl⟩, there, rfl, (Except.ok.inj read).symm⟩
                  · rintro ⟨_, other, same, read⟩
                    cases same
                    exact congrArg Except.ok read.symm

/-- A read through an open handle. -/
theorem outcome_read_eq_ok_iff {cacheDir : String} {ino fh : Nat} {handle : OpenHandle} {row : Row DriveFile}
    (has : HasHandle ino fh handle world) (located : Vfs.Database.rowAtInode world.db ino = some row) :
    outcome (Vfs.read answers cacheDir ino fh offset size (bringing (contentPath cacheDir row.data) brought)) world =
        .ok bytes ↔
      Goes answers ∧ ∃ there,
        readFrom answers row.data (world.disk (contentPath cacheDir row.data)) brought = some there ∧
        bytes = (there.bytes.drop offset).take size := by
  rw [Vfs.read, outcome_bind_of_ok (outcome_validHandle_eq_ok_iff.mpr has), final_validHandle]
  cases looksUp : answers.runs 0 with
  | false =>
      have fails : outcome (orEio (getFileDetailsByInode false ino)) world = .error .eio := outcome_details _ _
      rw [outcome_bind_of_error fails]
      refine iff_of_false (fun impossible => ?_) fun impossible => ?_
      · cases impossible
      · cases looksUp.symm.trans impossible.1.looksUp
  | true =>
      have found : outcome (orEio (getFileDetailsByInode true ino)) world = .ok (some row.data) := by
        rw [outcome_details, located]
        rfl
      have there : outcome (orErrno Errno.enoent (some row.data)) world = .ok row.data := rfl
      rw [outcome_bind_of_ok found, final_details, outcome_bind_of_ok there]
      change outcome (Vfs.awaitContent answers row.data (contentPath cacheDir row.data) _ >>= fun _ =>
        readContent answers (contentPath cacheDir row.data) offset size) world = _ ↔ _
      rw [outcome_bind_eq_ok_iff]
      constructor
      · rintro ⟨_, waited, read⟩
        rcases outcome_readContent_eq_ok_iff.mp read with ⟨⟨opens, seeks, reads⟩, there, present, same⟩
        rw [disk_awaitContent waited] at present
        exact ⟨⟨looksUp, opens, seeks, reads⟩, there, present, same⟩
      · rintro ⟨goes, there, present, same⟩
        have waited := (@outcome_awaitContent_eq_ok_iff world answers row.data _ brought).mpr
          (Option.isSome_iff_exists.mpr ⟨there, present⟩)
        refine ⟨(), waited, outcome_readContent_eq_ok_iff.mpr ⟨⟨goes.opens, goes.seeks, goes.reads⟩, there, ?_, same⟩⟩
        rw [disk_awaitContent waited]
        exact present

section Opening

variable {cacheDir : String} {ino : Nat} {row : Row DriveFile} {paths : PathFunctions}

theorem outcome_openFile_eq_ok_iff {fh : Nat} (located : Vfs.Database.rowAtInode world.db ino = some row) :
    outcome (openFile answers cacheDir ino) world = .ok fh ↔
      (answers.runs 0 = true ∧ Opens ino row.data) ∧ fh = world.nextFh := by
  rw [openFile, Opens]
  by_cases top : ino = rootInode
  · rw [decide_eq_true top]
    exact iff_of_false (fun impossible => by cases impossible) fun impossible => impossible.1.2.1 top
  · rw [decide_eq_false top]
    change outcome (orEio (getFileDetailsByInode (answers.runs 0) ino) >>= _) world = _ ↔ _
    cases answers.runs 0 with
    | false =>
        have fails : outcome (orEio (getFileDetailsByInode false ino)) world = .error .eio := outcome_details _ _
        rw [outcome_bind_of_error fails]
        refine iff_of_false (fun impossible => ?_) fun impossible => ?_
        · cases impossible
        · cases impossible.1.1
    | true =>
        have found : outcome (orEio (getFileDetailsByInode true ino)) world = .ok (some row.data) := by
          rw [outcome_details, located]
          rfl
        have there : outcome (orErrno Errno.enoent (some row.data)) world = .ok row.data := rfl
        rw [outcome_bind_of_ok found, final_details, outcome_bind_of_ok there]
        cases row.data.isFolder with
        | true =>
            refine iff_of_false (fun impossible => ?_) fun impossible => ?_
            · cases impossible
            · cases impossible.1.2.2.1
        | false =>
            cases isGoogleWorkspaceMime row.data.mimeType with
            | true =>
                refine iff_of_false (fun impossible => ?_) fun impossible => ?_
                · cases impossible
                · cases impossible.1.2.2.2
            | false =>
                constructor
                · exact fun opened => ⟨⟨rfl, top, rfl, rfl⟩, (Except.ok.inj opened).symm⟩
                · exact fun opens => congrArg Except.ok opens.2.symm

theorem final_openFile {fh : Nat} (located : Vfs.Database.rowAtInode world.db ino = some row)
    (opened : outcome (openFile answers cacheDir ino) world = .ok fh) :
    final (openFile answers cacheDir ino) world = world.openFile ⟨ino, contentPath cacheDir row.data⟩ := by
  rcases (outcome_openFile_eq_ok_iff located).mp opened with ⟨⟨looksUp, inside, regular, plain⟩, _⟩
  have found : outcome (orEio (getFileDetailsByInode (answers.runs 0) ino)) world = .ok (some row.data) := by
    rw [outcome_details, looksUp, located]
    rfl
  have there : outcome (orErrno Errno.enoent (some row.data)) world = .ok row.data := rfl
  rw [openFile, decide_eq_false inside]
  change final (orEio (getFileDetailsByInode (answers.runs 0) ino) >>= _) world = _
  rw [final_bind_of_ok found, final_details, final_bind_of_ok there, regular, plain]
  rfl

/-- A file that is opened and read is read through its new handle. -/
theorem readsFiles_readOpened : ReadsFiles (readOpened cacheDir ino) (Opens ino) .unix cacheDir ino := by
  intro world row located answers offset size brought bytes
  rw [readOpened, outcome_bind_eq_ok_iff]
  have has : HasHandle ino world.nextFh ⟨ino, contentPath cacheDir row.data⟩
      (world.openFile ⟨ino, contentPath cacheDir row.data⟩) :=
    ⟨Function.update_self _ _ _, rfl⟩
  have still : Vfs.Database.rowAtInode (world.openFile ⟨ino, contentPath cacheDir row.data⟩).db ino = some row :=
      located
  constructor
  · rintro ⟨fh, opened, read⟩
    rcases (outcome_openFile_eq_ok_iff located).mp opened with ⟨⟨_, opens⟩, same⟩
    rw [final_openFile located opened, same] at read
    exact ⟨opens, (outcome_read_eq_ok_iff has still).mp read⟩
  · rintro ⟨opens, goes, read⟩
    have opened := (@outcome_openFile_eq_ok_iff world answers cacheDir ino row world.nextFh located).mpr
      ⟨⟨goes.looksUp, opens⟩, rfl⟩
    refine ⟨world.nextFh, opened, ?_⟩
    rw [final_openFile located opened]
    exact (outcome_read_eq_ok_iff has still).mpr ⟨goes, read⟩

/-- The wait on Windows is the same but for its errors. -/
theorem awaitContent_windows : (outcome (Windows.awaitContent answers file localPath wait) world).toOption =
      (outcome (Vfs.awaitContent answers file localPath wait) world).toOption ∧
    final (Windows.awaitContent answers file localPath wait) world =
      final (Vfs.awaitContent answers file localPath wait) world := by
  rw [Windows.awaitContent, Vfs.awaitContent, outcome_bind_of_ok (outcome_inspect _ _), final_inspect,
    outcome_bind_of_ok (outcome_inspect _ _), final_inspect, final_bind_of_ok (outcome_inspect _ _), final_inspect,
    final_bind_of_ok (outcome_inspect _ _), final_inspect]
  split
  · rcases wait with ⟨meanwhile, _ | _ | _⟩
    all_goals
      cases answers.failures 0 with
      | some failure => exact ⟨rfl, rfl⟩
      | none =>
          cases answers.runs 1 with
          | false => exact ⟨rfl, rfl⟩
          | true => exact ⟨rfl, rfl⟩
  · exact ⟨rfl, rfl⟩

theorem readContent_windows : (outcome (Windows.readContent answers localPath offset size) world).toOption =
    (outcome (readContent answers localPath offset size) world).toOption := by
  rw [Windows.readContent, readContent]
  cases answers.failures 1 with
  | some failure => rfl
  | none =>
      have opens : outcome (Windows.callOrInternalError none) world = .ok () := rfl
      have stays : final (Windows.callOrInternalError none) world = world := rfl
      rw [outcome_bind_of_ok opens, stays, outcome_bind_of_ok (outcome_callOrEio_eq_ok_iff.mpr rfl), final_callOrEio,
        outcome_bind_of_ok (outcome_inspect _ _), final_inspect, outcome_bind_of_ok (outcome_inspect _ _),
          final_inspect]
      cases world.disk localPath with
      | none => rfl
      | some there =>
          cases answers.failures 2 with
          | some failure => rfl
          | none =>
              cases answers.failures 3 with
              | some failure => rfl
              | none => rfl

theorem eq_ok_iff_of_toOption {ε δ α : Type} {one : Except ε α} {two : Except δ α} {value : α}
    (same : one.toOption = two.toOption) : one = .ok value ↔ two = .ok value := by
  cases one with
  | error failure =>
      cases two with
      | error other => exact iff_of_false (fun impossible => by cases impossible) fun impossible => by cases impossible
      | ok found => cases same
  | ok found =>
      cases two with
      | error other => cases same
      | ok other =>
          cases same
          exact ⟨fun answered => congrArg Except.ok (Except.ok.inj answered),
            fun answered => congrArg Except.ok (Except.ok.inj answered)⟩

theorem outcome_details_windows (runs : Bool) :
    outcome (Windows.orInternalError (getFileDetailsByInode runs ino)) world =
      if runs then .ok ((Vfs.Database.rowAtInode world.db ino).map Row.data) else .error .internalError := by
  rw [Windows.orInternalError, outcome_mapError, outcome_onDb, getFileDetailsByInode, outcome_select]
  cases runs with
  | false => rfl
  | true => rfl

theorem outcome_read_windows_eq_ok_iff (located : Vfs.Database.rowAtInode world.db ino = some row) :
    outcome (Windows.read paths answers cacheDir ino offset size (bringing (contentAt paths cacheDir row.data) brought))
        world = .ok bytes ↔
      ino ≠ rootInode ∧ Goes answers ∧ ∃ there,
        readFrom answers row.data (world.disk (contentAt paths cacheDir row.data)) brought = some there ∧
          bytes = (there.bytes.drop offset).take size := by
  rw [Windows.read]
  by_cases top : ino = rootInode
  · rw [decide_eq_true top]
    exact iff_of_false (fun impossible => by cases impossible) fun impossible => impossible.1 top
  · rw [decide_eq_false top]
    change outcome (Windows.orInternalError (getFileDetailsByInode (answers.runs 0) ino) >>= _) world = _ ↔ _
    cases looksUp : answers.runs 0 with
    | false =>
        have fails : outcome (Windows.orInternalError (getFileDetailsByInode false ino)) world =
            .error .internalError :=
          outcome_details_windows _
        rw [outcome_bind_of_error fails]
        refine iff_of_false (fun impossible => ?_) fun impossible => ?_
        · cases impossible
        · cases looksUp.symm.trans impossible.2.1.looksUp
    | true =>
        have found : outcome (Windows.orInternalError (getFileDetailsByInode true ino)) world =
            .ok (some row.data) := by
          rw [outcome_details_windows, located]
          rfl
        have reads : final (Windows.orInternalError (getFileDetailsByInode true ino)) world = world := by
          rw [Windows.orInternalError, final_mapError, final_onDb, getFileDetailsByInode, final_select]
          rfl
        have there : outcome (Windows.orStatus .objectNameNotFound (some row.data)) world = .ok row.data := rfl
        rw [outcome_bind_of_ok found, reads, outcome_bind_of_ok there]
        change outcome (Windows.awaitContent answers row.data (contentAt paths cacheDir row.data) _ >>= fun _ =>
          Windows.readContent answers (contentAt paths cacheDir row.data) offset size) world = _ ↔ _
        rw [outcome_bind_eq_ok_iff, awaitContent_windows.2]
        constructor
        · rintro ⟨_, awaited, read⟩
          have waited := (eq_ok_iff_of_toOption awaitContent_windows.1).mp awaited
          rcases outcome_readContent_eq_ok_iff.mp ((eq_ok_iff_of_toOption readContent_windows).mp read) with
            ⟨⟨opens, seeks, reads⟩, there, present, same⟩
          rw [disk_awaitContent waited] at present
          exact ⟨top, ⟨looksUp, opens, seeks, reads⟩, there, present, same⟩
        · rintro ⟨_, goes, there, present, same⟩
          have waited := (@outcome_awaitContent_eq_ok_iff world answers row.data _ brought).mpr
            (Option.isSome_iff_exists.mpr ⟨there, present⟩)
          refine ⟨(), (eq_ok_iff_of_toOption awaitContent_windows.1).mpr waited,
            (eq_ok_iff_of_toOption readContent_windows).mpr (outcome_readContent_eq_ok_iff.mpr
              ⟨⟨goes.opens, goes.seeks, goes.reads⟩, there, ?_, same⟩)⟩
          rw [disk_awaitContent waited]
          exact present

theorem outcome_openInode_eq_ok_iff {handle : OpenHandle} (located : Vfs.Database.rowAtInode world.db ino = some row) :
    outcome (Windows.openInode paths answers cacheDir ino) world = .ok handle ↔
      (answers.runs 0 = true ∧ isGoogleWorkspaceMime row.data.mimeType = false) ∧
        handle = ⟨ino, contentAt paths cacheDir row.data⟩ := by
  rw [Windows.openInode]
  cases answers.runs 0 with
  | false =>
      have fails : outcome (Windows.orInternalError (getFileDetailsByInode false ino)) world = .error .internalError :=
        outcome_details_windows _
      rw [outcome_bind_of_error fails]
      refine iff_of_false (fun impossible => ?_) fun impossible => ?_
      · cases impossible
      · cases impossible.1.1
  | true =>
      have found : outcome (Windows.orInternalError (getFileDetailsByInode true ino)) world = .ok (some row.data) := by
        rw [outcome_details_windows, located]
        rfl
      have there (state : World) : outcome (Windows.orStatus .objectNameNotFound (some row.data)) state =
          .ok row.data := rfl
      rw [outcome_bind_of_ok found, outcome_bind_of_ok (there _)]
      cases isGoogleWorkspaceMime row.data.mimeType with
      | true =>
          refine iff_of_false (fun impossible => ?_) fun impossible => ?_
          · cases impossible
          · cases impossible.1.2
      | false =>
          constructor
          · exact fun opened => ⟨⟨rfl, rfl⟩, (Except.ok.inj opened).symm⟩
          · exact fun opens => congrArg Except.ok opens.2.symm

theorem final_openInode : final (Windows.openInode paths answers cacheDir ino) world = world := by
  rw [Windows.openInode, final_bind_of_reader]
  · rw [Windows.orInternalError, final_mapError, final_onDb, getFileDetailsByInode, final_select]
    rfl
  · intro found state
    cases found with
    | none => rfl
    | some details =>
        change final (Windows.refuseIf (isGoogleWorkspaceMime details.mimeType) .notSupported >>= fun _ =>
          pure _) state = _
        rw [final_bind_pure, Windows.refuseIf]
        cases isGoogleWorkspaceMime details.mimeType with
        | true => rfl
        | false => rfl

/-- A file is read on Windows through what it is opened as. -/
theorem readsFiles_readOpenedOnWindows :
    ReadsFiles (readOpenedOnWindows paths cacheDir ino) (OpensOnWindows ino) paths cacheDir ino := by
  intro world row located answers offset size brought bytes
  rw [readOpenedOnWindows, outcome_bind_eq_ok_iff, final_openInode]
  constructor
  · rintro ⟨handle, opened, read⟩
    rcases (outcome_openInode_eq_ok_iff located).mp opened with ⟨⟨_, plain⟩, same⟩
    rw [same] at read
    rcases (outcome_read_windows_eq_ok_iff located).mp read with ⟨inside, goes, reads⟩
    exact ⟨⟨inside, plain⟩, goes, reads⟩
  · rintro ⟨⟨inside, plain⟩, goes, reads⟩
    exact ⟨_, (outcome_openInode_eq_ok_iff located).mpr ⟨⟨goes.looksUp, plain⟩, rfl⟩,
      (outcome_read_windows_eq_ok_iff located).mpr ⟨inside, goes, reads⟩⟩

end Opening

/-! ## Reads before and after -/

/-- Whatever bytes a read returns before, with or without a download, it returns after. -/
def ReadsAsBefore {ε : Type} (reader : Reader ε) (path : String) (before after : World) : Prop :=
  ∀ answers offset size brought bytes, outcome (reader answers offset size (bringing path brought)) before = .ok bytes →
    outcome (reader answers offset size (bringing path brought)) after = .ok bytes

section Before

variable {ε : Type} {reader : Reader ε} {opens : DriveFile → Prop} {paths : PathFunctions} {cacheDir : String}
  {ino : Nat} {row later : Row DriveFile} {after : World}

theorem readFrom_of_local (local_ : file.syncState ≠ .cloudOnly) (there : DiskFile) :
    readFrom answers file (some there) brought = some there := by
  rw [readFrom, needsDownload, decide_eq_false local_]
  rfl

theorem readFrom_of_absent {there : Option DiskFile}
    (absent : file.syncState = .cloudOnly ∨ there = none) :
    readFrom answers file there brought =
      if (answers.failures 0).isNone && answers.runs 1 then brought else none := by
  rcases absent with remote | gone
  · rw [readFrom, needsDownload, decide_eq_true remote, Bool.true_or, if_pos rfl]
  · rw [readFrom, needsDownload, gone, Option.isSome_none, Bool.not_false, Bool.or_true, if_pos rfl]

/-- A file that is no longer known to be in the cloud only is read as before, if nothing is left at its
path that was not its content. -/
theorem readsAsBefore_iff (reads : ReadsFiles reader opens paths cacheDir ino)
    (located : Vfs.Database.rowAtInode world.db ino = some row)
    (still : Vfs.Database.rowAtInode after.db ino = some later)
    (samePath : contentAt paths cacheDir later.data = contentAt paths cacheDir row.data)
    (sameOpens : opens later.data ↔ opens row.data) (modified : later.data.syncState ≠ .cloudOnly)
    (kept : row.data.syncState ≠ .cloudOnly →
      after.disk (contentAt paths cacheDir row.data) = world.disk (contentAt paths cacheDir row.data)) :
    ReadsAsBefore reader (contentAt paths cacheDir row.data) world after ↔
      (opens row.data → row.data.syncState = .cloudOnly → after.disk (contentAt paths cacheDir row.data) = none) := by
  have readsLater := fun answers offset size brought bytes => reads still answers offset size brought bytes
  rw [samePath, sameOpens] at readsLater
  constructor
  · intro same opened remote
    cases stale : after.disk (contentAt paths cacheDir row.data) with
    | none => rfl
    | some there =>
        -- the download brings one byte more than what is left at the path
        let brought : DiskFile := ⟨there.bytes ++ [0], 0⟩
        have before := (reads located (.allRun 0 0) 0 (there.bytes.length + 1) (some brought)
          (there.bytes ++ [0])).mpr ⟨opened, ⟨rfl, rfl, rfl, rfl⟩, brought, readFrom_of_absent (Or.inl remote), ?_⟩
        · rcases (readsLater _ _ _ _ _).mp (same _ _ _ _ _ before) with ⟨_, _, found, taken, bytes⟩
          rw [stale, readFrom_of_local modified] at taken
          rw [← Option.some.inj taken, List.drop_zero, List.take_of_length_le (Nat.le_succ _)] at bytes
          exact absurd (congrArg List.length bytes) (by simp)
        · rw [List.drop_zero, List.take_of_length_le]
          rw [List.length_append]
          exact Nat.le_refl _
  · intro gone answers offset size brought bytes before
    rcases (reads located _ _ _ _ _).mp before with ⟨opened, goes, found, taken, same⟩
    refine (readsLater _ _ _ _ _).mpr ⟨opened, goes, found, ?_, same⟩
    by_cases remote : row.data.syncState = .cloudOnly
    · rw [gone opened remote, readFrom_of_absent (Or.inr rfl), ← taken, readFrom_of_absent (Or.inl remote)]
    · rw [kept remote, ← taken]
      cases there : world.disk (contentAt paths cacheDir row.data) with
      | none => rw [readFrom_of_absent (Or.inr rfl), readFrom_of_absent (Or.inr rfl)]
      | some copy => rw [readFrom_of_local modified, readFrom_of_local remote]

end Before

end Reading

end Local
end GDriver
