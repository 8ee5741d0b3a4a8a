import GDriver.Mirror.Placement
import GDriver.Moves.Mount
import Mathlib.Data.List.MinMax

namespace GDriver
namespace Lookup

open Library Routine Db Api Sync Ipc Mirror

/-!
# Looking a path up

A request names its file by a path.  The handlers look for a row with exactly this path, and
if there is none for the shortest path that ends in what follows the mount point.  Neither
query tells whether the row is the file at the path: the first one also reads trashed rows,
and the second one reads a pattern, not a path.
-/

/-! ## What the two queries return -/

/-- The first row of the scan with this path. -/
def FirstAt (db : Database) (path : String) (file : Db.DriveFile) : Prop :=
  file.localPath = some path ∧ ∃ before after, db.driveFiles.records = before ++ file :: after ∧
    ∀ other ∈ before, other.localPath ≠ some path

/-- No row has this path. -/
def NoneAt (db : Database) (path : String) : Prop :=
  ∀ file ∈ db.driveFiles.records, file.localPath ≠ some path

/-- The rows that are not trashed and have a path like the pattern. -/
def liveLike (db : Database) (pattern : String) : List Db.DriveFile :=
  db.driveFiles.records.filter fun file =>
    (file.localPath.any fun path => like path pattern) && !file.isTrashed

/-- The first of the rows with the shortest path like the pattern. -/
structure ShortestLike (db : Database) (pattern : String) (file : Db.DriveFile) : Prop where
  listed : file ∈ liveLike db pattern
  shortest : ∀ other ∈ liveLike db pattern,
    (file.localPath.getD "").length ≤ (other.localPath.getD "").length
  first : ∀ other ∈ liveLike db pattern,
    (other.localPath.getD "").length ≤ (file.localPath.getD "").length →
      (liveLike db pattern).idxOf file ≤ (liveLike db pattern).idxOf other

section Queries

variable {db : Database} {path pattern : String} {file : Db.DriveFile}

theorem fileAtLocalPath_eq_find? (db : Database) (path : String) :
    db.fileAtLocalPath path = db.driveFiles.records.find? fun file => file.localPath = some path := by
  rw [Database.fileAtLocalPath, Table.findRow?, Table.records, List.find?_map]
  rfl

theorem fileAtLocalPath_eq_some_iff : db.fileAtLocalPath path = some file ↔ FirstAt db path file := by
  rw [fileAtLocalPath_eq_find?, List.find?_eq_some_iff_append]
  simp only [FirstAt, decide_eq_true_eq, Bool.not_eq_true', decide_eq_false_iff_not, ne_eq]

theorem fileAtLocalPath_eq_none_iff : db.fileAtLocalPath path = none ↔ NoneAt db path := by
  rw [fileAtLocalPath_eq_find?, List.find?_eq_none]
  simp only [NoneAt, decide_eq_true_eq, ne_eq]

theorem fileUnderSuffix_eq_some_iff (suffix : String) :
    db.fileUnderSuffix suffix = some file ↔ ShortestLike db ("%/" ++ suffix) file := by
  have fold : db.fileUnderSuffix suffix = (liveLike db ("%/" ++ suffix)).argmin fun file =>
      (file.localPath.getD "").length := by
    rw [Database.fileUnderSuffix, List.argmin, liveLike]
    congr 1
    funext best file
    cases best with
    | none => rfl
    | some kept => rfl
  rw [fold, List.argmin_eq_some_iff]
  constructor
  · rintro ⟨listed, shortest, first⟩
    exact ⟨listed, shortest, first⟩
  · rintro ⟨listed, shortest, first⟩
    exact ⟨listed, shortest, first⟩

end Queries

/-! ## What a lookup returns -/

/-- The name and the parent of a row. -/
def storedName (db : Database) (accountId id : String) : Option (String × Option String) :=
  (db.file id accountId).map fun file => (file.name, file.parentId)

/-- The path leads from the expanded mount point along these names. -/
structure LeadsFromMount (ctx : RouterContext) (path : String) (names : List String) : Prop where
  rooted : startsWith path "/" = startsWith (expandTilde ctx.homeDir ctx.mountPoint) "/"
  parts : components path = components (expandTilde ctx.homeDir ctx.mountPoint) ++ names

/-- The parent chain of the file is what leads from the mount point to the path. -/
def PlacedAt (ctx : RouterContext) (db : Database) (path : String) (file : Db.DriveFile) : Prop :=
  ∃ names, Chain (storedName db file.accountId) file.id names ∧ LeadsFromMount ctx path names

/-- The file is the one at the path. -/
structure IsAt (ctx : RouterContext) (db : Database) (path : String) (file : Db.DriveFile) : Prop where
  kept : file.isTrashed = false
  there : file.localPath = some path ∨ PlacedAt ctx db path file

/-- What the rows must be for a path to be looked up soundly. -/
structure Unmistakable (ctx : RouterContext) (db : Database) (path : String) : Prop where
  exact_ : ∀ file, FirstAt db path file → file.isTrashed = false
  under : NoneAt db path → ∀ relative, relativeToMount ctx path = some relative → relative ≠ "" →
    ∀ file, ShortestLike db ("%/" ++ relative) file → PlacedAt ctx db path file

section Returned

variable {ctx : RouterContext} {answers : RpcAnswers} {db : Database} {path : String}
  {file : Db.DriveFile}

theorem outcome_orRpcError {α : Type} {error : RpcError} {found : Option α} {value : α} :
    outcome (orRpcError error found) db = .ok value ↔ found = some value := by
  cases found with
  | none =>
      refine iff_of_false (fun impossible => ?_) fun impossible => ?_
      · cases impossible
      · cases impossible
  | some other =>
      rw [orRpcError, outcome_pure, Except.ok.injEq, Option.some.injEq]

theorem outcome_resolvePathUnderMount {runs : Bool} :
    outcome (resolvePathUnderMount ctx runs path) db = .ok (some file) ↔
      runs = true ∧ ∃ relative, relativeToMount ctx path = some relative ∧ relative ≠ "" ∧
        db.fileUnderSuffix relative = some file := by
  rw [resolvePathUnderMount]
  split
  · next outside =>
      refine iff_of_false ?_ ?_
      · intro impossible
        cases impossible
      · rintro ⟨_, relative, inside, _⟩
        rw [outside] at inside
        cases inside
  · next whole =>
      refine iff_of_false ?_ ?_
      · intro impossible
        cases impossible
      · rintro ⟨_, relative, inside, some_, _⟩
        rw [whole] at inside
        exact some_ (Option.some.inj inside).symm
  · next relative some_ inside =>
      rw [orInternal, outcome_mapError, findFileByRelativeSuffix, outcome_select]
      constructor
      · intro found
        cases runs with
        | false => cases found
        | true => exact ⟨rfl, relative, inside, some_, Except.ok.inj found⟩
      · rintro ⟨ran, other, same, _, found⟩
        rw [inside] at same
        rw [ran, if_pos rfl, Option.some.inj same, found]
        rfl

theorem outcome_resolveFileForPath :
    outcome (resolveFileForPath ctx answers path) db = .ok file ↔
      answers.runs 0 = true ∧ (db.fileAtLocalPath path = some file ∨
        db.fileAtLocalPath path = none ∧
          outcome (resolvePathUnderMount ctx (answers.runs 1) path) db = .ok (some file)) := by
  have queried (found : Option Db.DriveFile) :
      outcome (orInternal (getFileByLocalPath (answers.runs 0) path)) db = .ok found ↔
        answers.runs 0 = true ∧ db.fileAtLocalPath path = found := by
    rw [orInternal, outcome_mapError, outcome_getFileByLocalPath]
    cases answers.runs 0 with
    | false =>
        refine iff_of_false (fun impossible => ?_) fun impossible => ?_
        · cases impossible
        · cases impossible.1
    | true => rw [if_pos rfl, Except.mapError, Except.ok.injEq, and_iff_right rfl]
  have stays : final (orInternal (getFileByLocalPath (answers.runs 0) path)) db = db := by
    rw [orInternal, final_mapError, final_getFileByLocalPath]
  rw [resolveFileForPath, outcome_bind_eq_ok_iff, stays]
  constructor
  · rintro ⟨found, first, second⟩
    rcases (queried found).mp first with ⟨ran, same⟩
    cases found with
    | some other =>
        cases second
        exact ⟨ran, Or.inl same⟩
    | none =>
        rcases outcome_bind_eq_ok_iff.mp second with ⟨under, sought, given⟩
        rw [outcome_orRpcError.mp given] at sought
        exact ⟨ran, Or.inr ⟨same, sought⟩⟩
  · rintro ⟨ran, same | ⟨same, sought⟩⟩
    · exact ⟨some file, (queried _).mpr ⟨ran, same⟩, rfl⟩
    · refine ⟨none, (queried _).mpr ⟨ran, same⟩, ?_⟩
      exact outcome_bind_eq_ok_iff.mpr ⟨some file, sought, outcome_orRpcError.mpr rfl⟩

/-- The file that a path is looked up to. -/
theorem outcome_resolveFileForPath_eq_ok_iff :
    outcome (resolveFileForPath ctx answers path) db = .ok file ↔
      answers.runs 0 = true ∧ (FirstAt db path file ∨
        NoneAt db path ∧ answers.runs 1 = true ∧ ∃ relative, relativeToMount ctx path = some relative ∧
          relative ≠ "" ∧ ShortestLike db ("%/" ++ relative) file) := by
  simp only [outcome_resolveFileForPath, fileAtLocalPath_eq_some_iff, fileAtLocalPath_eq_none_iff,
    outcome_resolvePathUnderMount, fileUnderSuffix_eq_some_iff]

end Returned

/-- Whatever a path is looked up to is the file at the path, exactly when the rows are
unmistakable for it. -/
theorem resolveFileForPath_sound_iff (ctx : RouterContext) (db : Database) (path : String) :
    (∀ answers file, outcome (resolveFileForPath ctx answers path) db = .ok file →
      IsAt ctx db path file) ↔ Unmistakable ctx db path := by
  constructor
  · intro sound
    refine ⟨?_, ?_⟩
    · intro file first
      have resolved : outcome (resolveFileForPath ctx (RpcAnswers.allRun 0 0) path) db = .ok file :=
        outcome_resolveFileForPath_eq_ok_iff.mpr ⟨rfl, Or.inl first⟩
      exact (sound _ file resolved).kept
    · intro absent relative inside some_ file shortest
      have resolved : outcome (resolveFileForPath ctx (RpcAnswers.allRun 0 0) path) db = .ok file :=
        outcome_resolveFileForPath_eq_ok_iff.mpr ⟨rfl, Or.inr ⟨absent, rfl, relative, inside, some_, shortest⟩⟩
      rcases (sound _ file resolved).there with exact | placed
      · exact absurd exact (absent file (List.mem_of_mem_filter shortest.listed))
      · exact placed
  · intro sure answers file resolved
    rcases (outcome_resolveFileForPath_eq_ok_iff.mp resolved).2 with
      first | ⟨absent, _, relative, inside, some_, shortest⟩
    · exact ⟨sure.exact_ file first, Or.inl first.1⟩
    · have live := List.of_mem_filter shortest.listed
      rw [Bool.and_eq_true, Bool.not_eq_true'] at live
      exact ⟨live.2, Or.inr (sure.under absent relative inside some_ file shortest)⟩

/-! ## Mistaken files -/

theorem not_isAt_of_chain {ctx : RouterContext} {db : Database} {path : String} {file : Db.DriveFile}
    {names : List String} (chain : Chain (storedName db file.accountId) file.id names)
    (elsewhere : components path ≠ components (expandTilde ctx.homeDir ctx.mountPoint) ++ names)
    (other : file.localPath ≠ some path) : ¬ IsAt ctx db path file := by
  rintro ⟨_, exact | ⟨others, again, leads⟩⟩
  · exact other exact
  · rw [again.unique chain] at leads
    exact elsewhere leads.parts

def underMnt : RouterContext := ⟨"/mnt", none, "/cache"⟩

/-- A file of one account with a local copy. -/
def copied (name path : String) : Db.DriveFile :=
  { @mapApiFileToDb untimed (Api.DriveFile.named name name) "ann@example.com" with
    localPath := some path
    syncState := .cached }

def withCopy (name path : String) : Database :=
  Database.fresh.putFile (copied name path)

/-- A trashed row, a name that fits a pattern and a folder beside the mount point are taken for
the file at the path. -/
theorem resolveFileForPath_mistakes :
    (∃ db file, outcome (resolveFileForPath underMnt (RpcAnswers.allRun 1 1) "/mnt/notes.txt") db =
        .ok file ∧ ¬ IsAt underMnt db "/mnt/notes.txt" file) ∧
      (∃ db file, outcome (resolveFileForPath underMnt (RpcAnswers.allRun 1 1) "/mnt/a_b.txt") db =
        .ok file ∧ ¬ IsAt underMnt db "/mnt/a_b.txt" file) ∧
      ∃ db file, outcome (resolveFileForPath underMnt (RpcAnswers.allRun 1 1) "/mntx/notes.txt") db =
        .ok file ∧ ¬ IsAt underMnt db "/mntx/notes.txt" file := by
  refine ⟨⟨Database.fresh.putFile (copied "notes.txt" "/mnt/notes.txt").trashed,
    (copied "notes.txt" "/mnt/notes.txt").trashed, by decide, ?_⟩,
    ⟨withCopy "axb.txt" "/mnt/axb.txt", copied "axb.txt" "/mnt/axb.txt", by decide, ?_⟩,
    ⟨withCopy "notes.txt" "/mnt/x/notes.txt", copied "notes.txt" "/mnt/x/notes.txt", by decide, ?_⟩⟩
  · rintro ⟨kept, _⟩
    cases kept
  · exact not_isAt_of_chain (@Chain.top _ _ "axb.txt" (by decide)) (by decide) (by decide)
  · exact not_isAt_of_chain (@Chain.top _ _ "notes.txt" (by decide)) (by decide) (by decide)

end Lookup
end GDriver
