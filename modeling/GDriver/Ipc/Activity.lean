import GDriver.Db.Files
import GDriver.Ipc.Events
import GDriver.Library.Checked
import GDriver.Library.Paging
import Mathlib.Data.List.Sort

namespace GDriver
namespace Ipc
namespace Activity

open Library Routine Db Events Json

/-!
# The activity page

The app shows all files, the newest first.  It asks for them in pages of fifty, one after the other,
as long as a page says that there are more.  The daemon says so when the page is full.
-/

/-! ## The listing -/

/-- A fixed order in which rows of one modification time come out of the database. -/
structure TieBreak where
  before : Row DriveFile → Row DriveFile → Bool
  total : ∀ first second, before first second = true ∨ before second first = true
  trans : ∀ first second third, before first second = true → before second third = true → before first third = true

/-- The first time is later.  A row without a modification time is older than all others. -/
def isLater : Option Int → Option Int → Bool
  | some one, some two => decide (two < one)
  | some _, none => true
  | none, _ => false

/-- Newer rows come first. -/
def ListedBefore (ties : TieBreak) (first second : Row DriveFile) : Prop :=
  isLater first.data.modifiedTime second.data.modifiedTime = true ∨
    (first.data.modifiedTime = second.data.modifiedTime ∧ ties.before first second = true)

instance (ties : TieBreak) : DecidableRel (ListedBefore ties) := fun _ _ =>
  @instDecidableOr _ _ (instDecidableEqBool _ true)
    (@instDecidableAnd _ _ (@Option.instDecidableEq _ Int.instDecidableEq _ _) (instDecidableEqBool _ true))

/-- The rows that are not trashed. -/
def liveRows (db : Database) : List (Row DriveFile) :=
  db.driveFiles.rows.filter fun row => !row.data.isTrashed

/-- The rows that are not trashed, in the order of the listing. -/
def activityRows (ties : TieBreak) (db : Database) : List (Row DriveFile) :=
  (liveRows db).insertionSort (ListedBefore ties)

/-- Return a page of files for the sync activity view. -/
def listFilesPaginated (ties : TieBreak) (runs : Bool) (page pageSize : UInt32) :
    Routine String Database (List DriveFile) :=
  select runs fun db => (pageOf pageSize.toNat (activityRows ties db) page.toNat).map Row.data

/-! ## The request -/

structure SyncActivityPage (floats : FloatFormat) where
  items : List (SyncItem floats)
  page : UInt32
  hasMore : Bool

section Pages

variable {floats : FloatFormat}

def SyncActivityPage.names : List String := ["items", "page", "has_more"]

def SyncActivityPage.toValue (activity : SyncActivityPage floats) : Json floats.Double :=
  .object (ofFields SyncActivityPage.names
    [.array (activity.items.map (SyncItem.toValue floats)), ofU32 activity.page, .bool activity.hasMore])

def SyncActivityPage.fromValue (value : Json floats.Double) : Option (SyncActivityPage floats) :=
  match fieldValues SyncActivityPage.names 3 value with
  | some [items, page, hasMore] => do
      let items ← required (readList (SyncItem.fromValue floats)) items
      let page ← required readU32 page
      let hasMore ← required readBool hasMore
      return ⟨items, page, hasMore⟩
  | _ => none

/-- How a file is shown. -/
def syncItem (file : DriveFile) : SyncItem floats where
  fileId := some file.id
  name := file.name
  mimeType := some file.mimeType
  localPath := file.localPath
  syncState := (readVariant stateName states (.string (stateName file.syncState) : Json floats.Double)).getD .cloudOnly
  progress := none
  fileSize := file.size.bind fun size => if 0 ≤ size then some (UInt64.ofNat size.toNat) else none
  errorMsg := none
  driveUrl := some ("https://drive.google.com/file/d/" ++ file.id ++ "/view")
  updatedAt := Int64.ofInt (file.modifiedTime.getD 0)

/-- The page that is asked for; the first one if the parameter is not a number. -/
def requestedPage (params : Option (Json floats.Double)) : UInt32 :=
  let page := params.bind fun
    | .object fields => lookup "page" fields
    | _ => none
  ((page.bind readU64).getD 0).toUInt32

/-- Return a page of sync activity items. -/
def handleSyncGetActivity (ties : TieBreak) (runs : Bool) (params : Option (Json floats.Double)) :
    Routine (JsonRpcError (Json floats.Double)) Database (Json floats.Double) := do
  let page := requestedPage params
  let pageSize : UInt32 := 50
  let files ← mapError JsonRpcError.internalError (listFilesPaginated ties runs page pageSize)
  let hasMore := UInt32.ofNat files.length == pageSize
  let items := files.map syncItem
  pure (SyncActivityPage.toValue ⟨items, page, hasMore⟩)

/-- What the app gets when it asks for a page. -/
def getSyncActivity (ties : TieBreak) (db : Database) (page : Nat) : Option (SyncActivityPage floats) :=
  match outcome (handleSyncGetActivity ties true (some (.object [("page", .int page)]))) db with
  | .ok value => SyncActivityPage.fromValue value
  | .error _ => none

/-- The items of all pages from one on, asked for while there are more; none if that takes more
requests than the given number. -/
def activityFrom (ties : TieBreak) (db : Database) : Nat → Nat → Option (List (SyncItem floats))
  | 0, _ => none
  | requests + 1, page => do
      let activity ← getSyncActivity ties db page
      if activity.hasMore then
        let further ← activityFrom ties db requests (activity.page.toNat + 1)
        return activity.items ++ further
      else return activity.items

/-! ## All pages together -/

theorem SyncActivityPage.fromValue_toValue {activity : SyncActivityPage floats}
    (unfinished : ∀ item ∈ activity.items, item.progress = none) : fromValue activity.toValue = some activity := by
  have items : readList (SyncItem.fromValue floats) (.array (activity.items.map (SyncItem.toValue floats))) =
      some activity.items := by
    refine readList_map fun item member => SyncItem.fromValue_toValue ?_
    rw [unfinished item member]
    exact nofun
  have reads : fromValue activity.toValue = (do
      let items ← required (readList (SyncItem.fromValue floats))
        (some (.array (activity.items.map (SyncItem.toValue floats))))
      let page ← required readU32 (some (ofU32 activity.page : Json floats.Double))
      let hasMore ← required readBool (some (.bool activity.hasMore : Json floats.Double))
      return ⟨items, page, hasMore⟩) := by
    rw [toValue, fromValue, fieldValues_ofFields (by decide) rfl]
    rfl
  rw [reads, required, required, required, Option.bind_some, items, Option.bind_some, readU32_ofU32, Option.bind_some]
  rfl

variable {ties : TieBreak} {db : Database}

/-- The number of a page is read from the request. -/
theorem requestedPage_of_fits {page : Nat} (fits : page < 4294967296) :
    requestedPage (some (.object [("page", .int page)]) : Option (Json floats.Double)) = UInt32.ofNat page := by
  have range : 0 ≤ (page : Int) ∧ (page : Int) < 18446744073709551616 := by omega
  have read : readU64 (.int page : Json floats.Double) = some (UInt64.ofNat page) := by
    rw [readU64, if_pos range, Int.toNat_natCast]
  have found : lookup "page" [("page", (.int page : Json floats.Double))] = some (.int page) := if_pos rfl
  change ((((lookup "page" [("page", (.int page : Json floats.Double))]).bind readU64).getD 0).toUInt32) = _
  rw [found, Option.bind_some, read, Option.getD_some, ← UInt32.toNat_inj, UInt64.toNat_toUInt32,
    toNat_ofNat_of_fits (by omega), UInt32.toNat_ofNat']

/-- A page up to the last number there is has its rows, and says whether it is full. -/
theorem getSyncActivity_of_fits {page : Nat} (fits : page < 4294967296) :
    getSyncActivity ties db page =
      some ⟨((pageOf 50 (activityRows ties db) page).map Row.data).map (@syncItem floats), UInt32.ofNat page,
        UInt32.ofNat (pageOf 50 (activityRows ties db) page).length == 50⟩ := by
  have number : (UInt32.ofNat page).toNat = page := by
    rw [UInt32.toNat_ofNat']
    exact Nat.mod_eq_of_lt fits
  have answers : outcome (mapError JsonRpcError.internalError (listFilesPaginated ties true (UInt32.ofNat page) 50))
      db =
      (.ok ((pageOf 50 (activityRows ties db) page).map Row.data) :
        Except (JsonRpcError (Json floats.Double)) (List DriveFile)) := by
    rw [outcome_mapError, listFilesPaginated, outcome_select, if_pos rfl, number]
    rfl
  rw [getSyncActivity, handleSyncGetActivity, requestedPage_of_fits fits, outcome_bind_of_ok answers, outcome_pure]
  dsimp only
  rw [List.length_map]
  refine SyncActivityPage.fromValue_toValue ?_
  intro item member
  rcases List.mem_map.mp member with ⟨file, _, same⟩
  rw [← same]
  rfl

/-- A page says that there are more exactly when it is full. -/
theorem full_iff (page : Nat) : (UInt32.ofNat (pageOf 50 (activityRows ties db) page).length == 50) = true ↔
    (pageOf 50 (activityRows ties db) page).length = 50 := by
  have short := @length_pageOf_le _ 50 (activityRows ties db) page
  have fits : (UInt32.ofNat (pageOf 50 (activityRows ties db) page).length).toNat =
      (pageOf 50 (activityRows ties db) page).length := by
    rw [UInt32.toNat_ofNat']
    exact Nat.mod_eq_of_lt (by omega)
  rw [beq_iff_eq, ← UInt32.toNat_inj, fits]
  rfl

/-- From a page that the rows reach to, the pages hold all the rows that are left. -/
theorem activityFrom_eq {requests page : Nat} (few : (activityRows ties db).length < 50 * 4294967296)
    (reaches : page * 50 ≤ (activityRows ties db).length)
    (enough : (activityRows ties db).length < (page + requests) * 50) :
    activityFrom ties db requests page =
      some ((((activityRows ties db).drop (page * 50)).map Row.data).map (@syncItem floats)) := by
  induction requests generalizing page with
  | zero =>
      rw [Nat.add_zero] at enough
      exact absurd enough (Nat.not_lt.mpr reaches)
  | succ requests inductionHypothesis =>
      have fits : page < 4294967296 := by omega
      rw [activityFrom, getSyncActivity_of_fits fits, Option.bind_eq_bind, Option.bind_some]
      dsimp only
      by_cases full : (pageOf 50 (activityRows ties db) page).length = 50
      · rw [if_pos ((full_iff page).mpr full)]
        have next := (length_pageOf_eq_iff (by decide)).mp full
        have number : (UInt32.ofNat page).toNat = page := by
          rw [UInt32.toNat_ofNat']
          exact Nat.mod_eq_of_lt fits
        have whole := @pageOf_append_drop _ 50 (activityRows ties db) page
        rw [number, inductionHypothesis next (by omega), ← whole, List.map_append, List.map_append]
        rfl
      · rw [if_neg fun more => full ((full_iff page).mp more), pageOf_of_not_full (by decide) full]
        rfl

end Pages

/-! ## The order of the listing -/

section Order

variable {ties : TieBreak} {db : Database}

theorem isLater_trichotomy (one two : Option Int) : isLater one two = true ∨ one = two ∨ isLater two one = true := by
  cases one with
  | none =>
      cases two with
      | none => exact Or.inr (Or.inl rfl)
      | some two => exact Or.inr (Or.inr rfl)
  | some one =>
      cases two with
      | none => exact Or.inl rfl
      | some two =>
          rw [isLater, isLater, decide_eq_true_eq, decide_eq_true_eq, Option.some.injEq]
          omega

theorem isLater_trans {one two three : Option Int} (first : isLater one two = true)
    (second : isLater two three = true) :
    isLater one three = true := by
  cases one with
  | none => cases first
  | some one =>
      cases two with
      | none => cases second
      | some two =>
          cases three with
          | none => rfl
          | some three =>
              rw [isLater, decide_eq_true_eq] at first second ⊢
              omega

theorem isLater_irrefl (time : Option Int) : isLater time time = false := by
  cases time with
  | none => rfl
  | some time =>
      rw [isLater, decide_eq_false_iff_not]
      omega

instance : Std.Total (ListedBefore ties) where
  total first second := by
    rcases isLater_trichotomy first.data.modifiedTime second.data.modifiedTime with newer | same | older
    · exact Or.inl (Or.inl newer)
    · exact (ties.total first second).imp (fun before => Or.inr ⟨same, before⟩) fun before => Or.inr ⟨same.symm, before⟩
    · exact Or.inr (Or.inl older)

instance : IsTrans (Row DriveFile) (ListedBefore ties) where
  trans first second third := by
    rintro (newer | ⟨same, before⟩) (more | ⟨alike, further⟩)
    · exact Or.inl (isLater_trans newer more)
    · rw [ListedBefore, ← alike]
      exact Or.inl newer
    · rw [ListedBefore, same]
      exact Or.inl more
    · exact Or.inr ⟨same.trans alike, ties.trans _ _ _ before further⟩

theorem descending_activityRows : (activityRows ties db).Pairwise fun first second =>
    isLater second.data.modifiedTime first.data.modifiedTime = false := by
  refine (List.pairwise_insertionSort (ListedBefore ties) (liveRows db)).imp ?_
  rintro first second (newer | ⟨same, _⟩)
  · rw [← Bool.not_eq_true]
    intro older
    have never := isLater_trans newer older
    rw [isLater_irrefl] at never
    cases never
  · rw [same]
    exact isLater_irrefl _

theorem perm_activityRows : (activityRows ties db).Perm (liveRows db) :=
  List.perm_insertionSort (ListedBefore ties) _

end Order

/-- Asking for page after page while there are more ends, with the items of all rows that are not trashed,
each once and the newest first. -/
theorem activity_complete {floats : FloatFormat} (ties : TieBreak) (db : Database)
    (few : (liveRows db).length < 50 * 4294967296) :
    ∃ rows : List (Row DriveFile), rows.Perm (liveRows db) ∧
      (rows.Pairwise fun first second => isLater second.data.modifiedTime first.data.modifiedTime = false) ∧
      ∀ requests, (liveRows db).length / 50 < requests →
        activityFrom ties db requests 0 = some (rows.map fun row => @syncItem floats row.data) := by
  have length := (@perm_activityRows ties db).length_eq
  refine ⟨activityRows ties db, perm_activityRows, descending_activityRows, ?_⟩
  intro requests enough
  rw [activityFrom_eq (by omega) (by omega) (by omega), Nat.zero_mul, List.drop_zero, List.map_map]
  rfl

/-- Rows of one modification time come out in the order in which they are stored. -/
def storedFirst : TieBreak where
  before first second := decide (first.rowid ≤ second.rowid)
  total first second := by
    rw [decide_eq_true_iff, decide_eq_true_iff]
    exact Nat.le_total _ _
  trans first second third one two :=
    decide_eq_true (Nat.le_trans (of_decide_eq_true one) (of_decide_eq_true two))

/-- A file in the cloud, last modified at a time or at none. -/
def cloudFile (id : String) (modifiedTime : Option Int) : DriveFile :=
  ⟨id, "ann@example.com", id, "text/plain", none, some 7, none, none, modifiedTime, false, false, none, .cloudOnly,
    none⟩

/-- Sixty files, of which every other one has a modification time. -/
def sixtyFiles : Database :=
  (List.range 60).foldl (fun db number => db.putFile (cloudFile (String.singleton (Char.ofNat (64 + number)))
    (if number % 2 = 0 then none else some number))) Database.fresh

theorem length_liveRows_sixtyFiles : (liveRows sixtyFiles).length = 60 := by
  decide +kernel

/-- The sixty files take two pages: the first one is full and says that there are more. -/
theorem activity_complete_of_sixtyFiles :
    ((getSyncActivity storedFirst sixtyFiles 0).map fun activity : SyncActivityPage wholeNumbers =>
        (activity.items.length, activity.hasMore)) = some (50, true) ∧
      ∃ rows : List (Row DriveFile), rows.Perm (liveRows sixtyFiles) ∧
        (rows.Pairwise fun first second => isLater second.data.modifiedTime first.data.modifiedTime = false) ∧
        ∀ requests, (liveRows sixtyFiles).length / 50 < requests →
          activityFrom storedFirst sixtyFiles requests 0 =
            some (rows.map fun row => @syncItem wholeNumbers row.data) := by
  have count := length_liveRows_sixtyFiles
  refine ⟨?_, activity_complete storedFirst sixtyFiles (by omega)⟩
  have reached : (pageOf 50 (activityRows storedFirst sixtyFiles) 0).length = 50 := by
    rw [length_pageOf_eq_iff (by decide), (@perm_activityRows storedFirst sixtyFiles).length_eq, count]
    decide
  rw [getSyncActivity_of_fits (by decide), Option.map_some, (full_iff 0).mpr reached, List.length_map, List.length_map,
    reached]

end Activity
end Ipc
end GDriver
