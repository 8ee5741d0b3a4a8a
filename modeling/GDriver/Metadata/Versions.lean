import GDriver.Metadata.Replay
import Mathlib

namespace GDriver
namespace Metadata

open Library Routine Db Api Sync

/-!
# Versions under two interleaved syncs

The initial sync of an account runs in a task of its own while the polls of
the incremental sync write to the same table.  Each response carries a file's
state at the moment the server answered, and either task may write a state
long after it was answered.  No write looks at the version it replaces.

The history of the files on the server is a structure with the two promises
the server makes about versions: a later state never has a smaller version,
and two states with the same version are the same.  An interleaving is any
list of row writes of the two tasks.  For each file the stored version never
decreases, and the row ends as the newest state received, exactly when the
records happen to be written in the order of their versions and the last
write agrees with the newest answer on whether the file is there.
-/

/-- The version number a record carries, below all numbers when it has none. -/
def recordVersion (apiFile : Api.DriveFile) : WithBot Int :=
  apiFile.version.bind parseI64

/-- The version number stored in a row, below all numbers without a row. -/
def storedVersion (cell : Option Db.DriveFile) : WithBot Int :=
  cell.bind Db.DriveFile.version

/-- The state of every file on the server at every moment: its record, or
none when it is removed or not visible to the user. -/
structure History where
  state : String → Nat → Option Api.DriveFile
  named : ∀ fileId moment, ∀ apiFile ∈ state fileId moment, apiFile.id = some fileId
  monotone : ∀ fileId earlier later, earlier ≤ later →
    ∀ before ∈ state fileId earlier, ∀ after ∈ state fileId later,
      recordVersion before ≤ recordVersion after
  determined : ∀ fileId earlier later,
    ∀ before ∈ state fileId earlier, ∀ after ∈ state fileId later,
      recordVersion before = recordVersion after → before = after

/-- One row write of either task, with the moment the server answered. -/
inductive SyncWrite (history : History) where
  /-- The upsert of a file that a listing page carries. -/
  | listed (fileId : String) (moment : Nat) (present : (history.state fileId moment).isSome)
  /-- The processing of a change that a change page carries. -/
  | polled (fileId : String) (moment : Nat) (now : Int)

namespace SyncWrite

variable {history : History}

def fileId : SyncWrite history → String
  | listed fileId _ _ => fileId
  | polled fileId _ _ => fileId

def moment : SyncWrite history → Nat
  | listed _ moment _ => moment
  | polled _ moment _ => moment

/-- The state the write carries. -/
def content (write : SyncWrite history) : Option Api.DriveFile :=
  history.state write.fileId write.moment

/-- The change that reports a file's state. -/
def change (history : History) (fileId : String) (moment : Nat) : Change where
  fileId := some fileId
  removed := some (history.state fileId moment).isNone
  file := history.state fileId moment

end SyncWrite

/-- The last of some records in version order is the newest one, if that is
among them and no version exceeds its version. -/
theorem getLast?_records {written : List Api.DriveFile} {newest : Api.DriveFile}
    (ordered : (written.map recordVersion).IsChain (· ≤ ·)) (member : newest ∈ written)
    (bounded : ∀ apiFile ∈ written, recordVersion apiFile ≤ recordVersion newest)
    (determined : ∀ apiFile ∈ written,
      recordVersion apiFile = recordVersion newest → apiFile = newest) :
    written.getLast? = some newest := by
  cases found : written.getLast? with
  | none =>
      rw [List.getLast?_eq_none_iff.mp found] at member
      cases member
  | some last =>
      rcases List.getLast?_eq_some_iff.mp found with ⟨before, split⟩
      have lastMember : last ∈ written := List.mem_of_getLast? found
      have notLess : recordVersion newest ≤ recordVersion last := by
        rw [split] at member ordered
        rcases List.mem_append.mp member with earlier | same
        · rw [List.map_append] at ordered
          have pairwise := List.pairwise_append.mp (List.isChain_iff_pairwise.mp ordered)
          exact pairwise.2.2 _ (List.mem_map_of_mem earlier) _ (List.mem_singleton_self _)
        · rw [List.mem_singleton.mp same]
      rw [determined last lastMember (le_antisymm (bounded last lastMember) notLess)]

section Interleaving

variable [Rfc3339] {history : History} (accountId : String) (syncMode : SyncMode)
  (mountPoint : String)

/-- Carry out one write. -/
def runWrite (db : Database) : SyncWrite history → Database
  | .listed fileId moment present =>
      final (upsertFile true
        (mapApiFileToDb ((history.state fileId moment).get present) accountId)) db
  | .polled fileId moment now =>
      final (processChange (ProcessChangeAnswers.allRun now) accountId
        (SyncWrite.change history fileId moment) syncMode mountPoint) db

/-- The states the database goes through. -/
def statesThrough (writes : List (SyncWrite history)) (db : Database) : List Database :=
  writes.scanl (runWrite accountId syncMode mountPoint) db

/-- The database when both tasks have finished. -/
def afterWrites (writes : List (SyncWrite history)) (db : Database) : Database :=
  writes.foldl (runWrite accountId syncMode mountPoint) db

/-- The version stored for the file never decreases. -/
def VersionNeverDecreases (fileId : String) (writes : List (SyncWrite history))
    (db : Database) : Prop :=
  (statesThrough accountId syncMode mountPoint writes db).IsChain fun earlier later =>
    storedVersion (earlier.file fileId accountId) ≤ storedVersion (later.file fileId accountId)

/-- The moment of the newest answer about the file that either task received. -/
def NewestAnswer (fileId : String) (writes : List (SyncWrite history)) (moment : Nat) : Prop :=
  (∃ write ∈ writes, write.fileId = fileId ∧ write.moment = moment) ∧
    ∀ write ∈ writes, write.fileId = fileId → write.moment ≤ moment

/-- The row under the file holds a state: the row of its record, or a row in
the trash, if any, when the file is gone. -/
def HoldsState (cell : Option Db.DriveFile) : Option Api.DriveFile → Prop
  | some apiFile => cell = some (mapApiFileToDb apiFile accountId)
  | none => ∀ row ∈ cell, row.isTrashed = true

/-- No metadata regresses: the stored version of the file never decreases and
its row ends as the newest state received. -/
structure NoRegression (fileId : String) (writes : List (SyncWrite history)) (db : Database) :
    Prop where
  version : VersionNeverDecreases accountId syncMode mountPoint fileId writes db
  newest : ∀ moment, NewestAnswer fileId writes moment →
    HoldsState accountId
      ((afterWrites accountId syncMode mountPoint writes db).file fileId accountId)
      (history.state fileId moment)

/-- The states written for one file, in the order of the writes. -/
def contents (fileId : String) (writes : List (SyncWrite history)) :
    List (Option Api.DriveFile) :=
  (writes.filter fun write => write.fileId = fileId).map SyncWrite.content

/-- The records among them. -/
def records (fileId : String) (writes : List (SyncWrite history)) : List Api.DriveFile :=
  (contents fileId writes).filterMap id

/-- The order of the writes respects the versions of the file: its records
are written in the order of their versions, beginning at the stored one, and
the last write and the newest answer agree on whether the file is there,
unless the last record says that it is in the trash. -/
structure WrittenInOrder (fileId : String) (writes : List (SyncWrite history)) (db : Database) :
    Prop where
  versions : (storedVersion (db.file fileId accountId) ::
    (records fileId writes).map recordVersion).IsChain (· ≤ ·)
  ending : ∀ moment, NewestAnswer fileId writes moment →
    ((contents fileId writes).getLast?.map Option.isNone =
        some (history.state fileId moment).isNone) ∨
      ((records fileId writes).getLast?.bind Api.DriveFile.trashed = some true)

variable {accountId syncMode mountPoint} {db : Database}

/-! ## One write -/

/-- What a write makes of the row of its file. -/
def writtenCell (accountId : String) (cell : Option Db.DriveFile) :
    Option Api.DriveFile → Option Db.DriveFile
  | some apiFile => some (mapApiFileToDb apiFile accountId)
  | none => cell.map Db.DriveFile.trashed

/-- The write that the change reporting a state asks for. -/
theorem changeWrite_change (history : History) (accountId fileId : String) (moment : Nat) :
    ∃ write, changeWrite accountId (SyncWrite.change history fileId moment) = some write ∧
      write.key = (fileId, accountId) ∧
      ∀ cell, write.act cell = writtenCell accountId cell (history.state fileId moment) := by
  cases record : history.state fileId moment with
  | none =>
      refine ⟨.trash fileId accountId, changeWrite_of_removed rfl ?_ accountId, rfl, fun _ => rfl⟩
      unfold SyncWrite.change
      rw [record]
      rfl
  | some apiFile =>
      refine ⟨.store (mapApiFileToDb apiFile accountId), ?_, ?_, fun _ => rfl⟩
      · refine changeWrite_of_record (rfl : _ = some fileId) ?_ record accountId
        unfold SyncWrite.change
        rw [record]
        rfl
      · have named := history.named fileId moment apiFile record
        rw [FileWrite.key, Db.DriveFile.key, mapApiFileToDb_id, named]
        rfl

/-- The cells after a write: that of its file holds what the write makes of it. -/
theorem cells_runWrite (stored : db.hasAccount accountId = true) (write : SyncWrite history) :
    (runWrite accountId syncMode mountPoint db write).cells =
      Function.update db.cells (write.fileId, accountId)
        (writtenCell accountId (db.cells (write.fileId, accountId)) write.content) := by
  cases write with
  | listed fileId moment present =>
      rcases Option.isSome_iff_exists.mp present with ⟨apiFile, record⟩
      have named := history.named fileId moment apiFile record
      have content : (SyncWrite.listed fileId moment present).content = some apiFile := record
      have same : (history.state fileId moment).get present = apiFile :=
        Option.get_of_eq_some present record
      have key : (mapApiFileToDb apiFile accountId).key = (fileId, accountId) := by
        unfold Db.DriveFile.key
        rw [mapApiFileToDb_id, named]
        rfl
      have accepted : db.acceptsFile (mapApiFileToDb apiFile accountId) = true := by
        unfold Database.acceptsFile
        rw [mapApiFileToDb_accountId, stored, Bool.or_true]
      rw [runWrite, same, final_upsertFile, accepted, content]
      have applied := FileWrite.cells_apply (.store (mapApiFileToDb apiFile accountId)) db
      unfold KeyedUpdates.apply FileWrite.updates at applied
      simp only [FileWrite.key, FileWrite.act, key] at applied
      exact applied
  | polled fileId moment now =>
      rcases changeWrite_change history accountId fileId moment with ⟨write, asked, key, act⟩
      have cells := cells_processChange (Executed.allRun now) stored
        (SyncWrite.change history fileId moment) syncMode mountPoint
      rw [runWrite, cells]
      unfold KeyedUpdates.apply changeUpdates
      simp only [asked, Option.map_some, key, act]
      rfl

/-- A write changes the row of its own file. -/
theorem file_runWrite_self (stored : db.hasAccount accountId = true) {write : SyncWrite history}
    {fileId : String} (same : write.fileId = fileId) :
    (runWrite accountId syncMode mountPoint db write).file fileId accountId =
      writtenCell accountId (db.file fileId accountId) write.content := by
  have cells : (runWrite accountId syncMode mountPoint db write).cells = _ :=
    cells_runWrite stored write
  have cell := congrFun cells (fileId, accountId)
  rw [same, Function.update_self] at cell
  exact cell

/-- A write leaves the row of every other file alone. -/
theorem file_runWrite_of_ne (stored : db.hasAccount accountId = true) {write : SyncWrite history}
    {fileId : String} (different : write.fileId ≠ fileId) :
    (runWrite accountId syncMode mountPoint db write).file fileId accountId =
      db.file fileId accountId := by
  have cells : (runWrite accountId syncMode mountPoint db write).cells = _ :=
    cells_runWrite stored write
  have cell := congrFun cells (fileId, accountId)
  rw [Function.update_of_ne fun same => different (congrArg Prod.fst same).symm] at cell
  exact cell

theorem hasAccount_runWrite (write : SyncWrite history) :
    (runWrite accountId syncMode mountPoint db write).hasAccount accountId =
      db.hasAccount accountId := by
  cases write with
  | listed listedId moment present =>
      rw [runWrite, final_upsertFile]
      split <;> rfl
  | polled polledId moment now => exact hasAccount_processChange _ syncMode mountPoint

/-- The version of a row after a write is that of the record, or as before. -/
theorem storedVersion_writtenCell (cell : Option Db.DriveFile)
    (content : Option Api.DriveFile) :
    storedVersion (writtenCell accountId cell content) =
      match content with
      | some apiFile => recordVersion apiFile
      | none => storedVersion cell := by
  cases content with
  | none => cases cell <;> rfl
  | some apiFile => rfl

/-! ## Whole interleavings -/

/-- The row of a file is made by the writes to that file, in their order. -/
theorem file_afterWrites (stored : db.hasAccount accountId = true) (fileId : String)
    (writes : List (SyncWrite history)) :
    (afterWrites accountId syncMode mountPoint writes db).file fileId accountId =
      (contents fileId writes).foldl (writtenCell accountId) (db.file fileId accountId) := by
  induction writes generalizing db with
  | nil => rfl
  | cons write rest inductionHypothesis =>
      have still : (runWrite accountId syncMode mountPoint db write).hasAccount accountId = true :=
        (hasAccount_runWrite write).trans stored
      refine (inductionHypothesis still).trans ?_
      unfold contents
      by_cases same : write.fileId = fileId
      · rw [file_runWrite_self stored same, List.filter_cons, if_pos (decide_eq_true same)]
        rfl
      · rw [file_runWrite_of_ne stored same, List.filter_cons, if_neg (by simpa using same)]

/-- The stored version never decreases exactly when the records are written
in the order of their versions, beginning at the stored one. -/
theorem versionNeverDecreases_iff (stored : db.hasAccount accountId = true) (fileId : String)
    (writes : List (SyncWrite history)) :
    VersionNeverDecreases accountId syncMode mountPoint fileId writes db ↔
      (storedVersion (db.file fileId accountId) ::
        (records fileId writes).map recordVersion).IsChain (· ≤ ·) := by
  induction writes generalizing db with
  | nil => exact iff_of_true (List.isChain_singleton _) (List.isChain_singleton _)
  | cons write rest inductionHypothesis =>
      have still : (runWrite accountId syncMode mountPoint db write).hasAccount accountId = true :=
        (hasAccount_runWrite write).trans stored
      have step : VersionNeverDecreases accountId syncMode mountPoint fileId (write :: rest) db ↔
          storedVersion (db.file fileId accountId) ≤ storedVersion
              ((runWrite accountId syncMode mountPoint db write).file fileId accountId) ∧
            VersionNeverDecreases accountId syncMode mountPoint fileId rest
              (runWrite accountId syncMode mountPoint db write) := by
        unfold VersionNeverDecreases statesThrough
        rw [List.scanl_cons]
        cases rest with
        | nil =>
            rw [List.scanl_nil]
            exact List.isChain_cons_cons
        | cons next later =>
            rw [List.scanl_cons]
            exact List.isChain_cons_cons
      rw [step, inductionHypothesis still]
      unfold records contents
      by_cases same : write.fileId = fileId
      · rw [file_runWrite_self stored same, storedVersion_writtenCell, List.filter_cons,
          if_pos (decide_eq_true same), List.map_cons, List.filterMap_cons]
        cases write.content with
        | none => exact and_iff_right le_rfl
        | some apiFile => exact List.isChain_cons_cons.symm
      · rw [file_runWrite_of_ne stored same, List.filter_cons, if_neg (by simpa using same)]
        exact and_iff_right le_rfl

/-- Trashing the outcome of some writes gives the trashed row of the last
record among them. -/
theorem trashed_foldl_writtenCell (accountId : String) (cell : Option Db.DriveFile)
    (written : List (Option Api.DriveFile)) :
    (written.foldl (writtenCell accountId) cell).map Db.DriveFile.trashed =
      match (written.filterMap id).getLast? with
      | some apiFile => some (mapApiFileToDb apiFile accountId).trashed
      | none => cell.map Db.DriveFile.trashed := by
  induction written using List.reverseRecOn with
  | nil => rfl
  | append_singleton before last inductionHypothesis =>
      rw [List.foldl_append, List.filterMap_append]
      cases last with
      | none =>
          have same : before.filterMap id ++ [(none : Option Api.DriveFile)].filterMap id =
              before.filterMap id := List.append_nil _
          rw [same, ← inductionHypothesis]
          exact Option.map_map _ _ _
      | some apiFile =>
          have last : (before.filterMap id ++ [some apiFile].filterMap id).getLast? =
              some apiFile := List.getLast?_concat
          rw [last]
          rfl

/-- When the records are written in version order, the row ends as the newest
state exactly when the last write agrees with it on whether the file is there
or the last record is in the trash. -/
theorem holdsState_iff {written : List (Option Api.DriveFile)} {newest : Option Api.DriveFile}
    (member : newest ∈ written)
    (ordered : ((written.filterMap id).map recordVersion).IsChain (· ≤ ·))
    (bounded : ∀ apiFile ∈ written.filterMap id, ∀ last ∈ newest,
      recordVersion apiFile ≤ recordVersion last)
    (determined : ∀ apiFile ∈ written.filterMap id, ∀ last ∈ newest,
      recordVersion apiFile = recordVersion last → apiFile = last)
    (accountId : String) (cell : Option Db.DriveFile) :
    HoldsState accountId (written.foldl (writtenCell accountId) cell) newest ↔
      (written.getLast?.map Option.isNone = some newest.isNone ∨
        (written.filterMap id).getLast?.bind Api.DriveFile.trashed = some true) := by
  have inTrash (apiFile : Api.DriveFile) :
      (mapApiFileToDb apiFile accountId).isTrashed = true ↔ apiFile.trashed = some true := by
    rw [mapApiFileToDb_isTrashed]
    rcases apiFile.trashed with _ | _ | _ <;> simp
  have newestLast (last : Api.DriveFile) (isNewest : newest = some last) :
      (written.filterMap id).getLast? = some last :=
    getLast?_records ordered (List.mem_filterMap.mpr ⟨newest, member, isNewest⟩)
      (fun apiFile stored => bounded apiFile stored last isNewest)
      (fun apiFile stored => determined apiFile stored last isNewest)
  rcases List.eq_nil_or_concat written with none | ⟨before, final, split⟩
  · rw [none] at member
    cases member
  · have trashing := trashed_foldl_writtenCell accountId cell before
    rw [List.concat_eq_append] at split
    subst split
    rw [List.getLast?_concat, List.foldl_append]
    cases final with
    | some apiFile =>
        have last : ((before ++ [some apiFile]).filterMap id).getLast? = some apiFile := by
          rw [List.filterMap_append]
          exact List.getLast?_concat
        cases newest with
        | none =>
            rw [last]
            simp only [List.foldl_cons, List.foldl_nil, writtenCell, HoldsState, Option.mem_def,
              Option.some.injEq, forall_eq', inTrash, Option.map_some, Option.isNone_some,
              Option.isNone_none, Bool.false_eq_true, false_or, Option.bind_some]
        | some newest =>
            have same : apiFile = newest :=
              Option.some.inj (last.symm.trans (newestLast newest rfl))
            rw [same]
            exact iff_of_true rfl (Or.inl rfl)
    | none =>
        have dropped : (before ++ [none]).filterMap id = before.filterMap id := by
          rw [List.filterMap_append]
          exact List.append_nil _
        rw [dropped] at newestLast ⊢
        simp only [List.foldl_cons, List.foldl_nil, writtenCell]
        rw [trashing]
        cases newest with
        | none =>
            refine iff_of_true ?_ (Or.inl rfl)
            intro row found
            split at found
            · rw [← Option.some.inj found]
              rfl
            · rcases Option.map_eq_some_iff.mp found with ⟨old, _, same⟩
              rw [← same]
              rfl
        | some newest =>
            rw [newestLast newest rfl]
            simp only [HoldsState, Option.some.injEq, Option.map_some, Option.isNone_none,
              Option.isNone_some, Bool.true_eq_false, false_or, Option.bind_some]
            rw [← inTrash]
            constructor
            · intro same
              rw [← same]
              rfl
            · intro trashed
              unfold Db.DriveFile.trashed
              rw [← trashed]

/-- For every interleaving and every file, no metadata regresses exactly when
the writes to the file respect its versions. -/
theorem noRegression_iff (stored : db.hasAccount accountId = true)
    (writes : List (SyncWrite history)) (fileId : String) :
    NoRegression accountId syncMode mountPoint fileId writes db ↔
      WrittenInOrder accountId fileId writes db := by
  have ofRecord (apiFile : Api.DriveFile) (stored : apiFile ∈ records fileId writes) :
      ∃ write ∈ writes, write.fileId = fileId ∧ write.content = some apiFile := by
    rcases List.mem_filterMap.mp stored with ⟨content, listed, same⟩
    rcases List.mem_map.mp listed with ⟨write, member, carries⟩
    have own := List.mem_filter.mp member
    exact ⟨write, own.1, of_decide_eq_true own.2, carries.trans same⟩
  have ending (moment : Nat) (newest : NewestAnswer fileId writes moment)
      (ordered : ((records fileId writes).map recordVersion).IsChain (· ≤ ·)) :
      HoldsState accountId
          ((contents fileId writes).foldl (writtenCell accountId) (db.file fileId accountId))
          (history.state fileId moment) ↔
        ((contents fileId writes).getLast?.map Option.isNone =
            some (history.state fileId moment).isNone ∨
          (records fileId writes).getLast?.bind Api.DriveFile.trashed = some true) := by
    apply holdsState_iff _ ordered
    · intro apiFile written last isLast
      rcases ofRecord apiFile written with ⟨write, member, same, carries⟩
      unfold SyncWrite.content at carries
      rw [same] at carries
      exact history.monotone fileId _ _ (newest.2 write member same) _ carries _ isLast
    · intro apiFile written last isLast equal
      rcases ofRecord apiFile written with ⟨write, member, same, carries⟩
      unfold SyncWrite.content at carries
      rw [same] at carries
      exact history.determined fileId _ _ _ carries _ isLast equal
    · rcases newest.1 with ⟨write, member, same, answered⟩
      refine List.mem_map.mpr ⟨write, List.mem_filter.mpr ⟨member, decide_eq_true same⟩, ?_⟩
      unfold SyncWrite.content
      rw [same, answered]
  constructor
  · intro sound
    have versions := (versionNeverDecreases_iff stored fileId writes).mp sound.version
    refine ⟨versions, fun moment newest => ?_⟩
    have holds := sound.newest moment newest
    rw [file_afterWrites stored] at holds
    exact (ending moment newest versions.tail).mp holds
  · intro ordered
    refine ⟨(versionNeverDecreases_iff stored fileId writes).mpr ordered.versions,
      fun moment newest => ?_⟩
    rw [file_afterWrites stored]
    exact (ending moment newest ordered.versions.tail).mpr (ordered.ending moment newest)

end Interleaving

/-- The record of a file in its first or its second version. -/
def editedRecord (moment : Nat) : Api.DriveFile :=
  { Api.DriveFile.named "notes" "notes.txt" with
    version := some (if moment < 2 then "1" else "2") }

theorem recordVersion_editedRecord (moment : Nat) :
    recordVersion (editedRecord moment) =
      if moment < 2 then ((1 : Int) : WithBot Int) else ((2 : Int) : WithBot Int) := by
  have first : parseI64 "1" = some 1 := by decide
  have second : parseI64 "2" = some 2 := by decide
  unfold recordVersion editedRecord
  dsimp only
  rw [Option.bind_some]
  split
  · rw [first]
    rfl
  · rw [second]
    rfl

/-- A file that is edited once, at moment 2. -/
def editedOnce : History where
  state := fun fileId moment => if fileId = "notes" then some (editedRecord moment) else none
  named := by
    intro fileId moment apiFile present
    rcases Option.ite_none_right_eq_some.mp present with ⟨same, record⟩
    rw [← Option.some.inj record, same]
    rfl
  monotone := by
    intro fileId earlier later ordered before present after presentLater
    rcases Option.ite_none_right_eq_some.mp present with ⟨_, record⟩
    rcases Option.ite_none_right_eq_some.mp presentLater with ⟨_, recordLater⟩
    rw [← Option.some.inj record, ← Option.some.inj recordLater, recordVersion_editedRecord,
      recordVersion_editedRecord]
    by_cases late : later < 2
    · rw [if_pos (Nat.lt_of_le_of_lt ordered late), if_pos late]
    · rw [if_neg late]
      split
      · exact WithBot.coe_le_coe.mpr (by decide)
      · exact le_rfl
  determined := by
    intro fileId earlier later before present after presentLater equal
    rcases Option.ite_none_right_eq_some.mp present with ⟨_, record⟩
    rcases Option.ite_none_right_eq_some.mp presentLater with ⟨_, recordLater⟩
    have different : ((1 : Int) : WithBot Int) ≠ ((2 : Int) : WithBot Int) := by
      intro same
      cases WithBot.coe_injective same
    rw [← Option.some.inj record, ← Option.some.inj recordLater] at equal ⊢
    rw [recordVersion_editedRecord, recordVersion_editedRecord] at equal
    unfold editedRecord
    by_cases early : earlier < 2 <;> by_cases late : later < 2
    · rw [if_pos early, if_pos late]
    · rw [if_pos early, if_neg late] at equal
      exact absurd equal different
    · rw [if_neg early, if_pos late] at equal
      exact absurd equal.symm different
    · rw [if_neg early, if_neg late]

/-- The listing page fetched before the edit is written before the change
that reports the edit, and nothing regresses. -/
theorem noRegression_iff_of_listed_first :
    @NoRegression untimed editedOnce "ann@example.com" .mirror "/mnt" "notes"
      [.listed "notes" 1 rfl, .polled "notes" 2 0]
      (Database.connected ⟨"ann@example.com", "ann@example.com", 0⟩) := by
  apply (@noRegression_iff untimed _ _ _ _ _ (by decide) _ _).mpr
  refine ⟨?_, ?_⟩
  · refine List.isChain_cons_cons.mpr ⟨bot_le, List.isChain_cons_cons.mpr ⟨?_,
      List.isChain_singleton _⟩⟩
    exact editedOnce.monotone "notes" 1 2 (by decide) _ rfl _ rfl
  · intro moment newest
    exact Or.inl rfl

/-- The change reporting the edit is written first, then the listing page
fetched before the edit: the stored version goes back. -/
theorem listed_late_regresses :
    ¬ @NoRegression untimed editedOnce "ann@example.com" .mirror "/mnt" "notes"
      [.polled "notes" 2 0, .listed "notes" 1 rfl]
      (Database.connected ⟨"ann@example.com", "ann@example.com", 0⟩) := by
  intro sound
  let _ : Rfc3339 := untimed
  have versions := (versionNeverDecreases_iff (by decide) _ _).mp sound.version
  have backwards : recordVersion (editedRecord 2) ≤ recordVersion (editedRecord 1) :=
    (List.isChain_cons_cons.mp (List.isChain_cons_cons.mp versions).2).1
  rw [recordVersion_editedRecord, recordVersion_editedRecord, if_neg (by decide),
    if_pos (by decide)] at backwards
  exact absurd (WithBot.coe_le_coe.mp backwards) (by decide)

end Metadata
end GDriver
