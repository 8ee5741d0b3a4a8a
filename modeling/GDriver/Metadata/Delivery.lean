import GDriver.Metadata.Writes

namespace GDriver
namespace Metadata

open Library Routine Db Api Sync

/-!
# Delivery of changes

An incremental sync stores a new page token after its last page and thereby
gives up every change it was sent: the next poll starts behind them.  It
delivers a change at least once when it only does so after each of them has
been applied.  The error of a single change is logged and forgotten, so this
depends on every statement of every change.

A poll is laid out here as the list of its deliveries, each a change together
with what the statements for it meet.  What the sync leaves behind is the
effect of the deliveries in order, followed by the new token if it stores one.
-/

/-- A change as one poll meets it. -/
structure Delivery where
  change : Change
  answers : ProcessChangeAnswers

/-- The changes of a page with what the statements for each of them meet. -/
def pageDeliveries : (Nat → ProcessChangeAnswers) → List Change → List Delivery
  | _, [] => []
  | answers, change :: rest =>
      ⟨change, answers 0⟩ :: pageDeliveries (fun index => answers (index + 1)) rest

/-- The deliveries of a poll, up to the request that is not answered if there
is one. -/
def pollDeliveries : List ChangePage → String → List Delivery
  | [], _ => []
  | page :: pages, currentToken =>
      match page.response currentToken with
      | .error _ => []
      | .ok response =>
          pageDeliveries page.statements response.changes ++
            match response.nextPageToken with
            | some token => pollDeliveries pages token
            | none => []

/-- The token a poll ends with: none when a request is not answered, and
`some none` when the pages carry no token. -/
def pollToken : List ChangePage → String → Option String → Option (Option String)
  | [], _, _ => none
  | page :: pages, currentToken, latestToken =>
      match page.response currentToken with
      | .error _ => none
      | .ok response =>
          match response.nextPageToken with
          | some token => pollToken pages token (response.newStartPageToken.or latestToken)
          | none => some (response.newStartPageToken.or latestToken)

/-- The token an incremental sync starts from. -/
def startToken (answers : IncrementalSyncAnswers) (accountId : String) (db : Database) :
    Option String :=
  if answers.getsToken then db.token accountId else none

/-- The changes an incremental sync is sent. -/
def deliveries (answers : IncrementalSyncAnswers) (accountId : String) (db : Database) :
    List Delivery :=
  match startToken answers accountId db with
  | none => []
  | some pageToken => pollDeliveries answers.pages pageToken

/-- The token an incremental sync stores: the one the poll ends with, when
every request is answered and the last statement is executed. -/
def tokenToStore (answers : IncrementalSyncAnswers) (accountId : String) (db : Database) :
    Option String :=
  match startToken answers accountId db with
  | none => none
  | some pageToken =>
      match pollToken answers.pages pageToken none with
      | some (some token) => if answers.setsToken then some token else none
      | _ => none

/-- Whether the change asks for a write and every statement it needs is
executed. -/
def handles (delivery : Delivery) : Bool :=
  match delivery.change.fileId with
  | none => false
  | some _ =>
      if delivery.change.removed.getD false then
        delivery.answers.marks && delivery.answers.looksUp
      else
        delivery.change.file.isSome && (delivery.answers.looksUp && delivery.answers.upserts)

section Sync

variable [Rfc3339] (accountId : String) (syncMode : SyncMode) (mountPoint : String)

/-- The processing of one delivery. -/
def processDelivery (delivery : Delivery) : Routine String Database Unit :=
  processChange delivery.answers accountId delivery.change syncMode mountPoint

/-- The database after a list of deliveries. -/
def afterDeliveries (list : List Delivery) (db : Database) : Database :=
  list.foldl (fun state delivery =>
    final (processDelivery accountId syncMode mountPoint delivery) state) db

/-- The change took effect on `drive_files`: its row is trashed, or replaced
by the row of its record. -/
def Applied (delivery : Delivery) (db : Database) : Prop :=
  ∃ write, changeWrite accountId delivery.change = some write ∧
    (final (processDelivery accountId syncMode mountPoint delivery) db).cells write.key =
      write.act (db.cells write.key)

/-- The change was processed without an error. -/
def Processed (delivery : Delivery) (db : Database) : Prop :=
  outcome (processDelivery accountId syncMode mountPoint delivery) db = .ok ()

/-- The sync delivers at least once: if it moves the stored token, then every
change it was sent has been applied and was processed without an error.  When
it does not move the token, the next poll asks for the same changes again. -/
def AtLeastOnce (answers : IncrementalSyncAnswers) (db : Database) : Prop :=
  (final (incrementalSync answers accountId syncMode mountPoint) db).token accountId ≠
      db.token accountId →
    ∀ before delivery after,
      deliveries answers accountId db = before ++ delivery :: after →
        Applied accountId syncMode mountPoint delivery
            (afterDeliveries accountId syncMode mountPoint before db) ∧
          Processed accountId syncMode mountPoint delivery
            (afterDeliveries accountId syncMode mountPoint before db)

variable {accountId syncMode mountPoint}

/-! ## One delivery -/

omit [Rfc3339] in
theorem handles_of_unnamed {delivery : Delivery} (unnamed : delivery.change.fileId = none) :
    handles delivery = false := by
  unfold handles
  rw [unnamed]

omit [Rfc3339] in
theorem handles_of_removed {delivery : Delivery} {fileId : String}
    (about : delivery.change.fileId = some fileId)
    (removed : delivery.change.removed.getD false = true) :
    handles delivery = (delivery.answers.marks && delivery.answers.looksUp) := by
  unfold handles
  rw [about, removed]
  rfl

omit [Rfc3339] in
theorem handles_of_surviving {delivery : Delivery} {fileId : String}
    (about : delivery.change.fileId = some fileId)
    (survives : delivery.change.removed.getD false = false) :
    handles delivery = (delivery.change.file.isSome &&
      (delivery.answers.looksUp && delivery.answers.upserts)) := by
  unfold handles
  rw [about, survives]
  rfl

/-- For a stored account, a change asks for a write that is made without an
error exactly when its statements are executed. -/
theorem handles_iff {db : Database} (stored : db.hasAccount accountId = true)
    (delivery : Delivery) :
    handles delivery = true ↔
      (changeWrite accountId delivery.change).isSome = true ∧
        changeCompletes delivery.answers accountId delivery.change db = true := by
  unfold changeCompletes
  cases about : delivery.change.fileId with
  | none =>
      rw [handles_of_unnamed about, changeWrite_of_unnamed about]
      simp only [Bool.false_eq_true, Option.isSome_none, false_and]
  | some fileId =>
      cases removed : delivery.change.removed.getD false with
      | true =>
          rw [handles_of_removed about removed, changeWrite_of_removed about removed]
          simp only [Option.isSome_some, writeRuns_trash, true_and]
      | false =>
          rw [handles_of_surviving about removed]
          cases record : delivery.change.file with
          | none =>
              rw [changeWrite_of_no_record about removed record]
              simp only [Option.isSome_none, Bool.false_and, Bool.false_eq_true, false_and]
          | some apiFile =>
              have accepted : db.acceptsFile (mapApiFileToDb apiFile accountId) = true := by
                unfold Database.acceptsFile
                rw [mapApiFileToDb_accountId, stored, Bool.or_true]
              rw [changeWrite_of_record about removed record]
              simp only [Option.isSome_some, Bool.true_and, writeRuns_store, accepted,
                Bool.and_true, Bool.and_eq_true, true_and]
              constructor
              · rintro ⟨looksUp, upserts⟩
                exact ⟨⟨looksUp, upserts⟩, looksUp⟩
              · exact And.left

theorem processed_iff {db : Database} (delivery : Delivery) :
    Processed accountId syncMode mountPoint delivery db ↔
      changeCompletes delivery.answers accountId delivery.change db = true := by
  unfold Processed processDelivery
  rw [(processChange_spec delivery.answers accountId delivery.change syncMode mountPoint db).reports]
  cases changeCompletes delivery.answers accountId delivery.change db with
  | true => exact iff_of_true rfl rfl
  | false =>
      refine iff_of_false ?_ Bool.false_ne_true
      intro answered
      cases answered

/-- A change whose write is made takes effect on its row. -/
theorem applied_of_completes {db : Database} {delivery : Delivery}
    (asks : (changeWrite accountId delivery.change).isSome = true)
    (completes : changeCompletes delivery.answers accountId delivery.change db = true) :
    Applied accountId syncMode mountPoint delivery db := by
  rcases Option.isSome_iff_exists.mp asks with ⟨write, asked⟩
  refine ⟨write, asked, ?_⟩
  have spec := processChange_spec delivery.answers accountId delivery.change syncMode mountPoint db
  unfold changeCompletes at completes
  rw [asked] at completes
  have runs := (Bool.and_eq_true_iff.mp completes).1
  unfold processDelivery Database.cells
  rw [spec.writes.driveFiles, changeWritten_of_asked asked, if_pos runs]
  change (write.apply db).cells write.key = _
  rw [FileWrite.cells_apply]
  exact KeyedUpdates.apply_of_addressed _ rfl _

/-- The change took effect and was processed without an error, exactly when
its statements are executed. -/
theorem applied_and_processed_iff {db : Database} (stored : db.hasAccount accountId = true)
    (delivery : Delivery) :
    (Applied accountId syncMode mountPoint delivery db ∧
        Processed accountId syncMode mountPoint delivery db) ↔ handles delivery = true := by
  rw [handles_iff stored, processed_iff]
  constructor
  · rintro ⟨⟨write, asked, _⟩, completes⟩
    rw [asked]
    exact ⟨rfl, completes⟩
  · rintro ⟨asks, completes⟩
    exact ⟨applied_of_completes asks completes, completes⟩

/-! ## A whole poll -/

theorem hasAccount_afterDeliveries (list : List Delivery) (db : Database) :
    (afterDeliveries accountId syncMode mountPoint list db).hasAccount accountId =
      db.hasAccount accountId := by
  induction list generalizing db with
  | nil => rfl
  | cons delivery rest inductionHypothesis =>
      exact (inductionHypothesis _).trans
        (hasAccount_processChange delivery.change syncMode mountPoint)

theorem syncTokens_afterDeliveries (list : List Delivery) (db : Database) :
    (afterDeliveries accountId syncMode mountPoint list db).syncTokens = db.syncTokens := by
  induction list generalizing db with
  | nil => rfl
  | cons delivery rest inductionHypothesis =>
      exact (inductionHypothesis _).trans
        (syncTokens_processChange delivery.change syncMode mountPoint)

theorem final_processChanges (answers : Nat → ProcessChangeAnswers) (changes : List Change)
    (db : Database) :
    final (processChanges accountId syncMode mountPoint answers changes) db =
      afterDeliveries accountId syncMode mountPoint (pageDeliveries answers changes) db := by
  induction changes generalizing answers db with
  | nil => rfl
  | cons change rest inductionHypothesis => exact inductionHypothesis _ _

theorem outcome_processChanges (answers : Nat → ProcessChangeAnswers) (changes : List Change)
    (db : Database) :
    outcome (processChanges accountId syncMode mountPoint answers changes) db = .ok () := by
  induction changes generalizing answers db with
  | nil => rfl
  | cons change rest inductionHypothesis => exact inductionHypothesis _ _

theorem afterDeliveries_append (first second : List Delivery) (db : Database) :
    afterDeliveries accountId syncMode mountPoint (first ++ second) db =
      afterDeliveries accountId syncMode mountPoint second
        (afterDeliveries accountId syncMode mountPoint first db) :=
  List.foldl_append

/-- A poll has the effect of its deliveries, and answers its token exactly
when it gets to the end. -/
theorem pollPages_spec (pages : List ChangePage) (currentToken : String)
    (latestToken : Option String) (total : Nat) (db : Database) :
    final (pollPages accountId syncMode mountPoint pages currentToken latestToken total) db =
        afterDeliveries accountId syncMode mountPoint (pollDeliveries pages currentToken) db ∧
      (match pollToken pages currentToken latestToken with
        | some latest => ∃ count,
            outcome (pollPages accountId syncMode mountPoint pages currentToken latestToken total)
              db = .ok (latest, count)
        | none => ∃ failure,
            outcome (pollPages accountId syncMode mountPoint pages currentToken latestToken total)
              db = .error failure) := by
  induction pages generalizing currentToken latestToken total db with
  | nil => exact ⟨rfl, stopped, rfl⟩
  | cons page pages inductionHypothesis =>
      unfold pollPages pollDeliveries pollToken
      cases responded : page.response currentToken with
      | error failure => exact ⟨rfl, failure, rfl⟩
      | ok response =>
          have answered : outcome (received (.ok response) : Routine String Database _) db =
              .ok response := rfl
          have unchanged : final (received (.ok response) : Routine String Database _) db = db := rfl
          have processed : outcome
              (processChanges accountId syncMode mountPoint page.statements response.changes) db =
                .ok () := outcome_processChanges _ _ db
          rw [final_bind_of_ok answered, outcome_bind_of_ok answered, unchanged,
            final_bind_of_ok processed, outcome_bind_of_ok processed, final_processChanges]
          dsimp only
          rw [afterDeliveries_append]
          cases response.nextPageToken with
          | none => exact ⟨rfl, _, rfl⟩
          | some token => exact inductionHypothesis _ _ _ _

/-- A sync leaves behind the effect of its deliveries and, when it gets to
the end, the new token. -/
theorem final_incrementalSync {db : Database} (stored : db.hasAccount accountId = true)
    (answers : IncrementalSyncAnswers) :
    final (incrementalSync answers accountId syncMode mountPoint) db =
      match tokenToStore answers accountId db with
      | some token =>
          (afterDeliveries accountId syncMode mountPoint (deliveries answers accountId db)
            db).putToken ⟨accountId, token, answers.now⟩
      | none =>
          afterDeliveries accountId syncMode mountPoint (deliveries answers accountId db) db := by
  have getting := outcome_getToken answers.getsToken db accountId
  unfold incrementalSync tokenToStore deliveries startToken
  by_cases gets : answers.getsToken = true
  · rw [if_pos gets] at getting
    rw [final_bind_of_ok getting, final_getToken, if_pos gets]
    cases db.token accountId with
    | none => rfl
    | some pageToken =>
        dsimp only
        rcases pollPages_spec answers.pages pageToken none 0 db with ⟨polled, reported⟩
        cases ended : pollToken answers.pages pageToken none with
        | none =>
            rw [ended] at reported
            rcases reported with ⟨failure, reported⟩
            rw [final_bind_of_error reported, polled]
        | some latest =>
            rw [ended] at reported
            rcases reported with ⟨count, reported⟩
            rw [final_bind_of_ok reported, polled]
            cases latest with
            | none => rfl
            | some token =>
                have accepted : (afterDeliveries accountId syncMode mountPoint
                    (pollDeliveries answers.pages pageToken) db).acceptsToken accountId = true := by
                  unfold Database.acceptsToken
                  rw [hasAccount_afterDeliveries, stored, Bool.or_true]
                have setting := outcome_setToken answers.setsToken (afterDeliveries accountId
                  syncMode mountPoint (pollDeliveries answers.pages pageToken) db) answers.now
                  accountId token
                rw [accepted, Bool.and_true] at setting
                dsimp only
                by_cases sets : answers.setsToken = true
                · rw [if_pos sets] at setting
                  rw [final_bind_of_ok setting, final_setToken, accepted, sets]
                  rfl
                · rw [if_neg sets] at setting
                  rw [final_bind_of_error setting, final_setToken, accepted,
                    Bool.eq_false_iff.mpr sets]
                  rfl
  · rw [if_neg gets] at getting
    rw [final_bind_of_error getting, final_getToken, if_neg gets]
    rfl

/-- The token stored after a sync. -/
theorem token_incrementalSync {db : Database} (stored : db.hasAccount accountId = true)
    (answers : IncrementalSyncAnswers) :
    (final (incrementalSync answers accountId syncMode mountPoint) db).token accountId =
      (tokenToStore answers accountId db).or (db.token accountId) := by
  rw [final_incrementalSync stored]
  cases tokenToStore answers accountId db with
  | none =>
      unfold Database.token
      rw [syncTokens_afterDeliveries, Option.none_or]
  | some token =>
      exact Database.token_putToken_self _ _

/-- An incremental sync delivers at least once exactly when, in case it
stores another token, every change it was sent is handled. -/
theorem incrementalSync_atLeastOnce_iff {db : Database} (stored : db.hasAccount accountId = true)
    (answers : IncrementalSyncAnswers) :
    AtLeastOnce accountId syncMode mountPoint answers db ↔
      (∀ token ∈ tokenToStore answers accountId db, some token ≠ db.token accountId →
        ∀ delivery ∈ deliveries answers accountId db, handles delivery = true) := by
  unfold AtLeastOnce
  rw [token_incrementalSync stored]
  have reached (before : List Delivery) : (afterDeliveries accountId syncMode mountPoint before
      db).hasAccount accountId = true := (hasAccount_afterDeliveries before db).trans stored
  constructor
  · intro delivered token storing moves delivery member
    rcases List.append_of_mem member with ⟨before, after, same⟩
    rw [Option.mem_def.mp storing] at delivered
    exact (applied_and_processed_iff (reached before) delivery).mp
      (delivered moves before delivery after same)
  · intro handled moves before delivery after same
    cases storing : tokenToStore answers accountId db with
    | none =>
        rw [storing] at moves
        exact absurd rfl moves
    | some token =>
        rw [storing] at moves
        refine (applied_and_processed_iff (reached before) delivery).mpr ?_
        refine handled token storing moves delivery ?_
        rw [same]
        exact List.mem_append_right before List.mem_cons_self

end Sync

/-- The sync of an account whose one change is sent on one page and whose
upsert fails. -/
def failedUpsert : IncrementalSyncAnswers where
  getsToken := true
  pages := [{
    response := fun _ => .ok {
      changes := [⟨some "notes", some false, some (Api.DriveFile.named "notes" "notes.txt")⟩]
      nextPageToken := none
      newStartPageToken := some "2" }
    statements := fun _ => { ProcessChangeAnswers.allRun 0 with upserts := false } }]
  setsToken := true
  now := 0

/-- The account before its sync, with the token of its last poll. -/
def polledAccount : Database :=
  (Database.connected ⟨"ann@example.com", "ann@example.com", 0⟩).putToken
    ⟨"ann@example.com", "1", 0⟩

/-- The condition holds of the same sync when the upsert is executed. -/
theorem incrementalSync_atLeastOnce_iff_of_executed :
    @AtLeastOnce untimed "ann@example.com" .mirror "/mnt"
      { failedUpsert with pages := failedUpsert.pages.map fun page =>
          { page with statements := fun _ => ProcessChangeAnswers.allRun 0 } } polledAccount := by
  apply (@incrementalSync_atLeastOnce_iff untimed "ann@example.com" .mirror "/mnt" polledAccount
    (by decide) _).mpr
  intro token storing moves
  decide

/-- The token moves past the change whose upsert failed, and no row is stored. -/
theorem incrementalSync_drops_failed_change :
    ¬ @AtLeastOnce untimed "ann@example.com" .mirror "/mnt" failedUpsert polledAccount := by
  intro delivered
  have moves : (final (@incrementalSync untimed failedUpsert "ann@example.com" .mirror "/mnt")
      polledAccount).token "ann@example.com" ≠ polledAccount.token "ann@example.com" := by
    decide
  have handled := ((@applied_and_processed_iff untimed _ _ _ _ (by decide) _).mp
    (delivered moves [] _ [] rfl))
  revert handled
  decide

end Metadata
end GDriver
