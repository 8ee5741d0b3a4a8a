import GDriver.Library.Run
import GDriver.Metadata.Delivery

namespace GDriver
namespace Metadata

open Library Routine Db Api Sync

/-!
# Completeness of the two syncs together

An account's files reach `drive_files` on two ways.  Those that never change
again are stored by the listing of the initial sync, the others by a poll that
reads their change.  The start token is stored before the listing begins, so
that an initial sync stopped in between leaves a token behind which the files
it did not list never appear.

The server is a change feed with a position for each token, and the set of
files that exist in the end.  A run is any list of initial syncs and polls,
each with every failure its answers can express.  The invariant is that every
existing file has a row or a report in the part of the feed behind the stored
token.
-/

/-! ## What no sync does to the database -/

/-- Every row that was there still is, and the accounts and tokens are those
of before. -/
structure LosesNoRow (db later : Database) : Prop where
  rows : ∀ fileId accountId, (db.file fileId accountId).isSome = true →
    (later.file fileId accountId).isSome = true
  accounts : later.accounts = db.accounts
  syncTokens : later.syncTokens = db.syncTokens

instance : Std.Refl LosesNoRow where
  refl _ := ⟨fun _ _ stored => stored, rfl, rfl⟩

instance : IsTrans Database LosesNoRow where
  trans _ _ _ one two :=
    ⟨fun fileId accountId stored => two.rows fileId accountId (one.rows fileId accountId stored),
      two.accounts.trans one.accounts, two.syncTokens.trans one.syncTokens⟩

theorem losesNoRow_of_agree {db later : Database} (agree : Database.AgreeBesideQueue db later) :
    LosesNoRow db later where
  rows := by
    intro fileId accountId stored
    unfold Database.file at stored ⊢
    rw [agree.driveFiles]
    exact stored
  accounts := agree.accounts
  syncTokens := agree.syncTokens

theorem losesNoRow_putFile (db : Database) (file : Db.DriveFile) :
    LosesNoRow db (db.putFile file) where
  rows := by
    intro fileId accountId stored
    rw [Database.file_putFile]
    split
    · rfl
    · exact stored
  accounts := rfl
  syncTokens := rfl

theorem losesNoRow_apply (write : FileWrite) (db : Database) : LosesNoRow db (write.apply db) := by
  cases write with
  | store file => exact losesNoRow_putFile db file
  | trash id owner =>
      refine ⟨?_, rfl, rfl⟩
      intro fileId accountId stored
      unfold FileWrite.apply
      rw [Database.file_updateFileAt]
      split
      · exact Option.isSome_map.trans stored
      · exact stored

theorem keeps_upsertFile (runs : Bool) (file : Db.DriveFile) :
    Keeps LosesNoRow (upsertFile runs file) := by
  intro db
  rw [final_upsertFile]
  split
  · exact losesNoRow_putFile db file
  · exact Std.Refl.refl db

theorem keeps_mirrorFiles (answers : MirrorAnswers) (accountId mountPoint : String)
    (folders : List String) (nameMap : String → Option (String × Option String)) (index : Nat)
    (files : List Db.DriveFile) :
    Keeps LosesNoRow (mirrorFiles answers accountId mountPoint folders nameMap index files) := by
  induction files generalizing index with
  | nil => exact keeps_pure 0
  | cons file rest inductionHypothesis =>
      unfold mirrorFiles
      split
      · split
        · exact keeps_throw stopped
        · refine keeps_bind (keeps_upsertFile _ _) fun _ => ?_
          refine keeps_bind (keeps_observe fun db => ?_) fun enqueued => ?_
          · exact losesNoRow_of_agree (keeps_enqueue _ _ db)
          · refine keeps_bind (inductionHypothesis (index + 1)) fun count => ?_
            cases enqueued with
            | ok task => exact keeps_pure _
            | error failure => exact keeps_pure _
      · exact inductionHypothesis (index + 1)

theorem keeps_enqueueMirrorDownloads (answers : MirrorAnswers) (accountId mountPoint : String) :
    Keeps LosesNoRow (enqueueMirrorDownloads answers accountId mountPoint) := by
  refine keeps_bind (fun db => ?_) fun allFiles => keeps_mirrorFiles answers accountId mountPoint _ _ _ _
  rw [final_select]
  exact Std.Refl.refl db

/-! ## The listing -/

/-- The files the listing answers with, when every request is answered and
the last page says that it is the last. -/
def listing : List ListPage → Option String → Option (List Api.DriveFile)
  | [], _ => none
  | page :: pages, nextPageToken =>
      match page.response nextPageToken with
      | .error _ => none
      | .ok response =>
          match response.nextPageToken with
          | some token => (listing pages (some token)).map fun rest => response.files ++ rest
          | none => some response.files

/-- Whether every upsert of the listing is executed. -/
def listingStores : List ListPage → Option String → Bool
  | [], _ => true
  | page :: pages, nextPageToken =>
      match page.response nextPageToken with
      | .error _ => true
      | .ok response =>
          (List.range response.files.length).all page.upserts &&
            match response.nextPageToken with
            | some token => listingStores pages (some token)
            | none => true

section Listing

variable [Rfc3339] (accountId : String)

theorem keeps_upsertListed (upserts : Nat → Bool) (files : List Api.DriveFile) :
    Keeps LosesNoRow (upsertListed accountId upserts files) := by
  induction files generalizing upserts with
  | nil => exact keeps_pure ()
  | cons apiFile rest inductionHypothesis =>
      exact keeps_bind (keeps_upsertFile _ _) fun _ => inductionHypothesis _

theorem keeps_listPages (pages : List ListPage) (nextPageToken : Option String) :
    Keeps LosesNoRow (listPages accountId pages nextPageToken) := by
  induction pages generalizing nextPageToken with
  | nil => exact keeps_throw stopped
  | cons page pages inductionHypothesis =>
      unfold listPages
      refine keeps_bind ?_ fun response => ?_
      · cases page.response nextPageToken with
        | error failure => exact keeps_throw failure
        | ok response => exact keeps_pure response
      · refine keeps_bind (keeps_upsertListed accountId _ _) fun _ => ?_
        cases response.nextPageToken with
        | none => exact keeps_pure ()
        | some token => exact inductionHypothesis _

variable {accountId}

/-- When its statements are executed, a page stores a row for each of its
files and reports no error. -/
theorem upsertListed_spec {upserts : Nat → Bool} {files : List Api.DriveFile}
    (executed : (List.range files.length).all upserts = true) {db : Database}
    (stored : db.hasAccount accountId = true) :
    outcome (upsertListed accountId upserts files) db = .ok () ∧
      ∀ apiFile ∈ files, ((final (upsertListed accountId upserts files) db).file
        (apiFile.id.getD "") accountId).isSome = true := by
  induction files generalizing upserts db with
  | nil => exact ⟨rfl, fun _ member => absurd member List.not_mem_nil⟩
  | cons apiFile rest inductionHypothesis =>
      rcases upsertListed_cons executed stored with ⟨restRuns, answers, leaves⟩
      have ⟨answered, rows⟩ :=
        @inductionHypothesis _ restRuns (db.putFile (mapApiFileToDb apiFile accountId)) stored
      rw [answers, leaves]
      refine ⟨answered, fun listed member => ?_⟩
      rcases List.mem_cons.mp member with same | later
      · refine (keeps_upsertListed accountId _ rest _).rows _ _ ?_
        rw [same]
        exact congrArg Option.isSome
          (Database.file_putFile_self db (mapApiFileToDb apiFile accountId))
      · exact rows listed later

/-- A listing that reaches its end and whose statements are executed stores a
row for each file it answered with. -/
theorem listPages_stores {pages : List ListPage} {nextPageToken : Option String}
    {files : List Api.DriveFile} (ends : listing pages nextPageToken = some files)
    (executed : listingStores pages nextPageToken = true) {db : Database}
    (stored : db.hasAccount accountId = true) :
    outcome (listPages accountId pages nextPageToken) db = .ok () ∧
      ∀ apiFile ∈ files, ((final (listPages accountId pages nextPageToken) db).file
        (apiFile.id.getD "") accountId).isSome = true := by
  induction pages generalizing nextPageToken files db with
  | nil => cases ends
  | cons page pages inductionHypothesis =>
      unfold listing at ends
      unfold listingStores at executed
      unfold listPages
      cases responded : page.response nextPageToken with
      | error failure =>
          rw [responded] at ends
          cases ends
      | ok response =>
          rw [responded] at ends executed
          dsimp only at ends executed
          have ⟨pageRuns, restRuns⟩ := Bool.and_eq_true_iff.mp executed
          have ⟨pageAnswered, pageRows⟩ := upsertListed_spec pageRuns stored
          have answered : outcome (received (.ok response) : Routine String Database _) db =
              .ok response := rfl
          have unchanged : final (received (.ok response) : Routine String Database _) db = db := rfl
          have stillStored : (final (upsertListed accountId page.upserts response.files)
              db).hasAccount accountId = true := by
            unfold Database.hasAccount
            rw [(keeps_upsertListed accountId page.upserts response.files db).accounts]
            exact stored
          rw [outcome_bind_of_ok answered, final_bind_of_ok answered, unchanged,
            outcome_bind_of_ok pageAnswered, final_bind_of_ok pageAnswered]
          cases next : response.nextPageToken with
          | none =>
              rw [next] at ends
              cases ends
              exact ⟨rfl, pageRows⟩
          | some token =>
              rw [next] at ends restRuns
              rcases Option.map_eq_some_iff.mp ends with ⟨rest, restEnds, same⟩
              have ⟨restAnswered, restRows⟩ := inductionHypothesis restEnds restRuns stillStored
              refine ⟨restAnswered, fun apiFile member => ?_⟩
              rw [← same] at member
              rcases List.mem_append.mp member with here | later
              · exact (keeps_listPages accountId pages (some token) _).rows _ _
                  (pageRows apiFile here)
              · exact restRows apiFile later

end Listing

/-! ## The server -/

/-- The change feed of an account from its beginning to its end, with the
position of each page token in it. -/
structure ChangeFeed where
  changes : List Change
  position : String → Nat

namespace ChangeFeed

/-- The changes behind a token. -/
def behind (feed : ChangeFeed) (token : String) : List Change :=
  feed.changes.drop (feed.position token)

/-- The change reports that the file exists, with its record. -/
def Reports (change : Change) (fileId : String) : Prop :=
  change.fileId = some fileId ∧ change.removed.getD false = false ∧
    ∃ apiFile, change.file = some apiFile ∧ apiFile.id = some fileId

/-- A page holds some of the changes behind its token, and its tokens stand
after them. -/
def Answers (feed : ChangeFeed) (token : String) (response : ChangeListResponse) : Prop :=
  ∃ count, response.changes = (feed.behind token).take count ∧
    (∀ next ∈ response.nextPageToken, feed.position next = feed.position token + count) ∧
    (∀ latest ∈ response.newStartPageToken, feed.position latest = feed.position token + count)

variable {feed : ChangeFeed}

theorem behind_subset_of_position_le {first second : String}
    (ordered : feed.position second ≤ feed.position first) :
    feed.behind first ⊆ feed.behind second :=
  (List.drop_sublist_drop_left feed.changes ordered).subset

/-- What is behind a token is on its page or behind the tokens of the page. -/
theorem mem_page_or_behind {token next : String} {count : Nat}
    (after : feed.position next = feed.position token + count) {change : Change}
    (member : change ∈ feed.behind token) :
    change ∈ (feed.behind token).take count ∨ change ∈ feed.behind next := by
  have split : feed.behind token =
      (feed.behind token).take count ++ feed.behind next := by
    unfold behind
    rw [after, ← List.drop_drop, List.take_append_drop]
  rw [split] at member
  rw [List.mem_append] at member
  exact member

end ChangeFeed

theorem map_pageDeliveries (answers : Nat → ProcessChangeAnswers) (changes : List Change) :
    (pageDeliveries answers changes).map Delivery.change = changes := by
  induction changes generalizing answers with
  | nil => rfl
  | cons change rest inductionHypothesis =>
      unfold pageDeliveries
      rw [List.map_cons, inductionHypothesis]

/-- A poll that gets to its end has been sent every change between the token
it started from and the one it ends with. -/
theorem sent_or_behind {feed : ChangeFeed} {pages : List ChangePage}
    (honest : ∀ page ∈ pages, ∀ token response, page.response token = .ok response →
      feed.Answers token response)
    {currentToken latest : String} {latestToken : Option String}
    (passed : ∀ earlier ∈ latestToken, feed.position earlier ≤ feed.position currentToken)
    (ends : pollToken pages currentToken latestToken = some (some latest))
    {change : Change} (member : change ∈ feed.behind currentToken) :
    (∃ delivery ∈ pollDeliveries pages currentToken, delivery.change = change) ∨
      change ∈ feed.behind latest := by
  induction pages generalizing currentToken latestToken with
  | nil => cases ends
  | cons page pages inductionHypothesis =>
      unfold pollToken at ends
      unfold pollDeliveries
      cases responded : page.response currentToken with
      | error failure =>
          rw [responded] at ends
          cases ends
      | ok response =>
          rw [responded] at ends
          dsimp only at ends ⊢
          rcases honest page List.mem_cons_self currentToken response responded with
            ⟨count, sent, nextAfter, latestAfter⟩
          have onPage (here : change ∈ (feed.behind currentToken).take count) :
              ∃ delivery ∈ pageDeliveries page.statements response.changes,
                delivery.change = change := by
            rw [← sent, ← map_pageDeliveries page.statements response.changes] at here
            exact List.mem_map.mp here
          cases next : response.nextPageToken with
          | none =>
              rw [next] at ends
              have ended := Option.some.inj ends
              cases started : response.newStartPageToken with
              | none =>
                  rw [started, Option.none_or] at ended
                  exact Or.inr (ChangeFeed.behind_subset_of_position_le
                    (passed latest (Option.mem_def.mpr ended)) member)
              | some token =>
                  rw [started, Option.some_or] at ended
                  rw [Option.some.inj ended] at started
                  rcases ChangeFeed.mem_page_or_behind
                    (latestAfter latest (Option.mem_def.mpr started)) member with here | later
                  · rcases onPage here with ⟨delivery, on, same⟩
                    exact Or.inl ⟨delivery, List.mem_append_left _ on, same⟩
                  · exact Or.inr later
          | some token =>
              rw [next] at ends
              have after := nextAfter token (Option.mem_def.mpr next)
              rcases ChangeFeed.mem_page_or_behind after member with here | later
              · rcases onPage here with ⟨delivery, on, same⟩
                exact Or.inl ⟨delivery, List.mem_append_left _ on, same⟩
              · have stillPassed : ∀ earlier ∈ response.newStartPageToken.or latestToken,
                    feed.position earlier ≤ feed.position token := by
                  intro earlier among
                  rw [after]
                  rcases Option.or_eq_some_iff.mp (Option.mem_def.mp among) with
                    fresh | ⟨_, kept⟩
                  · exact Nat.le_of_eq (latestAfter earlier fresh)
                  · exact Nat.le_trans (passed earlier kept) (Nat.le_add_right _ _)
                rcases inductionHypothesis (fun page on => honest page (List.mem_cons_of_mem _ on))
                  stillPassed ends later with ⟨delivery, on, same⟩ | beyond
                · exact Or.inl ⟨delivery, List.mem_append_right _ on, same⟩
                · exact Or.inr beyond

/-! ## Runs -/

/-- The start token an initial sync stores, if it gets that far. -/
def startTokenToStore (answers : InitialSyncAnswers) : Option String :=
  match answers.startPageToken with
  | .error _ => none
  | .ok token => if answers.setsToken then some token else none

theorem of_startTokenToStore {answers : InitialSyncAnswers} {token : String}
    (starts : startTokenToStore answers = some token) :
    answers.startPageToken = .ok token ∧ answers.setsToken = true := by
  unfold startTokenToStore at starts
  split at starts
  · cases starts
  · next started =>
      rcases Option.ite_none_right_eq_some.mp starts with ⟨sets, same⟩
      rw [started, Option.some.inj same]
      exact ⟨rfl, sets⟩

/-- One of the two syncs of the account, with what it meets. -/
inductive SyncStep where
  | initial (answers : InitialSyncAnswers)
  | poll (answers : IncrementalSyncAnswers)

/-- What the server answers is consistent with the feed and the existing
files: the pages of a poll are pages of the feed, and an existing file is
listed or reported behind the start token. -/
def SyncStep.Honest (feed : ChangeFeed) (existing : String → Prop) : SyncStep → Prop
  | .initial answers =>
      ∀ token, answers.startPageToken = .ok token → ∀ fileId, existing fileId →
        (∃ change ∈ feed.behind token, ChangeFeed.Reports change fileId) ∨
          ∀ files ∈ listing answers.pages none, ∃ apiFile ∈ files, apiFile.id = some fileId
  | .poll answers =>
      ∀ page ∈ answers.pages, ∀ token response, page.response token = .ok response →
        feed.Answers token response

/-- An initial sync that stores its start token gets through its listing, and
a poll that moves the token has stored what was reported to it. -/
def SyncStep.Completes (accountId : String) (db : Database) : SyncStep → Prop
  | .initial answers =>
      (startTokenToStore answers).isSome = true →
        (listing answers.pages none).isSome = true ∧ listingStores answers.pages none = true
  | .poll answers =>
      ∀ token ∈ tokenToStore answers accountId db, some token ≠ db.token accountId →
        ∀ fileId, (db.file fileId accountId).isSome = false →
          (∃ delivery ∈ deliveries answers accountId db,
            ChangeFeed.Reports delivery.change fileId) →
          ∃ delivery ∈ deliveries answers accountId db,
            ChangeFeed.Reports delivery.change fileId ∧ handles delivery = true

/-- Every existing file has a row or is reported behind the stored token. -/
def Covered (feed : ChangeFeed) (existing : String → Prop) (accountId : String)
    (db : Database) : Prop :=
  ∀ token ∈ db.token accountId, ∀ fileId, existing fileId →
    (db.file fileId accountId).isSome = true ∨
      ∃ change ∈ feed.behind token, ChangeFeed.Reports change fileId

section Runs

variable [Rfc3339] (accountId : String) (syncMode : SyncMode) (mountPoint : String)

/-- The database after a step. -/
def SyncStep.exec (db : Database) : SyncStep → Database
  | .initial answers => final (initialSync answers accountId syncMode mountPoint) db
  | .poll answers => final (incrementalSync answers accountId syncMode mountPoint) db

/-- The syncs so far are complete with this last poll: if it succeeds and no
change is left behind the stored token, every existing file has a row. -/
def CompleteAfter (feed : ChangeFeed) (existing : String → Prop) (steps : List SyncStep)
    (answers : IncrementalSyncAnswers) (db : Database) : Prop :=
  (∃ count, outcome (incrementalSync answers accountId syncMode mountPoint)
      (run (SyncStep.exec accountId syncMode mountPoint) steps db) = .ok count) →
    (∀ token ∈ (run (SyncStep.exec accountId syncMode mountPoint)
        (steps ++ [.poll answers]) db).token accountId, feed.behind token = []) →
      ∀ fileId, existing fileId →
        ((run (SyncStep.exec accountId syncMode mountPoint) (steps ++ [.poll answers]) db).file
          fileId accountId).isSome = true

variable {accountId syncMode mountPoint} {feed : ChangeFeed} {existing : String → Prop}

theorem losesNoRow_afterDeliveries (list : List Delivery) (db : Database) :
    LosesNoRow db (afterDeliveries accountId syncMode mountPoint list db) := by
  induction list generalizing db with
  | nil => exact Std.Refl.refl db
  | cons delivery rest inductionHypothesis =>
      refine IsTrans.trans _ _ _ ?_ (inductionHypothesis _)
      have spec := processChange_spec delivery.answers accountId delivery.change syncMode
        mountPoint db
      refine IsTrans.trans _ _ _ ?_ (losesNoRow_of_agree spec.writes)
      cases asked : changeWrite accountId delivery.change with
      | none =>
          rw [changeWritten_of_not_asked asked]
          exact Std.Refl.refl db
      | some write =>
          rw [changeWritten_of_asked asked]
          split
          · exact losesNoRow_apply write db
          · exact Std.Refl.refl db

/-- A file whose report is handled has a row afterwards. -/
theorem stored_of_handled {db : Database} (stored : db.hasAccount accountId = true)
    {list : List Delivery} {delivery : Delivery} (member : delivery ∈ list) {fileId : String}
    (reports : ChangeFeed.Reports delivery.change fileId) (handled : handles delivery = true) :
    ((afterDeliveries accountId syncMode mountPoint list db).file fileId accountId).isSome =
      true := by
  rcases List.append_of_mem member with ⟨before, after, same⟩
  rcases reports with ⟨about, survives, apiFile, record, named⟩
  have reached : (afterDeliveries accountId syncMode mountPoint before db).hasAccount accountId =
      true := (hasAccount_afterDeliveries before db).trans stored
  rcases ((applied_and_processed_iff reached delivery).mpr handled).1 with ⟨write, asked, applied⟩
  rw [changeWrite_of_record about survives record] at asked
  rw [same, afterDeliveries_append]
  refine (losesNoRow_afterDeliveries after _).rows _ _ ?_
  rw [← Option.some.inj asked] at applied
  have key : (FileWrite.store (mapApiFileToDb apiFile accountId)).key = (fileId, accountId) := by
    change ((apiFile.id.getD ""), accountId) = _
    rw [named]
    rfl
  rw [key] at applied
  exact congrArg Option.isSome applied

omit [Rfc3339] in
/-- A sync that stores a token polled from the stored one to that token. -/
theorem of_tokenToStore {answers : IncrementalSyncAnswers} {db : Database} {latest : String}
    (storing : tokenToStore answers accountId db = some latest) :
    ∃ pageToken, db.token accountId = some pageToken ∧
      deliveries answers accountId db = pollDeliveries answers.pages pageToken ∧
      pollToken answers.pages pageToken none = some (some latest) := by
  unfold tokenToStore at storing
  unfold deliveries
  cases starts : startToken answers accountId db with
  | none =>
      rw [starts] at storing
      cases storing
  | some pageToken =>
      rw [starts] at storing
      dsimp only at storing
      refine ⟨pageToken, ?_, rfl, ?_⟩
      · unfold startToken at starts
        split at starts
        · exact starts
        · cases starts
      · split at storing
        · next token ended =>
            rw [ended]
            split at storing
            · exact congrArg some storing
            · cases storing
        · cases storing

/-- A poll keeps every existing file covered, when it completes. -/
theorem covered_poll {db : Database} (stored : db.hasAccount accountId = true)
    {answers : IncrementalSyncAnswers}
    (honest : (SyncStep.poll answers).Honest feed existing)
    (completes : (SyncStep.poll answers).Completes accountId db)
    (covered : Covered feed existing accountId db) :
    Covered feed existing accountId
      (SyncStep.exec accountId syncMode mountPoint db (.poll answers)) := by
  intro token now fileId present
  rw [SyncStep.exec] at now ⊢
  rw [token_incrementalSync stored, Option.mem_def] at now
  have kept (row : (db.file fileId accountId).isSome = true) :
      ((final (incrementalSync answers accountId syncMode mountPoint) db).file fileId
        accountId).isSome = true := by
    have rows := (losesNoRow_afterDeliveries (deliveries answers accountId db) db :
      LosesNoRow db (afterDeliveries accountId syncMode mountPoint _ db)).rows _ _ row
    rw [final_incrementalSync stored]
    cases tokenToStore answers accountId db <;> exact rows
  have unmoved (same : some token = db.token accountId) :
      ((final (incrementalSync answers accountId syncMode mountPoint) db).file fileId
        accountId).isSome = true ∨
          ∃ change ∈ feed.behind token, ChangeFeed.Reports change fileId :=
    (covered token same.symm fileId present).imp_left kept
  cases storing : tokenToStore answers accountId db with
  | none =>
      rw [storing, Option.none_or] at now
      exact unmoved now.symm
  | some latest =>
      rw [storing, Option.some_or] at now
      by_cases moves : some latest = db.token accountId
      · exact unmoved (now.symm.trans moves)
      · rcases of_tokenToStore storing with ⟨pageToken, started, delivered, ended⟩
        rcases covered pageToken started fileId present with row | ⟨change, behind, reports⟩
        · exact Or.inl (kept row)
        · have passed : ∀ earlier ∈ (none : Option String),
              feed.position earlier ≤ feed.position pageToken := by
            intro earlier among
            cases among
          rcases sent_or_behind honest passed ended behind with ⟨delivery, member, same⟩ | beyond
          · left
            by_cases row : (db.file fileId accountId).isSome = true
            · exact kept row
            · rw [← same] at reports
              rw [← delivered] at member
              rcases completes latest storing moves fileId (Bool.eq_false_iff.mpr row)
                ⟨delivery, member, reports⟩ with ⟨handled, among, about, handles⟩
              rw [final_incrementalSync stored, storing]
              exact stored_of_handled stored among about handles
          · rw [← Option.some.inj now]
            exact Or.inr ⟨change, beyond, reports⟩

/-- An initial sync that stores no start token changes nothing. -/
theorem final_initialSync_of_none {db : Database} {answers : InitialSyncAnswers}
    (stops : startTokenToStore answers = none) :
    final (initialSync answers accountId syncMode mountPoint) db = db := by
  unfold startTokenToStore at stops
  unfold initialSync
  cases started : answers.startPageToken with
  | error failure => rfl
  | ok pageToken =>
      rw [started] at stops
      have fails : answers.setsToken = false := by
        by_contra sets
        rw [Bool.not_eq_false] at sets
        dsimp only at stops
        rw [if_pos sets] at stops
        cases stops
      have answered : outcome (received (.ok pageToken) : Routine String Database _) db =
          .ok pageToken := rfl
      have setting := outcome_setToken answers.setsToken db answers.now accountId pageToken
      rw [fails, Bool.false_and, if_neg Bool.false_ne_true] at setting
      rw [final_bind_of_ok answered]
      change final (setToken _ _ _ _ >>= _) db = db
      rw [fails, final_bind_of_error setting, final_setToken, Bool.false_and,
        if_neg Bool.false_ne_true]

/-- After its start token an initial sync only adds rows, and when it gets
through its listing these include every file listed. -/
theorem initialSync_spec {db : Database} (stored : db.hasAccount accountId = true)
    {answers : InitialSyncAnswers} {token : String}
    (starts : startTokenToStore answers = some token) :
    LosesNoRow (db.putToken ⟨accountId, token, answers.now⟩)
        (final (initialSync answers accountId syncMode mountPoint) db) ∧
      ∀ files ∈ listing answers.pages none, listingStores answers.pages none = true →
        ∀ apiFile ∈ files, ((final (initialSync answers accountId syncMode mountPoint) db).file
          (apiFile.id.getD "") accountId).isSome = true := by
  rcases of_startTokenToStore starts with ⟨started, sets⟩
  have accepted : (answers.setsToken && db.acceptsToken accountId) = true := by
    unfold Database.acceptsToken
    rw [sets, stored, Bool.or_true, Bool.and_self]
  have answered : outcome (received (.ok token) : Routine String Database _) db = .ok token := rfl
  have setting := outcome_setToken answers.setsToken db answers.now accountId token
  rw [if_pos accepted] at setting
  have onward : final (initialSync answers accountId syncMode mountPoint) db =
      final (listPages accountId answers.pages none >>= fun _ =>
        if syncMode = .mirror then do
          let _ ← enqueueMirrorDownloads answers.mirror accountId mountPoint
          pure ()
        else pure ()) (db.putToken ⟨accountId, token, answers.now⟩) := by
    unfold initialSync
    rw [started, final_bind_of_ok answered]
    change final (setToken _ _ _ _ >>= _) db = _
    rw [final_bind_of_ok setting, final_setToken, if_pos accepted]
  have mirrors : Keeps LosesNoRow (if syncMode = .mirror then do
      let _ ← enqueueMirrorDownloads answers.mirror accountId mountPoint
      pure ()
    else pure () : Routine String Database Unit) := by
    split
    · exact keeps_bind (keeps_enqueueMirrorDownloads _ _ _) fun _ => keeps_pure ()
    · exact keeps_pure ()
  rw [onward]
  refine ⟨keeps_bind (keeps_listPages accountId _ _) (fun _ => mirrors) _, ?_⟩
  intro files ends executed apiFile member
  have tokenStored : (db.putToken ⟨accountId, token, answers.now⟩).hasAccount accountId =
      true := stored
  rcases listPages_stores ends executed tokenStored with ⟨listed, rows⟩
  rw [final_bind_of_ok listed]
  exact (mirrors _).rows _ _ (rows apiFile member)

/-- An initial sync keeps every existing file covered, when it completes. -/
theorem covered_initial {db : Database} (stored : db.hasAccount accountId = true)
    {answers : InitialSyncAnswers}
    (honest : (SyncStep.initial answers).Honest feed existing)
    (completes : (SyncStep.initial answers).Completes accountId db)
    (covered : Covered feed existing accountId db) :
    Covered feed existing accountId
      (SyncStep.exec accountId syncMode mountPoint db (.initial answers)) := by
  rw [SyncStep.exec]
  cases starts : startTokenToStore answers with
  | none =>
      rw [final_initialSync_of_none starts]
      exact covered
  | some start =>
      intro token now fileId present
      rcases (initialSync_spec stored starts :
        LosesNoRow _ (final (initialSync answers accountId syncMode mountPoint) db) ∧ _) with
        ⟨loses, lists⟩
      have same : start = token := by
        unfold Database.token at now
        rw [loses.syncTokens] at now
        have stands := Database.token_putToken_self db ⟨accountId, start, answers.now⟩
        exact Option.some.inj (stands.symm.trans now)
      rw [SyncStep.Completes, starts] at completes
      rcases completes rfl with ⟨ends, executed⟩
      rcases Option.isSome_iff_exists.mp ends with ⟨files, ended⟩
      rw [← same]
      rcases honest start (of_startTokenToStore starts).1 fileId present with reported | listed
      · exact Or.inr reported
      · rcases listed files ended with ⟨apiFile, member, named⟩
        have row := lists files ended executed apiFile member
        rw [named] at row
        exact Or.inl row

theorem hasAccount_exec {db : Database} (stored : db.hasAccount accountId = true)
    (step : SyncStep) :
    (SyncStep.exec accountId syncMode mountPoint db step).hasAccount accountId = true := by
  cases step with
  | initial answers =>
      rw [SyncStep.exec]
      cases starts : startTokenToStore answers with
      | none =>
          rw [final_initialSync_of_none starts]
          exact stored
      | some start =>
          unfold Database.hasAccount
          rw [(initialSync_spec stored starts).1.accounts]
          exact stored
  | poll answers =>
      rw [SyncStep.exec, final_incrementalSync stored]
      have kept := (hasAccount_afterDeliveries (deliveries answers accountId db) db :
        (afterDeliveries accountId syncMode mountPoint _ db).hasAccount accountId = _)
      cases tokenToStore answers accountId db <;> exact kept.trans stored

theorem hasAccount_run {db : Database} (stored : db.hasAccount accountId = true)
    (steps : List SyncStep) :
    (run (SyncStep.exec accountId syncMode mountPoint) steps db).hasAccount accountId = true := by
  induction steps generalizing db with
  | nil => exact stored
  | cons step rest inductionHypothesis => exact inductionHypothesis (hasAccount_exec stored step)

/-- In a run in which no initial sync is cut short after its start token, no
poll moves the token past a report it has not stored, and some initial sync
has stored a token, the account is complete once a poll succeeds and leaves
nothing behind. -/
theorem complete_of_completes {db : Database} (stored : db.hasAccount accountId = true)
    (unpolled : db.token accountId = none) (steps : List SyncStep)
    (answers : IncrementalSyncAnswers)
    (honest : ∀ step ∈ steps ++ [.poll answers], step.Honest feed existing)
    (completes : Along (SyncStep.exec accountId syncMode mountPoint)
      (SyncStep.Completes accountId) (steps ++ [.poll answers]) db)
    (started : (run (SyncStep.exec accountId syncMode mountPoint) steps db).token accountId ≠
      none) :
    CompleteAfter accountId syncMode mountPoint feed existing steps answers db := by
  intro _ nothingLeft fileId present
  have preserved (state : Database) (step : SyncStep)
      (condition : step.Completes accountId state ∧ step.Honest feed existing)
      (before : state.hasAccount accountId = true ∧ Covered feed existing accountId state) :
      (SyncStep.exec accountId syncMode mountPoint state step).hasAccount accountId = true ∧
        Covered feed existing accountId
          (SyncStep.exec accountId syncMode mountPoint state step) := by
    refine ⟨hasAccount_exec before.1 step, ?_⟩
    cases step with
    | initial answers => exact covered_initial before.1 condition.2 condition.1 before.2
    | poll answers => exact covered_poll before.1 condition.2 condition.1 before.2
  have initially : Covered feed existing accountId db := by
    intro token now
    rw [unpolled] at now
    cases now
  have covered := (run_of_along preserved (along_and_of_forall _ completes honest)
    ⟨stored, initially⟩).2
  have tokenKept : (run (SyncStep.exec accountId syncMode mountPoint) (steps ++ [.poll answers])
      db).token accountId ≠ none := by
    rw [run_append, run_cons, run_nil, SyncStep.exec,
      token_incrementalSync (hasAccount_run stored steps)]
    intro none
    exact started (Option.or_eq_none_iff.mp none).2
  rcases Option.ne_none_iff_exists'.mp tokenKept with ⟨token, now⟩
  rcases covered token now fileId present with row | ⟨change, behind, _⟩
  · exact row
  · rw [nothingLeft token now] at behind
    cases behind

end Runs

/-- A feed without changes. -/
def quietFeed : ChangeFeed where
  changes := []
  position := fun _ => 0

/-- A poll that is told there are no changes. -/
def quietPoll : IncrementalSyncAnswers where
  getsToken := true
  pages := [{
    response := fun _ => .ok { changes := [], nextPageToken := none, newStartPageToken := some "1" }
    statements := fun _ => ProcessChangeAnswers.allRun 0 }]
  setsToken := true
  now := 0

/-- The initial sync of an account with one file, stopped after it has stored
its start token. -/
def stoppedInitial : InitialSyncAnswers where
  startPageToken := .ok "1"
  setsToken := true
  now := 0
  pages := []
  mirror := MirrorAnswers.allRun 2 0

/-- The same initial sync when its listing is answered. -/
def wholeInitial : InitialSyncAnswers :=
  { stoppedInitial with pages := [{
    response := fun _ => .ok {
      files := [Api.DriveFile.named "notes" "notes.txt"]
      nextPageToken := none
      incompleteSearch := none }
    upserts := fun _ => true }] }

theorem honest_quietPoll (existing : String → Prop) :
    (SyncStep.poll quietPoll).Honest quietFeed existing := by
  intro page member token response answered
  rw [List.mem_singleton.mp member] at answered
  cases answered
  exact ⟨0, rfl, fun _ _ => rfl, fun _ _ => rfl⟩

/-- A feed with one change behind the start token: a file is there since. -/
def growingFeed : ChangeFeed where
  changes := [⟨some "plans", none, some (Api.DriveFile.named "plans" "plans.txt")⟩]
  position := fun token => if token = "2" then 1 else 0

/-- A poll from the start token that is told of the change. -/
def growingPoll : IncrementalSyncAnswers where
  getsToken := true
  pages := [{
    response := fun token =>
      if token = "1" then
        .ok { changes := growingFeed.changes, nextPageToken := none, newStartPageToken := some "2" }
      else .error "invalid page token"
    statements := fun _ => ProcessChangeAnswers.allRun 1 }]
  setsToken := true
  now := 1

theorem honest_growingPoll (existing : String → Prop) :
    (SyncStep.poll growingPoll).Honest growingFeed existing := by
  intro page member token response answered
  rw [List.mem_singleton.mp member] at answered
  dsimp only at answered
  split at answered
  · next first =>
      cases answered
      rw [first]
      refine ⟨1, rfl, fun next among => ?_, fun latest among => ?_⟩
      · cases among
      · cases among
        rfl
  · cases answered

/-- One file is listed, another one is there only since the listing began:
the poll stores its row and moves the token past its report. -/
theorem complete_of_completes_of_reported :
    @CompleteAfter untimed "ann@example.com" .stream "/mnt" growingFeed
        (fun fileId => fileId = "notes" ∨ fileId = "plans") [.initial wholeInitial] growingPoll
        (Database.connected ⟨"ann@example.com", "ann@example.com", 0⟩) ∧
      (run (@SyncStep.exec untimed "ann@example.com" .stream "/mnt")
        [.initial wholeInitial, .poll growingPoll]
        (Database.connected ⟨"ann@example.com", "ann@example.com", 0⟩)).token
          "ann@example.com" = some "2" := by
  refine ⟨@complete_of_completes untimed _ _ _ _ _ _ ?_ ?_ _ _ ?_ ?_ ?_, by decide⟩
  · decide
  · decide
  · intro step member
    rcases List.mem_cons.mp member with same | last
    · rw [same]
      intro token begins fileId present
      cases begins
      rcases present with listed | reported
      · refine Or.inr fun files ends => ?_
        cases ends
        exact ⟨_, List.mem_cons_self, congrArg some listed.symm⟩
      · rw [reported]
        exact Or.inl ⟨_, List.mem_cons_self, rfl, rfl, _, rfl, rfl⟩
    · rw [List.mem_singleton.mp last]
      exact honest_growingPoll _
  · refine ⟨fun _ => by decide, ?_, trivial⟩
    intro token _ _ fileId _ reported
    rcases reported with ⟨delivery, among, reports⟩
    refine ⟨delivery, among, reports, ?_⟩
    have executed : ∀ delivery ∈ deliveries growingPoll "ann@example.com"
        (@SyncStep.exec untimed "ann@example.com" .stream "/mnt"
          (Database.connected ⟨"ann@example.com", "ann@example.com", 0⟩)
          (.initial wholeInitial)), handles delivery = true := by
      decide
    exact executed delivery among
  · decide

/-- After the stopped initial sync every server answer is consistent, a poll
succeeds, no change is left, and the file has no row. -/
theorem stoppedInitial_leaves_gap :
    (∀ step ∈ [SyncStep.initial stoppedInitial, .poll quietPoll],
        step.Honest quietFeed fun fileId => fileId = "notes") ∧
      ¬ @CompleteAfter untimed "ann@example.com" .stream "/mnt" quietFeed
        (fun fileId => fileId = "notes") [.initial stoppedInitial] quietPoll
        (Database.connected ⟨"ann@example.com", "ann@example.com", 0⟩) := by
  constructor
  · intro step member
    rcases List.mem_cons.mp member with same | last
    · rw [same]
      intro token _ fileId present
      refine Or.inr fun files listed => ?_
      cases listed
    · rw [List.mem_singleton.mp last]
      exact honest_quietPoll _
  · intro complete
    have row := complete ⟨0, by decide⟩ (fun _ _ => rfl) "notes" rfl
    revert row
    decide

end Metadata
end GDriver
