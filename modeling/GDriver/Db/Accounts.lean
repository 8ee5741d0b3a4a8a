import GDriver.Db.Files

namespace GDriver
namespace Db

open Library Routine

/-!
# Statements on `accounts`, `sync_tokens` and `sync_folders`

Tokens, folders and files refer to the account they belong to.  Deleting an
account deletes them with it, but leaves the task queue and the error log
alone: those two tables only mention the account.
-/

/-! ## The functions of the `tokens` module -/

namespace Database

/-- The stored page token of an account. -/
def token (db : Database) (accountId : String) : Option String :=
  (db.syncTokens.lookup accountId).map SyncToken.pageToken

def putToken (db : Database) (token : SyncToken) : Database :=
  { db with syncTokens := db.syncTokens.upsert token }

/-- Whether the foreign key on the account lets a token be stored. -/
def acceptsToken (db : Database) (accountId : String) : Bool :=
  (db.syncTokens.lookup accountId).isSome || db.hasAccount accountId

@[simp] theorem driveFiles_putToken (db : Database) (token : SyncToken) :
    (db.putToken token).driveFiles = db.driveFiles := rfl

@[simp] theorem token_putToken_self (db : Database) (token : SyncToken) :
    (db.putToken token).token token.accountId = some token.pageToken := by
  unfold Database.token putToken
  rw [KeyedTable.lookup_upsert_self]
  rfl

@[simp] theorem token_putFile (db : Database) (file : DriveFile) (accountId : String) :
    (db.putFile file).token accountId = db.token accountId := rfl

end Database

/-- Return the stored page token for an account. -/
def getToken (runs : Bool) (accountId : String) : Routine String Database (Option String) :=
  select runs fun db => db.token accountId

/-- Insert or replace the page token for an account. -/
def setToken (runs : Bool) (now : Int) (accountId pageToken : String) :
    Routine String Database Unit := fun db =>
  execute (runs && db.acceptsToken accountId)
    (fun db => db.putToken ⟨accountId, pageToken, now⟩) db

/-! ## The functions of the `sync_folders` module -/

/-- Return all sync folders for a given account. -/
def listByAccount (runs : Bool) (accountId : String) : Routine String Database (List SyncFolder) :=
  select runs fun db => db.syncFolders.records.filter fun folder => folder.accountId = accountId

/-! ## The functions of the `accounts` module -/

/-- Of two accounts the one used last, the one stored earlier on a tie. -/
def usedLast (best : Option Account) (account : Account) : Option Account :=
  match best with
  | none => some account
  | some kept => if kept.lastUsedAt < account.lastUsedAt then some account else some kept

/-- The id of the most recently used account. -/
def getFirstAccountId (runs : Bool) : Routine String Database (Option String) :=
  select runs fun db => (db.accounts.records.foldl usedLast none).map Account.id

/-- Insert a new account or update the mutable fields of a stored one.  The
email column is unique. -/
def insertAccount (runs : Bool) (account : Account) : Routine String Database Unit := fun db =>
  execute
    (runs && db.accounts.records.all fun other => other.email ≠ account.email ||
      other.id = account.id)
    (fun db => { db with accounts := db.accounts.upsert account }) db

/-- Delete an account, and with it the rows that refer to it. -/
def deleteAccount (runs : Bool) (id : String) : Routine String Database Unit :=
  execute runs fun db =>
    { db with
      accounts := db.accounts.delete fun account => account.id = id
      driveFiles := db.driveFiles.delete fun file => file.accountId = id
      syncTokens := db.syncTokens.delete fun token => token.accountId = id
      syncFolders := db.syncFolders.delete fun folder => folder.accountId = id }

/-- The database after one account has been connected. -/
def Database.connected (account : Account) : Database :=
  final (insertAccount true account) Database.fresh

section Specifications

variable (runs : Bool) (db : Database)

@[simp] theorem final_getToken (accountId : String) :
    final (getToken runs accountId) db = db :=
  final_select runs _ db

@[simp] theorem outcome_getToken (accountId : String) :
    outcome (getToken runs accountId) db =
      if runs then .ok (db.token accountId) else .error databaseError :=
  outcome_select runs _ db

@[simp] theorem final_insertAccount (account : Account) :
    final (insertAccount runs account) db =
      if runs && db.accounts.records.all fun other => other.email ≠ account.email ||
          other.id = account.id then
        { db with accounts := db.accounts.upsert account }
      else db :=
  final_execute _ _ db

@[simp] theorem final_setToken (now : Int) (accountId pageToken : String) :
    final (setToken runs now accountId pageToken) db =
      if runs && db.acceptsToken accountId then db.putToken ⟨accountId, pageToken, now⟩ else db :=
  final_execute _ _ db

@[simp] theorem outcome_setToken (now : Int) (accountId pageToken : String) :
    outcome (setToken runs now accountId pageToken) db =
      if runs && db.acceptsToken accountId then .ok () else .error databaseError :=
  outcome_execute _ _ db

end Specifications

end Db
end GDriver
