import GDriver.Ipc.Json
import GDriver.Ipc.Protocol
import GDriver.Sync.StateMachine

namespace GDriver
namespace Ipc
namespace Events

open Json

/-!
# Push events

The events that the daemon sends without being asked, as notifications, and how a client reads them.
A record is written as an object with its fields.  The kind of a notification is written into the
object of the notification itself, with its name as one more field.
-/

/-! ## Payloads -/

def statusName : Sync.SyncStatus → String
  | .upToDate => "up-to-date"
  | .syncing => "syncing"
  | .paused => "paused"
  | .error => "error"
  | .offline => "offline"

def statuses : List Sync.SyncStatus :=
  [.upToDate, .syncing, .paused, .error, .offline]

def stateName : Db.SyncState → String
  | .cloudOnly => "cloud_only"
  | .downloading => "downloading"
  | .uploading => "uploading"
  | .cached => "cached"
  | .offline => "offline"
  | .modified => "modified"
  | .synced => "synced"
  | .error => "error"

def states : List Db.SyncState :=
  [.cloudOnly, .downloading, .uploading, .cached, .offline, .modified, .synced, .error]

/-- Payload for `sync:status-changed`. -/
structure SyncStatusPayload where
  status : Sync.SyncStatus
  ts : Int64
  speed : Option UInt64
  pending : Option UInt32

/-- A single file's current sync status. -/
structure SyncItem (floats : FloatFormat) where
  fileId : Option String
  name : String
  mimeType : Option String
  localPath : Option String
  syncState : Db.SyncState
  progress : Option floats.Single
  fileSize : Option UInt64
  errorMsg : Option String
  driveUrl : Option String
  updatedAt : Int64

/-- A recorded sync failure. -/
structure SyncError where
  id : Int64
  accountId : Option String
  fileId : Option String
  fileName : Option String
  errorCode : String
  errorMsg : String
  isResolved : Bool
  createdAt : Int64

inductive NotificationKind (floats : FloatFormat) where
  /-- Two versions of the same file exist after a conflict was detected. -/
  | conflict (fileId : Option String) (fileName conflictCopyName : String)
  /-- Drive storage is running low. -/
  | storageWarning (usagePercent : floats.Single)
  /-- A file could not be synced after all retries. -/
  | syncError (errorId : Int64) (fileName : Option String) (errorMsg : String)

/-- A user-visible notification stored in the app. -/
structure Notification (floats : FloatFormat) where
  id : Int64
  accountId : Option String
  isRead : Bool
  createdAt : Int64
  kind : NotificationKind floats

/-- A signed-in Google account. -/
structure Account where
  id : String
  email : String
  displayName : Option String
  photoUrl : Option String
  locale : Option String
  createdAt : Int64
  lastUsedAt : Int64

/-- Payload for `account:changed`. -/
structure AccountChangedPayload where
  accounts : List Account

/-- Drive storage quota. -/
structure StorageQuota where
  limit : Option UInt64
  usage : UInt64
  usageInDrive : UInt64
  usageInDriveTrash : UInt64

/-- Payload for `account:quota-updated`. -/
structure AccountQuotaPayload where
  accountId : String
  quota : StorageQuota

/-- Payload for `onboarding:oauth-complete`. -/
structure OauthCompletePayload where
  accountId : String

/-! ## Their values -/

section Values

variable {Double : Type}

def SyncStatusPayload.names : List String := ["status", "ts", "speed", "pending"]

def SyncStatusPayload.toValue (payload : SyncStatusPayload) : Json Double :=
  .object (ofFields SyncStatusPayload.names
    [.string (statusName payload.status), ofI64 payload.ts, ofOption ofU64 payload.speed,
      ofOption ofU32 payload.pending])

def SyncStatusPayload.fromValue (value : Json Double) : Option SyncStatusPayload :=
  match fieldValues SyncStatusPayload.names 4 value with
  | some [status, ts, speed, pending] => do
      let status ← required (readVariant statusName statuses) status
      let ts ← required readI64 ts
      let speed ← optional readU64 speed
      let pending ← optional readU32 pending
      return ⟨status, ts, speed, pending⟩
  | _ => none

def SyncError.names : List String :=
  ["id", "account_id", "file_id", "file_name", "error_code", "error_msg", "is_resolved", "created_at"]

def SyncError.toValue (error : SyncError) : Json Double :=
  .object (ofFields SyncError.names
    [ofI64 error.id, ofOption .string error.accountId, ofOption .string error.fileId, ofOption .string error.fileName,
      .string error.errorCode, .string error.errorMsg, .bool error.isResolved, ofI64 error.createdAt])

def SyncError.fromValue (value : Json Double) : Option SyncError :=
  match fieldValues SyncError.names 8 value with
  | some [id, accountId, fileId, fileName, errorCode, errorMsg, isResolved, createdAt] => do
      let id ← required readI64 id
      let accountId ← optional readString accountId
      let fileId ← optional readString fileId
      let fileName ← optional readString fileName
      let errorCode ← required readString errorCode
      let errorMsg ← required readString errorMsg
      let isResolved ← required readBool isResolved
      let createdAt ← required readI64 createdAt
      return ⟨id, accountId, fileId, fileName, errorCode, errorMsg, isResolved, createdAt⟩
  | _ => none

def Account.names : List String :=
  ["id", "email", "display_name", "photo_url", "locale", "created_at", "last_used_at"]

def Account.toValue (account : Account) : Json Double :=
  .object (ofFields Account.names
    [.string account.id, .string account.email, ofOption .string account.displayName, ofOption .string account.photoUrl,
      ofOption .string account.locale, ofI64 account.createdAt, ofI64 account.lastUsedAt])

def Account.fromValue (value : Json Double) : Option Account :=
  match fieldValues Account.names 7 value with
  | some [id, email, displayName, photoUrl, locale, createdAt, lastUsedAt] => do
      let id ← required readString id
      let email ← required readString email
      let displayName ← optional readString displayName
      let photoUrl ← optional readString photoUrl
      let locale ← optional readString locale
      let createdAt ← required readI64 createdAt
      let lastUsedAt ← required readI64 lastUsedAt
      return ⟨id, email, displayName, photoUrl, locale, createdAt, lastUsedAt⟩
  | _ => none

def AccountChangedPayload.toValue (payload : AccountChangedPayload) : Json Double :=
  .object (ofFields ["accounts"] [.array (payload.accounts.map Account.toValue)])

def AccountChangedPayload.fromValue (value : Json Double) : Option AccountChangedPayload :=
  match fieldValues ["accounts"] 1 value with
  | some [accounts] => (required (readList Account.fromValue) accounts).map AccountChangedPayload.mk
  | _ => none

def StorageQuota.names : List String := ["limit", "usage", "usage_in_drive", "usage_in_drive_trash"]

def StorageQuota.toValue (quota : StorageQuota) : Json Double :=
  .object (ofFields StorageQuota.names
    [ofOption ofU64 quota.limit, ofU64 quota.usage, ofU64 quota.usageInDrive, ofU64 quota.usageInDriveTrash])

def StorageQuota.fromValue (value : Json Double) : Option StorageQuota :=
  match fieldValues StorageQuota.names 4 value with
  | some [limit, usage, usageInDrive, usageInDriveTrash] => do
      let limit ← optional readU64 limit
      let usage ← required readU64 usage
      let usageInDrive ← required readU64 usageInDrive
      let usageInDriveTrash ← required readU64 usageInDriveTrash
      return ⟨limit, usage, usageInDrive, usageInDriveTrash⟩
  | _ => none

def AccountQuotaPayload.toValue (payload : AccountQuotaPayload) : Json Double :=
  .object (ofFields ["account_id", "quota"] [.string payload.accountId, payload.quota.toValue])

def AccountQuotaPayload.fromValue (value : Json Double) : Option AccountQuotaPayload :=
  match fieldValues ["account_id", "quota"] 2 value with
  | some [accountId, quota] => do
      let accountId ← required readString accountId
      let quota ← required StorageQuota.fromValue quota
      return ⟨accountId, quota⟩
  | _ => none

def OauthCompletePayload.toValue (payload : OauthCompletePayload) : Json Double :=
  .object (ofFields ["account_id"] [.string payload.accountId])

def OauthCompletePayload.fromValue (value : Json Double) : Option OauthCompletePayload :=
  match fieldValues ["account_id"] 1 value with
  | some [accountId] => (required readString accountId).map OauthCompletePayload.mk
  | _ => none

/-- The value of a request, without the fields that are none. -/
def requestToValue (request : JsonRpcRequest (Json Double)) : Json Double :=
  let id := request.id.map fun
    | .str text => (.string text : Json Double)
    | .num number => .int number
  .object ([("jsonrpc", .string request.jsonrpc), ("method", .string request.method)] ++
    (request.params.map fun params => ("params", params)).toList ++ (id.map fun id => ("id", id)).toList)

def readId : Json Double → Option JsonRpcId
  | .string text => some (.str text)
  | .int number =>
      if -9223372036854775808 ≤ number ∧ number < 9223372036854775808 then some (.num number) else none
  | _ => none

def requestFromValue (value : Json Double) : Option (JsonRpcRequest (Json Double)) :=
  match fieldValues ["jsonrpc", "method", "params", "id"] 2 value with
  | some [jsonrpc, method, params, id] => do
      let jsonrpc ← required readString jsonrpc
      let method ← required readString method
      let params ← optional some params
      let id ← optional readId id
      return ⟨jsonrpc, method, params, id⟩
  | _ => none

end Values

section FloatValues

variable (floats : FloatFormat)

def SyncItem.names : List String :=
  ["file_id", "name", "mime_type", "local_path", "sync_state", "progress", "file_size", "error_msg", "drive_url",
    "updated_at"]

def SyncItem.toValue (item : SyncItem floats) : Json floats.Double :=
  .object (ofFields SyncItem.names
    [ofOption .string item.fileId, .string item.name, ofOption .string item.mimeType, ofOption .string item.localPath,
      .string (stateName item.syncState), ofOption (ofF32 floats) item.progress, ofOption ofU64 item.fileSize,
      ofOption .string item.errorMsg, ofOption .string item.driveUrl, ofI64 item.updatedAt])

def SyncItem.fromValue (value : Json floats.Double) : Option (SyncItem floats) :=
  match fieldValues SyncItem.names 10 value with
  | some [fileId, name, mimeType, localPath, syncState, progress, fileSize, errorMsg, driveUrl, updatedAt] => do
      let fileId ← optional readString fileId
      let name ← required readString name
      let mimeType ← optional readString mimeType
      let localPath ← optional readString localPath
      let syncState ← required (readVariant stateName states) syncState
      let progress ← optional (readF32 floats) progress
      let fileSize ← optional readU64 fileSize
      let errorMsg ← optional readString errorMsg
      let driveUrl ← optional readString driveUrl
      let updatedAt ← required readI64 updatedAt
      return ⟨fileId, name, mimeType, localPath, syncState, progress, fileSize, errorMsg, driveUrl, updatedAt⟩
  | _ => none

/-- The names of the fields that a kind of notification adds. -/
def NotificationKind.names : NotificationKind floats → List String
  | .conflict _ _ _ => ["type", "file_id", "file_name", "conflict_copy_name"]
  | .storageWarning _ => ["type", "usage_percent"]
  | .syncError _ _ _ => ["type", "error_id", "file_name", "error_msg"]

def NotificationKind.values : NotificationKind floats → List (Json floats.Double)
  | .conflict fileId fileName conflictCopyName =>
      [.string "conflict", ofOption .string fileId, .string fileName, .string conflictCopyName]
  | .storageWarning usagePercent => [.string "storage_warning", ofF32 floats usagePercent]
  | .syncError errorId fileName errorMsg =>
      [.string "sync_error", ofI64 errorId, ofOption .string fileName, .string errorMsg]

def kindNames : List String := ["conflict", "storage_warning", "sync_error"]

/-- The name of a kind, which may also be given by its place. -/
def readTag {Double : Type} : Json Double → Option String
  | .string text => if text ∈ kindNames then some text else none
  | .int number => if 0 ≤ number then kindNames[number.toNat]? else none
  | _ => none

def NotificationKind.fromFields (fields : List (String × Json floats.Double)) : Option (NotificationKind floats) := do
  let tag ← required readTag (lookup "type" fields)
  match tag with
  | "conflict" => do
      let fileId ← optional readString (lookup "file_id" fields)
      let fileName ← required readString (lookup "file_name" fields)
      let conflictCopyName ← required readString (lookup "conflict_copy_name" fields)
      return .conflict fileId fileName conflictCopyName
  | "storage_warning" => do
      let usagePercent ← required (readF32 floats) (lookup "usage_percent" fields)
      return .storageWarning usagePercent
  | _ => do
      let errorId ← required readI64 (lookup "error_id" fields)
      let fileName ← optional readString (lookup "file_name" fields)
      let errorMsg ← required readString (lookup "error_msg" fields)
      return .syncError errorId fileName errorMsg

def Notification.names : List String := ["id", "account_id", "is_read", "created_at"]

def Notification.toValue (notification : Notification floats) : Json floats.Double :=
  .object (ofFields (Notification.names ++ notification.kind.names)
    ([ofI64 notification.id, ofOption .string notification.accountId, .bool notification.isRead,
      ofI64 notification.createdAt] ++ notification.kind.values))

/-- Read a notification: what is none of its own fields is left to its kind. -/
def Notification.fromValue : Json floats.Double → Option (Notification floats)
  | .object fields => do
      let id ← required readI64 (lookup "id" fields)
      let accountId ← optional readString (lookup "account_id" fields)
      let isRead ← required readBool (lookup "is_read" fields)
      let createdAt ← required readI64 (lookup "created_at" fields)
      let kind ← NotificationKind.fromFields floats (fields.filter fun field => !Notification.names.contains field.1)
      return ⟨id, accountId, isRead, createdAt, kind⟩
  | _ => none

end FloatValues

/-! ## Events -/

/-- Typed push events dispatched by the daemon without a request id. -/
inductive PushEvent (floats : FloatFormat) where
  | syncStatusChanged (payload : SyncStatusPayload)
  | syncItemUpdated (item : SyncItem floats)
  | syncError (error : SyncError)
  | notificationNew (notification : Notification floats)
  | accountChanged (payload : AccountChangedPayload)
  | accountQuotaUpdated (payload : AccountQuotaPayload)
  | oauthComplete (payload : OauthCompletePayload)
  /-- Unknown event forwarded as-is for forward compatibility. -/
  | unknown (method : String) (params : Option (Json floats.Double))

def eventSyncStatusChanged : String := "sync:status-changed"
def eventSyncItemUpdated : String := "sync:item-updated"
def eventSyncError : String := "sync:error"
def eventNotificationNew : String := "notification:new"
def eventAccountChanged : String := "account:changed"
def eventAccountQuotaUpdated : String := "account:quota-updated"
def eventOnboardingOauthComplete : String := "onboarding:oauth-complete"

section Notifications

variable {floats : FloatFormat}

/-- A notification, which has no id. -/
def notification (method : String) (params : Option (Json floats.Double)) : JsonRpcRequest (Json floats.Double) where
  jsonrpc := "2.0"
  method := method
  params := params
  id := none

/-- Deserialise a push event from an inbound JSON-RPC notification. -/
def fromNotification (method : String) (params : Option (Json floats.Double)) : Option (PushEvent floats) :=
  let payload := params.getD .null
  if method = eventSyncStatusChanged then (SyncStatusPayload.fromValue payload).map .syncStatusChanged
  else if method = eventSyncItemUpdated then (SyncItem.fromValue floats payload).map .syncItemUpdated
  else if method = eventSyncError then (SyncError.fromValue payload).map .syncError
  else if method = eventNotificationNew then (Notification.fromValue floats payload).map .notificationNew
  else if method = eventAccountChanged then (AccountChangedPayload.fromValue payload).map .accountChanged
  else if method = eventAccountQuotaUpdated then (AccountQuotaPayload.fromValue payload).map .accountQuotaUpdated
  else if method = eventOnboardingOauthComplete then (OauthCompletePayload.fromValue payload).map .oauthComplete
  else some (.unknown method params)

/-- Serialise this push event as a JSON-RPC notification ready to be sent.  No payload has anything
that a value cannot hold, so nothing fails. -/
def toNotification : PushEvent floats → JsonRpcRequest (Json floats.Double)
  | .syncStatusChanged payload => notification eventSyncStatusChanged (some payload.toValue)
  | .syncItemUpdated item => notification eventSyncItemUpdated (some (item.toValue floats))
  | .syncError error => notification eventSyncError (some error.toValue)
  | .notificationNew new => notification eventNotificationNew (some (new.toValue floats))
  | .accountChanged payload => notification eventAccountChanged (some payload.toValue)
  | .accountQuotaUpdated payload => notification eventAccountQuotaUpdated (some payload.toValue)
  | .oauthComplete payload => notification eventOnboardingOauthComplete (some payload.toValue)
  | .unknown method params => notification method params

/-- The line that is sent for an event. -/
def eventText (event : PushEvent floats) : List Char :=
  print floats (requestToValue (toNotification event))

/-- What a client makes of a value that it has parsed. -/
def eventOfValue (value : Json floats.Double) : Option (PushEvent floats) := do
  let request ← requestFromValue value
  fromNotification request.method request.params

end Notifications

/-! ## What is written is read -/

section Kept

variable {Double : Type}

theorem readVariant_statusName (status : Sync.SyncStatus) :
    readVariant statusName statuses (.string (statusName status) : Json Double) = some status := by
  refine readVariant_name (by decide) ?_
  cases status <;> decide

theorem readVariant_stateName (state : Db.SyncState) :
    readVariant stateName states (.string (stateName state) : Json Double) = some state := by
  refine readVariant_name (by decide) ?_
  cases state <;> decide

theorem SyncStatusPayload.fromValue_toValue (payload : SyncStatusPayload) :
    fromValue (payload.toValue : Json Double) = some payload := by
  rw [toValue, fromValue, fieldValues_ofFields (by decide) rfl]
  simp [required, readVariant_statusName, readI64_ofI64]

theorem SyncError.fromValue_toValue (error : SyncError) : fromValue (error.toValue : Json Double) = some error := by
  rw [toValue, fromValue, fieldValues_ofFields (by decide) rfl]
  simp

theorem Account.fromValue_toValue (account : Account) : fromValue (account.toValue : Json Double) = some account := by
  rw [toValue, fromValue, fieldValues_ofFields (by decide) rfl]
  simp

theorem AccountChangedPayload.fromValue_toValue (payload : AccountChangedPayload) :
    fromValue (payload.toValue : Json Double) = some payload := by
  rw [toValue, fromValue, fieldValues_ofFields (by decide) rfl]
  simp [required, readList_map fun account _ => Account.fromValue_toValue account]

theorem StorageQuota.fromValue_toValue (quota : StorageQuota) : fromValue (quota.toValue : Json Double) =
    some quota := by
  rw [toValue, fromValue, fieldValues_ofFields (by decide) rfl]
  simp

theorem AccountQuotaPayload.fromValue_toValue (payload : AccountQuotaPayload) :
    fromValue (payload.toValue : Json Double) = some payload := by
  rw [toValue, fromValue, fieldValues_ofFields (by decide) rfl]
  simp [required, readString, StorageQuota.fromValue_toValue]

theorem OauthCompletePayload.fromValue_toValue (payload : OauthCompletePayload) :
    fromValue (payload.toValue : Json Double) = some payload := by
  rw [toValue, fromValue, fieldValues_ofFields (by decide) rfl]
  simp

/-- A notification is read as it was, except that parameters that are `null` are none. -/
theorem requestFromValue_requestToValue (method : String) {params : Option (Json Double)}
    (given : params ≠ some .null) :
    requestFromValue (requestToValue ⟨"2.0", method, params, none⟩) = some ⟨"2.0", method, params, none⟩ := by
  cases params with
  | none => rfl
  | some value =>
      cases value with
      | null => exact absurd rfl given
      | bool _ => rfl
      | int _ => rfl
      | float _ => rfl
      | string _ => rfl
      | array _ => rfl
      | object _ => rfl

end Kept

section KeptFloats

variable {floats : FloatFormat}

theorem SyncItem.fromValue_toValue {item : SyncItem floats}
    (finite : ∀ progress ∈ item.progress, floats.isFinite progress = true) :
    fromValue floats (item.toValue floats) = some item := by
  rw [toValue, fromValue, fieldValues_ofFields (by decide) rfl]
  simp [required, readString, readVariant_stateName, readI64_ofI64, optional_f32 finite]

/-- The numbers of a kind of notification are finite. -/
def NotificationKind.Finite : NotificationKind floats → Prop
  | .storageWarning usagePercent => floats.isFinite usagePercent = true
  | _ => True

/-- What is left to the kind has its fields and none of the others. -/
theorem lookup_filter {Double : Type} {keep : String → Bool} {name : String} (kept : keep name = true)
    (fields : List (String × Json Double)) : lookup name (fields.filter fun field => keep field.1) =
      lookup name fields := by
  induction fields with
  | nil => rfl
  | cons field rest inductionHypothesis =>
      rw [List.filter_cons, lookup]
      split
      · rw [lookup, inductionHypothesis]
      · next dropped =>
          have other : field.1 ≠ name := by
            intro same
            rw [same] at dropped
            exact dropped kept
          rw [if_neg other, inductionHypothesis]

theorem NotificationKind.fromFields_of_lookup {kind : NotificationKind floats} (finite : kind.Finite)
    {fields : List (String × Json floats.Double)}
    (found : (kind.names floats).map (fun name => lookup name fields) = (kind.values floats).map some) :
    fromFields floats fields = some kind := by
  cases kind with
  | conflict fileId fileName conflictCopyName =>
      simp only [names, values, List.map_cons, List.map_nil, List.cons.injEq, and_true] at found
      rcases found with ⟨tag, hasFileId, hasFileName, hasCopyName⟩
      rw [fromFields, tag, hasFileId, hasFileName, hasCopyName]
      simp [required, readTag, kindNames, readString]
  | storageWarning usagePercent =>
      simp only [names, values, List.map_cons, List.map_nil, List.cons.injEq, and_true] at found
      rcases found with ⟨tag, hasUsage⟩
      rw [fromFields, tag, hasUsage]
      simp [required, readTag, kindNames, readF32_ofF32 finite]
  | syncError errorId fileName errorMsg =>
      simp only [names, values, List.map_cons, List.map_nil, List.cons.injEq, and_true] at found
      rcases found with ⟨tag, hasErrorId, hasFileName, hasErrorMsg⟩
      rw [fromFields, tag, hasErrorId, hasFileName, hasErrorMsg]
      simp [required, readTag, kindNames, readString, readI64_ofI64]

/-- The names of a notification and of its kind are all different. -/
theorem NotificationKind.names_distinct (kind : NotificationKind floats) :
    (Notification.names ++ kind.names floats).Nodup ∧ (kind.names floats).length = (kind.values floats).length := by
  cases kind with
  | conflict fileId fileName conflictCopyName => exact ⟨by simp [Notification.names, names], rfl⟩
  | storageWarning usagePercent => exact ⟨by simp [Notification.names, names], rfl⟩
  | syncError errorId fileName errorMsg => exact ⟨by simp [Notification.names, names], rfl⟩

/-- What the object of a notification has under the names of its fields. -/
theorem Notification.lookup_toValue (notification : Notification floats) :
    ∃ fields, notification.toValue floats = .object fields ∧
      lookup "id" fields = some (ofI64 notification.id) ∧
      lookup "account_id" fields = some (ofOption .string notification.accountId) ∧
      lookup "is_read" fields = some (.bool notification.isRead) ∧
      lookup "created_at" fields = some (ofI64 notification.createdAt) ∧
      (notification.kind.names floats).map (fun name => lookup name fields) =
      (notification.kind.values floats).map some := by
  rcases notification.kind.names_distinct with ⟨distinct, full⟩
  have all := map_lookup_foldl distinct (show (names ++ notification.kind.names floats).length =
      ([ofI64 notification.id, ofOption .string notification.accountId, .bool notification.isRead,
        ofI64 notification.createdAt] ++ notification.kind.values floats).length by simp [names, full]) []
  rw [List.map_append, List.map_append] at all
  rcases List.append_inj all rfl with ⟨own, ofKind⟩
  simp only [names, List.map_cons, List.map_nil, List.cons.injEq, and_true] at own
  exact ⟨_, rfl, own.1, own.2.1, own.2.2.1, own.2.2.2, ofKind⟩

theorem Notification.fromValue_toValue {notification : Notification floats} (finite : notification.kind.Finite) :
    fromValue floats (notification.toValue floats) = some notification := by
  rcases notification.lookup_toValue with ⟨fields, written, hasId, hasAccountId, hasIsRead, hasCreatedAt, ofKind⟩
  have apart := (List.nodup_append.mp notification.kind.names_distinct.1).2.2
  have kindRead : NotificationKind.fromFields floats (fields.filter fun field => !names.contains field.1) =
      some notification.kind := by
    refine NotificationKind.fromFields_of_lookup finite ?_
    rw [← ofKind]
    refine List.map_congr_left fun name member => ?_
    refine @lookup_filter _ (fun name => !names.contains name) name ?_ fields
    rw [Bool.not_eq_true', ← Bool.not_eq_true, List.contains_iff_mem]
    exact fun own => apart name own name member rfl
  rw [written, fromValue, hasId, hasAccountId, hasIsRead, hasCreatedAt, kindRead]
  simp
end KeptFloats

/-! ## The wire -/

section Wire

variable {floats : FloatFormat}

/-- What an event has to meet to survive: its numbers are finite, and an unknown one has a name of its
own and no parameters that are `null`. -/
def PushEvent.Sendable : PushEvent floats → Prop
  | .syncItemUpdated item => ∀ progress ∈ item.progress, floats.isFinite progress = true
  | .notificationNew new => new.kind.Finite
  | .unknown method params =>
      method ∉ [eventSyncStatusChanged, eventSyncItemUpdated, eventSyncError, eventNotificationNew, eventAccountChanged,
        eventAccountQuotaUpdated, eventOnboardingOauthComplete] ∧ params ≠ some .null
  | _ => True

/-- The parameters of an event are never `null`. -/
theorem params_toNotification {event : PushEvent floats} (sendable : event.Sendable) :
    (toNotification event).params ≠ some .null := by
  cases event with
  | unknown method params => exact sendable.2
  | syncStatusChanged payload => exact fun impossible => by cases impossible
  | syncItemUpdated item => exact fun impossible => by cases impossible
  | syncError error => exact fun impossible => by cases impossible
  | notificationNew new => exact fun impossible => by cases impossible
  | accountChanged payload => exact fun impossible => by cases impossible
  | accountQuotaUpdated payload => exact fun impossible => by cases impossible
  | oauthComplete payload => exact fun impossible => by cases impossible

theorem toNotification_eq (event : PushEvent floats) :
    toNotification event = notification (toNotification event).method (toNotification event).params := by
  cases event <;> rfl

theorem fromNotification_toNotification {event : PushEvent floats} (sendable : event.Sendable) :
    fromNotification (toNotification event).method (toNotification event).params = some event := by
  simp only [fromNotification]
  cases event with
  | syncStatusChanged payload =>
      rw [toNotification, notification]
      dsimp only
      rw [if_pos rfl, Option.getD_some, payload.fromValue_toValue]
      rfl
  | syncItemUpdated item =>
      rw [toNotification, notification]
      dsimp only
      rw [if_neg (by decide), if_pos rfl, Option.getD_some, SyncItem.fromValue_toValue sendable]
      rfl
  | syncError error =>
      rw [toNotification, notification]
      dsimp only
      rw [if_neg (by decide), if_neg (by decide), if_pos rfl, Option.getD_some, error.fromValue_toValue]
      rfl
  | notificationNew new =>
      rw [toNotification, notification]
      dsimp only
      rw [if_neg (by decide), if_neg (by decide), if_neg (by decide), if_pos rfl, Option.getD_some,
        Notification.fromValue_toValue sendable]
      rfl
  | accountChanged payload =>
      rw [toNotification, notification]
      dsimp only
      rw [if_neg (by decide), if_neg (by decide), if_neg (by decide), if_neg (by decide), if_pos rfl,
        Option.getD_some, payload.fromValue_toValue]
      rfl
  | accountQuotaUpdated payload =>
      rw [toNotification, notification]
      dsimp only
      rw [if_neg (by decide), if_neg (by decide), if_neg (by decide), if_neg (by decide), if_neg (by decide),
        if_pos rfl, Option.getD_some, payload.fromValue_toValue]
      rfl
  | oauthComplete payload =>
      rw [toNotification, notification]
      dsimp only
      rw [if_neg (by decide), if_neg (by decide), if_neg (by decide), if_neg (by decide), if_neg (by decide),
        if_neg (by decide), if_pos rfl, Option.getD_some, payload.fromValue_toValue]
      rfl
  | unknown method params =>
      have other := sendable.1
      simp only [List.mem_cons, List.not_mem_nil, or_false, not_or] at other
      rcases other with ⟨first, second, third, fourth, fifth, sixth, seventh⟩
      rw [toNotification, notification]
      dsimp only
      rw [if_neg first, if_neg second, if_neg third, if_neg fourth, if_neg fifth, if_neg sixth,
        if_neg seventh]

end Wire

/-- What is read from the line of an event is the event, if the parser reads the value that was
printed; and the line has no line break. -/
theorem push_event_survives (floats : FloatFormat) (event : PushEvent floats) (sendable : event.Sendable)
    (parse : String → Option (Json floats.Double))
    (parsed : parse (String.ofList (eventText event)) = some (requestToValue (toNotification event))) :
    (parse (String.ofList (eventText event))).bind eventOfValue = some event ∧
      '\n' ∉ eventText event ∧ '\r' ∉ eventText event := by
  refine ⟨?_, (visible_print _).newline_notMem⟩
  rw [parsed, Option.bind_some, toNotification_eq, eventOfValue, notification,
    requestFromValue_requestToValue _ (params_toNotification sendable)]
  exact fromNotification_toNotification sendable

/-- Numbers without a fraction, which both formats have. -/
def wholeNumbers : FloatFormat where
  Single := Int
  Double := Int
  isFinite := fun _ => true
  widen := id
  narrow := id
  ofInt := id
  narrow_widen := fun _ _ => rfl
  print := fun number => (toString number).toList ++ ".0".toList
  print_visible := fun number => (visible_toString number).append (by decide)

/-- A warning that ninety percent of the storage are used. -/
def storageNearlyFull : PushEvent wholeNumbers :=
  .notificationNew ⟨7, some "ann@example.com", false, 1000, .storageWarning (90 : Int)⟩

/-- A parser that reads the line of this warning. -/
def parseStorageWarning (text : String) : Option (Json wholeNumbers.Double) :=
  if text = String.ofList (eventText storageNearlyFull) then some (requestToValue (toNotification storageNearlyFull))
  else none

theorem storage_warning_survives :
    (parseStorageWarning (String.ofList (eventText storageNearlyFull))).bind eventOfValue = some storageNearlyFull ∧
      '\n' ∉ eventText storageNearlyFull ∧ '\r' ∉ eventText storageNearlyFull :=
  push_event_survives wholeNumbers storageNearlyFull rfl parseStorageWarning (if_pos rfl)

end Events
end Ipc
end GDriver
