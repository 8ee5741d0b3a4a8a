import GDriver.Api.Client
import GDriver.Conflict.Detection
import GDriver.Library.Run
import GDriver.Local.Storing
import GDriver.Moves.Tasks
import GDriver.Queue.Status

namespace GDriver
namespace Local

open Library Routine Db Api Sync Queue

/-!
# How many files the uploads of one path leave on Drive

An upload never asks whether the file at its path is on Drive already, whether an earlier
upload has stored it there or it was mirrored from there: it creates a new one.  So does
every attempt of the request that the server carries out, also when its answer is lost or
an error and the request is repeated.  Drive holds one file for a path exactly as long as
an attempt is carried out only while there is no such file.
-/

/-! ## Files on Drive -/

/-- Only the files of the account with these ids are others. -/
def Touches (accountId : String) (ids : List String) (world later : World) : Prop :=
  ∀ owner fileId, (owner = accountId → fileId ∉ ids) → later.drive owner fileId = world.drive owner fileId

instance (accountId : String) (ids : List String) : IsPreorder World (Touches accountId ids) where
  refl _ _ _ _ := rfl
  trans _ _ _ one two owner fileId spared := (two owner fileId spared).trans (one owner fileId spared)

theorem touches_of_same {world later : World} (accountId : String) (ids : List String)
    (same : later.drive = world.drive) : Touches accountId ids world later := by
  intro owner fileId _
  rw [same]

theorem allowsProcessing_touches (taskId : Nat) (accountId : String) (ids : List String) :
    AllowsProcessing taskId (Touches accountId ids) where
  disk _ _ _ := touches_of_same _ _ rfl
  send _ _ _ := touches_of_same _ _ rfl
  task _ _ _ _ := touches_of_same _ _ rfl
  error _ _ := touches_of_same _ _ rfl

theorem drive_putOnDrive (accountId fileId : String) (file : Option RemoteFile) (world : World)
    (owner other : String) :
    (world.putOnDrive accountId fileId file).drive owner other =
      if owner = accountId ∧ other = fileId then file else world.drive owner other := by
  simp only [World.putOnDrive]
  by_cases sameOwner : owner = accountId
  · subst sameOwner
    rw [Function.update_self]
    by_cases same : other = fileId
    · subst same
      rw [Function.update_self, if_pos ⟨rfl, rfl⟩]
    · rw [Function.update_of_ne same, if_neg fun both => same both.2]
  · rw [Function.update_of_ne sameOwner, if_neg fun both => sameOwner both.1]

section Storing

variable {accountId : String} {metadata : CreateFileMetadata} {content : List UInt8}

/-- Put files on Drive one after the other. -/
def putFiles (accountId : String) (metadata : CreateFileMetadata) (content : List UInt8)
    (files : List (String × List String)) (world : World) : World :=
  files.foldl (fun world file =>
    world.putOnDrive accountId file.1 (some ⟨metadata.name, metadata.mimeType, file.2, content⟩)) world

theorem touches_putFiles {ids : List String} {files : List (String × List String)}
    (within : ∀ fileId ∈ files.map Prod.fst, fileId ∈ ids) (world : World) :
    Touches accountId ids world (putFiles accountId metadata content files world) := by
  induction files generalizing world with
  | nil => exact Std.Refl.refl world
  | cons file rest inductionHypothesis =>
      refine IsTrans.trans _ _ _ ?_
        (inductionHypothesis (fun other member => within other (List.mem_cons_of_mem _ member)) _)
      intro owner fileId spared
      rw [drive_putOnDrive, if_neg]
      rintro ⟨sameOwner, same⟩
      apply spared sameOwner
      rw [same]
      exact within file.1 List.mem_cons_self

theorem drive_putFiles_of_mem {fileId : String} {files : List (String × List String)}
    (stored : fileId ∈ files.map Prod.fst) (world : World) :
    ∃ parents, (putFiles accountId metadata content files world).drive accountId fileId =
      some ⟨metadata.name, metadata.mimeType, parents, content⟩ := by
  induction files generalizing world with
  | nil => cases stored
  | cons file rest inductionHypothesis =>
      by_cases later : fileId ∈ rest.map Prod.fst
      · exact inductionHypothesis later _
      · rcases List.mem_cons.mp stored with same | member
        · have stays := @touches_putFiles accountId metadata content (rest.map Prod.fst) rest
            (fun _ member => member)
            (world.putOnDrive accountId file.1 (some ⟨metadata.name, metadata.mimeType, file.2, content⟩))
            accountId fileId fun _ => later
          refine ⟨file.2, Eq.trans stays ?_⟩
          rw [drive_putOnDrive, if_pos ⟨rfl, same⟩]
        · exact absurd member later

end Storing

/-! ## One upload task -/

section Tasks

variable [Rfc3339]

/-- The ids of all files that the server stores for an upload task, those of conflict copies
among them. -/
def newIds (answers : TaskAnswers) : List String :=
  (answers.conflict.resolve.server.files ++ answers.upload.server.files).map Prod.fst

omit [Rfc3339] in
theorem mem_newIds_iff {answers : TaskAnswers} {fileId : String} :
    fileId ∈ newIds answers ↔ fileId ∈ answers.conflict.resolve.server.files.map Prod.fst ∨
      fileId ∈ answers.upload.server.files.map Prod.fst := by
  rw [newIds, List.map_append, List.mem_append]

variable {answers : TaskAnswers} {task : SyncTask} {taskId : Nat}

/-- A conflict check touches the conflict copies only. -/
theorem touches_checkAndResolve (identified : task.id = some taskId) (fileId localPath : String) :
    Keeps (Touches task.accountId (answers.conflict.resolve.server.files.map Prod.fst))
      (checkAndResolve answers.conflict task fileId localPath) := by
  refine keeps_checkAndResolve identified (allowsProcessing_touches taskId _ _)
    (fun _ _ _ => touches_of_same _ _ rfl) ?_ fileId localPath
  intro world metadata content
  exact touches_putFiles (fun _ member => member) world

/-- An upload task is its check, and the normal upload unless the check has resolved a
conflict. -/
theorem processUpload_cases (identified : task.id = some taskId) (world : World) :
    (uploadsFrom answers task world = none ∧
        Touches task.accountId (answers.conflict.resolve.server.files.map Prod.fst) world
          (final (processUpload answers task) world)) ∨
      ∃ checked, uploadsFrom answers task world = some checked ∧
        Touches task.accountId (answers.conflict.resolve.server.files.map Prod.fst) world checked ∧
        final (processUpload answers task) world = final (uploadFile answers.upload task) checked := by
  rw [uploadsFrom, processUpload]
  cases about : task.fileId with
  | none => exact Or.inr ⟨world, rfl, Std.Refl.refl world, rfl⟩
  | some fileId =>
      cases path : task.localPath with
      | none => exact Or.inr ⟨world, rfl, Std.Refl.refl world, rfl⟩
      | some localPath =>
          have touched := @touches_checkAndResolve _ answers task taskId identified fileId localPath world
          dsimp only
          rw [final_bind_of_ok (outcome_observe _ _), final_observe]
          cases outcome (checkAndResolve answers.conflict task fileId localPath) world with
          | error failure => exact Or.inr ⟨_, rfl, touched, rfl⟩
          | ok resolved =>
              cases resolved with
              | true => exact Or.inl ⟨rfl, touched⟩
              | false => exact Or.inr ⟨_, rfl, touched, rfl⟩

/-- The files that an upload task stores for the file at this path, and what it stores in
them. -/
def copiesOf (answers : TaskAnswers) (task : SyncTask) (localPath : String) (world : World) :
    List (String × List UInt8) :=
  match (uploadsFrom answers task world).bind (sent answers.upload localPath) with
  | none => []
  | some content => answers.upload.server.files.map fun file => (file.1, content)

theorem drive_uploadFile (identified : task.id = some taskId) {localPath : String}
    (path : task.localPath = some localPath) (world : World) :
    (final (uploadFile answers.upload task) world).drive =
      match sent answers.upload localPath world with
      | none => world.drive
      | some content =>
          (putFiles task.accountId (uploadMetadata localPath) content answers.upload.server.files
            world).drive := by
  rw [(sameStore_uploadFile identified path world).drive, uploaded]
  cases sent answers.upload localPath world with
  | none => rfl
  | some content =>
      cases answers.upload.server.reply with
      | error failure => rfl
      | ok apiFile => rfl

/-- An upload task touches new files only, and stores its copies in them. -/
theorem touches_processUpload (identified : task.id = some taskId) (world : World) :
    Touches task.accountId (newIds answers) world (final (processUpload answers task) world) := by
  have widens {ids : List String} {other later : World} (within : ∀ fileId ∈ ids, fileId ∈ newIds answers)
      (touched : Touches task.accountId ids other later) :
      Touches task.accountId (newIds answers) other later :=
    fun owner fileId spared => touched owner fileId fun same member => spared same (within fileId member)
  rcases @processUpload_cases _ answers task taskId identified world with
    ⟨_, touched⟩ | ⟨checked, _, touched, same⟩
  · exact widens (fun _ member => mem_newIds_iff.mpr (Or.inl member)) touched
  · refine IsTrans.trans _ _ _
      (widens (fun _ member => mem_newIds_iff.mpr (Or.inl member)) touched) ?_
    rw [same]
    cases path : task.localPath with
    | none =>
        refine touches_of_same _ _ ?_
        simp only [uploadFile, identified, path, final_onDb, World.withDb_drive]
    | some localPath =>
        have effect := @drive_uploadFile _ answers task taskId identified localPath path checked
        cases sending : sent answers.upload localPath checked with
        | none =>
            rw [sending] at effect
            exact touches_of_same _ _ effect
        | some content =>
            rw [sending] at effect
            have stored := @touches_putFiles task.accountId (uploadMetadata localPath) content
              (newIds answers) answers.upload.server.files
              (fun _ member => mem_newIds_iff.mpr (Or.inr member)) checked
            intro owner fileId spared
            rw [effect]
            exact stored owner fileId spared

theorem drive_of_mem_copiesOf (identified : task.id = some taskId) {localPath : String}
    (path : task.localPath = some localPath) {world : World} {copy : String × List UInt8}
    (stored : copy ∈ copiesOf answers task localPath world) :
    ∃ remote, (final (processUpload answers task) world).drive task.accountId copy.1 = some remote ∧
      remote.bytes = copy.2 := by
  rw [copiesOf] at stored
  rcases @processUpload_cases _ answers task taskId identified world with
    ⟨resolved, _⟩ | ⟨checked, from_, _, same⟩
  · rw [resolved] at stored
    cases stored
  · rw [from_, Option.bind_some] at stored
    have effect := @drive_uploadFile _ answers task taskId identified localPath path checked
    cases sending : sent answers.upload localPath checked with
    | none =>
        rw [sending] at stored
        cases stored
    | some content =>
        rw [sending] at stored effect
        rcases List.mem_map.mp stored with ⟨file, member, equal⟩
        rcases @drive_putFiles_of_mem task.accountId (uploadMetadata localPath) content file.1
          answers.upload.server.files (List.mem_map_of_mem member) checked with ⟨parents, there⟩
        rw [same, effect, ← equal]
        exact ⟨_, there, rfl⟩

omit [Rfc3339] in
/-- An upload ends as completed only after it has been sent and answered with a file. -/
theorem answered_of_completed {answers : UploadAnswers} {localPath : String} {world : World}
    (path : task.localPath = some localPath) (completed : uploadStatus answers task world = .completed) :
    ∃ content apiFile, sent answers localPath world = some content ∧
      answers.server.reply = .ok apiFile := by
  simp only [uploadStatus, path] at completed
  cases marks : answers.marks with
  | false =>
      rw [marks] at completed
      cases completed
  | true =>
      have read : (outcome (readFile answers.readFailure localPath) world).isOk =
          finds answers.readFailure localPath world := isOk_onFile _ _ _
      rw [marks, ← read] at completed
      cases reading : outcome (readFile answers.readFailure localPath) world with
      | error failure =>
          rw [reading] at completed
          simp only [Bool.not_true, Bool.false_eq_true, if_false, Except.isOk, Except.toBool,
            Bool.false_and, retried] at completed
          split at completed
          · split at completed
            · cases completed
            · cases completed
          · cases completed
      | ok content =>
          cases reply : answers.server.reply with
          | error failure =>
              rw [reply] at completed
              simp only [Bool.not_true, Bool.false_eq_true, if_false, Except.isOk, Except.toBool,
                Bool.and_false, retried] at completed
              split at completed
              · split at completed
                · cases completed
                · cases completed
              · cases completed
          | ok apiFile =>
              refine ⟨content, apiFile, ?_, rfl⟩
              rw [sent, marks, if_pos rfl, reading]
              rfl

/-- A completed upload task whose check has resolved no conflict has stored a copy, under the
id that it is answered with. -/
theorem copies_of_completed (identified : task.id = some taskId) {localPath : String}
    (path : task.localPath = some localPath) {world checked : World}
    (pending : HasStatus taskId .pending world) (uploads : uploadsFrom answers task world = some checked)
    (answered : ∀ apiFile, answers.upload.server.reply = .ok apiFile →
      ∃ fileId ∈ answers.upload.server.files.map Prod.fst, apiFile.id = some fileId)
    (completed : HasStatus taskId .completed (final (processUpload answers task) world)) :
    ∃ copy ∈ copiesOf answers task localPath world, ∃ apiFile,
      answers.upload.server.reply = .ok apiFile ∧ apiFile.id = some copy.1 := by
  have status := hasStatus_processUpload identified pending answers
  have reached : uploadTaskStatus answers task world = uploadStatus answers.upload task checked := by
    rw [uploadsFrom] at uploads
    rw [uploadTaskStatus]
    cases about : task.fileId with
    | none =>
        rw [about] at uploads
        cases uploads
        rfl
    | some fileId =>
        rw [about, path] at uploads
        rw [path]
        dsimp only at uploads ⊢
        generalize outcome (checkAndResolve answers.conflict task fileId localPath) world = result
          at uploads ⊢
        cases result with
        | error failure =>
            cases uploads
            rfl
        | ok resolved =>
            cases resolved with
            | true => cases uploads
            | false =>
                cases uploads
                rfl
  rw [HasStatus] at completed status
  rw [completed, reached] at status
  rcases answered_of_completed path (Option.some.inj status).symm with
    ⟨content, apiFile, sending, reply⟩
  rcases answered apiFile reply with ⟨fileId, member, named⟩
  rcases List.mem_map.mp member with ⟨file, stored, same⟩
  refine ⟨(file.1, content), ?_, apiFile, reply, by rw [named, same]⟩
  rw [copiesOf, uploads, Option.bind_some, sending]
  exact List.mem_map_of_mem stored

end Tasks

/-! ## Runs -/

/-- What happens in a run. -/
inductive Occurrence where
  | does (operation : Operation)
  /-- Another program stores a file on the Drive of an account, or deletes one. -/
  | elsewhere (accountId fileId : String) (file : Option RemoteFile)

/-- The system, and the files on Drive that belong to one path: those that its uploads have stored,
with what they have stored in them, and those that were mirrored at it when an upload stored a file,
with what was in them then. -/
structure Traced where
  system : System
  copies : List (String × List UInt8)

def Traced.initial : Traced := ⟨System.initial, []⟩

/-- The task is an upload of the file at this path, however its own path is written. -/
def uploadsAt (accountId localPath : String) (task : SyncTask) : Bool :=
  task.operation = .upload && task.accountId = accountId &&
    task.localPath.any fun path => decide (placeOf path = placeOf localPath)

/-- The files that are still on Drive. -/
def stillThere (accountId : String) (world : World) (copies : List (String × List UInt8)) :
    List (String × List UInt8) :=
  copies.filter fun copy => (world.drive accountId copy.1).isSome

/-- The files on Drive that live rows of the account mirror at the path, with what is in them. -/
def mirroredAt (accountId localPath : String) (world : World) : List (String × List UInt8) :=
  ((liveFilesAt accountId localPath world.db).filter fun file => (world.drive accountId file.id).isSome).map
    fun file => (file.id, ((world.drive accountId file.id).map RemoteFile.bytes).getD [])

/-- The files on Drive that belong to the path. -/
def belonging (accountId localPath : String) (traced : Traced) : List (String × List UInt8) :=
  traced.copies ++ (mirroredAt accountId localPath traced.system.world).filter fun copy =>
    copy.1 ∉ traced.copies.map Prod.fst

/-- No operation changes this file other than by deleting it. -/
def Spares (owner fileId : String) (world later : World) : Prop :=
  later.drive owner fileId = world.drive owner fileId ∨ later.drive owner fileId = none

instance (owner fileId : String) : IsPreorder World (Spares owner fileId) where
  refl _ := Or.inl rfl
  trans _ _ _ one two := by
    rcases two with same | gone
    · rw [Spares, same]
      exact one
    · exact Or.inr gone

theorem allowsProcessing_spares (owner fileId : String) (taskId : Nat) :
    AllowsProcessing taskId (Spares owner fileId) where
  disk _ _ _ := Or.inl rfl
  send _ _ _ := Or.inl rfl
  task _ _ _ _ := Or.inl rfl
  error _ _ := Or.inl rfl

theorem spares_putOnDrive_none (owner fileId accountId other : String) (world : World) :
    Spares owner fileId world (world.putOnDrive accountId other none) := by
  rw [Spares, drive_putOnDrive]
  split
  · exact Or.inr rfl
  · exact Or.inl rfl

theorem spares_callback (owner fileId cacheDir : String) (answers : Vfs.CallbackAnswers)
    (callback : Callback) : Keeps (Spares owner fileId) (callback.run cacheDir answers) := by
  refine keeps_callback (allowsTasks_keepsTasks none).toEdits ?_ cacheDir answers callback
  constructor
  · exact fun _ _ _ => Or.inl rfl
  · exact fun _ _ _ => Or.inl rfl
  · exact fun _ _ => Or.inl rfl
  · exact fun _ _ => Or.inl rfl

section Runs

variable [Rfc3339]

/-- What an operation stores on Drive for the file at a path. -/
def storedFor (accountId localPath : String) (system : System) : Operation → List (String × List UInt8)
  | .engine (.begin picks answers) =>
      match system.engine, system.world.db.nextPending with
      | .idle, some task =>
          if picks && answers.hasClient && uploadsAt accountId localPath task then
            copiesOf answers task (task.localPath.getD localPath) system.world
          else []
      | _, _ => []
  | _ => []

def Occurrence.exec (system : System) : Occurrence → System
  | .does operation => system.exec operation
  | .elsewhere accountId fileId file => { system with world := system.world.putOnDrive accountId fileId file }

def Occurrence.stores (accountId localPath : String) (system : System) : Occurrence → List (String × List UInt8)
  | .does operation => storedFor accountId localPath system operation
  | .elsewhere _ _ _ => []

/-- Let something happen, and keep track of the files that belong to a path. -/
def Traced.exec (accountId localPath : String) (traced : Traced) (occurrence : Occurrence) : Traced where
  system := occurrence.exec traced.system
  copies := stillThere accountId (occurrence.exec traced.system).world
      (if occurrence.stores accountId localPath traced.system = [] then traced.copies
        else belonging accountId localPath traced) ++
    occurrence.stores accountId localPath traced.system

/-- Every file that is stored gets an id of its own, which no file on Drive has. -/
def ServesNewIds (system : System) : Occurrence → Prop
  | .does (.engine (.begin _ answers)) =>
      system.engine = .idle → ∀ task, system.world.db.nextPending = some task →
        task.operation = .upload →
          (newIds answers).Nodup ∧
            ∀ fileId ∈ newIds answers, system.world.drive task.accountId fileId = none
  | _ => True

/-- Drive holds one file for the path, with what the last upload has stored. -/
def OneFile (accountId : String) (traced : Traced) : Prop :=
  ∃ fileId, (∀ copy ∈ traced.copies, copy.1 = fileId) ∧
    ∀ copy, traced.copies.getLast? = some copy →
      ∃ remote, traced.system.world.drive accountId fileId = some remote ∧ remote.bytes = copy.2

/-- An attempt to upload the path is carried out only while no file on Drive belongs to it, and
then no other attempt of the same request is.  Other programs leave the content of such a file alone. -/
def StoresOnce (accountId localPath : String) (traced : Traced) : Occurrence → Prop
  | .does operation =>
      storedFor accountId localPath traced.system operation = [] ∨
        belonging accountId localPath traced = [] ∧
          (storedFor accountId localPath traced.system operation).length = 1
  | .elsewhere owner fileId file =>
      ∀ copy ∈ traced.copies, owner = accountId → fileId = copy.1 → ∀ remote, file = some remote →
        remote.bytes = copy.2

/-- The files have ids of their own, and are on Drive. -/
structure Stored (accountId : String) (traced : Traced) : Prop where
  ids : (traced.copies.map Prod.fst).Nodup
  there : ∀ copy ∈ traced.copies, (traced.system.world.drive accountId copy.1).isSome = true

section Steps

variable {accountId localPath : String} {system : System} {operation : Operation} {occurrence : Occurrence}

omit [Rfc3339] in
theorem of_uploadsAt {task : SyncTask} (uploads : uploadsAt accountId localPath task = true) :
    task.operation = .upload ∧ task.accountId = accountId ∧ task.localPath.isSome = true := by
  rw [uploadsAt, Bool.and_eq_true, Bool.and_eq_true] at uploads
  refine ⟨of_decide_eq_true uploads.1.1, of_decide_eq_true uploads.1.2, ?_⟩
  rcases (Option.any_eq_true _ _).mp uploads.2 with ⟨path, there, _⟩
  exact Option.isSome_iff_exists.mpr ⟨path, there⟩

/-- A step that stores a file for the path begins an upload task of it. -/
theorem storedFor_cases (accountId localPath : String) (system : System) (operation : Operation) :
    storedFor accountId localPath system operation = [] ∨
      ∃ answers task taskId, operation = .engine (.begin true answers) ∧ system.engine = .idle ∧
        system.world.db.nextPending = some task ∧ task.id = some taskId ∧ task.operation = .upload ∧
        task.accountId = accountId ∧ task.localPath = some (task.localPath.getD localPath) ∧
        storedFor accountId localPath system operation =
          copiesOf answers task (task.localPath.getD localPath) system.world ∧
        (system.exec operation).world = final (processUpload answers task) system.world := by
  cases operation with
  | engine step =>
      cases step with
      | begin picks answers =>
          simp only [storedFor]
          split
          · next task idle next =>
              split
              · next uploads =>
                  rw [Bool.and_eq_true, Bool.and_eq_true] at uploads
                  rcases uploads with ⟨⟨picked, client⟩, atPath⟩
                  rcases of_uploadsAt atPath with ⟨operation, account, path⟩
                  rcases Database.of_nextPending next with ⟨taskId, identified, _, _⟩
                  subst picked
                  rcases Option.isSome_iff_exists.mp path with ⟨path, there⟩
                  refine Or.inr ⟨answers, task, taskId, rfl, idle, next, identified, operation, account,
                    by rw [there]; rfl, rfl, ?_⟩
                  rw [← final_beginTask_upload client operation]
                  simp only [System.exec, EngineStep.exec, idle]
                  exact congrArg System.world (settle_beginNext_of_next answers next)
              · exact Or.inl rfl
          · exact Or.inl rfl
      | _ => exact Or.inl rfl
  | _ => exact Or.inl rfl

/-- A file on Drive stays as it is unless it is deleted. -/
theorem spares_exec (serves : ServesNewIds system (.does operation)) {owner fileId : String}
    (there : system.world.drive owner fileId ≠ none) :
    Spares owner fileId system.world (system.exec operation).world := by
  cases operation with
  | sync work => exact Or.inl rfl
  | rpc ctx answers request => exact Or.inl rfl
  | vfs cacheDir answers callback => exact spares_callback owner fileId cacheDir answers callback _
  | event path isDir kind folders now runs => exact Or.inl rfl
  | user path file => exact Or.inl rfl
  | engine step =>
      refine @keeps_engine (Spares owner fileId) _ _ system step ?_ ?_ ?_ ?_
      · intro picks answers task taskId same idle next identified
        rw [same] at serves
        refine keeps_beginTask_of_uploads identified (allowsProcessing_spares owner fileId taskId)
          (fun world _ _ => spares_putOnDrive_none _ _ _ _ world) (fun _ _ _ _ => Or.inl rfl) ?_ system.world
        intro uploads world
        refine Or.inl (touches_processUpload identified world owner fileId ?_)
        intro sameOwner new
        apply there
        rw [sameOwner]
        exact (serves idle task next uploads).2 fileId new
      · exact allowsProcessing_spares owner fileId
      · exact fun _ _ _ _ _ _ => Or.inl rfl
      · exact fun _ _ _ _ => Or.inl rfl

variable {traced : Traced}

omit [Rfc3339] in
/-- One file belongs to the path when at most one is listed, and it has the content listed for it. -/
theorem oneFile_iff (stored : Stored accountId traced) :
    OneFile accountId traced ↔ traced.copies.length ≤ 1 ∧
      ∀ copy ∈ traced.copies, (traced.system.world.drive accountId copy.1).map RemoteFile.bytes = some copy.2 := by
  have ids := stored.ids
  rw [OneFile]
  cases copies : traced.copies with
  | nil =>
      refine iff_of_true ⟨"", ?_, ?_⟩ ⟨Nat.zero_le 1, ?_⟩
      · intro copy member
        cases member
      · intro copy last
        cases last
      · intro copy member
        cases member
  | cons first rest =>
      rw [copies] at ids
      cases rest with
      | nil =>
          constructor
          · rintro ⟨fileId, same, holds⟩
            refine ⟨Nat.le_refl 1, fun copy member => ?_⟩
            rw [List.mem_singleton.mp member, same first List.mem_cons_self]
            exact Option.map_eq_some_iff.mpr (holds first rfl)
          · rintro ⟨_, holds⟩
            refine ⟨first.1, ?_, ?_⟩
            · intro copy member
              rw [List.mem_singleton.mp member]
            · intro copy last
              rw [← Option.some.inj last]
              exact Option.map_eq_some_iff.mp (holds first List.mem_cons_self)
      | cons second rest =>
          refine iff_of_false ?_ fun few => ?_
          · rintro ⟨fileId, same, _⟩
            have one := same first List.mem_cons_self
            have two := same second (List.mem_cons_of_mem _ List.mem_cons_self)
            apply (List.nodup_cons.mp ids).1
            rw [one, ← two]
            exact List.mem_cons_self
          · have length := few.1
            simp only [List.length_cons] at length
            omega

omit [Rfc3339] in
theorem mem_stillThere {world : World} {copies : List (String × List UInt8)}
    {copy : String × List UInt8} :
    copy ∈ stillThere accountId world copies ↔ copy ∈ copies ∧ (world.drive accountId copy.1).isSome = true := by
  rw [stillThere, List.mem_filter]

omit [Rfc3339] in
/-- The rows of an account have ids of their own. -/
theorem nodup_mirroredAt (accountId localPath : String) (world : World) :
    ((mirroredAt accountId localPath world).map Prod.fst).Nodup := by
  rw [mirroredAt, List.map_map]
  have rows : (liveFilesAt accountId localPath world.db).Nodup :=
    world.db.driveFiles.nodup_records.sublist List.filter_sublist
  refine (rows.sublist List.filter_sublist).map_on fun file member other there same => ?_
  have mine := of_mem_liveFilesAt (List.mem_filter.mp member).1
  have theirs := of_mem_liveFilesAt (List.mem_filter.mp there).1
  exact KeyedTable.eq_of_key mine.1 theirs.1 (Prod.ext same (mine.2.2.1.trans theirs.2.2.1.symm))

omit [Rfc3339] in
theorem stored_belonging (stored : Stored accountId traced) :
    ((belonging accountId localPath traced).map Prod.fst).Nodup ∧
      ∀ copy ∈ belonging accountId localPath traced,
        (traced.system.world.drive accountId copy.1).isSome = true := by
  constructor
  · rw [belonging, List.map_append]
    refine List.nodup_append'.mpr ⟨stored.ids, ?_, fun fileId old new => ?_⟩
    · exact (nodup_mirroredAt accountId localPath traced.system.world).sublist (List.filter_sublist.map Prod.fst)
    · rcases List.mem_map.mp new with ⟨copy, member, same⟩
      have absent := of_decide_eq_true (List.mem_filter.mp member).2
      rw [same] at absent
      exact absent old
  · intro copy member
    rcases List.mem_append.mp member with old | mirrored
    · exact stored.there copy old
    · rcases List.mem_map.mp (List.mem_filter.mp mirrored).1 with ⟨file, there, same⟩
      rw [← same]
      exact (List.mem_filter.mp there).2

theorem map_copiesOf {answers : TaskAnswers} {task : SyncTask} {world : World} :
    ((copiesOf answers task localPath world).map Prod.fst).Sublist (newIds answers) := by
  rw [copiesOf, newIds, List.map_append]
  split
  · exact List.nil_sublist _
  · rw [List.map_map]
    exact List.sublist_append_right _ _

/-- The files that a step stores for the path have new ids, and are on Drive after it. -/
theorem storedFor_spec (serves : ServesNewIds system (.does operation)) :
    ((storedFor accountId localPath system operation).map Prod.fst).Nodup ∧
      ∀ copy ∈ storedFor accountId localPath system operation,
        system.world.drive accountId copy.1 = none ∧
          ((system.exec operation).world.drive accountId copy.1).map RemoteFile.bytes = some copy.2 := by
  rcases storedFor_cases accountId localPath system operation with
    nothing | ⟨answers, task, taskId, begins, idle, next, identified, uploads, account, path, stores, reaches⟩
  · rw [nothing]
    refine ⟨List.nodup_nil, ?_⟩
    intro copy member
    cases member
  · rw [begins] at serves
    rcases serves idle task next uploads with ⟨distinct, fresh⟩
    rw [stores]
    refine ⟨distinct.sublist map_copiesOf, ?_⟩
    intro copy member
    have absent := fresh copy.1 (map_copiesOf.subset (List.mem_map_of_mem member))
    have there := drive_of_mem_copiesOf identified path member
    rw [account] at absent there
    rw [reaches]
    exact ⟨absent, Option.map_eq_some_iff.mpr there⟩

/-- The files that are listed after a step have ids of their own and are on Drive, if those listed
before it had and were, and the new ones are. -/
theorem stored_of_listed {copies : List (String × List UInt8)}
    (serves : ServesNewIds traced.system (.does operation)) (ids : (copies.map Prod.fst).Nodup)
    (there : ∀ copy ∈ copies, (traced.system.world.drive accountId copy.1).isSome = true) :
    Stored accountId ⟨traced.system.exec operation, stillThere accountId (traced.system.exec operation).world copies ++
      storedFor accountId localPath traced.system operation⟩ := by
  rcases @storedFor_spec _ accountId localPath _ _ serves with ⟨newOnes, new⟩
  constructor
  · refine (List.map_append ▸ List.nodup_append'.mpr ⟨?_, newOnes, ?_⟩ :)
    · exact ids.sublist (List.filter_sublist.map Prod.fst)
    · intro fileId old added
      rcases List.mem_map.mp old with ⟨copy, remains, same⟩
      rcases List.mem_map.mp added with ⟨other, stores, equal⟩
      have held := there copy (mem_stillThere.mp remains).1
      have absent := (new other stores).1
      rw [same, ← equal, absent] at held
      cases held
  · intro copy member
    rcases List.mem_append.mp member with old | added
    · exact (mem_stillThere.mp old).2
    · have present := (new copy added).2
      rcases Option.map_eq_some_iff.mp present with ⟨remote, found, _⟩
      dsimp only
      rw [found]
      rfl

theorem copies_exec_of_nothing (nothing : occurrence.stores accountId localPath traced.system = []) :
    (traced.exec accountId localPath occurrence).copies =
      stillThere accountId (occurrence.exec traced.system).world traced.copies := by
  rw [Traced.exec, if_pos nothing, nothing, List.append_nil]

theorem copies_exec_of_stores (stores : occurrence.stores accountId localPath traced.system ≠ []) :
    (traced.exec accountId localPath occurrence).copies =
      stillThere accountId (occurrence.exec traced.system).world (belonging accountId localPath traced) ++
        occurrence.stores accountId localPath traced.system := by
  rw [Traced.exec, if_neg stores]

theorem stored_exec (serves : ServesNewIds traced.system occurrence) (stored : Stored accountId traced) :
    Stored accountId (traced.exec accountId localPath occurrence) := by
  cases occurrence with
  | does operation =>
      rw [Traced.exec]
      by_cases nothing : Occurrence.stores accountId localPath traced.system (.does operation) = []
      · rw [if_pos nothing]
        exact stored_of_listed serves stored.ids stored.there
      · rw [if_neg nothing]
        have listed := @stored_belonging accountId localPath traced stored
        exact stored_of_listed serves listed.1 listed.2
  | elsewhere owner fileId file =>
      have same := @copies_exec_of_nothing _ accountId localPath (.elsewhere owner fileId file) traced rfl
      constructor
      · rw [same]
        exact stored.ids.sublist (List.filter_sublist.map Prod.fst)
      · intro copy member
        rw [same] at member
        exact (mem_stillThere.mp member).2

/-- A step that stores a file for the path removes none. -/
theorem stillThere_of_stores {copies : List (String × List UInt8)}
    (serves : ServesNewIds traced.system (.does operation))
    (there : ∀ copy ∈ copies, (traced.system.world.drive accountId copy.1).isSome = true)
    (stores : storedFor accountId localPath traced.system operation ≠ []) :
    stillThere accountId (traced.system.exec operation).world copies = copies := by
  rcases storedFor_cases accountId localPath traced.system operation with
    nothing | ⟨answers, task, taskId, begins, idle, next, identified, uploads, account, _, _, reaches⟩
  · exact absurd nothing stores
  · rw [begins] at serves
    refine List.filter_eq_self.mpr fun copy before => ?_
    have held := there copy before
    have touched := @touches_processUpload _ answers task taskId identified traced.system.world
      accountId copy.1
    rw [reaches, touched]
    · exact held
    · intro _ new
      have absent := (serves idle task next uploads).2 copy.1 new
      rw [account] at absent
      rw [absent] at held
      cases held

/-- Nothing that stays has other content. -/
theorem bytes_of_stillThere (serves : ServesNewIds traced.system (.does operation)) {copy : String × List UInt8}
    (remains : copy ∈ stillThere accountId (traced.system.exec operation).world traced.copies)
    (holds : (traced.system.world.drive accountId copy.1).map RemoteFile.bytes = some copy.2) :
    ((traced.system.exec operation).world.drive accountId copy.1).map RemoteFile.bytes = some copy.2 := by
  have there := (mem_stillThere.mp remains).2
  have present : traced.system.world.drive accountId copy.1 ≠ none := by
    intro absent
    rw [absent] at holds
    cases holds
  rcases spares_exec serves present with same | gone
  · rw [same]
    exact holds
  · rw [gone] at there
    cases there

theorem oneFile_does_iff (serves : ServesNewIds traced.system (.does operation))
    (stored : Stored accountId traced) (one : OneFile accountId traced) :
    OneFile accountId (traced.exec accountId localPath (.does operation)) ↔
      StoresOnce accountId localPath traced (.does operation) := by
  rcases (oneFile_iff stored).mp one with ⟨before, holds⟩
  rw [oneFile_iff (stored_exec serves stored), StoresOnce]
  by_cases nothing : storedFor accountId localPath traced.system operation = []
  · have copies : (traced.exec accountId localPath (.does operation)).copies =
        stillThere accountId (traced.system.exec operation).world traced.copies :=
      copies_exec_of_nothing nothing
    refine iff_of_true ?_ (Or.inl nothing)
    rw [copies]
    refine ⟨Nat.le_trans (List.length_filter_le _ _) before, fun copy remains => ?_⟩
    exact bytes_of_stillThere serves remains (holds copy (mem_stillThere.mp remains).1)
  · have listed := @stored_belonging accountId localPath traced stored
    have copies : (traced.exec accountId localPath (.does operation)).copies =
        belonging accountId localPath traced ++ storedFor accountId localPath traced.system operation := by
      refine (@copies_exec_of_stores _ accountId localPath (.does operation) traced nothing).trans ?_
      rw [Occurrence.exec, stillThere_of_stores serves listed.2 nothing]
      rfl
    have several : 0 < (storedFor accountId localPath traced.system operation).length :=
      List.length_pos_iff.mpr nothing
    rw [copies, List.length_append]
    constructor
    · rintro ⟨few, _⟩
      exact Or.inr ⟨List.length_eq_zero_iff.mp (by omega), by omega⟩
    · rintro (impossible | ⟨none_, single⟩)
      · exact absurd impossible nothing
      · rw [none_, List.nil_append]
        refine ⟨by simp only [List.length_nil]; omega, fun copy member => ?_⟩
        exact ((@storedFor_spec _ accountId localPath _ _ serves).2 copy member).2

theorem oneFile_elsewhere_iff (stored : Stored accountId traced) (one : OneFile accountId traced)
    {owner fileId : String} {file : Option RemoteFile} :
    OneFile accountId (traced.exec accountId localPath (.elsewhere owner fileId file)) ↔
      StoresOnce accountId localPath traced (.elsewhere owner fileId file) := by
  rcases (oneFile_iff stored).mp one with ⟨before, holds⟩
  have serves : ServesNewIds traced.system (.elsewhere owner fileId file) := trivial
  have copies : (traced.exec accountId localPath (.elsewhere owner fileId file)).copies =
      stillThere accountId (traced.system.world.putOnDrive owner fileId file) traced.copies :=
    copies_exec_of_nothing rfl
  have drive (other : String) : (traced.exec accountId localPath (.elsewhere owner fileId file)).system.world.drive
      accountId other =
        if accountId = owner ∧ other = fileId then file else traced.system.world.drive accountId other :=
    drive_putOnDrive owner fileId file traced.system.world accountId other
  rw [oneFile_iff (stored_exec serves stored), StoresOnce, copies]
  constructor
  · rintro ⟨_, after⟩ copy member account named remote stores
    have here := ((drive copy.1).trans (if_pos ⟨account.symm, named.symm⟩)).trans stores
    have held : ((traced.system.world.putOnDrive owner fileId file).drive accountId copy.1).isSome = true :=
      congrArg Option.isSome here
    have bytes := after copy (mem_stillThere.mpr ⟨member, held⟩)
    rw [here] at bytes
    exact Option.some.inj bytes
  · intro leaves
    refine ⟨Nat.le_trans (List.length_filter_le _ _) before, fun copy remains => ?_⟩
    rcases mem_stillThere.mp remains with ⟨member, there⟩
    have held : ((traced.exec accountId localPath (.elsewhere owner fileId file)).system.world.drive accountId
        copy.1).isSome = true := there
    rw [drive] at held ⊢
    split
    · next here =>
        rw [if_pos here] at held
        rcases Option.isSome_iff_exists.mp held with ⟨remote, stores⟩
        rw [stores, Option.map_some, leaves copy member here.1.symm here.2.symm remote stores]
    · exact holds copy member

theorem oneFile_exec_iff (serves : ServesNewIds traced.system occurrence)
    (stored : Stored accountId traced) (one : OneFile accountId traced) :
    OneFile accountId (traced.exec accountId localPath occurrence) ↔
      StoresOnce accountId localPath traced occurrence := by
  cases occurrence with
  | does operation => exact oneFile_does_iff serves stored one
  | elsewhere owner fileId file => exact oneFile_elsewhere_iff stored one

end Steps

end Runs

/-! ## Notes uploaded twice -/

/-- The next task is begun, and its upload is served like this. -/
def uploadsTo (server : UploadReply) : Operation :=
  .engine (.begin true { TaskAnswers.allRun server ⟨[], 0⟩ 9 with
    conflict := ⟨true, true, .error "not asked", ResolveAnswers.allRun ⟨none, .error "not asked", []⟩ ⟨[], 0⟩ 9⟩ })

/-- The user writes the notes in the watched folder. -/
def writesNotes (bytes : List UInt8) (now : Int) : List Operation := [
  .user "/mnt/notes.txt" (some ⟨bytes, now⟩),
  .event "/mnt/notes.txt" false .modifyData [⟨"/mnt", "ann@example.com", "mirror"⟩] now true]

def connectsAnn : Operation :=
  .sync (.connect true ⟨"ann@example.com", "ann@example.com", 0⟩)

/-- The server stores the notes under this id, and answers. -/
def storesNotes (fileId : String) : UploadReply :=
  ⟨some (fileId, ["root"]), .ok (Api.DriveFile.named fileId "notes.txt"), []⟩

/-- The notes are written and uploaded. -/
def uploadsOnce : List Operation :=
  connectsAnn :: writesNotes [1] 5 ++ [uploadsTo (storesNotes "drive-1")]

/-- The notes are written and uploaded, and then once more. -/
def uploadsTwice : List Operation :=
  uploadsOnce ++ writesNotes [2] 7 ++ [uploadsTo (storesNotes "drive-2")]

/-- The notes are uploaded once.  The first attempt is carried out and answered with an error,
and the client repeats it. -/
def repeatsRequest : List Operation :=
  connectsAnn :: writesNotes [1] 5 ++ [uploadsTo (filesUploadMultipart
    ⟨some ("drive-1", ["root"]), .refused 503 "backend error", false⟩
    [⟨some ("drive-2", ["root"]), .success (.ok (Api.DriveFile.named "drive-2" "notes.txt")), false⟩])]

/-- The notes on Drive are mirrored, and their local copy is written and uploaded. -/
def editsMirrored : List Operation :=
  connectsAnn :: [
    .sync (.listed true "ann@example.com" (Api.DriveFile.named "notes" "notes.txt")),
    .sync (.mirror (MirrorAnswers.allRun 9 1) "ann@example.com" "/mnt"),
    .engine (.begin true (TaskAnswers.allRun ⟨none, .error "no upload", []⟩ ⟨[1], 10⟩ 5)),
    .engine (.land (DownloadAnswers.allRun ⟨[1], 10⟩ 5)),
    .engine (.record (DownloadAnswers.allRun ⟨[1], 10⟩ 5))] ++
    writesNotes [2] 20 ++ [uploadsTo (storesNotes "drive-1")]

/-- The notes are on Drive from the start. -/
def notesOnDrive : Occurrence :=
  .elsewhere "ann@example.com" "notes" (some ⟨"notes.txt", "text/plain", ["root"], [1]⟩)

/-- Keep track of the notes. -/
def traceNotes (occurrences : List Occurrence) : Traced :=
  run (@Traced.exec untimed "ann@example.com" "/mnt/notes.txt") occurrences Traced.initial

/-- Every task in the queue is completed. -/
def allCompleted (world : World) : Bool :=
  world.db.syncQueue.records.all fun task => task.status = .completed

theorem servesNewIds_uploadsTo {system : System} {server : UploadReply} {accountId : String}
    (next : system.world.db.nextPending.map SyncTask.accountId = some accountId)
    (distinct : (server.files.map Prod.fst).Nodup)
    (fresh : ∀ fileId ∈ server.files.map Prod.fst, system.world.drive accountId fileId = none) :
    ServesNewIds system (.does (uploadsTo server)) := by
  intro _ task found _
  rw [found] at next
  rw [Option.some.inj next]
  exact ⟨distinct, fresh⟩

/-- A download stores nothing on Drive. -/
theorem servesNewIds_download {system : System} {picks : Bool} {answers : TaskAnswers}
    (next : system.world.db.nextPending.map SyncTask.operation = some .download) :
    ServesNewIds system (.does (.engine (.begin picks answers))) := by
  intro _ task found uploads
  rw [found, Option.map_some, uploads] at next
  cases next

theorem serves_uploadsOnce :
    Along (@Traced.exec untimed "ann@example.com" "/mnt/notes.txt")
      (fun traced => ServesNewIds traced.system) (uploadsOnce.map .does) Traced.initial :=
  ⟨trivial, trivial, trivial,
    @servesNewIds_uploadsTo _ _ "ann@example.com" (by decide) (by decide) (by decide), trivial⟩

/-- The notes are uploaded, deleted on Drive by another program, written again and uploaded again. -/
def uploadsAnew : List Occurrence :=
  uploadsOnce.map .does ++ .elsewhere "ann@example.com" "drive-1" none ::
    (writesNotes [2] 7 ++ [uploadsTo (storesNotes "drive-2")]).map .does

theorem not_oneFile_of_two {traced : Traced} {first second : String × List UInt8}
    (copies : traced.copies = [first, second]) (different : first.1 ≠ second.1) (accountId : String) :
    ¬ OneFile accountId traced := by
  rintro ⟨fileId, same, _⟩
  rw [copies] at same
  apply different
  rw [same first List.mem_cons_self, same second (List.mem_cons_of_mem _ List.mem_cons_self)]

end Local
end GDriver
