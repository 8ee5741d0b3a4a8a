import GDriver.Ipc.Preferences
import GDriver.Library.Run

namespace GDriver
namespace Saves

open Library Routine Db Sync Ipc

/-!
# Requests that save preferences at the same time

Requests run side by side.  One that saves preferences writes the sibling, renames it and then
sets the memory; one that switches the mode sets the memory, tells the engine, reads the memory,
and then writes and renames.  Between two of these steps any other request may take its own.
All of them use one sibling.
-/

/-- A request that changes the preferences. -/
inductive PrefsRequest where
  | prefsSave (prefs : Preferences)
  | setSyncMode (mode : SyncMode)
  deriving DecidableEq, Repr

/-- What a request does to the preferences. -/
def PrefsRequest.change : PrefsRequest → Preferences → Preferences
  | .prefsSave newPrefs, _ => newPrefs
  | .setSyncMode mode, prefs => prefs.withMode mode

/-- Where a request stands: the step it takes next. -/
inductive Position where
  /-- Save of preferences: write the sibling. -/
  | writing (prefs : Preferences)
  /-- Save of preferences: rename the sibling. -/
  | installing (prefs : Preferences)
  /-- Save of preferences: set the memory. -/
  | storing (prefs : Preferences)
  /-- Switch of the mode: set the memory. -/
  | switching (mode : SyncMode)
  /-- Switch of the mode: tell the engine. -/
  | notifying (mode : SyncMode)
  /-- Switch of the mode: read the memory. -/
  | reading
  /-- Switch of the mode: write the sibling. -/
  | persisting (copy : Preferences)
  /-- Switch of the mode: rename the sibling. -/
  | replacing (copy : Preferences)
  deriving DecidableEq, Repr

/-- Where a request begins. -/
def PrefsRequest.start : PrefsRequest → Position
  | .prefsSave prefs => .writing prefs
  | .setSyncMode mode => .switching mode

/-- A call on the files of the preferences. -/
def onFiles (call : Routine String ConfigFiles Unit) : Routine String Backend Unit :=
  zoom Backend.files (fun files backend => { backend with files := files }) call

/-- One step of a request: the next one, or none when it has answered. -/
def Position.step (toml : Preferences → String) : Position → Routine RpcError Backend (Option Position)
  | .writing prefs => do
      mapError .internalError (onFiles (writeTmp SaveAnswers.allRun (toml prefs)))
      pure (some (.installing prefs))
  | .installing prefs => do
      mapError .internalError (onFiles (renameTmp SaveAnswers.allRun))
      pure (some (.storing prefs))
  | .storing prefs => do
      setConfig fun _ => prefs
      pure none
  | .switching mode => do
      setConfig (Preferences.withMode mode)
      pure (some (.notifying mode))
  | .notifying mode => do
      sendCommand PrefsAnswers.allRun (.switchMode mode)
      pure (some .reading)
  | .reading => fun backend => .ok (some (.persisting backend.config)) backend
  | .persisting copy => do
      attempt (onFiles (writeTmp SaveAnswers.allRun (toml copy)))
      pure (some (.replacing copy))
  | .replacing _ => do
      attempt (onFiles (renameTmp SaveAnswers.allRun))
      pure none

/-- A request that runs by itself, for so many steps. -/
def Position.alone (toml : Preferences → String) : Nat → Position → Routine RpcError Backend Unit
  | 0, _ => pure ()
  | count + 1, position => do
      match ← position.step toml with
      | none => pure ()
      | some next => next.alone toml count

/-- The steps of a save are the handler. -/
theorem handlePrefsSave_eq_alone (toml : Preferences → String) (prefs : Preferences) :
    @handlePrefsSave ⟨fun prefs => .ok (toml prefs)⟩ PrefsAnswers.allRun (.ok prefs) =
      (PrefsRequest.prefsSave prefs).start.alone toml 3 := rfl

/-- The steps of a switch of the mode are the handler. -/
theorem handleSetSyncMode_eq_alone (toml : Preferences → String) (mode : SyncMode) :
    (@handleSetSyncMode ⟨fun prefs => .ok (toml prefs)⟩ PrefsAnswers.allRun (.ok mode) >>= fun _ => pure ()) =
      (PrefsRequest.setSyncMode mode).start.alone toml 5 := rfl

/-- The server while requests run. -/
structure Server where
  backend : Backend
  running : List Position
  /-- The errors that requests have answered. -/
  failures : List RpcError
  /-- The requests that have arrived. -/
  arrived : List PrefsRequest
  /-- The requests that have changed the memory, in the order in which they did. -/
  effects : List PrefsRequest
  /-- The preferences that were handed to a save. -/
  saved : List Preferences

/-- The server before any request. -/
def Server.idle (backend : Backend) : Server :=
  ⟨backend, [], [], [], [], []⟩

/-- The request whose change of the memory is the next step. -/
def Position.effect : Position → Option PrefsRequest
  | .storing prefs => some (.prefsSave prefs)
  | .switching mode => some (.setSyncMode mode)
  | _ => none

/-- The preferences that the next step writes to the sibling. -/
def Position.hands : Position → Option Preferences
  | .writing prefs => some prefs
  | .persisting copy => some copy
  | _ => none

/-- The error of an answer. -/
def errorsOf {α : Type} : Except RpcError α → List RpcError
  | .error failure => [failure]
  | .ok _ => []

/-- The request at a position takes a step. -/
def Server.advance (toml : Preferences → String) (server : Server) (index : Nat) (position : Position) : Server where
  backend := final (position.step toml) server.backend
  running := server.running.take index ++
    (outcome (position.step toml) server.backend).toOption.join.toList ++ server.running.drop (index + 1)
  failures := server.failures ++ errorsOf (outcome (position.step toml) server.backend)
  arrived := server.arrived
  effects := server.effects ++ position.effect.toList
  saved := server.saved ++ position.hands.toList

/-- What happens next: a request arrives, or one takes its step. -/
inductive Turn where
  | arrive (request : PrefsRequest)
  | advance (index : Nat)

/-- One turn. -/
def Server.exec (toml : Preferences → String) (server : Server) : Turn → Server
  | .arrive request =>
      { server with
        running := server.running ++ [request.start]
        arrived := server.arrived ++ [request] }
  | .advance index =>
      match server.running[index]? with
      | none => server
      | some position => server.advance toml index position

/-! ## Agreement of memory and file -/

/-- The file is a complete text, no request has failed, and once all have answered the file and
the memory hold the same preferences, in which every request has made its change. -/
structure Agrees (toml : Preferences → String) (start : Backend) (server : Server) : Prop where
  complete : server.backend.files.file = start.files.file ∨
    ∃ prefs ∈ server.saved, server.backend.files.file = some (toml prefs)
  unfailed : server.failures = []
  settled : server.running = [] → server.arrived ≠ [] →
    server.backend.files.file = some (toml server.backend.config)
  changed : server.backend.config = server.effects.foldl (fun prefs request => request.change prefs) start.config
  heard : server.running = [] → server.effects.Perm server.arrived

/-- The preferences that a request has written to the sibling and not renamed. -/
def Position.sibling : Position → Option Preferences
  | .installing prefs => some prefs
  | .replacing copy => some copy
  | _ => none

/-- The preferences that a request has saved and not set in memory. -/
def Position.unset : Position → Option Preferences
  | .storing prefs => some prefs
  | _ => none

/-- A request has switched the mode in memory and has yet to read what to save. -/
def Position.rereads : Position → Bool
  | .notifying _ => true
  | .reading => true
  | _ => false

/-- The step of a request at a position does not interfere with another request: the sibling is
free when it is written; no other save is between its rename and its change of the memory when
the sibling is renamed; and the copy of the memory that is saved is not out of date, or another
will be saved. -/
def Position.Fits (server : Server) : Position → Prop
  | .writing _ => ∀ other ∈ server.running, other.sibling = none
  | .persisting _ => ∀ other ∈ server.running, other.sibling = none
  | .installing _ => ∀ other ∈ server.running, other.unset = none
  | .replacing copy => (∀ other ∈ server.running, other.unset = none) ∧
      (copy = server.backend.config ∨ ∃ other ∈ server.running, other.rereads = true)
  | _ => True

/-- The turn does not interfere with another request. -/
def Turn.Fits (server : Server) : Turn → Prop
  | .arrive _ => True
  | .advance index => ∀ position ∈ server.running[index]?, position.Fits server

instance (server : Server) (position : Position) : Decidable (position.Fits server) :=
  match position with
  | .writing _ => inferInstanceAs (Decidable (∀ other ∈ server.running, other.sibling = none))
  | .persisting _ => inferInstanceAs (Decidable (∀ other ∈ server.running, other.sibling = none))
  | .installing _ => inferInstanceAs (Decidable (∀ other ∈ server.running, other.unset = none))
  | .replacing copy => inferInstanceAs (Decidable ((∀ other ∈ server.running, other.unset = none) ∧
      (copy = server.backend.config ∨ ∃ other ∈ server.running, other.rereads = true)))
  | .storing _ => isTrue trivial
  | .switching _ => isTrue trivial
  | .notifying _ => isTrue trivial
  | .reading => isTrue trivial

instance (server : Server) (turn : Turn) : Decidable (turn.Fits server) :=
  match turn with
  | .arrive _ => isTrue trivial
  | .advance index => inferInstanceAs (Decidable (∀ position ∈ server.running[index]?, position.Fits server))

/-! ## The invariant -/

/-- A request has changed the memory or the file and has yet to change the other. -/
def Position.owes : Position → Bool
  | .writing _ => false
  | .installing _ => false
  | .switching _ => false
  | _ => true

/-- The request whose change of the memory is still to come. -/
def Position.promises : Position → Option PrefsRequest
  | .writing prefs => some (.prefsSave prefs)
  | .installing prefs => some (.prefsSave prefs)
  | .storing prefs => some (.prefsSave prefs)
  | .switching mode => some (.setSyncMode mode)
  | _ => none

/-- What holds while no request interferes with another. -/
structure Invariant (toml : Preferences → String) (start : Backend) (server : Server) : Prop where
  unfailed : server.failures = []
  complete : server.backend.files.file = start.files.file ∨
    ∃ prefs ∈ server.saved, server.backend.files.file = some (toml prefs)
  /-- At most one request uses the sibling, and it holds what that request wrote. -/
  written : server.running.filterMap Position.sibling = [] ∨
    ∃ prefs ∈ server.saved, server.running.filterMap Position.sibling = [prefs] ∧
      server.backend.files.tmp = some (toml prefs)
  renamed : ∀ prefs ∈ server.running.filterMap Position.unset, server.backend.files.file = some (toml prefs)
  settled : (∀ position ∈ server.running, position.owes = false) → server.effects ≠ [] →
    server.backend.files.file = some (toml server.backend.config)
  changed : server.backend.config = server.effects.foldl (fun prefs request => request.change prefs) start.config
  heard : (server.effects ++ server.running.filterMap Position.promises).Perm server.arrived

theorem agrees_of_invariant {toml : Preferences → String} {start : Backend} {server : Server}
    (holds : Invariant toml start server) : Agrees toml start server where
  complete := holds.complete
  unfailed := holds.unfailed
  settled answered some := by
    have heard := holds.heard
    rw [answered, List.filterMap_nil, List.append_nil] at heard
    refine holds.settled (fun position member => ?_) fun none => ?_
    · rw [answered] at member
      cases member
    · rw [none] at heard
      exact some heard.nil_eq.symm
  changed := holds.changed
  heard answered := by
    have heard := holds.heard
    rw [answered, List.filterMap_nil, List.append_nil] at heard
    exact heard

/-! ## Steps -/

section Steps

variable {toml : Preferences → String} {start : Backend} {server : Server} {before after : List Position}
  {position : Position} {next : Option Position} {later : Backend}

/-- The server after a step that does not fail. -/
def Server.moved (server : Server) (before : List Position) (position : Position) (after : List Position)
    (next : Option Position) (later : Backend) : Server where
  backend := later
  running := before ++ next.toList ++ after
  failures := server.failures
  arrived := server.arrived
  effects := server.effects ++ position.effect.toList
  saved := server.saved ++ position.hands.toList

/-- What a view of the requests shows before and after a step. -/
theorem filterMap_split {β : Type} (view : Position → Option β) (before after : List Position)
    (next : Option Position) :
    (before ++ next.toList ++ after).filterMap view =
      before.filterMap view ++ (next.bind view).toList ++ after.filterMap view := by
  rw [List.filterMap_append, List.filterMap_append]
  cases next with
  | none => rfl
  | some position =>
      rw [Option.toList_some, Option.bind_some, List.filterMap_cons]
      cases view position <;> rfl

theorem filterMap_running {β : Type} (view : Position → Option β)
    (split : server.running = before ++ position :: after) :
    server.running.filterMap view =
      before.filterMap view ++ (view position).toList ++ after.filterMap view := by
  have shown := filterMap_split view before after (some position)
  rw [Option.toList_some, List.append_assoc, List.singleton_append, ← split] at shown
  exact shown

/-- A view that a step leaves alone. -/
theorem filterMap_moved {β : Type} (view : Position → Option β)
    (split : server.running = before ++ position :: after) (same : next.bind view = view position) :
    (server.moved before position after next later).running.filterMap view = server.running.filterMap view :=
  (filterMap_split view before after next).trans
    ((congrArg (fun shown => before.filterMap view ++ shown.toList ++ after.filterMap view) same).trans
      (filterMap_running view split).symm)

/-- A step that leaves the preferences that were saved before among them. -/
theorem complete_moved {file : Option String} (holds : Invariant toml start server)
    (kept : file = server.backend.files.file ∨ ∃ prefs ∈ server.saved, file = some (toml prefs)) :
    file = start.files.file ∨ ∃ prefs ∈ (server.moved before position after next later).saved,
      file = some (toml prefs) := by
  have grown (prefs : Preferences) (member : prefs ∈ server.saved) :
      prefs ∈ (server.moved before position after next later).saved := List.mem_append_left _ member
  rcases kept with same | ⟨prefs, member, written⟩
  · rw [same]
    exact holds.complete.imp_right fun ⟨prefs, member, written⟩ => ⟨prefs, grown prefs member, written⟩
  · exact Or.inr ⟨prefs, grown prefs member, written⟩

/-- The other requests still run after a step. -/
theorem others_of_running {other : Position} (split : server.running = before ++ position :: after)
    (member : other ∈ server.running) (apart : other ≠ position) :
    other ∈ (server.moved before position after next later).running := by
  rw [split] at member
  rcases List.mem_append.mp member with earlier | rest
  · exact List.mem_append_left _ (List.mem_append_left _ earlier)
  · exact List.mem_append_right _ ((List.mem_cons.mp rest).resolve_left apart)

/-- No request owes anything after a step; then the others owed nothing before. -/
theorem owed_before (split : server.running = before ++ position :: after) (paid : position.owes = false)
    (none : ∀ other ∈ (server.moved before position after next later).running, other.owes = false) :
    ∀ other ∈ server.running, other.owes = false := by
  intro other member
  by_cases same : other = position
  · rw [same]
    exact paid
  · exact none other (others_of_running split member same)

/-- A request that writes the sibling while it is free. -/
theorem invariant_write {prefs : Preferences} {wrote : Position} (holds : Invariant toml start server)
    (split : server.running = before ++ position :: after) (free : ∀ other ∈ server.running, other.sibling = none)
    (hands : position.hands = some prefs) (uses : wrote.sibling = some prefs)
    (unset : (some wrote).bind Position.unset = position.unset)
    (owes : wrote.owes = position.owes) (promises : (some wrote).bind Position.promises = position.promises)
    (quiet : position.effect = none) (files : later.files = { server.backend.files with tmp := some (toml prefs) })
    (config : later.config = server.backend.config) :
    Invariant toml start (server.moved before position after (some wrote) later) := by
  have effects : (server.moved before position after (some wrote) later).effects = server.effects := by
    rw [Server.moved, quiet, Option.toList_none, List.append_nil]
  have file : later.files.file = server.backend.files.file := by rw [files]
  refine ⟨holds.unfailed, ?_, ?_, ?_, ?_, ?_, ?_⟩
  · exact complete_moved holds (Or.inl file)
  · have nobody : server.running.filterMap Position.sibling = [] := List.filterMap_eq_nil_iff.mpr free
    rw [filterMap_running Position.sibling split] at nobody
    rcases List.append_eq_nil_iff.mp nobody with ⟨first, last⟩
    refine Or.inr ⟨prefs, ?_, ?_, ?_⟩
    · rw [Server.moved, hands]
      exact List.mem_append_right _ (List.mem_singleton_self prefs)
    · have shown := filterMap_split Position.sibling before after (some wrote)
      rw [last, (List.append_eq_nil_iff.mp first).1, Option.bind_some, uses] at shown
      exact shown
    · rw [Server.moved, files]
  · rw [filterMap_moved Position.unset split unset]
    intro other member
    exact file.trans (holds.renamed other member)
  · intro none some
    rw [effects] at some
    rw [Server.moved, file, config]
    refine holds.settled ?_ some
    cases owing : position.owes with
    | false => exact owed_before split owing none
    | true =>
        have left := none wrote (List.mem_append_left _ (List.mem_append_right _ (List.mem_singleton_self wrote)))
        rw [owes, owing] at left
        cases left
  · rw [effects]
    exact config.trans holds.changed
  · rw [effects, filterMap_moved Position.promises split promises]
    exact holds.heard

/-- What a request renames is what it wrote. -/
theorem sibling_of_invariant {prefs : Preferences} (holds : Invariant toml start server)
    (split : server.running = before ++ position :: after) (uses : position.sibling = some prefs) :
    prefs ∈ server.saved ∧ server.backend.files.tmp = some (toml prefs) ∧
      before.filterMap Position.sibling = [] ∧ after.filterMap Position.sibling = [] := by
  have shown := filterMap_running Position.sibling split
  rw [uses, Option.toList_some] at shown
  rcases holds.written with nobody | ⟨other, saved, alone, holdsOther⟩
  · rw [nobody] at shown
    have length := congrArg List.length shown
    simp at length
  · rw [alone] at shown
    have length := congrArg List.length shown
    simp only [List.length_append, List.length_singleton] at length
    have first : before.filterMap Position.sibling = [] := List.length_eq_zero_iff.mp (by omega)
    have last : after.filterMap Position.sibling = [] := List.length_eq_zero_iff.mp (by omega)
    rw [first, last, List.nil_append, List.append_nil] at shown
    have same : other = prefs := List.singleton_inj.mp shown
    rw [same] at saved holdsOther
    exact ⟨saved, holdsOther, first, last⟩

/-- A request that renames the sibling while no other save has yet to set the memory. -/
theorem invariant_rename {prefs : Preferences} (holds : Invariant toml start server)
    (split : server.running = before ++ position :: after) (unset : ∀ other ∈ server.running, other.unset = none)
    (uses : position.sibling = some prefs) (left : next.bind Position.sibling = none)
    (sets : ∀ other, next.bind Position.unset = some other → other = prefs)
    (promises : next.bind Position.promises = position.promises) (quiet : position.effect = none)
    (files : later.files = ⟨some (toml prefs), none⟩) (config : later.config = server.backend.config)
    (settles : (∀ other ∈ (server.moved before position after next later).running, other.owes = false) →
      prefs = server.backend.config) :
    Invariant toml start (server.moved before position after next later) := by
  have effects : (server.moved before position after next later).effects = server.effects := by
    rw [Server.moved, quiet, Option.toList_none, List.append_nil]
  have file : later.files.file = some (toml prefs) := by rw [files]
  rcases sibling_of_invariant holds split uses with ⟨saved, _, first, last⟩
  refine ⟨holds.unfailed, ?_, ?_, ?_, ?_, ?_, ?_⟩
  · exact complete_moved holds (Or.inr ⟨prefs, saved, file⟩)
  · have shown := filterMap_split Position.sibling before after next
    rw [first, last, left] at shown
    exact Or.inl shown
  · intro other member
    have nobody : server.running.filterMap Position.unset = [] := List.filterMap_eq_nil_iff.mpr unset
    rw [filterMap_running Position.unset split] at nobody
    rcases List.append_eq_nil_iff.mp nobody with ⟨first, last⟩
    have shown := filterMap_split Position.unset before after next
    rw [last, (List.append_eq_nil_iff.mp first).1, List.nil_append, List.append_nil] at shown
    have there : other ∈ (next.bind Position.unset).toList := shown ▸ member
    rw [sets other (Option.mem_toList.mp there)]
    exact file
  · intro none _
    rw [Server.moved, file, config, ← settles none]
  · rw [effects]
    exact config.trans holds.changed
  · rw [effects, filterMap_moved Position.promises split promises]
    exact holds.heard

/-- A request that changes the memory. -/
theorem invariant_set {request : PrefsRequest} (holds : Invariant toml start server)
    (split : server.running = before ++ position :: after) (effect : position.effect = some request)
    (promised : position.promises = some request) (done : next.bind Position.promises = none)
    (uses : position.sibling = none) (left : next.bind Position.sibling = none)
    (unset : next.bind Position.unset = none) (hands : position.hands = none)
    (files : later.files = server.backend.files) (config : later.config = request.change server.backend.config)
    (settles : (∀ other ∈ (server.moved before position after next later).running, other.owes = false) →
      server.backend.files.file = some (toml (request.change server.backend.config))) :
    Invariant toml start (server.moved before position after next later) := by
  have effects : (server.moved before position after next later).effects = server.effects ++ [request] := by
    rw [Server.moved, effect, Option.toList_some]
  have saved : (server.moved before position after next later).saved = server.saved := by
    rw [Server.moved, hands, Option.toList_none, List.append_nil]
  have same : (server.moved before position after next later).backend.files = server.backend.files := files
  refine ⟨holds.unfailed, ?_, ?_, ?_, ?_, ?_, ?_⟩
  · rw [same]
    exact complete_moved holds (Or.inl rfl)
  · rw [filterMap_moved Position.sibling split (left.trans uses.symm), saved, same]
    exact holds.written
  · intro other member
    rw [same]
    refine holds.renamed other ?_
    have shown := filterMap_split Position.unset before after next
    rw [unset, Option.toList_none, List.append_nil] at shown
    have there : other ∈ before.filterMap Position.unset ++ after.filterMap Position.unset := shown ▸ member
    rw [filterMap_running Position.unset split]
    rcases List.mem_append.mp there with earlier | late
    · exact List.mem_append_left _ (List.mem_append_left _ earlier)
    · exact List.mem_append_right _ late
  · intro none _
    rw [same, settles none]
    exact congrArg (fun prefs => some (toml prefs)) config.symm
  · rw [effects, List.foldl_append, ← holds.changed]
    exact config
  · have shown := filterMap_split Position.promises before after next
    have there := filterMap_running Position.promises split
    rw [done, Option.toList_none, List.append_nil] at shown
    rw [promised, Option.toList_some] at there
    have heard := holds.heard
    rw [there] at heard
    refine List.Perm.trans ?_ heard
    have moved : (server.moved before position after next later).running.filterMap Position.promises =
        before.filterMap Position.promises ++ after.filterMap Position.promises := shown
    rw [effects, moved, List.append_assoc, List.append_assoc, List.singleton_append, List.singleton_append]
    exact List.Perm.append_left _ List.perm_middle.symm

/-- A step that changes neither the memory nor the files, by a request that goes on owing. -/
theorem invariant_silent {waits : Position} (holds : Invariant toml start server)
    (split : server.running = before ++ position :: after) (owes : waits.owes = true)
    (sibling : (some waits).bind Position.sibling = position.sibling)
    (unset : (some waits).bind Position.unset = position.unset)
    (promises : (some waits).bind Position.promises = position.promises) (quiet : position.effect = none)
    (hands : position.hands = none)
    (files : later.files = server.backend.files) (config : later.config = server.backend.config) :
    Invariant toml start (server.moved before position after (some waits) later) := by
  have effects : (server.moved before position after (some waits) later).effects = server.effects := by
    rw [Server.moved, quiet, Option.toList_none, List.append_nil]
  have saved : (server.moved before position after (some waits) later).saved = server.saved := by
    rw [Server.moved, hands, Option.toList_none, List.append_nil]
  have same : (server.moved before position after (some waits) later).backend.files = server.backend.files := files
  refine ⟨holds.unfailed, ?_, ?_, ?_, ?_, ?_, ?_⟩
  · rw [same]
    exact complete_moved holds (Or.inl rfl)
  · rw [filterMap_moved Position.sibling split sibling, saved, same]
    exact holds.written
  · rw [filterMap_moved Position.unset split unset, same]
    exact holds.renamed
  · intro none _
    have left := none waits (List.mem_append_left _ (List.mem_append_right _ (List.mem_singleton_self waits)))
    rw [owes] at left
    cases left
  · rw [effects]
    exact config.trans holds.changed
  · rw [effects, filterMap_moved Position.promises split promises]
    exact holds.heard

/-- A step that does not fail moves the request on. -/
theorem advance_of_ok {index : Nat} (answered : outcome (position.step toml) server.backend = .ok next) :
    server.advance toml index position =
      server.moved (server.running.take index) position (server.running.drop (index + 1)) next
        (final (position.step toml) server.backend) := by
  rw [Server.advance, answered, errorsOf, List.append_nil]
  rfl

/-- A request is one of those that run. -/
theorem split_running {index : Nat} (found : server.running[index]? = some position) :
    server.running = server.running.take index ++ position :: server.running.drop (index + 1) := by
  rcases List.getElem?_eq_some_iff.mp found with ⟨bound, same⟩
  rw [← same, ← List.drop_eq_getElem_cons bound, List.take_append_drop]

theorem owes_of_rereads {other : Position} (rereads : other.rereads = true) : other.owes = true := by
  cases other <;> first | rfl | cases rereads

/-- The rename of a save that finds what it wrote. -/
theorem step_installing {prefs : Preferences} {backend : Backend} {text : String}
    (written : backend.files.tmp = some text) :
    outcome ((Position.installing prefs).step toml) backend = .ok (some (.storing prefs)) ∧
      final ((Position.installing prefs).step toml) backend = { backend with files := ⟨some text, none⟩ } := by
  rcases backend with ⟨db, config, ⟨file, tmp⟩, commands⟩
  cases written
  exact ⟨rfl, rfl⟩

/-- The rename of a switch of the mode that finds what it wrote. -/
theorem step_replacing {copy : Preferences} {backend : Backend} {text : String}
    (written : backend.files.tmp = some text) :
    outcome ((Position.replacing copy).step toml) backend = .ok none ∧
      final ((Position.replacing copy).step toml) backend = { backend with files := ⟨some text, none⟩ } := by
  rcases backend with ⟨db, config, ⟨file, tmp⟩, commands⟩
  cases written
  exact ⟨rfl, rfl⟩

/-- One step of one request. -/
theorem invariant_advance {index : Nat} (holds : Invariant toml start server)
    (found : server.running[index]? = some position) (fits : position.Fits server) :
    Invariant toml start (server.advance toml index position) := by
  have split := split_running found
  have moved (next : Position) :
      next ∈ server.running.take index ++ (some next).toList ++ server.running.drop (index + 1) :=
    List.mem_append_left _ (List.mem_append_right _ (List.mem_singleton_self next))
  cases position with
  | writing prefs =>
      have answered : outcome (Position.step toml (.writing prefs)) server.backend = .ok (some (.installing prefs)) :=
          rfl
      rw [advance_of_ok answered]
      exact invariant_write holds split fits rfl rfl rfl rfl rfl rfl rfl rfl
  | installing prefs =>
      rcases sibling_of_invariant holds split rfl with ⟨_, written, _⟩
      rcases step_installing written with ⟨answered, ends⟩
      rw [advance_of_ok answered, ends]
      refine invariant_rename holds split fits rfl rfl ?_ rfl rfl rfl rfl fun none => ?_
      · rintro other ⟨⟩
        rfl
      · have left := none _ (moved (.storing prefs))
        cases left
  | storing prefs =>
      have answered : outcome (Position.step toml (.storing prefs)) server.backend = .ok none := rfl
      rw [advance_of_ok answered]
      refine invariant_set holds split rfl rfl rfl rfl rfl rfl rfl rfl rfl fun _ => holds.renamed prefs ?_
      rw [filterMap_running Position.unset split]
      exact List.mem_append_left _ (List.mem_append_right _ (List.mem_singleton_self prefs))
  | switching mode =>
      have answered : outcome (Position.step toml (.switching mode)) server.backend = .ok (some (.notifying mode)) :=
          rfl
      rw [advance_of_ok answered]
      refine invariant_set holds split rfl rfl rfl rfl rfl rfl rfl rfl rfl fun none => ?_
      have left := none _ (moved (.notifying mode))
      cases left
  | notifying mode =>
      have answered : outcome (Position.step toml (.notifying mode)) server.backend = .ok (some .reading) := rfl
      rw [advance_of_ok answered]
      exact invariant_silent holds split rfl rfl rfl rfl rfl rfl rfl rfl
  | reading =>
      have answered : outcome (Position.step toml .reading) server.backend =
          .ok (some (.persisting server.backend.config)) := rfl
      rw [advance_of_ok answered]
      exact invariant_silent holds split rfl rfl rfl rfl rfl rfl rfl rfl
  | persisting copy =>
      have answered : outcome (Position.step toml (.persisting copy)) server.backend = .ok (some (.replacing copy)) :=
          rfl
      rw [advance_of_ok answered]
      exact invariant_write holds split fits rfl rfl rfl rfl rfl rfl rfl rfl
  | replacing copy =>
      rcases sibling_of_invariant holds split rfl with ⟨_, written, _⟩
      rcases step_replacing written with ⟨answered, ends⟩
      rw [advance_of_ok answered, ends]
      refine invariant_rename holds split fits.1 rfl rfl ?_ rfl rfl rfl rfl fun none => ?_
      · rintro other ⟨⟩
      · refine fits.2.resolve_right ?_
        rintro ⟨other, member, rereads⟩
        have owes := none other (others_of_running split member fun same => by
          rw [same] at rereads
          cases rereads)
        rw [owes_of_rereads rereads] at owes
        cases owes

/-- A request arrives. -/
theorem invariant_arrive (holds : Invariant toml start server) (request : PrefsRequest) :
    Invariant toml start (server.exec toml (.arrive request)) := by
  have running : (server.exec toml (.arrive request)).running = server.running ++ (some request.start).toList := rfl
  have views {β : Type} (view : Position → Option β) (none : view request.start = none) :
      (server.exec toml (.arrive request)).running.filterMap view = server.running.filterMap view := by
    rw [running, List.filterMap_append, Option.toList_some, List.filterMap_cons, none]
    exact List.append_nil _
  refine ⟨holds.unfailed, holds.complete, ?_, ?_, ?_, holds.changed, ?_⟩
  · rw [views Position.sibling (by cases request <;> rfl)]
    exact holds.written
  · rw [views Position.unset (by cases request <;> rfl)]
    exact holds.renamed
  · exact fun none => holds.settled fun position member => none position (List.mem_append_left _ member)
  · have promised : (server.exec toml (.arrive request)).running.filterMap Position.promises =
        server.running.filterMap Position.promises ++ [request] := by
      rw [running, List.filterMap_append]
      cases request <;> rfl
    rw [promised, ← List.append_assoc]
    exact holds.heard.append_right _

/-- One turn that does not interfere. -/
theorem invariant_exec (turn : Turn) (fits : turn.Fits server) (holds : Invariant toml start server) :
    Invariant toml start (server.exec toml turn) := by
  cases turn with
  | arrive request => exact invariant_arrive holds request
  | advance index =>
      rw [Server.exec]
      split
      · exact holds
      · next position found => exact invariant_advance holds found (fits position found)

end Steps

theorem invariant_idle (toml : Preferences → String) (start : Backend) : Invariant toml start (Server.idle start) where
  unfailed := rfl
  complete := Or.inl rfl
  written := Or.inl rfl
  renamed := by
    intro prefs member
    cases member
  settled := fun _ none => absurd rfl none
  changed := rfl
  heard := List.Perm.refl []

/-- When no turn interferes with another request, memory and file agree at every moment. -/
theorem agrees_throughout (toml : Preferences → String) (start : Backend) (turns : List Turn)
    (fits : Along (Server.exec toml) (fun server turn => turn.Fits server) turns (Server.idle start)) :
    Throughout (Server.exec toml) (Agrees toml start) turns (Server.idle start) :=
  (@throughout_of_along _ _ (Server.exec toml) _ _ (fun _ turn fits holds => invariant_exec turn fits holds) _ _ fits
    (invariant_idle toml start)).mono fun _ holds => agrees_of_invariant holds

/-- The preferences of a mount in mirror mode. -/
def mirrorPrefs : Preferences :=
  Preferences.default.withMode .mirror

/-- A save, with a switch of the mode that sets the memory in the middle of it. -/
def savedThenSwitched : List Turn :=
  [.arrive (.prefsSave Preferences.default), .arrive (.setSyncMode .mirror), .advance 0, .advance 0, .advance 1,
    .advance 0, .advance 0, .advance 0, .advance 0, .advance 0]

/-- A save and a switch of the mode that do not interfere. -/
theorem savedThenSwitched_agrees :
    Throughout (Server.exec plainToml) (Agrees plainToml ⟨Database.fresh, mirrorPrefs, ⟨none, none⟩, []⟩)
      savedThenSwitched (Server.idle ⟨Database.fresh, mirrorPrefs, ⟨none, none⟩, []⟩) := by
  exact agrees_throughout plainToml _ savedThenSwitched (by decide)

/-- Two saves that both write the sibling before either renames it. -/
def savedTogether : List Turn :=
  [.arrive (.prefsSave Preferences.default), .arrive (.prefsSave mirrorPrefs), .advance 0, .advance 1, .advance 0,
    .advance 1]

/-- The second of two saves fails because the first has renamed what it wrote. -/
theorem savedTogether_fails :
    ¬ Throughout (Server.exec plainToml) (Agrees plainToml ⟨Database.fresh, mirrorPrefs, ⟨none, none⟩, []⟩)
      savedTogether (Server.idle ⟨Database.fresh, mirrorPrefs, ⟨none, none⟩, []⟩) := by
  intro throughout
  have last := throughout.2.2.2.2.2.2.unfailed
  cases last

end Saves
end GDriver
