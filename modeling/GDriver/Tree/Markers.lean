import GDriver.Library.Marker
import GDriver.Library.Run
import GDriver.Tree.Streams
import GDriver.Vfs.WinFsp

namespace GDriver
namespace Tree

open Library Routine Db Vfs

/-!
# Enumerating a directory while it changes

On Windows a directory is read in several calls as well, each of which goes on behind the name of the last
entry received.  A name keeps its place whatever happens to the other files, so that here the changes in
between may be any at all.
-/

/-- A directory that is being enumerated, and the entries of it that were received. -/
structure Enumeration where
  world : World
  received : List (String × Windows.FileInfo)
  ended : Bool

/-- What happens while a directory is enumerated: a call, or anything that others do. -/
inductive EnumerationEvent where
  | readDirectory (answers : CallbackAnswers) (room : Nat)
  | others (change : World → World)

/-- A call whose query is executed. -/
def EnumerationEvent.isAnswered : EnumerationEvent → Bool
  | readDirectory answers _ => answers.runs 0
  | others _ => false

namespace Enumeration

def opened (world : World) : Enumeration :=
  ⟨world, [], false⟩

/-- The name of the last entry received. -/
def marker (enumeration : Enumeration) : Option String :=
  enumeration.received.getLast?.map Prod.fst

/-- What is received after a call: an empty reply ends the directory, an error leaves it where it is. -/
def receive (enumeration : Enumeration) : Except Windows.NtStatus (List (String × Windows.FileInfo)) → Enumeration
  | .error _ => enumeration
  | .ok [] => { enumeration with ended := true }
  | .ok entries => { enumeration with received := enumeration.received ++ entries }

/-- The buffer holds one entry and has room for more. -/
def exec (directory : Nat) (enumeration : Enumeration) : EnumerationEvent → Enumeration
  | .readDirectory answers room =>
      if enumeration.ended then enumeration
      else
        enumeration.receive
          (outcome (Windows.readDirectory answers directory enumeration.marker (room + 1)) enumeration.world)
  | .others change => { enumeration with world := change enumeration.world }

def after (directory : Nat) (events : List EnumerationEvent) (world : World) : Enumeration :=
  run (exec directory) events (opened world)

end Enumeration

def namedInfo (entry : String × Windows.FileInfo) : NamedInode :=
  toLex (entry.1, entry.2.indexNumber)

def Enumeration.returned (enumeration : Enumeration) : List NamedInode :=
  enumeration.received.map namedInfo

/-- The entry is in the directory. -/
def IsThere (directory : Nat) (entry : NamedInode) (enumeration : Enumeration) : Prop :=
  entry ∈ children enumeration.world.db directory

/-- The name of an entry. -/
def nameOf (entry : NamedInode) : String :=
  (ofLex entry).1

/-- All names in the directory are among these. -/
def NamesAmong (directory : Nat) (names : List String) (enumeration : Enumeration) : Prop :=
  ∀ entry ∈ children enumeration.world.db directory, nameOf entry ∈ names

/-- A call that is answered does not go on from another entry with the name of this one. -/
def NotFromNamesake (entry : NamedInode) (enumeration : Enumeration) : EnumerationEvent → Prop
  | .readDirectory answers _ => answers.runs 0 = true → enumeration.ended = false →
      ¬ StoppedBefore nameOf enumeration.returned entry
  | .others _ => True

section Calls

variable {directory : Nat} {enumeration later : Enumeration} {answers : CallbackAnswers} {room : Nat}

theorem nameOf_monotone : Monotone nameOf := by
  intro one two less
  rcases Prod.Lex.le_iff.mp less with smaller | ⟨same, _⟩
  · exact smaller.le
  · exact same.le

/-- The entries that a call may return. -/
def pending (directory : Nat) (enumeration : Enumeration) : List NamedInode :=
  behind nameOf (children enumeration.world.db directory) enumeration.returned

theorem marker_eq (enumeration : Enumeration) :
    enumeration.marker = enumeration.returned.getLast?.map nameOf := by
  rw [Enumeration.marker, Enumeration.returned, List.getLast?_map, Option.map_map]
  rfl

theorem isBehind_marker (row : Row DriveFile) :
    Windows.isBehind enumeration.marker row.data.name =
      !upTo nameOf enumeration.returned (toLex (row.data.name, row.rowid)) := by
  rw [marker_eq, upTo]
  cases enumeration.returned.getLast? with
  | none => rfl
  | some last => rfl

/-- The rows behind the marker, as far as there is room for them. -/
def found (directory room : Nat) (enumeration : Enumeration) : List (Row DriveFile) :=
  ((Database.childrenByInode enumeration.world.db directory).filter fun child =>
    Windows.isBehind enumeration.marker child.data.name).take (room + 1)

theorem map_found : (found directory room enumeration).map (fun row => toLex (row.data.name, row.rowid)) =
    (pending directory enumeration).take (room + 1) := by
  rw [found, pending, behind, children, List.map_take, List.filter_map]
  refine congrArg (fun rows : List (Row DriveFile) => (rows.map _).take (room + 1)) ?_
  exact List.filter_congr fun row _ => isBehind_marker row

theorem outcome_readDirectory :
    outcome (Windows.readDirectory answers directory enumeration.marker (room + 1)) enumeration.world =
      if answers.runs 0 then
        .ok ((found directory room enumeration).map fun child =>
          (child.data.name, Windows.fileToInfo answers.now child))
      else .error .internalError := by
  rw [Windows.readDirectory, listChildrenByInode, Windows.orInternalError]
  cases answers.runs 0 with
  | false => rfl
  | true => rfl

theorem returned_receive (entry : String × Windows.FileInfo) (others : List (String × Windows.FileInfo)) :
    (enumeration.receive (.ok (entry :: others))).returned =
      enumeration.returned ++ (entry :: others).map namedInfo :=
  List.map_append

/-- What a call does: nothing, it finds the end, or it returns the next entries. -/
inductive Enumerates (directory : Nat) (answers : CallbackAnswers) (room : Nat) (enumeration : Enumeration) :
    Enumeration → Prop where
  | nothing (unread : answers.runs 0 = true → enumeration.ended = true) :
      Enumerates directory answers room enumeration enumeration
  | ends (answered : answers.runs 0 = true) (unended : enumeration.ended = false)
      (atEnd : pending directory enumeration = []) :
      Enumerates directory answers room enumeration { enumeration with ended := true }
  | returns (answered : answers.runs 0 = true) (unended : enumeration.ended = false)
      (some : (pending directory enumeration).take (room + 1) ≠ []) (later : Enumeration)
      (same : later.world = enumeration.world) (open_ : later.ended = false)
      (appends : later.returned = enumeration.returned ++ (pending directory enumeration).take (room + 1)) :
      Enumerates directory answers room enumeration later

theorem enumerates_exec (directory : Nat) (answers : CallbackAnswers) (room : Nat) (enumeration : Enumeration) :
    Enumerates directory answers room enumeration (enumeration.exec directory (.readDirectory answers room)) := by
  rw [Enumeration.exec]
  cases unended : enumeration.ended with
  | true => exact .nothing fun _ => unended
  | false =>
      rw [if_neg Bool.false_ne_true, outcome_readDirectory]
      cases answered : answers.runs 0 with
      | false => exact .nothing fun impossible => by rw [answered] at impossible; cases impossible
      | true =>
          rw [if_pos rfl]
          have window := @map_found directory enumeration room
          cases rows : found directory room enumeration with
          | nil =>
              rw [rows] at window
              refine .ends answered unended ?_
              exact (List.take_eq_nil_iff.mp window.symm).resolve_left (Nat.succ_ne_zero room)
          | cons first rest =>
              rw [rows] at window
              refine .returns answered unended ?_ _ rfl unended ?_
              · rw [← window]
                exact List.cons_ne_nil _ _
              · rw [← window, List.map_cons, returned_receive, List.map_cons, List.map_map]
                rfl

end Calls

section Once

variable {directory : Nat} {enumeration later : Enumeration} {entry : NamedInode} {answers : CallbackAnswers}
  {room : Nat}

theorem pending_eq_drop : pending directory enumeration = (children enumeration.world.db directory).drop
    ((children enumeration.world.db directory).countP (upTo nameOf enumeration.returned)) :=
  behind_eq_drop nameOf_monotone (children_sorted _ _)

theorem not_upTo_of_pending (member : entry ∈ pending directory enumeration) :
    upTo nameOf enumeration.returned entry = false :=
  (Bool.not_eq_true' _).mp (List.mem_filter.mp member).2

/-- A call returns what is in the directory once exactly when it does not go on from a namesake. -/
theorem returnedOnce_enumerates_iff (shown : IsThere directory entry enumeration)
    (once : ReturnedOnce enumeration.returned enumeration.ended entry)
    (enumerates : Enumerates directory answers room enumeration later) :
    ReturnedOnce later.returned later.ended entry ↔
      NotFromNamesake entry enumeration (.readDirectory answers room) := by
  have sorted := children_sorted enumeration.world.db directory
  have place := @placeKept_iff _ _ _ nameOf _ nameOf_monotone _ enumeration.returned _ sorted shown
  cases enumerates with
  | nothing unread =>
      refine iff_of_true once fun answered unended => ?_
      rw [unread answered] at unended
      cases unended
  | ends answered unended atEnd =>
      rw [unended] at once
      rw [pending_eq_drop] at atEnd
      refine (returnedOnce_ended_iff shown once atEnd).trans (place.trans ?_)
      exact ⟨fun kept _ _ => kept, fun kept => kept answered unended⟩
  | returns answered unended some later same open_ appends =>
      rw [unended] at once
      rw [pending_eq_drop] at some appends
      rw [appends, open_]
      refine (returnedOnce_append_iff sorted shown once some).trans (place.trans ?_)
      exact ⟨fun kept _ _ => kept, fun kept => kept answered unended⟩

theorem returnedOnce_enumeration_iff (shown : IsThere directory entry enumeration)
    (once : ReturnedOnce enumeration.returned enumeration.ended entry) (event : EnumerationEvent) :
    ReturnedOnce (enumeration.exec directory event).returned (enumeration.exec directory event).ended entry ↔
      NotFromNamesake entry enumeration event := by
  cases event with
  | readDirectory answers room =>
      exact returnedOnce_enumerates_iff shown once (enumerates_exec directory answers room enumeration)
  | others change => exact iff_of_true once trivial

end Once

/-! ## The whole enumeration -/

section Order

variable {directory : Nat} {enumeration later : Enumeration} {answers : CallbackAnswers} {room : Nat}

theorem ascends_children (db : Database) (directory : Nat) : Ascends nameOf (children db directory) :=
  (children_sorted db directory).imp fun less => nameOf_monotone less.le

theorem ascends_enumerates (ascends : Ascends nameOf enumeration.returned)
    (enumerates : Enumerates directory answers room enumeration later) : Ascends nameOf later.returned := by
  cases enumerates with
  | nothing unread => exact ascends
  | ends answered unended atEnd => exact ascends
  | returns answered unended some later same open_ appends =>
      rw [appends]
      refine ascends_append ascends ?_ fun entry member => not_upTo_of_pending (List.mem_of_mem_take member)
      exact ((ascends_children _ _).sublist List.filter_sublist).sublist (List.take_sublist _ _)

theorem ascends_exec (ascends : Ascends nameOf enumeration.returned) (event : EnumerationEvent) :
    Ascends nameOf (enumeration.exec directory event).returned := by
  cases event with
  | readDirectory answers room => exact ascends_enumerates ascends (enumerates_exec directory answers room enumeration)
  | others change => exact ascends

/-- The names that were returned. -/
def Enumeration.names (enumeration : Enumeration) : Finset String :=
  (enumeration.returned.map nameOf).toFinset

/-- A call that is answered and does not find the end returns a new name. -/
theorem card_names_exec (ascends : Ascends nameOf enumeration.returned) (event : EnumerationEvent)
    (unended : (enumeration.exec directory event).ended = false) :
    enumeration.names.card + [event].countP EnumerationEvent.isAnswered ≤
      (enumeration.exec directory event).names.card := by
  cases event with
  | others change => exact Nat.le_refl _
  | readDirectory answers room =>
      have enumerates := enumerates_exec directory answers room enumeration
      generalize enumeration.exec directory (.readDirectory answers room) = later at enumerates unended
      cases enumerates with
      | nothing unread =>
          have unanswered : ¬ EnumerationEvent.isAnswered (.readDirectory answers room) = true := fun answered =>
            absurd (unread answered) (Bool.eq_false_iff.mp unended)
          rw [List.countP_singleton, if_neg unanswered]
          exact Nat.le_refl _
      | ends answered _ _ => cases unended
      | returns answered _ some later same open_ appends =>
          have one : [EnumerationEvent.readDirectory answers room].countP EnumerationEvent.isAnswered ≤ 1 :=
            List.countP_le_length
          rw [Enumeration.names, Enumeration.names, appends]
          refine (Nat.add_le_add_left one _).trans (card_keys_append ascends some fun entry member => ?_)
          exact not_upTo_of_pending (List.mem_of_mem_take member)

theorem ended_enumeration (ended : enumeration.ended = true) (event : EnumerationEvent) :
    (enumeration.exec directory event).ended = true := by
  cases event with
  | readDirectory answers room =>
      rw [Enumeration.exec, if_pos ended]
      exact ended
  | others change => exact ended

/-- As long as the end is not found every answered call has returned a new name. -/
theorem answered_le_names (ascends : Ascends nameOf enumeration.returned) (events : List EnumerationEvent)
    (unended : (run (Enumeration.exec directory) events enumeration).ended = false) :
    enumeration.names.card + events.countP EnumerationEvent.isAnswered ≤
      (run (Enumeration.exec directory) events enumeration).names.card := by
  induction events generalizing enumeration with
  | nil => exact Nat.le_refl _
  | cons event rest inductionHypothesis =>
      have stillOpen : (enumeration.exec directory event).ended = false := by
        by_contra ended
        rw [run_cons, @run_preserves _ _ _ (fun later : Enumeration => later.ended = true)
          (fun _ event ended => ended_enumeration ended event) _ ((Bool.not_eq_false _).mp ended) rest] at unended
        cases unended
      have first := card_names_exec ascends event stillOpen
      have later := inductionHypothesis (ascends_exec ascends event) unended
      rw [run_cons, ← List.singleton_append, List.countP_append]
      omega

/-- What is returned was there. -/
theorem names_among_exec {names : List String} (among : NamesAmong directory names enumeration)
    (before : enumeration.names ⊆ names.toFinset) (event : EnumerationEvent) :
    (enumeration.exec directory event).names ⊆ names.toFinset := by
  cases event with
  | others change => exact before
  | readDirectory answers room =>
      have enumerates := enumerates_exec directory answers room enumeration
      generalize enumeration.exec directory (.readDirectory answers room) = later at enumerates
      cases enumerates with
      | nothing unread => exact before
      | ends answered unended atEnd => exact before
      | returns answered unended some later same open_ appends =>
          intro name member
          rw [Enumeration.names, appends, List.mem_toFinset, List.map_append, List.mem_append] at member
          rcases member with old | new
          · exact before (List.mem_toFinset.mpr old)
          · rcases List.mem_map.mp new with ⟨entry, inWindow, isName⟩
            rw [List.mem_toFinset, ← isName]
            exact among entry (List.mem_of_mem_filter (List.mem_of_mem_take inWindow))

end Order

/-- No other entry of the directory has the name. -/
def IsAlone (directory : Nat) (entry : NamedInode) (enumeration : Enumeration) : Prop :=
  ∀ other ∈ children enumeration.world.db directory, nameOf other = nameOf entry → other = entry

/-- Under the name of the entry nothing else was returned. -/
def ReturnedAlone (entry : NamedInode) (enumeration : Enumeration) : Prop :=
  ∀ other ∈ enumeration.returned, nameOf other = nameOf entry → other = entry

section Alone

variable {directory : Nat} {enumeration : Enumeration} {entry : NamedInode}

theorem returnedAlone_exec (alone : IsAlone directory entry enumeration) (before : ReturnedAlone entry enumeration)
    (event : EnumerationEvent) : ReturnedAlone entry (enumeration.exec directory event) := by
  cases event with
  | others change => exact before
  | readDirectory answers room =>
      have enumerates := enumerates_exec directory answers room enumeration
      generalize enumeration.exec directory (.readDirectory answers room) = later at enumerates
      cases enumerates with
      | nothing unread => exact before
      | ends answered unended atEnd => exact before
      | returns answered unended some later same open_ appends =>
          intro other member
          rw [appends, List.mem_append] at member
          rcases member with old | new
          · exact before other old
          · exact alone other (List.mem_of_mem_filter (List.mem_of_mem_take new))

theorem notFromNamesake_of_alone (alone : ReturnedAlone entry enumeration) (event : EnumerationEvent) :
    NotFromNamesake entry enumeration event := by
  cases event with
  | others change => trivial
  | readDirectory answers room =>
      rintro _ _ ⟨last, isLast, same, less⟩
      exact less.ne (alone last (List.mem_of_getLast? isLast) same)

end Alone

/-- What a program sees of a directory that it enumerates while anything may happen to the files. -/
structure EnumerationRuns (directory : Nat) (events : List EnumerationEvent) (world : World) : Prop where
  /-- The names come in their order. -/
  ascends : Ascends nameOf (Enumeration.after directory events world).returned
  /-- What is in the directory throughout has been returned once when the listing is past it, and not before,
  exactly when no call goes on from a namesake of it. -/
  returned : ∀ entry, Throughout (Enumeration.exec directory) (IsThere directory entry) events (.opened world) →
    (Throughout (Enumeration.exec directory) (fun enumeration =>
        ReturnedOnce enumeration.returned enumeration.ended entry) events (.opened world) ↔
      Along (Enumeration.exec directory) (NotFromNamesake entry) events (.opened world))
  /-- That is so for a file that is there throughout, and whose name no other file there has. -/
  alone : ∀ entry, Throughout (Enumeration.exec directory) (fun enumeration =>
      IsThere directory entry enumeration ∧ IsAlone directory entry enumeration) events (.opened world) →
    Throughout (Enumeration.exec directory) (fun enumeration =>
      ReturnedOnce enumeration.returned enumeration.ended entry) events (.opened world)
  /-- More answered calls than there are names come to the end. -/
  ends : ∀ names, Throughout (Enumeration.exec directory) (NamesAmong directory names) events (.opened world) →
    names.length < events.countP EnumerationEvent.isAnswered →
      (Enumeration.after directory events world).ended = true

end Tree
end GDriver
