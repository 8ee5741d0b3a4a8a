import GDriver.Library.Resuming
import GDriver.Tree.Calls
import Mathlib.Data.String.Basic

namespace GDriver
namespace Tree

open Library Routine Db Vfs

/-!
# Reading a directory while it changes

A directory is read in several calls.  Each goes on at the offset of the last entry received, and asks
for all children anew.  The offset is a position among them, which files that are removed or created in
the meantime move.
-/

/-- A directory that is being read, and the entries of it that were received. -/
structure DirStream where
  world : World
  received : List DirEntry
  ended : Bool

/-- What happens while a directory is read. -/
inductive StreamEvent where
  | readdir (answers : CallbackAnswers) (room : Nat)
  | unlink (answers : CallbackAnswers) (parent : Nat) (name : Option String)
  | rmdir (answers : CallbackAnswers) (parent : Nat) (name : Option String)
  | create (cacheDir : String) (answers : CallbackAnswers) (parent : Nat) (name : Option String)
  | mkdir (answers : CallbackAnswers) (parent : Nat) (name : Option String)

/-- A reply with entries in it. -/
def StreamEvent.isAnswered : StreamEvent → Bool
  | readdir answers _ => answers.runs 0
  | _ => false

def StreamEvent.isCreation : StreamEvent → Bool
  | create _ _ _ _ => true
  | mkdir _ _ _ => true
  | _ => false

namespace DirStream

/-- A directory that nothing is read of yet. -/
def opened (world : World) : DirStream :=
  ⟨world, [], false⟩

/-- The offset of the last entry received. -/
def offset (stream : DirStream) : Nat :=
  (stream.received.getLast?.map DirEntry.nextOffset).getD 0

/-- What is received after a call: an empty reply ends the directory, an error leaves it where it is. -/
def receive (stream : DirStream) : Except Errno (List DirEntry) → DirStream
  | .error _ => stream
  | .ok [] => { stream with ended := true }
  | .ok entries => { stream with received := stream.received ++ entries }

/-- The reply holds one entry and has room for more. -/
def exec (directory : Nat) (stream : DirStream) : StreamEvent → DirStream
  | .readdir answers room =>
      if stream.ended then stream
      else stream.receive (outcome (Vfs.readdir answers directory stream.offset (room + 1)) stream.world)
  | .unlink answers parent name => { stream with world := final (Vfs.unlink answers parent name) stream.world }
  | .rmdir answers parent name => { stream with world := final (Vfs.rmdir answers parent name) stream.world }
  | .create cacheDir answers parent name =>
      { stream with world := final (Vfs.create answers cacheDir parent name) stream.world }
  | .mkdir answers parent name => { stream with world := final (Vfs.mkdir answers parent name) stream.world }

end DirStream

/-- An entry: a name and the inode it is the name of. -/
abbrev NamedInode :=
  String ×ₗ Nat

def namedInode (entry : DirEntry) : NamedInode :=
  toLex (entry.name, entry.ino)

/-- The children of a directory, by name, and by inode where several have one name. -/
def children (db : Database) (directory : Nat) : List NamedInode :=
  (Database.childrenByInode db directory).map fun row => toLex (row.data.name, row.rowid)

/-- The children that were received, after the directory itself and its parent. -/
def DirStream.returned (stream : DirStream) : List NamedInode :=
  (stream.received.drop 2).map namedInode

/-- The entry is in the directory. -/
def Shows (directory : Nat) (entry : NamedInode) (stream : DirStream) : Prop :=
  entry ∈ children stream.world.db directory

/-- A call that is answered goes on where the entry is on the side of the offset on which it was. -/
def ResumesInPlace (directory : Nat) (entry : NamedInode) (stream : DirStream) : StreamEvent → Prop
  | .readdir answers _ => answers.runs 0 = true → stream.ended = false →
      PlaceKept (children stream.world.db directory) stream.returned (stream.offset - 2) entry
  | _ => True

section Reading

variable {db : Database} {directory : Nat}

theorem children_sorted (db : Database) (directory : Nat) : (children db directory).Pairwise (· < ·) := by
  rw [children, List.pairwise_map]
  exact pairwise_mergeSort_of_ascending (fun row => row.data.name) Row.rowid (db.driveFiles.ascending.filter _)

theorem length_children_le : (children db directory).length ≤ db.driveFiles.rows.length := by
  rw [children, List.length_map, Database.childrenByInode, List.length_mergeSort]
  exact List.length_filter_le _ _

/-- The directory itself and its parent. -/
def dots (directory : Nat) : List DirEntry :=
  [⟨directory, 1, true, "."⟩, ⟨rootInode, 2, true, ".."⟩]

/-- All entries of a directory. -/
def listing (db : Database) (directory : Nat) : List DirEntry :=
  dirEntries directory (Database.childrenByInode db directory)

theorem length_listing : (listing db directory).length = (children db directory).length + 2 := by
  rw [listing, dirEntries, List.length_cons, List.length_cons, List.length_mapIdx, children, List.length_map]

theorem named_drop_listing : ((listing db directory).drop 2).map namedInode = children db directory := by
  rw [children]
  refine List.ext_getElem? fun index => ?_
  rw [List.getElem?_map, List.getElem?_map, listing, dirEntries, List.drop_succ_cons, List.drop_succ_cons,
    List.drop_zero, List.getElem?_mapIdx, Option.map_map]
  rfl

/-- An entry that says where the one after it is, and is the directory or its parent where these are. -/
structure StandsAt (directory index : Nat) (entry : DirEntry) : Prop where
  next : entry.nextOffset = index + 1
  dot : index < 2 → (dots directory)[index]? = some entry

theorem standsAt_of_listing {index : Nat} {entry : DirEntry} (there : (listing db directory)[index]? = some entry) :
    StandsAt directory index entry := by
  constructor
  · match index with
    | 0 =>
        cases there
        rfl
    | 1 =>
        cases there
        rfl
    | index + 2 =>
        rw [listing, dirEntries, List.getElem?_cons_succ, List.getElem?_cons_succ, List.getElem?_mapIdx] at there
        rcases Option.map_eq_some_iff.mp there with ⟨child, _, same⟩
        rw [← same]
  · intro early
    have dotsFirst : (listing db directory).take 2 = dots directory := rfl
    rw [← dotsFirst, List.getElem?_take_of_lt early]
    exact there

/-- The entries of a reply to a call at an offset. -/
def reply (db : Database) (directory offset room : Nat) : List DirEntry :=
  ((listing db directory).drop offset).take (room + 1)

theorem reply_eq_nil_iff {offset room : Nat} :
    reply db directory offset room = [] ↔ (listing db directory).length ≤ offset := by
  rw [reply, List.take_eq_nil_iff, List.drop_eq_nil_iff]
  exact or_iff_right (Nat.succ_ne_zero room)

theorem length_reply_le {offset room : Nat} (inside : offset ≤ (listing db directory).length) :
    offset + (reply db directory offset room).length ≤ (listing db directory).length := by
  rw [reply, List.length_take, List.length_drop]
  omega

/-- The children in a reply are a window of all children. -/
theorem named_drop_reply (offset room : Nat) : ((reply db directory offset room).drop (2 - offset)).map namedInode =
    ((children db directory).drop (offset - 2)).take (room + 1 - (2 - offset)) := by
  rw [reply, List.drop_take, List.drop_drop, ← named_drop_listing, ← List.map_drop, ← List.map_take, List.drop_drop]
  have same : offset + (2 - offset) = 2 + (offset - 2) := by omega
  rw [same]

end Reading

section Calls

variable {directory : Nat} {stream : DirStream} {answers : CallbackAnswers} {room : Nat}

/-- What a call of readdir does: nothing, it finds the end, or it receives a reply. -/
inductive Reads (directory : Nat) (answers : CallbackAnswers) (room : Nat) (stream : DirStream) :
    DirStream → Prop where
  | nothing (unread : answers.runs 0 = true → stream.ended = true) : Reads directory answers room stream stream
  | ends (answered : answers.runs 0 = true) (unended : stream.ended = false)
      (atEnd : (listing stream.world.db directory).length ≤ stream.offset) :
      Reads directory answers room stream { stream with ended := true }
  | replies (answered : answers.runs 0 = true) (unended : stream.ended = false)
      (some : reply stream.world.db directory stream.offset room ≠ []) :
      Reads directory answers room stream
        { stream with received := stream.received ++ reply stream.world.db directory stream.offset room }

theorem outcome_readdir (ino offset : Nat) (world : World) :
    outcome (Vfs.readdir answers ino offset (room + 1)) world =
      if answers.runs 0 then .ok (reply world.db ino offset room) else .error .eio := by
  rw [Vfs.readdir, listChildrenByInode, outcome_bind_orEio_select]
  rfl

theorem reads_exec (directory : Nat) (answers : CallbackAnswers) (room : Nat) (stream : DirStream) :
    Reads directory answers room stream (stream.exec directory (.readdir answers room)) := by
  rw [DirStream.exec]
  cases unended : stream.ended with
  | true => exact .nothing fun _ => unended
  | false =>
      rw [if_neg Bool.false_ne_true, outcome_readdir]
      cases answered : answers.runs 0 with
      | false => exact .nothing fun impossible => by rw [answered] at impossible; cases impossible
      | true =>
          rw [if_pos rfl]
          cases entries : reply stream.world.db directory stream.offset room with
          | nil => exact .ends answered unended (reply_eq_nil_iff.mp entries)
          | cons first rest =>
              have some : reply stream.world.db directory stream.offset room ≠ [] := by
                rw [entries]
                exact List.cons_ne_nil first rest
              have replies := @Reads.replies directory answers room stream answered unended some
              rw [entries] at replies
              exact replies

end Calls

/-! ## What was received -/

/-- The entries were received one after the other, from the first on. -/
structure InSequence (directory : Nat) (stream : DirStream) : Prop where
  inPlace : ∀ index entry, stream.received[index]? = some entry → StandsAt directory index entry
  complete : stream.ended = true → 2 ≤ stream.received.length

section Sequence

variable {directory : Nat} {stream : DirStream}

theorem inSequence_opened (world : World) : InSequence directory (DirStream.opened world) where
  inPlace _ _ impossible := by cases impossible
  complete impossible := by cases impossible

theorem InSequence.offset (sequence : InSequence directory stream) : stream.offset = stream.received.length := by
  rw [DirStream.offset]
  cases last : stream.received.getLast? with
  | none =>
      rw [List.getLast?_eq_none_iff.mp last]
      rfl
  | some entry =>
      have length : 0 < stream.received.length := List.length_pos_of_mem (List.mem_of_getLast? last)
      rw [List.getLast?_eq_getElem?] at last
      rw [Option.map_some, Option.getD_some, (sequence.inPlace _ entry last).next]
      exact Nat.sub_add_cancel length

/-- The directory itself and its parent come first. -/
theorem InSequence.dots (sequence : InSequence directory stream) (both : 2 ≤ stream.received.length) :
    stream.received.take 2 = dots directory := by
  refine List.ext_getElem? fun index => ?_
  rw [List.getElem?_take]
  split
  · next early =>
      have there := List.getElem?_eq_getElem (Nat.lt_of_lt_of_le early both)
      rw [there]
      exact ((sequence.inPlace index _ there).dot early).symm
  · next late => exact (List.getElem?_eq_none (Nat.le_of_not_lt late)).symm

theorem InSequence.reads {answers : CallbackAnswers} {room : Nat} {later : DirStream}
    (sequence : InSequence directory stream) (reads : Reads directory answers room stream later) :
      InSequence directory later := by
  cases reads with
  | nothing => exact sequence
  | ends answered unended atEnd =>
      refine ⟨sequence.inPlace, fun _ => ?_⟩
      rw [length_listing, sequence.offset] at atEnd
      exact Nat.le_trans (Nat.le_add_left 2 _) atEnd
  | replies answered unended some =>
      refine ⟨fun index entry there => ?_, fun impossible => absurd impossible (Bool.eq_false_iff.mp unended)⟩
      rw [List.getElem?_append] at there
      split at there
      · exact sequence.inPlace index entry there
      · next behind =>
          rw [reply, List.getElem?_take] at there
          split at there
          · rw [List.getElem?_drop, sequence.offset, Nat.add_sub_cancel' (Nat.le_of_not_lt behind)] at there
            exact standsAt_of_listing there
          · cases there

/-- The children in a reply are the next ones that are returned. -/
theorem InSequence.returned_append (sequence : InSequence directory stream) (db : Database) (room : Nat) :
    ((stream.received ++ reply db directory stream.offset room).drop 2).map namedInode =
      stream.returned ++ ((children db directory).drop (stream.offset - 2)).take (room + 1 - (2 - stream.offset)) := by
  rw [List.drop_append, List.map_append, ← named_drop_reply, sequence.offset]
  rfl

end Sequence

/-! ## Returned once -/

section Once

variable {directory : Nat} {stream later : DirStream} {entry : NamedInode} {answers : CallbackAnswers} {room : Nat}

/-- A call returns what is in the directory once exactly when it goes on in place. -/
theorem returnedOnce_reads_iff (sequence : InSequence directory stream) (shown : Shows directory entry stream)
    (once : ReturnedOnce stream.returned stream.ended entry) (reads : Reads directory answers room stream later) :
    ReturnedOnce later.returned later.ended entry ↔
      ResumesInPlace directory entry stream (.readdir answers room) := by
  cases reads with
  | nothing unread =>
      refine iff_of_true once fun answered unended => ?_
      rw [unread answered] at unended
      cases unended
  | ends answered unended atEnd =>
      rw [unended] at once
      have beyond : (children stream.world.db directory).drop (stream.offset - 2) = [] := by
        rw [List.drop_eq_nil_iff]
        rw [length_listing] at atEnd
        exact Nat.le_sub_of_add_le atEnd
      refine (returnedOnce_ended_iff shown once beyond).trans ?_
      exact ⟨fun kept _ _ => kept, fun kept => kept answered unended⟩
  | replies answered unended some =>
      rw [unended] at once
      have resumes : ResumesInPlace directory entry stream (.readdir answers room) ↔
          PlaceKept (children stream.world.db directory) stream.returned (stream.offset - 2) entry :=
        ⟨fun kept => kept answered unended, fun kept _ _ => kept⟩
      rw [resumes, DirStream.returned, sequence.returned_append, unended]
      by_cases window :
          ((children stream.world.db directory).drop (stream.offset - 2)).take (room + 1 - (2 - stream.offset)) = []
      · rw [window, List.append_nil]
        -- Only the directory and its parent fit into the reply.
        have before : stream.offset < 2 := by
          rcases List.take_eq_nil_iff.mp window with full | beyond
          · omega
          · have length := List.length_pos_of_mem shown
            rw [List.drop_eq_nil_iff] at beyond
            rw [Ne, reply_eq_nil_iff, length_listing] at some
            omega
        have nothing : stream.returned = [] := by
          rw [sequence.offset] at before
          rw [DirStream.returned, List.drop_eq_nil_iff.mpr (Nat.le_of_lt before)]
          rfl
        rw [Nat.sub_eq_zero_of_le (Nat.le_of_lt before)]
        rw [nothing] at once ⊢
        exact iff_of_true once placeKept_nil
      · exact returnedOnce_append_iff (children_sorted _ _) shown once window

end Once

/-! ## The whole sequence of calls -/

theorem length_trashedAt (db : Database) (runs : Bool) (inode : Nat) :
    (if runs then (trashedAt db inode).driveFiles else db.driveFiles).rows.length = db.driveFiles.rows.length := by
  split
  · exact List.length_map _
  · rfl

theorem length_of_atMostAdds {parent : Nat} {world later : World} (adds : AtMostAdds parent world later) :
    world.db.driveFiles.rows.length ≤ later.db.driveFiles.rows.length ∧
      later.db.driveFiles.rows.length ≤ world.db.driveFiles.rows.length + 1 := by
  rcases adds with same | ⟨file, new, same⟩
  · rw [same]
    exact ⟨Nat.le_refl _, Nat.le_succ _⟩
  · rw [same, rows_putFile_of_absent new.absent, List.length_append]
    exact ⟨Nat.le_add_right _ _, Nat.le_refl _⟩

section Runs

variable {directory : Nat} {stream : DirStream}

theorem inSequence_exec (sequence : InSequence directory stream) (event : StreamEvent) :
    InSequence directory (stream.exec directory event) := by
  cases event with
  | readdir answers room => exact sequence.reads (reads_exec directory answers room stream)
  | unlink answers parent name => exact ⟨sequence.inPlace, sequence.complete⟩
  | rmdir answers parent name => exact ⟨sequence.inPlace, sequence.complete⟩
  | create cacheDir answers parent name => exact ⟨sequence.inPlace, sequence.complete⟩
  | mkdir answers parent name => exact ⟨sequence.inPlace, sequence.complete⟩

theorem returnedOnce_exec_iff {entry : NamedInode} (sequence : InSequence directory stream)
    (shown : Shows directory entry stream) (once : ReturnedOnce stream.returned stream.ended entry)
    (event : StreamEvent) :
    ReturnedOnce (stream.exec directory event).returned (stream.exec directory event).ended entry ↔
      ResumesInPlace directory entry stream event := by
  cases event with
  | readdir answers room => exact returnedOnce_reads_iff sequence shown once (reads_exec directory answers room stream)
  | unlink answers parent name => exact iff_of_true once trivial
  | rmdir answers parent name => exact iff_of_true once trivial
  | create cacheDir answers parent name => exact iff_of_true once trivial
  | mkdir answers parent name => exact iff_of_true once trivial

/-- The number of rows, trashed ones too. -/
def DirStream.size (stream : DirStream) : Nat :=
  stream.world.db.driveFiles.rows.length

/-- Only a creation adds a row, and none is lost. -/
theorem size_exec (directory : Nat) (stream : DirStream) (event : StreamEvent) :
    stream.size ≤ (stream.exec directory event).size ∧
      (stream.exec directory event).size ≤ stream.size + [event].countP StreamEvent.isCreation := by
  cases event with
  | readdir answers room =>
      have reads := reads_exec directory answers room stream
      cases same : stream.exec directory (.readdir answers room)
      rw [same] at reads
      cases reads <;> exact ⟨Nat.le_refl _, Nat.le_refl _⟩
  | unlink answers parent name =>
      have same : (stream.exec directory (.unlink answers parent name)).size = stream.size := by
        cases found : unlinkedRow answers parent name stream.world.db with
        | none => exact congrArg (fun world : World => world.db.driveFiles.rows.length) (final_unlink_of_none found)
        | some row =>
            refine (congrArg (fun files => files.rows.length) (driveFiles_unlink found)).trans ?_
            exact length_trashedAt _ _ _
      exact ⟨same.ge, same.le⟩
  | rmdir answers parent name =>
      have same : (stream.exec directory (.rmdir answers parent name)).size = stream.size := by
        cases found : removedFolder answers parent name stream.world.db with
        | none => exact congrArg (fun world : World => world.db.driveFiles.rows.length) (final_rmdir_of_none found)
        | some row =>
            refine (congrArg (fun files => files.rows.length) (driveFiles_rmdir found)).trans ?_
            exact length_trashedAt _ _ _
      exact ⟨same.ge, same.le⟩
  | create cacheDir answers parent name => exact length_of_atMostAdds (atMostAdds_create parent name)
  | mkdir answers parent name => exact length_of_atMostAdds (atMostAdds_mkdir parent name)

theorem ended_exec (ended : stream.ended = true) (event : StreamEvent) :
    (stream.exec directory event).ended = true := by
  cases event with
  | readdir answers room =>
      rw [DirStream.exec, if_pos ended]
      exact ended
  | unlink answers parent name => exact ended
  | rmdir answers parent name => exact ended
  | create cacheDir answers parent name => exact ended
  | mkdir answers parent name => exact ended

theorem ended_run (ended : stream.ended = true) (events : List StreamEvent) :
    (run (DirStream.exec directory) events stream).ended = true :=
  @run_preserves _ _ _ (fun stream : DirStream => stream.ended = true)
    (fun _ event ended => ended_exec ended event) _ ended events

/-- A call that is answered and does not find the end goes on, and no call goes past the rows. -/
theorem offset_exec (sequence : InSequence directory stream) (inside : stream.received.length ≤ stream.size + 2)
    (event : StreamEvent) (unended : (stream.exec directory event).ended = false) :
    stream.received.length + [event].countP StreamEvent.isAnswered ≤ (stream.exec directory event).received.length ∧
      (stream.exec directory event).received.length ≤ (stream.exec directory event).size + 2 := by
  have grows := size_exec directory stream event
  cases event with
  | readdir answers room =>
      have reads := reads_exec directory answers room stream
      cases same : stream.exec directory (.readdir answers room) with
      | mk world received ended =>
          rw [same] at reads unended
          cases reads with
          | nothing unread =>
              have unanswered : ¬ StreamEvent.isAnswered (.readdir answers room) = true := fun answered =>
                absurd (unread answered) (Bool.eq_false_iff.mp unended)
              rw [List.countP_singleton, if_neg unanswered]
              exact ⟨Nat.le_refl _, inside⟩
          | ends answered _ _ => cases unended
          | replies answered _ some =>
              have entries := List.length_pos_iff.mpr some
              rw [Ne, reply_eq_nil_iff, not_le] at some
              have bound := @length_reply_le stream.world.db directory stream.offset room (Nat.le_of_lt some)
              have few := @length_children_le stream.world.db directory
              rw [length_listing, sequence.offset] at bound
              rw [List.length_append, sequence.offset, DirStream.size]
              rw [sequence.offset] at entries
              refine ⟨Nat.add_le_add_left (List.countP_le_length.trans entries) _, ?_⟩
              exact bound.trans (Nat.add_le_add_right few 2)
  | unlink answers parent name => exact ⟨Nat.le_refl _, inside.trans (Nat.add_le_add_right grows.1 2)⟩
  | rmdir answers parent name => exact ⟨Nat.le_refl _, inside.trans (Nat.add_le_add_right grows.1 2)⟩
  | create cacheDir answers parent name => exact ⟨Nat.le_refl _, inside.trans (Nat.add_le_add_right grows.1 2)⟩
  | mkdir answers parent name => exact ⟨Nat.le_refl _, inside.trans (Nat.add_le_add_right grows.1 2)⟩

/-- As long as the end is not found there were no more calls than there are entries to receive. -/
theorem answered_le (sequence : InSequence directory stream) (inside : stream.received.length ≤ stream.size + 2)
    (events : List StreamEvent) (unended : (run (DirStream.exec directory) events stream).ended = false) :
    stream.received.length + events.countP StreamEvent.isAnswered ≤
      stream.size + 2 + events.countP StreamEvent.isCreation := by
  induction events generalizing stream with
  | nil => exact inside
  | cons event rest inductionHypothesis =>
      have open_ : (stream.exec directory event).ended = false := by
        cases ended : (stream.exec directory event).ended with
        | false => rfl
        | true =>
            rw [run_cons, ended_run ended] at unended
            cases unended
      have steps := offset_exec sequence inside event open_
      have grows := (size_exec directory stream event).2
      have later := inductionHypothesis (inSequence_exec sequence event) steps.2 unended
      rw [← List.singleton_append, List.countP_append, List.countP_append]
      omega

end Runs

/-- What was received of a directory when this has happened. -/
def DirStream.after (directory : Nat) (events : List StreamEvent) (world : World) : DirStream :=
  run (DirStream.exec directory) events (DirStream.opened world)

/-- A directory is read completely while it changes: what is in it throughout is returned once, the
directory and its parent come first, and a call finds the end. -/
structure StreamCompletes (directory : Nat) (events : List StreamEvent) (world : World) : Prop where
  returned : ∀ entry, Throughout (DirStream.exec directory) (Shows directory entry) events (DirStream.opened world) →
    Throughout (DirStream.exec directory) (fun stream => ReturnedOnce stream.returned stream.ended entry) events
      (DirStream.opened world)
  first : (DirStream.after directory events world).ended = true →
    (DirStream.after directory events world).received.take 2 = dots directory
  ends : world.db.driveFiles.rows.length + 2 + events.countP StreamEvent.isCreation <
      events.countP StreamEvent.isAnswered →
    (DirStream.after directory events world).ended = true

/-- A directory is read completely while files are removed and created exactly when every call goes on in
place for all that is in the directory throughout. -/
theorem stream_completes_iff (directory : Nat) (events : List StreamEvent) (world : World) :
    StreamCompletes directory events world ↔
      ∀ entry, Throughout (DirStream.exec directory) (Shows directory entry) events (DirStream.opened world) →
        Along (DirStream.exec directory) (ResumesInPlace directory entry) events (DirStream.opened world) := by
  have opened : InSequence directory (DirStream.opened world) := inSequence_opened world
  have sequence : InSequence directory (DirStream.after directory events world) :=
    @run_preserves _ _ _ (InSequence directory) (fun _ event before => inSequence_exec before event) _ opened events
  have exact_ (entry : NamedInode)
      (shown : Throughout (DirStream.exec directory) (Shows directory entry) events (DirStream.opened world)) :
      Throughout (DirStream.exec directory) (fun stream => ReturnedOnce stream.returned stream.ended entry) events
          (DirStream.opened world) ↔
        Along (DirStream.exec directory) (ResumesInPlace directory entry) events (DirStream.opened world) :=
    throughout_iff_along_of (fun _ event _ sequence => inSequence_exec sequence event)
      (fun _ event shown sequence once => returnedOnce_exec_iff sequence shown once event) (Throughout.along _ shown)
      opened returnedOnce_nil
  constructor
  · exact fun completes entry shown => (exact_ entry shown).mp (completes.returned entry shown)
  · intro resumes
    refine ⟨fun entry shown => (exact_ entry shown).mpr (resumes entry shown), fun ended => ?_, fun enough => ?_⟩
    · exact sequence.dots (sequence.complete ended)
    · by_contra open_
      have few := answered_le opened (Nat.zero_le _) events (Bool.eq_false_iff.mpr open_)
      have none_ : (DirStream.opened world).received.length = 0 := rfl
      have size : (DirStream.opened world).size = world.db.driveFiles.rows.length := rfl
      omega

/-- Two files of one account at the root. -/
def twoNotes : World :=
  World.around ((Database.fresh.putFile annsNotes).putFile { annsNotes with id := "plan", name := "plan.txt" })

/-- The first of the two is removed. -/
def onePlan : World :=
  final (Vfs.unlink (.allRun 5 1) rootInode (some "notes.txt")) twoNotes

/-- A user removes the first of the two as soon as it is listed. -/
def removesWhileListing : List StreamEvent :=
  [.readdir (.allRun 5 1) 2, .unlink (.allRun 5 1) rootInode (some "notes.txt"), .readdir (.allRun 5 1) 2]

theorem childrenByInode_twoNotes : Database.childrenByInode twoNotes.db rootInode = twoNotes.db.driveFiles.rows := by
  have all : (twoNotes.db.driveFiles.rows.filter fun row =>
      Database.isChildOf twoNotes.db rootInode row.data && !row.data.isTrashed) =
        twoNotes.db.driveFiles.rows := by decide
  rw [Database.childrenByInode, all]
  exact List.mergeSort_of_pairwise (by decide)

theorem childrenByInode_onePlan : Database.childrenByInode onePlan.db rootInode =
    [⟨2, { annsNotes with id := "plan", name := "plan.txt" }⟩] := by
  have one : (onePlan.db.driveFiles.rows.filter fun row =>
      Database.isChildOf onePlan.db rootInode row.data && !row.data.isTrashed) =
        [⟨2, { annsNotes with id := "plan", name := "plan.txt" }⟩] := by decide
  rw [Database.childrenByInode, one, List.mergeSort_singleton]

/-- The second file stays there, and is never listed. -/
theorem second_file_is_never_listed :
    Throughout (DirStream.exec rootInode) (Shows rootInode (toLex ("plan.txt", 2))) removesWhileListing
        (DirStream.opened twoNotes) ∧
      (DirStream.after rootInode removesWhileListing twoNotes).ended = true ∧
        toLex ("plan.txt", 2) ∉ (DirStream.after rootInode removesWhileListing twoNotes).returned := by
  have first : (DirStream.opened twoNotes).exec rootInode (.readdir (.allRun 5 1) 2) =
      ⟨twoNotes, dots rootInode ++ [⟨1, 3, false, "notes.txt"⟩], false⟩ := by
    rw [DirStream.opened, DirStream.exec, outcome_readdir, reply, listing, childrenByInode_twoNotes]
    rfl
  have last : (DirStream.mk onePlan (dots rootInode ++ [⟨1, 3, false, "notes.txt"⟩]) false).exec rootInode
      (.readdir (.allRun 5 1) 2) = ⟨onePlan, dots rootInode ++ [⟨1, 3, false, "notes.txt"⟩], true⟩ := by
    rw [DirStream.exec, outcome_readdir, reply, listing, childrenByInode_onePlan]
    rfl
  have before : toLex ("plan.txt", 2) ∈ children twoNotes.db rootInode := by
    rw [children, childrenByInode_twoNotes]
    decide
  have after : toLex ("plan.txt", 2) ∈ children onePlan.db rootInode := by
    rw [children, childrenByInode_onePlan]
    decide
  have second : (DirStream.mk twoNotes (dots rootInode ++ [⟨1, 3, false, "notes.txt"⟩]) false).exec rootInode
      (.unlink (.allRun 5 1) rootInode (some "notes.txt")) =
        ⟨onePlan, dots rootInode ++ [⟨1, 3, false, "notes.txt"⟩], false⟩ := rfl
  rw [DirStream.after, removesWhileListing, run_cons, run_cons, run_cons, run_nil, Throughout, Throughout, Throughout,
    Throughout, first, second, last]
  exact ⟨⟨before, before, after, after⟩, rfl, by decide⟩

end Tree
end GDriver
