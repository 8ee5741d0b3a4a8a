import GDriver.Library.Joining
import GDriver.Tree.Names
import GDriver.Tree.RenameCalls
import GDriver.Vfs.WinFsp
import Mathlib.Data.List.Induction

namespace GDriver
namespace Tree

open Library Routine Db Vfs Sync Local

/-!
# Files and their paths on Windows

On Windows a file is opened by a path, which is taken apart into names that are looked up from the root on.
What is listed below the root has such a path: the names on the way down to it.  The path leads to the file
as long as it is taken apart into these names again.
-/

/-! ## Paths of names -/

/-- The path of the names on the way to a file. -/
def pathOf (names : List String) : String :=
  "\\" ++ join "\\" names

/-- The names that Windows takes a path apart into. -/
def componentsOf (path : String) : List String :=
  (splitAtEvery '\\' (Windows.cleanPath path)).map String.ofList

/-- The names can stand in a path: none has a separator in it, and the first does not begin with a slash. -/
structure Addressable (names : List String) : Prop where
  whole : ∀ name ∈ names, '\\' ∉ name.toList
  first : ∃ char rest, (names.head?.getD "").toList = char :: rest ∧ char ≠ '/'

section Addresses

variable {names : List String}

theorem toList_pathOf : (pathOf names).toList = '\\' :: (join "\\" names).toList := by
  rw [pathOf, String.toList_append]
  rfl

theorem separator_toList : "\\".toList = ['\\'] := rfl

/-- A joined text begins with its first part, if this is not empty. -/
theorem join_of_head {char : Char} {rest : List Char} (first : (names.head?.getD "").toList = char :: rest) :
    ∃ more, (join "\\" names).toList = char :: more := by
  cases names with
  | nil => cases first
  | cons name others =>
      cases others with
      | nil => exact ⟨rest, first⟩
      | cons second others =>
          refine ⟨rest ++ '\\' :: (join "\\" (second :: others)).toList, ?_⟩
          rw [toList_join_cons separator_toList]
          rw [List.head?_cons, Option.getD_some] at first
          rw [first]
          rfl

theorem cleanPath_pathOf (addressable : Addressable names) :
    Windows.cleanPath (pathOf names) = (join "\\" names).toList := by
  rcases addressable.first with ⟨char, rest, first, noSlash⟩
  rcases join_of_head first with ⟨more, begins⟩
  have noSeparator : char ≠ '\\' := by
    cases names with
    | nil => cases first
    | cons name others =>
        intro same
        refine addressable.whole name List.mem_cons_self ?_
        rw [List.head?_cons, Option.getD_some] at first
        rw [first, same]
        exact List.mem_cons_self
  rw [Windows.cleanPath, toList_pathOf, begins, List.dropWhile_cons_of_pos (by decide),
    List.dropWhile_cons_of_neg (by rwa [decide_eq_true_eq]), List.dropWhile_cons_of_neg (by rwa [decide_eq_true_eq])]

theorem componentsOf_pathOf (addressable : Addressable names) : componentsOf (pathOf names) = names := by
  have some_ : names ≠ [] := by
    rintro none_
    rcases addressable.first with ⟨char, rest, first, _⟩
    rw [none_] at first
    cases first
  rw [componentsOf, cleanPath_pathOf addressable, splitAtEvery_joined separator_toList some_ addressable.whole,
    List.map_map]
  exact (List.map_congr_left fun name _ => String.ofList_toList).trans (List.map_id names)

theorem head_of_dropWhile {drops : Char → Bool} {text : List Char} {char : Char} {rest : List Char}
    (stays : text.dropWhile drops = char :: rest) : drops char = false := by
  have begins := List.head?_dropWhile_not drops text
  rw [stays] at begins
  exact (Bool.not_eq_true _).mp fun dropped => by simp [dropped] at begins

/-- Names that are found again could stand in the path. -/
theorem addressable_of_components (some_ : Windows.cleanPath (pathOf names) ≠ [])
    (same : componentsOf (pathOf names) = names) : Addressable names := by
  have joined := join_splitAtEvery separator_toList (Windows.cleanPath (pathOf names))
  rw [← componentsOf, same] at joined
  have whole (name : String) (member : name ∈ names) : '\\' ∉ name.toList := by
    rw [← same] at member
    rcases List.mem_map.mp member with ⟨part, inParts, isName⟩
    rw [← isName, String.toList_ofList]
    exact notMem_of_mem_splitAtEvery inParts
  -- Nothing is dropped from the names, as what is left over is all of them.
  have dropsOne : Windows.cleanPath (pathOf names) =
      (((join "\\" names).toList.dropWhile fun first => first = '\\').dropWhile fun first => first = '/') := by
    rw [Windows.cleanPath, toList_pathOf, List.dropWhile_cons_of_pos (by decide)]
  rw [← joined] at dropsOne some_
  cases begins : (join "\\" names).toList with
  | nil => exact absurd begins some_
  | cons char rest =>
      rw [begins] at dropsOne
      have noSlash := head_of_dropWhile dropsOne.symm
      have noSeparator : char ≠ '\\' := by
        intro separator
        have shorter : (rest.dropWhile fun first => decide (first = '\\')).length ≤ rest.length :=
          (List.dropWhile_sublist _).length_le
        have lengths := congrArg List.length dropsOne
        rw [separator, List.dropWhile_cons_of_pos (by decide), List.length_cons] at lengths
        have shorterYet := (List.dropWhile_sublist (fun first => decide (first = '/'))
          (l := rest.dropWhile fun first => decide (first = '\\'))).length_le
        omega
      refine ⟨whole, char, ?_⟩
      cases names with
      | nil => cases begins
      | cons name others =>
          rw [List.head?_cons, Option.getD_some]
          cases spelled : name.toList with
          | nil =>
              cases others with
              | nil =>
                  rw [join, spelled] at begins
                  cases begins
              | cons second others =>
                  rw [toList_join_cons separator_toList, spelled] at begins
                  exact absurd (List.cons.inj begins).1.symm noSeparator
          | cons first letters =>
              have same : first = char := by
                cases others with
                | nil =>
                    rw [join, spelled] at begins
                    exact (List.cons.inj begins).1
                | cons second others =>
                    rw [toList_join_cons separator_toList, spelled] at begins
                    exact (List.cons.inj begins).1
              exact ⟨letters, by rw [same], of_decide_eq_false noSlash⟩

end Addresses

/-! ## The way down -/

/-- The rows on a way down, each listed in the one before. -/
def Line (db : Database) : Nat → List (Row DriveFile) → Prop
  | _, [] => True
  | directory, row :: rest => row ∈ Database.childrenByInode db directory ∧ Line db row.rowid rest

/-- Where a way down ends. -/
def endOf (directory : Nat) (rows : List (Row DriveFile)) : Nat :=
  (rows.getLast?.map Row.rowid).getD directory

def namesOf (rows : List (Row DriveFile)) : List String :=
  rows.map fun row => row.data.name

/-- Where the names lead to when they are looked up one after the other. -/
def descend (db : Database) : List String → Nat → Option Nat
  | [], inode => some inode
  | name :: rest, inode => (Database.childNamed db inode name).bind fun row => descend db rest row.rowid

section Lines

variable {db : Database} {directory : Nat} {row : Row DriveFile} {rows others : List (Row DriveFile)}

theorem endOf_cons : endOf directory (row :: rows) = endOf row.rowid rows := by
  rw [endOf, endOf, List.getLast?_cons]
  cases rows.getLast? with
  | none => rfl
  | some last => rfl

theorem endOf_concat : endOf directory (rows ++ [row]) = row.rowid := by
  rw [endOf, List.getLast?_concat]
  rfl

theorem line_concat : Line db directory (rows ++ [row]) ↔
    Line db directory rows ∧ row ∈ Database.childrenByInode db (endOf directory rows) := by
  induction rows generalizing directory with
  | nil => exact ⟨fun line => ⟨trivial, line.1⟩, fun line => ⟨line.2, trivial⟩⟩
  | cons first rest inductionHypothesis =>
      rw [List.cons_append, Line, Line, inductionHypothesis, endOf_cons, and_assoc]

theorem child_of_childNamed {name : String} (found : Database.childNamed db directory name = some row) :
    row ∈ Database.childrenByInode db directory ∧ row.data.name = name := by
  rcases Table.of_findRow?_eq_some found with ⟨stored, facts⟩
  rw [Bool.and_eq_true, Bool.and_eq_true, Bool.not_eq_true', decide_eq_true_eq] at facts
  exact ⟨Database.mem_childrenByInode.mpr ⟨stored, facts.1.1, facts.2⟩, facts.1.2⟩

/-- Names that lead somewhere are those of a way down. -/
theorem line_of_descend {names : List String} {inode : Nat} (leads : descend db names directory = some inode) :
    ∃ rows, Line db directory rows ∧ namesOf rows = names ∧ endOf directory rows = inode := by
  induction names generalizing directory with
  | nil => exact ⟨[], trivial, rfl, Option.some.inj leads⟩
  | cons name rest inductionHypothesis =>
      rcases Option.bind_eq_some_iff.mp leads with ⟨row, found, later⟩
      rcases child_of_childNamed found with ⟨child, named⟩
      rcases inductionHypothesis later with ⟨rows, line, names, ends⟩
      refine ⟨row :: rows, ⟨child, line⟩, ?_, endOf_cons.trans ends⟩
      rw [namesOf, List.map_cons, ← namesOf, names, named]

/-- Where every child is found by its name, the names on a way down lead to its end. -/
theorem descend_of_line (resolvable : Resolvable db) (line : Line db directory rows) :
    descend db (namesOf rows) directory = some (endOf directory rows) := by
  induction rows generalizing directory with
  | nil => rfl
  | cons row rest inductionHypothesis =>
      rcases Option.map_eq_some_iff.mp (resolvable.resolves directory row line.1) with ⟨found, isFound, number⟩
      have later := inductionHypothesis line.2
      rw [namesOf, List.map_cons, descend, isFound, Option.bind_some, number, endOf_cons]
      exact later

/-- Below the root there is one way down to each row. -/
theorem line_unique (numbered : Numbered db) (line : Line db rootInode rows) (other : Line db rootInode others)
    (same : endOf rootInode rows = endOf rootInode others) : rows = others := by
  have atRoot {way : List (Row DriveFile)} {last : Row DriveFile} (line : Line db rootInode (way ++ [last]))
      (top : endOf rootInode (way ++ [last]) = rootInode) : False := by
    rw [endOf_concat] at top
    exact numbered last (Database.mem_childrenByInode.mp (line_concat.mp line).2).1 top
  induction rows using List.reverseRecOn generalizing others with
  | nil =>
      rcases List.eq_nil_or_concat others with none_ | ⟨way, last, parts⟩
      · exact none_.symm
      · rw [List.concat_eq_append] at parts
        rw [parts] at other same
        exact (atRoot other same.symm).elim
  | append_singleton rest row inductionHypothesis =>
      rcases List.eq_nil_or_concat others with none_ | ⟨way, last, parts⟩
      · rw [none_] at same
        exact (atRoot line same).elim
      · rw [List.concat_eq_append] at parts
        rw [parts] at other same ⊢
        rw [endOf_concat, endOf_concat] at same
        rcases line_concat.mp line with ⟨above, listed⟩
        rcases line_concat.mp other with ⟨aboveToo, listedToo⟩
        have directories : endOf rootInode rest = endOf rootInode way :=
          lists_unique ⟨row, listed, same⟩ ⟨last, listedToo, rfl⟩
        rw [inductionHypothesis above aboveToo directories, row_eq_of_rowid (Database.mem_childrenByInode.mp listed).1
          (Database.mem_childrenByInode.mp listedToo).1 same]

end Lines

/-! ## The callbacks -/

section Callbacks

variable {paths : PathFunctions} {answers : CallbackAnswers} {cacheDir : String} {world : World}
  {missing : Windows.NtStatus}

theorem outcome_lookup (inode : Nat) (name : String) :
    outcome (Windows.orInternalError (lookupByParentAndName true inode name)) world =
      .ok (Database.childNamed world.db inode name) := by
  rw [Windows.orInternalError, outcome_mapError, outcome_onDb, lookupByParentAndName, outcome_select]
  rfl

theorem final_lookup (runs : Bool) (inode : Nat) (name : String) :
    final (Windows.orInternalError (lookupByParentAndName runs inode name)) world = world := by
  rw [Windows.orInternalError, final_mapError, final_onDb, lookupByParentAndName, final_select]
  rfl

/-- What must be there. -/
def orMissing {α : Type} (missing : Windows.NtStatus) (found : Option α) : Except Windows.NtStatus α :=
  found.elim (.error missing) .ok

theorem outcome_walk {runs : Nat → Bool} (all : ∀ count, runs count = true) (first : Nat) (names : List String)
    (inode : Nat) :
    outcome (Windows.walk runs missing first names inode) world = orMissing missing (descend world.db names inode) := by
  induction names generalizing first inode with
  | nil => rfl
  | cons name rest inductionHypothesis =>
      rw [Windows.walk, all, outcome_bind_of_ok (outcome_lookup _ _), final_lookup, descend]
      cases Database.childNamed world.db inode name with
      | none => rfl
      | some row => exact inductionHypothesis (first + 1) row.rowid

theorem openPath_eq {path : String} (some_ : Windows.cleanPath path ≠ []) :
    Windows.openPath paths answers cacheDir path =
      (Windows.walk answers.runs .objectNameNotFound 7 (componentsOf path) rootInode >>= fun ino =>
        Windows.openInode paths answers cacheDir ino) := by
  rw [Windows.openPath, if_neg (by rwa [List.isEmpty_iff])]
  rfl

/-- What a path is opened as is where its names lead to. -/
theorem descend_of_opened (all : ∀ count, answers.runs count = true) {path : String}
    (some_ : Windows.cleanPath path ≠ []) {handle : OpenHandle}
    (opened : outcome (Windows.openPath paths answers cacheDir path) world = .ok handle) :
    descend world.db (componentsOf path) rootInode = some handle.ino := by
  rw [openPath_eq some_, outcome_bind_eq_ok_iff] at opened
  rcases opened with ⟨ino, walked, opens⟩
  rw [outcome_walk all] at walked
  cases leads : descend world.db (componentsOf path) rootInode with
  | none =>
      rw [leads] at walked
      cases walked
  | some inode =>
      rw [leads] at walked
      cases walked
      have same : handle.ino = ino := by
        rw [Windows.openInode, outcome_bind_eq_ok_iff] at opens
        rcases opens with ⟨found, _, rest⟩
        rcases outcome_bind_eq_ok_iff.mp rest with ⟨details, _, rest⟩
        rcases outcome_bind_eq_ok_iff.mp rest with ⟨_, _, same⟩
        cases same
        rfl
      rw [same]

theorem outcome_lookupComponent {inode : Nat} {name : String} {row : Row DriveFile}
    (found : Database.childNamed world.db inode name = some row) :
    outcome (Windows.lookupComponent true missing inode name) world = .ok row := by
  rw [Windows.lookupComponent, Windows.widened, outcome_mapError, outcome_bind_of_ok (outcome_lookup _ _), found]
  rfl

theorem final_lookupComponent (runs : Bool) (inode : Nat) (name : String) :
    final (Windows.lookupComponent runs missing inode name) world = world := by
  rw [Windows.lookupComponent, Windows.widened, final_mapError, final_bind_of_reader]
  · exact final_lookup _ _ _
  · intro found state
    cases found with
    | none => rfl
    | some row => rfl

theorem final_walkFolders (runs : Nat → Bool) (first : Nat) (names : List String) (inode : Nat) (world : World) :
    final (Windows.walkFolders runs missing first names inode) world = world := by
  induction names generalizing first inode world with
  | nil => rfl
  | cons name rest inductionHypothesis =>
      rw [Windows.walkFolders, final_bind_of_reader]
      · exact final_lookupComponent _ _ _
      · intro row state
        rw [Windows.refuseWith]
        cases row.data.isFolder with
        | false => rfl
        | true => exact inductionHypothesis (first + 1) row.rowid state

theorem getSecurityByName_eq {names : List String} (addressable : Addressable names) :
    Windows.getSecurityByName answers (pathOf names) =
      (Windows.walkFolders answers.runs .objectNameNotFound 7 (componentsOf (pathOf names)).dropLast rootInode >>=
        fun parent => Windows.lookupComponent (answers.runs (7 + (componentsOf (pathOf names)).dropLast.length))
            .objectNameNotFound parent ((componentsOf (pathOf names)).getLast?.getD "") >>= fun row =>
          pure row.data.isFolder) := by
  rcases addressable.first with ⟨char, rest, first, noSlash⟩
  rcases join_of_head first with ⟨more, begins⟩
  have long {path : String} (short : path.toList.length < 2) : pathOf names ≠ path := by
    intro same
    have lengths := congrArg (fun path : String => path.toList.length) same
    simp only [toList_pathOf, begins, List.length_cons] at lengths
    omega
  have other : (pathOf names = "" || pathOf names = "\\" || pathOf names = "/" : Bool) = false := by
    rw [decide_eq_false (long (by decide)), decide_eq_false (long (by decide)), decide_eq_false (long (by decide))]
    rfl
  rw [Windows.getSecurityByName, other]
  rfl

/-- Down a line of folders the names are found. -/
theorem outcome_walkFolders {runs : Nat → Bool} (all : ∀ count, runs count = true) (resolvable : Resolvable world.db)
    {rows : List (Row DriveFile)} (folders : ∀ row ∈ rows, row.data.isFolder = true) (first : Nat) {directory : Nat}
    (line : Line world.db directory rows) :
    outcome (Windows.walkFolders runs missing first (namesOf rows) directory) world = .ok (endOf directory rows) := by
  induction rows generalizing first directory with
  | nil => rfl
  | cons row rest inductionHypothesis =>
      rcases Option.map_eq_some_iff.mp (resolvable.resolves directory row line.1) with ⟨found, isFound, number⟩
      have same : found = row := row_eq_of_rowid (Database.mem_childrenByInode.mp (child_of_childNamed isFound).1).1
        (Database.mem_childrenByInode.mp line.1).1 number
      rw [same] at isFound
      rw [namesOf, List.map_cons, Windows.walkFolders, all, outcome_bind_of_ok (outcome_lookupComponent isFound),
        final_lookupComponent, folders row List.mem_cons_self, endOf_cons]
      exact inductionHypothesis (fun other member => folders other (List.mem_cons_of_mem _ member)) (first + 1) line.2

/-- All rows on a way down but the last are folders. -/
theorem folders_of_line (numbered : Numbered world.db) (closed : Closed world.db) {rows : List (Row DriveFile)}
    {row : Row DriveFile} {directory : Nat} (line : Line world.db directory (rows ++ [row])) :
    ∀ folder ∈ rows, folder.data.isFolder = true := by
  induction rows generalizing directory with
  | nil =>
      intro folder impossible
      cases impossible
  | cons first rest inductionHypothesis =>
      intro folder member
      rcases List.mem_cons.mp member with same | later
      · rw [same]
        have below : ∃ child, child ∈ Database.childrenByInode world.db first.rowid := by
          cases rest with
          | nil => exact ⟨row, line.2.1⟩
          | cons second rest => exact ⟨second, line.2.1⟩
        rcases below with ⟨child, listed⟩
        have stored := (Database.mem_childrenByInode.mp line.1).1
        rcases Database.mem_childrenByInode.mp listed with ⟨inside, isChild, live⟩
        rcases (isChildOf_iff_of_ne (numbered first stored)).mp isChild with ⟨parent, present, number, named, account⟩
        rcases closed child inside live _ named with ⟨holder, kept, key, _, isFolder⟩
        rw [row_eq_of_key kept present (key.trans (Prod.ext rfl account.symm)),
          row_eq_of_rowid present stored number] at isFolder
        exact isFolder
      · exact inductionHypothesis line.2 folder later

end Callbacks

/-! ## Which files have a path -/

/-- The path is that of the row: it is opened, and known as a file or a folder. -/
structure IsPathOf (paths : PathFunctions) (answers : CallbackAnswers) (cacheDir path : String) (row : Row DriveFile)
    (world : World) : Prop where
  opened : outcome (Windows.openPath paths answers cacheDir path) world =
    .ok ⟨row.rowid, contentAt paths cacheDir row.data⟩
  known : outcome (Windows.getSecurityByName answers path) world = .ok row.data.isFolder

/-- What is listed below the root is opened by the names on the way to it, and known under them, exactly
when these can stand in a path. -/
theorem isPathOf_iff_addressable {paths : PathFunctions} {answers : CallbackAnswers} {cacheDir : String} {world : World}
    {rows : List (Row DriveFile)} {row : Row DriveFile} (all : ∀ count, answers.runs count = true)
    (numbered : Numbered world.db) (closed : Closed world.db) (resolvable : Resolvable world.db)
    (line : Line world.db rootInode (rows ++ [row])) (regular : isGoogleWorkspaceMime row.data.mimeType = false) :
    IsPathOf paths answers cacheDir (pathOf (namesOf (rows ++ [row]))) row world ↔
      Addressable (namesOf (rows ++ [row])) := by
  rcases line_concat.mp line with ⟨above, listed⟩
  rcases Database.mem_childrenByInode.mp listed with ⟨stored, _, live⟩
  constructor
  · intro isPath
    have some_ : Windows.cleanPath (pathOf (namesOf (rows ++ [row]))) ≠ [] := by
      intro none_
      have opened := isPath.opened
      rw [Windows.openPath, none_] at opened
      exact numbered row stored (congrArg OpenHandle.ino (Except.ok.inj opened)).symm
    rcases line_of_descend (descend_of_opened all some_ isPath.opened) with ⟨others, way, names, ends⟩
    rw [← line_unique numbered line way (endOf_concat.trans ends.symm)] at names
    exact addressable_of_components some_ names.symm
  · intro addressable
    have components := componentsOf_pathOf addressable
    have some_ : Windows.cleanPath (pathOf (namesOf (rows ++ [row]))) ≠ [] := by
      rcases addressable.first with ⟨char, rest, first, _⟩
      rcases join_of_head first with ⟨more, begins⟩
      rw [cleanPath_pathOf addressable, begins]
      exact List.cons_ne_nil _ _
    constructor
    · have walked : outcome (Windows.walk answers.runs .objectNameNotFound 7
          (componentsOf (pathOf (namesOf (rows ++ [row])))) rootInode) world = .ok row.rowid := by
        rw [components, outcome_walk all, descend_of_line resolvable line, endOf_concat]
        rfl
      rw [openPath_eq some_, outcome_bind_of_ok walked, final_walk]
      exact (outcome_openInode_eq_ok_iff (rowAtInode_of_mem stored live)).mpr ⟨⟨all 0, regular⟩, rfl⟩
    · have folders := folders_of_line numbered closed line
      have child : Database.childNamed world.db (endOf rootInode rows) row.data.name = some row := by
        rcases Option.map_eq_some_iff.mp (resolvable.resolves _ row listed) with ⟨found, isFound, number⟩
        rw [isFound, row_eq_of_rowid (Database.mem_childrenByInode.mp (child_of_childNamed isFound).1).1 stored number]
      have names : namesOf (rows ++ [row]) = namesOf rows ++ [row.data.name] := List.map_append
      have walked := @outcome_walkFolders world .objectNameNotFound answers.runs all resolvable rows folders 7 _ above
      rw [getSecurityByName_eq addressable, components, names, List.dropLast_concat, List.getLast?_concat,
        outcome_bind_of_ok walked, all, Option.getD_some, outcome_bind_of_ok, final_walkFolders]
      · rfl
      · rw [final_walkFolders]
        exact outcome_lookupComponent child

/-- A file in a folder of the same account. -/
def bobsNotes : DriveFile :=
  localFile 0 "notes" "bob@example.com" "notes.txt" "text/plain" (some "work") none .cloudOnly

def bobsWork : World :=
  World.around ((Database.fresh.putFile bobsFolder).putFile bobsNotes)

theorem rows_bobsWork : bobsWork.db.driveFiles.rows = [⟨1, bobsFolder⟩, ⟨2, bobsNotes⟩] := by
  decide

theorem numbered_bobsWork : Numbered bobsWork.db := by
  rw [Numbered, rows_bobsWork]
  decide

theorem closed_bobsWork : Closed bobsWork.db := by
  intro row member live parentId parent
  rw [HasFolder, rows_bobsWork]
  rw [rows_bobsWork] at member
  rcases List.mem_pair.mp member with same | same
  · rw [same] at parent
    cases parent
  · rw [same] at parent ⊢
    cases parent
    exact ⟨⟨1, bobsFolder⟩, List.mem_cons_self, rfl, rfl, rfl⟩

theorem resolvable_bobsWork : Resolvable bobsWork.db := by
  refine (resolvable_iff numbered_bobsWork).mpr ?_
  intro one two held also live liveToo named same place
  rcases holds_iff.mp held with ⟨row, stored, here⟩
  rcases holds_iff.mp also with ⟨other, present, there⟩
  rw [rows_bobsWork] at stored present
  rw [← here, ← there] at named ⊢
  rcases List.mem_pair.mp stored with first | first
  · rcases List.mem_pair.mp present with second | second
    · rw [first, second]
    · rw [first, second] at named
      exact absurd named (by decide)
  · rcases List.mem_pair.mp present with second | second
    · rw [first, second] at named
      exact absurd named (by decide)
    · rw [first, second]

/-- The file in the folder is opened by a path. -/
theorem bobs_notes_have_a_path :
    IsPathOf .unix (.allRun 1 1) "/cache" (pathOf ["Work", "notes.txt"]) ⟨2, bobsNotes⟩ bobsWork := by
  have line : Line bobsWork.db rootInode ([⟨1, bobsFolder⟩] ++ [⟨2, bobsNotes⟩]) := by
    refine ⟨Database.mem_childrenByInode.mpr ?_, Database.mem_childrenByInode.mpr ?_, trivial⟩
    · rw [rows_bobsWork]
      exact ⟨List.mem_cons_self, rfl, rfl⟩
    · rw [rows_bobsWork]
      exact ⟨List.mem_cons_of_mem _ List.mem_cons_self, by decide, rfl⟩
  refine (isPathOf_iff_addressable (fun _ => rfl) numbered_bobsWork closed_bobsWork resolvable_bobsWork line
    (by decide)).mpr ⟨by decide, 'W', ['o', 'r', 'k'], rfl, by decide⟩

end Tree
end GDriver
