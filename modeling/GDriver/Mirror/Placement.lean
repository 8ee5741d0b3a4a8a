import GDriver.Ipc.Handlers
import GDriver.Library.Normal
import GDriver.Moves.Sync

namespace GDriver
namespace Mirror

open Library Routine Db Api Sync

/-!
# Where mirrored files are placed

Mirror mode places a file under the mount point as it is configured: by the names along its
parent chain after a listing, and by its own name alone after a change.  Neither expands a
tilde, and neither looks at what is in the names.
-/

/-! ## Parent chains -/

/-- The names from the topmost known ancestor of a file down to the file itself. -/
inductive Chain (known : String → Option (String × Option String)) : String → List String → Prop where
  | unknown {id : String} (absent : known id = none) : Chain known id []
  | top {id name : String} (found : known id = some (name, none)) : Chain known id [name]
  | under {id name parentId : String} {names : List String}
      (found : known id = some (name, some parentId)) (above : Chain known parentId names) :
      Chain known id (names ++ [name])

/-- The name and the parent of a row that is not trashed. -/
def knownName (db : Database) (accountId id : String) : Option (String × Option String) :=
  ((db.file id accountId).filter fun file => !file.isTrashed).map fun file => (file.name, file.parentId)

section Chains

variable {known : String → Option (String × Option String)} {id : String}

theorem Chain.unique {names others : List String} (one : Chain known id names)
    (two : Chain known id others) : names = others := by
  induction one generalizing others with
  | unknown absent =>
      cases two with
      | unknown => rfl
      | top found =>
          rw [absent] at found
          cases found
      | under found above =>
          rw [absent] at found
          cases found
  | top found =>
      cases two with
      | unknown absent =>
          rw [absent] at found
          cases found
      | top again =>
          rw [found] at again
          cases again
          rfl
      | under again above =>
          rw [found] at again
          cases again
  | under found above inductionHypothesis =>
      cases two with
      | unknown absent =>
          rw [absent] at found
          cases found
      | top again =>
          rw [found] at again
          cases again
      | under again higher =>
          rw [found] at again
          cases again
          rw [inductionHypothesis higher]

/-- Only a file that is not known has no chain. -/
theorem Chain.absent_of_nil {names : List String} (chain : Chain known id names) (none_ : names = []) :
    known id = none := by
  cases chain with
  | unknown absent => exact absent
  | top found => exact absurd none_ (List.cons_ne_nil _ _)
  | under found above => exact absurd none_ (List.append_ne_nil_of_right_ne_nil _ (List.cons_ne_nil _ _))

/-- A walk that ends has collected the parent chain. -/
theorem chain_of_ancestorNames {steps : Nat} {segments result : List String}
    (walked : ancestorNames known steps id segments = some result) :
    ∃ names, Chain known id names ∧ result = segments ++ names.reverse := by
  induction steps generalizing id segments with
  | zero => cases walked
  | succ steps inductionHypothesis =>
      rw [ancestorNames] at walked
      split at walked
      · next absent =>
          cases walked
          exact ⟨[], .unknown absent, (List.append_nil _).symm⟩
      · next name found =>
          cases walked
          exact ⟨[name], .top found, rfl⟩
      · next name parentId found =>
          rcases inductionHypothesis walked with ⟨names, above, same⟩
          refine ⟨names ++ [name], .under found above, ?_⟩
          rw [same, List.reverse_append, List.append_assoc]
          rfl

theorem chain_of_resolveRelativePath {steps : Nat} {relativePath : String}
    (resolved : resolveRelativePath steps id known = some relativePath) :
    ∃ names, Chain known id names ∧ relativePath = join "/" names := by
  rcases Option.map_eq_some_iff.mp resolved with ⟨segments, walked, same⟩
  rcases chain_of_ancestorNames walked with ⟨names, chain, collected⟩
  refine ⟨names, chain, ?_⟩
  rw [← same, collected, List.nil_append, List.reverse_reverse]

end Chains

theorem mem_filesOfAccount {db : Database} {accountId : String} {file : Db.DriveFile} :
    file ∈ Database.filesOfAccount db accountId ↔
      db.file file.id accountId = some file ∧ file.accountId = accountId ∧ file.isTrashed = false := by
  rw [Database.filesOfAccount, List.mem_filter, Bool.and_eq_true, decide_eq_true_eq, Bool.not_eq_true']
  constructor
  · rintro ⟨member, owned, kept⟩
    refine ⟨(db.driveFiles.lookup_eq_some_iff _ _).mpr ⟨member, ?_⟩, owned, kept⟩
    rw [DriveFile.key, owned]
  · rintro ⟨found, owned, kept⟩
    exact ⟨((db.driveFiles.lookup_eq_some_iff _ _).mp found).1, owned, kept⟩

/-- The names that a listing resolves with are those of the rows. -/
theorem nameMapOf_filesOfAccount (db : Database) (accountId : String) :
    nameMapOf (Database.filesOfAccount db accountId) = knownName db accountId := by
  funext id
  have reads (file : Db.DriveFile) (found : db.file id accountId = some file) :
      file.id = id ∧ file.accountId = accountId :=
    Prod.mk.inj ((db.driveFiles.lookup_eq_some_iff _ _).mp found).2
  rw [nameMapOf, knownName]
  cases listed : (Database.filesOfAccount db accountId).reverse.find? fun file => file.id = id with
  | some file =>
      have member := mem_filesOfAccount.mp (List.mem_reverse.mp (List.mem_of_find?_eq_some listed))
      have same : file.id = id := by simpa using List.find?_some listed
      rw [same] at member
      rw [member.1, Option.filter_some, member.2.2]
      rfl
  | none =>
      have absent := List.find?_eq_none.mp listed
      cases found : db.file id accountId with
      | none => rfl
      | some file =>
          rcases reads file found with ⟨same, owned⟩
          rw [Option.filter_some]
          cases trashed : file.isTrashed with
          | true => rfl
          | false =>
              have stored := found
              rw [← same] at stored
              have member := mem_filesOfAccount.mpr ⟨stored, owned, trashed⟩
              exact absurd (decide_eq_true same) (absent file (List.mem_reverse.mpr member))

/-! ## Paths that files get -/

/-- The file had no path and gets this one: in its row, or as the target of a download. -/
structure GetsPath (db later : Database) (file : Db.DriveFile) (path : String) : Prop where
  stored : db.file file.id file.accountId = some file
  pathless : file.localPath = none
  got : (later.file file.id file.accountId).bind DriveFile.localPath = some path ∨
    ∃ taskId task, db.task taskId = none ∧ later.task taskId = some task ∧
      task.operation = .download ∧ task.accountId = file.accountId ∧ task.fileId = some file.id ∧
      task.localPath = some path

/-- Files get paths that are given, and nothing else happens to rows and tasks. -/
structure Gives (given : Db.DriveFile → String → Prop) (db later : Database) : Prop where
  rows : ∀ fileId accountId, later.file fileId accountId = db.file fileId accountId ∨
    ∃ file path, given file path ∧ file.key = (fileId, accountId) ∧
      later.file fileId accountId = some { file with localPath := some path }
  kept : ∀ taskId task, db.task taskId = some task → later.task taskId = some task
  fresh : ∀ taskId task, db.task taskId = none → later.task taskId = some task →
    ∃ file path, given file path ∧ task.accountId = file.accountId ∧ task.fileId = some file.id ∧
      task.localPath = some path

section Giving

variable {given : Db.DriveFile → String → Prop}

instance : IsPreorder Database (Gives given) where
  refl db := by
    refine ⟨fun _ _ => Or.inl rfl, fun _ _ found => found, ?_⟩
    intro taskId task absent found
    rw [absent] at found
    cases found
  trans first second third one two := by
    refine ⟨?_, fun taskId task found => two.kept taskId task (one.kept taskId task found), ?_⟩
    · intro fileId accountId
      rcases two.rows fileId accountId with same | written
      · rw [same]
        exact one.rows fileId accountId
      · exact Or.inr written
    · intro taskId task absent found
      cases between : second.task taskId with
      | none => exact two.fresh taskId task between found
      | some earlier =>
          have stays := two.kept taskId earlier between
          rw [found] at stays
          rw [Option.some.inj stays]
          exact one.fresh taskId earlier absent between

theorem gives_putFile {file : Db.DriveFile} {path : String} (gives : given file path) (db : Database) :
    Gives given db (db.putFile { file with localPath := some path }) := by
  refine ⟨?_, fun _ _ found => found, ?_⟩
  · intro fileId accountId
    by_cases here : fileId = file.id ∧ accountId = file.accountId
    · refine Or.inr ⟨file, path, gives, Prod.ext here.1.symm here.2.symm, ?_⟩
      exact (Database.file_putFile _ _ _ _).trans (if_pos here)
    · exact Or.inl ((Database.file_putFile _ _ _ _).trans (if_neg here))
  · intro taskId task absent found
    have same : db.task taskId = some task := found
    rw [absent] at same
    cases same

theorem gives_putTask {file : Db.DriveFile} {path : String} (gives : given file path) (now : Int)
    (db : Database) :
    Gives given db
      (db.putTask (pendingTask now file.accountId (some file.id) .download (some path) 5)) := by
  refine ⟨fun _ _ => Or.inl rfl, fun _ _ found => Database.task_putTask_of_some found _, ?_⟩
  intro taskId task absent found
  rcases Database.task_putTask_cases found with same | before
  · refine ⟨file, path, gives, ?_⟩
    rw [same]
    exact ⟨rfl, rfl, rfl⟩
  · rw [absent] at before
    cases before

/-- A path that a file gets is one that is given to it. -/
theorem Gives.of_getsPath {db later : Database} (gives : Gives given db later) {file : Db.DriveFile}
    {path : String} (gets : GetsPath db later file path) :
    ∃ other, given other path ∧ other.key = file.key := by
  rcases gets.got with named | ⟨taskId, task, absent, found, _, owner, about, target⟩
  · rcases gives.rows file.id file.accountId with same | ⟨other, placed, given, key, written⟩
    · rw [same, gets.stored, Option.bind_some, gets.pathless] at named
      cases named
    · rw [written, Option.bind_some] at named
      cases named
      exact ⟨other, given, key⟩
  · rcases gives.fresh taskId task absent found with ⟨other, placed, given, account, names, target'⟩
    rw [target] at target'
    rw [Option.some.inj target']
    refine ⟨other, given, Prod.ext ?_ ?_⟩
    · rw [about] at names
      exact (Option.some.inj names).symm
    · exact account.symm.trans owner

end Giving

/-- A listing gives a file the path of its parent chain. -/
theorem path_of_mirror {answers : MirrorAnswers} {accountId mountPoint : String} {db : Database}
    {file : Db.DriveFile} {path : String}
    (gets : GetsPath db (final (enqueueMirrorDownloads answers accountId mountPoint) db) file path) :
    file.isTrashed = false ∧ ∃ names, Chain (knownName db file.accountId) file.id names ∧
      path = mirrorPath mountPoint (join "/" names) := by
  let given (other : Db.DriveFile) (placed : String) : Prop :=
    other ∈ Database.filesOfAccount db accountId ∧
      ∃ names, Chain (knownName db accountId) other.id names ∧ placed = mirrorPath mountPoint (join "/" names)
  have resolves (other : Db.DriveFile) (member : other ∈ Database.filesOfAccount db accountId)
      (relativePath : String) (resolved : resolveRelativePath answers.steps other.id
        (nameMapOf (Database.filesOfAccount db accountId)) = some relativePath) :
      given other (mirrorPath mountPoint relativePath) := by
    rw [nameMapOf_filesOfAccount] at resolved
    rcases chain_of_resolveRelativePath resolved with ⟨names, chain, same⟩
    exact ⟨member, names, chain, by rw [same]⟩
  have gives : Gives given db (final (enqueueMirrorDownloads answers accountId mountPoint) db) := by
    have reads : final (select answers.listsFiles fun db => Database.filesOfAccount db accountId) db = db :=
      final_select _ _ _
    have listed : outcome (select answers.listsFiles fun db => Database.filesOfAccount db accountId) db =
        if answers.listsFiles then .ok (Database.filesOfAccount db accountId) else .error databaseError :=
      outcome_select _ _ _
    rw [enqueueMirrorDownloads, final_bind, reads, listed]
    cases answers.listsFiles with
    | false => exact Std.Refl.refl db
    | true =>
        refine keeps_mirrorFiles_of ?_ ?_ 0 db
        · intro other member _ relativePath resolved db
          exact gives_putFile (resolves other member relativePath resolved) db
        · intro other member _ relativePath resolved db
          have owned := (mem_filesOfAccount.mp member).2.1
          rw [← owned]
          exact gives_putTask (resolves other member relativePath resolved) _ db
  rcases gives.of_getsPath gets with ⟨other, ⟨member, names, chain, placed⟩, key⟩
  rcases Prod.mk.inj key with ⟨sameId, sameAccount⟩
  rcases mem_filesOfAccount.mp member with ⟨found, owned, kept⟩
  have stored := gets.stored
  rw [← sameId, ← sameAccount, owned, found] at stored
  cases stored
  rw [owned]
  exact ⟨kept, names, chain, placed⟩

/-- A change gives a file the path of its name. -/
theorem path_of_change {answers : ProcessChangeAnswers} {accountId mountPoint : String} {db : Database}
    {dbFile : Db.DriveFile} {syncMode : SyncMode} {path : String}
    (gets : GetsPath db
      (final (enqueueDownloadForChange answers accountId dbFile syncMode mountPoint) db) dbFile path) :
    path = mirrorPath mountPoint dbFile.name := by
  have gives : Gives (fun _ placed => placed = mirrorPath mountPoint dbFile.name) db
      (final (enqueueDownloadForChange answers accountId dbFile syncMode mountPoint) db) := by
    refine keeps_enqueueDownloadForChange_of (fun _ db => ?_) db
    have target : dbFile.localPath.getD (mirrorPath mountPoint dbFile.name) =
        mirrorPath mountPoint dbFile.name := by rw [gets.pathless, Option.getD_none]
    rw [changeDownload, target]
    exact @gives_putTask _ { dbFile with accountId := accountId } _ rfl answers.now db
  rcases gives.of_getsPath gets with ⟨_, placed, _⟩
  exact placed

/-! ## Inside the mount point -/

/-- The names, taken as steps from the mount point as it is configured, lead strictly into
the mount point as it is expanded. -/
def LeadsInto (homeDir : Option String) (mountPoint : String) (names : List String) : Prop :=
  let written := placeOf (mountPoint ++ "/")
  Place.StrictlyBelow ⟨written.rooted, walk written.rooted written.parts (names.flatMap components)⟩
    (placeOf (Ipc.expandTilde homeDir mountPoint))

theorem strictlyInside_mirrorPath (homeDir : Option String) (mountPoint : String) (names : List String) :
    StrictlyInside (Ipc.expandTilde homeDir mountPoint) (mirrorPath mountPoint (join "/" names)) ↔
      LeadsInto homeDir mountPoint names := by
  rw [StrictlyInside, mirrorPath, placeOf_under, components_join, LeadsInto]

/-- A mount point that begins with a tilde is not expanded, so nothing leads into it. -/
theorem not_leadsInto_of_tilde {home mountPoint : String} (absolute : startsWith home "/" = true)
    (tilde : startsWith mountPoint "~/" = true ∨ mountPoint = "~") (names : List String) :
    ¬ LeadsInto (some home) mountPoint names := by
  rintro ⟨sameRoot, _⟩
  have relative : startsWith (mountPoint ++ "/") "/" = false := by
    rcases tilde with under | bare
    · rw [startsWith, List.isPrefixOf_iff_prefix] at under
      rcases under with ⟨rest, same⟩
      simp only [startsWith, String.toList_append, ← same]
      rfl
    · rw [bare]
      decide
  have rooted : startsWith (Ipc.expandTilde (some home) mountPoint) "/" = true := by
    have extended (rest : String) : startsWith (home ++ "/" ++ rest) "/" = true := by
      rw [startsWith, List.isPrefixOf_iff_prefix] at absolute ⊢
      rw [String.toList_append, String.toList_append]
      exact (absolute.trans (List.prefix_append _ _)).trans (List.prefix_append _ _)
    rw [Ipc.expandTilde]
    split
    · exact extended _
    · split
      · exact absolute
      · next other bare =>
          rcases tilde with under | here
          · exact absurd under other
          · exact absurd here bare
  simp only [placeOf, relative, rooted] at sameRoot
  cases sameRoot

/-- Names that are single components lead into an absolute mount point. -/
theorem leadsInto_of_plain (homeDir : Option String) {mountPoint : String}
    (absolute : startsWith mountPoint "/" = true) {names : List String} (some_ : names ≠ [])
    (plain : ∀ name ∈ names, isPlain name = true) : LeadsInto homeDir mountPoint names := by
  have untouched : Ipc.expandTilde homeDir mountPoint = mountPoint := by
    rw [startsWith, List.isPrefixOf_iff_prefix] at absolute
    rcases absolute with ⟨rest, same⟩
    have other : startsWith mountPoint "~/" = false := by
      simp only [startsWith, ← same]
      rfl
    have different : mountPoint ≠ "~" := by
      intro bare
      rw [bare] at same
      cases same
    cases homeDir with
    | none => rfl
    | some home =>
        rw [Ipc.expandTilde, other, if_neg Bool.false_ne_true, if_neg different]
  have sameRoot : startsWith (mountPoint ++ "/") "/" = startsWith mountPoint "/" := by
    rw [absolute]
    rw [startsWith, List.isPrefixOf_iff_prefix] at absolute ⊢
    rw [String.toList_append]
    exact absolute.trans (List.prefix_append _ _)
  have sameParts : components (mountPoint ++ "/") = components mountPoint := by
    have extended := components_slash mountPoint ""
    rw [String.append_empty, components_empty, List.append_nil] at extended
    exact extended
  have flat : names.flatMap components = names := by
    have each := List.flatMap_congr fun name member => (components_of_plain (plain name member)).1
    rw [each]
    exact List.flatMap_singleton' names
  have down : ".." ∉ names := fun member => (components_of_plain (plain ".." member)).2 rfl
  rw [LeadsInto, untouched, flat]
  rw [walk_of_down down]
  simp only [placeOf, sameRoot, sameParts, Place.StrictlyBelow, true_and]
  cases names with
  | nil => exact absurd rfl some_
  | cons name rest => exact ⟨name, rest, rfl⟩

/-- A path that a listing or a change gives to a file lies strictly inside the expanded mount
point exactly when the names it is made of lead there. -/
theorem given_paths_inside_iff (homeDir : Option String) (mountPoint : String) :
    (∀ answers accountId db file path,
      GetsPath db (final (enqueueMirrorDownloads answers accountId mountPoint) db) file path →
        ∃ names, Chain (knownName db file.accountId) file.id names ∧
          (StrictlyInside (Ipc.expandTilde homeDir mountPoint) path ↔ LeadsInto homeDir mountPoint names)) ∧
    ∀ answers accountId db dbFile syncMode path,
      GetsPath db (final (enqueueDownloadForChange answers accountId dbFile syncMode mountPoint) db)
          dbFile path →
        (StrictlyInside (Ipc.expandTilde homeDir mountPoint) path ↔
          LeadsInto homeDir mountPoint [dbFile.name]) := by
  constructor
  · intro answers accountId db file path gets
    rcases path_of_mirror gets with ⟨_, names, chain, placed⟩
    rw [placed]
    exact ⟨names, chain, strictlyInside_mirrorPath homeDir mountPoint names⟩
  · intro answers accountId db dbFile syncMode path gets
    rw [path_of_change gets]
    exact strictlyInside_mirrorPath homeDir mountPoint [dbFile.name]

/-! ## The same file in both syncs -/

theorem join_concat {parts : List String} (some_ : parts ≠ []) (separator last : String) :
    join separator (parts ++ [last]) = join separator parts ++ separator ++ last := by
  induction parts with
  | nil => exact absurd rfl some_
  | cons part rest inductionHypothesis =>
      cases rest with
      | nil => rfl
      | cons second rest =>
          have later := inductionHypothesis (List.cons_ne_nil _ _)
          simp only [List.cons_append] at later ⊢
          simp only [join] at later ⊢
          rw [later, String.append_assoc, String.append_assoc, String.append_assoc,
            String.append_assoc, String.append_assoc]

theorem mirrorPath_inj {mountPoint first second : String}
    (same : mirrorPath mountPoint first = mirrorPath mountPoint second) : first = second := by
  have texts := congrArg String.toList same
  simp only [mirrorPath, String.toList_append] at texts
  exact String.toList_injective (List.append_cancel_left texts)

/-- The path of a parent chain is that of the name alone exactly when there is no known parent. -/
theorem mirrorPath_chain_iff {known : String → Option (String × Option String)} {id name mountPoint : String}
    {parentId : Option String} {names : List String} (chain : Chain known id names)
    (found : known id = some (name, parentId)) :
    mirrorPath mountPoint (join "/" names) = mirrorPath mountPoint name ↔
      ∀ parent, parentId = some parent → known parent = none := by
  cases chain with
  | unknown absent =>
      rw [absent] at found
      cases found
  | top here =>
      rw [found] at here
      cases here
      refine iff_of_true rfl ?_
      intro parent child
      cases child
  | @under _ _ parent above here higher =>
      rw [found] at here
      cases here
      cases above with
      | nil =>
          refine iff_of_true rfl ?_
          intro other same
          rw [← Option.some.inj same]
          exact higher.absent_of_nil rfl
      | cons first rest =>
          refine iff_of_false ?_ ?_
          · intro same
            have texts := congrArg String.length (mirrorPath_inj same)
            rw [join_concat (List.cons_ne_nil _ _), String.length_append, String.length_append] at texts
            have slash : "/".length = 1 := rfl
            omega
          · intro unknown
            have alone : first :: rest = [] := higher.unique (.unknown (unknown parent rfl))
            exact absurd alone (List.cons_ne_nil _ _)

/-- A listing places a file by its parent chain and a change by its name, which is the same path
exactly when the parent of the file is not known. -/
theorem given_paths_agree_iff {mirror : MirrorAnswers} {accountId mountPoint : String} {db : Database}
    {file : Db.DriveFile} {listed : String}
    (byListing : GetsPath db (final (enqueueMirrorDownloads mirror accountId mountPoint) db) file listed)
    {answers : ProcessChangeAnswers} {owner : String} {later : Database} {dbFile : Db.DriveFile}
    {syncMode : SyncMode} {changed : String}
    (byChange : GetsPath later
      (final (enqueueDownloadForChange answers owner dbFile syncMode mountPoint) later) dbFile changed)
    (sameName : dbFile.name = file.name) :
    (∃ names, Chain (knownName db file.accountId) file.id names ∧
        listed = mirrorPath mountPoint (join "/" names)) ∧
      changed = mirrorPath mountPoint file.name ∧
      (listed = changed ↔ ∀ parentId, file.parentId = some parentId →
        knownName db file.accountId parentId = none) := by
  rcases path_of_mirror byListing with ⟨kept, names, chain, placed⟩
  have named : changed = mirrorPath mountPoint file.name := by
    rw [← sameName]
    exact path_of_change byChange
  have found : knownName db file.accountId file.id = some (file.name, file.parentId) := by
    rw [knownName, byListing.stored, Option.filter_some, kept]
    rfl
  refine ⟨⟨names, chain, placed⟩, named, ?_⟩
  rw [placed, named]
  exact mirrorPath_chain_iff chain found

/-! ## Placed files -/

/-- Notes under a name and in a folder that a listing has found. -/
def listedNotes (name : String) (parentId : Option String) : Db.DriveFile :=
  { @mapApiFileToDb untimed (Api.DriveFile.named "notes" name) "ann@example.com" with
    parentId := parentId }

/-- Notes in a folder for work, in the rows of one account. -/
def withNotes (name : String) (parentId : Option String) : Database :=
  let folder := { @mapApiFileToDb untimed (Api.DriveFile.named "work" "Work") "ann@example.com" with
    mimeType := folderMimeType }
  (Database.fresh.putFile folder).putFile (listedNotes name parentId)

def mirrors (mountPoint : String) (db : Database) : Database :=
  final (enqueueMirrorDownloads (MirrorAnswers.allRun 9 1) "ann@example.com" mountPoint) db

def changes (mountPoint : String) (file : Db.DriveFile) (db : Database) : Database :=
  final (enqueueDownloadForChange (ProcessChangeAnswers.allRun 1) "ann@example.com" file .mirror mountPoint) db

/-- Notes that a listing finds in the folder are placed in it. -/
theorem mirrors_notes :
    GetsPath (withNotes "notes.txt" (some "work")) (mirrors "/mnt" (withNotes "notes.txt" (some "work")))
      (listedNotes "notes.txt" (some "work")) "/mnt/Work/notes.txt" :=
  ⟨by decide, rfl, Or.inl (by decide)⟩

/-- The same notes are placed beside the folder by a change. -/
theorem changes_notes :
    GetsPath (withNotes "notes.txt" (some "work"))
      (changes "/mnt" (listedNotes "notes.txt" (some "work")) (withNotes "notes.txt" (some "work")))
      (listedNotes "notes.txt" (some "work")) "/mnt/notes.txt" :=
  ⟨by decide, rfl, Or.inr ⟨1, { pendingTask 1 "ann@example.com" (some "notes") .download
    (some "/mnt/notes.txt") 5 with id := some 1 }, by decide, by decide, rfl, rfl, rfl, rfl⟩⟩

theorem given_paths_inside_of_notes :
    StrictlyInside "/mnt" "/mnt/notes.txt" ↔ LeadsInto none "/mnt" ["notes.txt"] :=
  (given_paths_inside_iff none "/mnt").2 _ _ _ _ _ _ changes_notes

/-- A name of another user leads out of the mount point, and a mount point with a tilde is
not the folder that the rest of the daemon takes it for. -/
theorem given_paths_escape :
    (∃ path, GetsPath (withNotes "../../etc/passwd" none)
        (mirrors "/mnt/drive" (withNotes "../../etc/passwd" none))
        (listedNotes "../../etc/passwd" none) path ∧
      (placeOf path).parts = ["etc", "passwd"] ∧
      ¬ StrictlyInside (Ipc.expandTilde (some "/home/ann") "/mnt/drive") path) ∧
    ∃ path, GetsPath (withNotes "notes.txt" none)
        (mirrors "~/GoogleDrive" (withNotes "notes.txt" none)) (listedNotes "notes.txt" none) path ∧
      (placeOf path).rooted = false ∧
      ¬ StrictlyInside (Ipc.expandTilde (some "/home/ann") "~/GoogleDrive") path := by
  refine ⟨⟨"/mnt/drive/../../etc/passwd", ⟨by decide, rfl, Or.inl (by decide)⟩, by decide, ?_⟩,
    ⟨"~/GoogleDrive/notes.txt", ⟨by decide, rfl, Or.inl (by decide)⟩, by decide, ?_⟩⟩
  · rintro ⟨_, part, more, same⟩
    have places : ["etc", "passwd"] = ["mnt", "drive"] ++ part :: more := same
    exact absurd (List.cons.inj places).1 (by decide)
  · rintro ⟨sameRoot, _⟩
    have different : false = true := sameRoot
    cases different

theorem given_paths_agree_of_notes :
    (∃ names, Chain (knownName (withNotes "notes.txt" (some "work")) "ann@example.com") "notes" names ∧
        "/mnt/Work/notes.txt" = mirrorPath "/mnt" (join "/" names)) ∧
      "/mnt/notes.txt" = mirrorPath "/mnt" "notes.txt" ∧
      ("/mnt/Work/notes.txt" = "/mnt/notes.txt" ↔ ∀ parentId, some "work" = some parentId →
        knownName (withNotes "notes.txt" (some "work")) "ann@example.com" parentId = none) :=
  given_paths_agree_iff mirrors_notes changes_notes rfl

/-- A file in a folder is placed at two paths. -/
theorem notes_placed_twice :
    ∃ db listed changed, GetsPath db (mirrors "/mnt" db) (listedNotes "notes.txt" (some "work")) listed ∧
      GetsPath db (changes "/mnt" (listedNotes "notes.txt" (some "work")) db)
        (listedNotes "notes.txt" (some "work")) changed ∧ listed ≠ changed :=
  ⟨_, _, _, mirrors_notes, changes_notes, by decide⟩

end Mirror
end GDriver
