import GDriver.Moves.Rows
import GDriver.Tree.Edits

namespace GDriver
namespace Tree

open Library Routine Db Vfs

/-!
# Names in a directory

A directory lists its children, and finds one of them by its name.  Every child is found by its own
name exactly when no two have one name.  Whether two rows are in one directory is seen from their
parents and accounts, and what a single stored record does to the names from the rows that are there.
-/

/-- Every child of a directory is found by its name, and no two children have one name. -/
structure Resolvable (db : Database) : Prop where
  unique : ∀ directory, ∀ one ∈ Database.childrenByInode db directory,
    ∀ two ∈ Database.childrenByInode db directory, one.data.name = two.data.name → one = two
  resolves : ∀ directory, ∀ child ∈ Database.childrenByInode db directory,
    (Database.childNamed db directory child.data.name).map Row.rowid = some child.rowid

/-- Both files are without a parent, or have one parent and are of one account. -/
def SamePlace (one two : DriveFile) : Prop :=
  one.parentId = two.parentId ∧ (one.parentId = none ∨ one.accountId = two.accountId)

/-- The parent of the file is stored, if it has one. -/
def HasPlace (db : Database) (file : DriveFile) : Prop :=
  ∀ parentId, file.parentId = some parentId → (db.file parentId file.accountId).isSome = true

/-- No two files that are not trashed have one name at one place. -/
def NamesUnique (db : Database) : Prop :=
  ∀ one two, db.Holds one → db.Holds two → one.isTrashed = false → two.isTrashed = false → one.name = two.name →
    SamePlace one two → HasPlace db one → one = two

section Listings

variable {db : Database} {directory : Nat} {one two : DriveFile}

theorem holds_iff : db.Holds one ↔ ∃ row ∈ db.driveFiles.rows, row.data = one := by
  rw [Database.Holds, Database.file]
  exact (db.driveFiles.mem_records_iff one).symm.trans List.mem_map

theorem samePlace_of_children (child : Database.isChildOf db directory one = true)
    (other : Database.isChildOf db directory two = true) : SamePlace one two := by
  by_cases top : directory = rootInode
  · rw [top, isChildOf_root] at child other
    exact ⟨child.trans other.symm, Or.inl child⟩
  · rcases (isChildOf_iff_of_ne top).mp child with ⟨parent, stored, number, named, alike⟩
    rcases (isChildOf_iff_of_ne top).mp other with ⟨again, present, place, called, equal⟩
    rw [row_eq_of_rowid present stored (place.trans number.symm)] at called equal
    exact ⟨named.trans called.symm, Or.inr (alike.symm.trans equal)⟩

theorem isChildOf_of_samePlace (same : SamePlace one two) (child : Database.isChildOf db directory one = true) :
    Database.isChildOf db directory two = true := by
  by_cases top : directory = rootInode
  · rw [top, isChildOf_root] at child ⊢
    exact same.1.symm.trans child
  · rcases (isChildOf_iff_of_ne top).mp child with ⟨parent, stored, number, named, alike⟩
    refine (isChildOf_iff_of_ne top).mpr ⟨parent, stored, number, same.1.symm.trans named, ?_⟩
    rcases same.2 with none_ | equal
    · rw [none_] at named
      cases named
    · exact alike.trans equal

theorem hasPlace_of_child (child : Database.isChildOf db directory one = true) : HasPlace db one := by
  intro parentId parent
  by_cases top : directory = rootInode
  · rw [top, isChildOf_root, parent] at child
    cases child
  · rcases (isChildOf_iff_of_ne top).mp child with ⟨folder, stored, _, named, alike⟩
    have held : db.Holds folder.data := holds_iff.mpr ⟨folder, stored, rfl⟩
    rw [parent] at named
    rw [Option.some.inj named, ← alike]
    exact Option.isSome_of_mem held

/-- A file whose parent is stored is in a directory. -/
theorem exists_directory (numbered : Numbered db) (place : HasPlace db one) :
    ∃ directory, Database.isChildOf db directory one = true := by
  cases parent : one.parentId with
  | none => exact ⟨rootInode, isChildOf_root.mpr parent⟩
  | some parentId =>
      rcases Option.isSome_iff_exists.mp (place parentId parent) with ⟨folder, found⟩
      rcases Database.holds_of_file found with ⟨held, sameId, sameAccount⟩
      rcases holds_iff.mp held with ⟨row, stored, same⟩
      refine ⟨row.rowid, isChildOf_of_key numbered stored parent ?_⟩
      rw [same]
      exact Prod.ext sameId sameAccount

/-- All children are found by their names exactly when the names are unique at every place. -/
theorem resolvable_iff (numbered : Numbered db) : Resolvable db ↔ NamesUnique db := by
  constructor
  · intro resolvable one two held also live liveToo named same place
    rcases exists_directory numbered place with ⟨directory, child⟩
    rcases holds_iff.mp held with ⟨row, stored, here⟩
    rcases holds_iff.mp also with ⟨other, present, there⟩
    subst here
    subst there
    have childToo := isChildOf_of_samePlace same child
    exact congrArg Row.data (resolvable.unique directory row (Database.mem_childrenByInode.mpr ⟨stored, child, live⟩)
      other (Database.mem_childrenByInode.mpr ⟨present, childToo, liveToo⟩) named)
  · intro unique
    have alike (directory : Nat) (row other : Row DriveFile) (stored : row ∈ db.driveFiles.rows)
        (child : Database.isChildOf db directory row.data = true) (live : row.data.isTrashed = false)
        (present : other ∈ db.driveFiles.rows) (childToo : Database.isChildOf db directory other.data = true)
        (liveToo : other.data.isTrashed = false) (named : row.data.name = other.data.name) : row = other := by
      have same := unique row.data other.data (holds_iff.mpr ⟨row, stored, rfl⟩) (holds_iff.mpr ⟨other, present, rfl⟩)
        live liveToo named (samePlace_of_children child childToo) (hasPlace_of_child child)
      exact row_eq_of_key stored present (congrArg DriveFile.key same)
    constructor
    · intro directory one member two also named
      rcases Database.mem_childrenByInode.mp member with ⟨stored, child, live⟩
      rcases Database.mem_childrenByInode.mp also with ⟨present, childToo, liveToo⟩
      exact alike directory one two stored child live present childToo liveToo named
    · intro directory child member
      rcases Database.mem_childrenByInode.mp member with ⟨stored, inside, live⟩
      cases found : Database.childNamed db directory child.data.name with
      | none =>
          have missed := List.find?_eq_none.mp found child stored
          rw [inside, live, decide_eq_true rfl] at missed
          exact absurd rfl missed
      | some row =>
          rcases Table.of_findRow?_eq_some found with ⟨present, facts⟩
          rw [Bool.and_eq_true, Bool.and_eq_true, Bool.not_eq_true', decide_eq_true_eq] at facts
          rw [alike directory row child present facts.1.1 facts.2 stored inside live facts.1.2]
          rfl

end Listings

/-! ## One stored record -/

/-- The record is stored under its key, and all other files stay. -/
def Puts (record : DriveFile) (db later : Database) : Prop :=
  ∀ file, later.Holds file ↔ file = record ∨ (db.Holds file ∧ file.key ≠ record.key)

/-- Every file was there before, and if it is not trashed it had its name and its parent. -/
def Thins (db later : Database) : Prop :=
  ∀ file, later.Holds file → ∃ before, db.Holds before ∧ before.key = file.key ∧
    (file.isTrashed = false → before.isTrashed = false ∧ before.name = file.name ∧ before.parentId = file.parentId)

/-- The file has this record as its parent. -/
def WaitsFor (record file : DriveFile) : Prop :=
  file.key ≠ record.key ∧ file.isTrashed = false ∧ file.parentId = some record.id ∧ file.accountId = record.accountId

/-- No other file has the name of the record at its place, and those that have it as their parent have
different names. -/
structure NameFree (db : Database) (record : DriveFile) : Prop where
  apart : record.isTrashed = false →
    (∀ parentId, record.parentId = some parentId →
      parentId = record.id ∨ (db.file parentId record.accountId).isSome = true) →
    ∀ other, db.Holds other → other.key ≠ record.key → other.isTrashed = false → other.name = record.name →
      ¬ SamePlace other record
  waiting : ∀ one two, db.Holds one → db.Holds two → WaitsFor record one → WaitsFor record two →
    one.name = two.name → one = two

section Stored

variable {db later : Database} {record : DriveFile}

/-- A file is under a key exactly if it is the record or was there before. -/
theorem Puts.isSome_iff (puts : Puts record db later) (fileId accountId : String) :
    (later.file fileId accountId).isSome = true ↔
      (fileId, accountId) = record.key ∨ (db.file fileId accountId).isSome = true := by
  constructor
  · intro there
    rcases Option.isSome_iff_exists.mp there with ⟨file, found⟩
    rcases Database.holds_of_file found with ⟨held, sameId, sameAccount⟩
    rcases (puts file).mp held with same | ⟨before, _⟩
    · rw [← same]
      exact Or.inl (Prod.ext sameId.symm sameAccount.symm)
    · rw [Database.Holds, sameId, sameAccount] at before
      exact Or.inr (Option.isSome_of_mem before)
  · rintro (here | before)
    · have held : later.file record.id record.accountId = some record := (puts record).mpr (Or.inl rfl)
      rw [DriveFile.key, Prod.mk.injEq] at here
      rw [here.1, here.2]
      exact Option.isSome_of_mem held
    · by_cases here : (fileId, accountId) = record.key
      · have held : later.file record.id record.accountId = some record := (puts record).mpr (Or.inl rfl)
        rw [DriveFile.key, Prod.mk.injEq] at here
        rw [here.1, here.2]
        exact Option.isSome_of_mem held
      · rcases Option.isSome_iff_exists.mp before with ⟨file, found⟩
        rcases Database.holds_of_file found with ⟨held, sameId, sameAccount⟩
        have other : file.key ≠ record.key := by
          intro same
          apply here
          rw [← same, DriveFile.key, sameId, sameAccount]
        have stays : later.file file.id file.accountId = some file := (puts file).mpr (Or.inr ⟨held, other⟩)
        rw [sameId, sameAccount] at stays
        exact Option.isSome_of_mem stays

theorem SamePlace.symm {one two : DriveFile} (same : SamePlace one two) : SamePlace two one :=
  ⟨same.1.symm, same.2.imp (fun none_ => same.1.symm.trans none_) Eq.symm⟩

theorem HasPlace.of_samePlace {one two : DriveFile} (place : HasPlace db one) (same : SamePlace one two) :
    HasPlace db two := by
  intro parentId parent
  rcases same.2 with none_ | account
  · rw [same.1, parent] at none_
    cases none_
  · rw [← account]
    exact place parentId (same.1.trans parent)

/-- The record has a place if its parent is stored already, or it is its own parent. -/
theorem Puts.hasPlace_iff (puts : Puts record db later) : HasPlace later record ↔
    ∀ parentId, record.parentId = some parentId →
      parentId = record.id ∨ (db.file parentId record.accountId).isSome = true := by
  refine forall_congr' fun parentId => imp_congr_right fun _ => ?_
  rw [puts.isSome_iff, DriveFile.key, Prod.mk.injEq, and_iff_left rfl]

theorem Puts.nameFree (puts : Puts record db later) (unique : NamesUnique later) : NameFree db record := by
  have stays {file : DriveFile} (held : db.Holds file) (other : file.key ≠ record.key) : later.Holds file :=
    (puts file).mpr (Or.inr ⟨held, other⟩)
  have stored : later.Holds record := (puts record).mpr (Or.inl rfl)
  constructor
  · intro live open_ other held apart liveOther named same
    have place : HasPlace later other := (puts.hasPlace_iff.mpr open_).of_samePlace same.symm
    have equal := unique other record (stays held apart) stored liveOther live named same place
    exact apart (congrArg DriveFile.key equal)
  · rintro one two held also ⟨apart, live, parent, account⟩ ⟨apartToo, liveToo, parentToo, accountToo⟩ named
    refine unique one two (stays held apart) (stays also apartToo) live liveToo named
      ⟨parent.trans parentToo.symm, Or.inr (account.trans accountToo.symm)⟩ ?_
    intro parentId again
    rw [parent] at again
    rw [← Option.some.inj again, account]
    exact (puts.isSome_iff _ _).mpr (Or.inl rfl)

/-- Two files that were there before have different names, whether their parent was there or is the record. -/
theorem NameFree.stays_unique (free : NameFree db record) (puts : Puts record db later) (unique : NamesUnique db)
    {one two : DriveFile} (held : db.Holds one) (also : db.Holds two) (apart : one.key ≠ record.key)
    (apartToo : two.key ≠ record.key) (live : one.isTrashed = false) (liveToo : two.isTrashed = false)
    (named : one.name = two.name) (same : SamePlace one two) (place : HasPlace later one) : one = two := by
  by_cases waits : one.parentId = some record.id ∧ one.accountId = record.accountId
  · have account : two.accountId = record.accountId := by
      rcases same.2 with none_ | equal
      · rw [none_] at waits
        cases waits.1
      · exact equal.symm.trans waits.2
    exact free.waiting one two held also ⟨apart, live, waits⟩
      ⟨apartToo, liveToo, same.1.symm.trans waits.1, account⟩ named
  · refine unique one two held also live liveToo named same fun parentId parent => ?_
    rcases (puts.isSome_iff _ _).mp (place parentId parent) with own | there
    · rw [DriveFile.key, Prod.mk.injEq] at own
      rw [own.1] at parent
      exact absurd ⟨parent, own.2⟩ waits
    · exact there

/-- A stored record leaves the names unique exactly when its name is free. -/
theorem namesUnique_iff_nameFree (puts : Puts record db later) (unique : NamesUnique db) :
    NamesUnique later ↔ NameFree db record := by
  constructor
  · exact puts.nameFree
  · intro free one two held also live liveToo named same place
    rcases (puts one).mp held with here | ⟨before, apart⟩
    · rcases (puts two).mp also with there | ⟨beforeToo, apartToo⟩
      · rw [here, there]
      · rw [here] at live named same place
        exact absurd same.symm (free.apart live (puts.hasPlace_iff.mp place) two beforeToo apartToo liveToo named.symm)
    · rcases (puts two).mp also with there | ⟨beforeToo, apartToo⟩
      · rw [there] at liveToo named same
        have open_ := puts.hasPlace_iff.mp (place.of_samePlace same)
        exact absurd same (free.apart liveToo open_ one before apart live named)
      · exact free.stays_unique puts unique before beforeToo apart apartToo live liveToo named same place

/-- Where no file gets a name or a place that it did not have, the names stay unique. -/
theorem Thins.namesUnique (thins : Thins db later) (unique : NamesUnique db) : NamesUnique later := by
  have keys (fileId accountId : String) (there : (later.file fileId accountId).isSome = true) :
      (db.file fileId accountId).isSome = true := by
    rcases Option.isSome_iff_exists.mp there with ⟨file, found⟩
    rcases Database.holds_of_file found with ⟨held, sameId, sameAccount⟩
    rcases thins file held with ⟨before, heldBefore, key, _⟩
    rw [DriveFile.key, DriveFile.key, Prod.mk.injEq] at key
    rw [Database.Holds, key.1, key.2, sameId, sameAccount] at heldBefore
    exact Option.isSome_of_mem heldBefore
  intro one two held also live liveToo named same place
  rcases thins one held with ⟨first, heldFirst, firstKey, firstSame⟩
  rcases thins two also with ⟨second, heldSecond, secondKey, secondSame⟩
  rcases firstSame live with ⟨firstLive, firstName, firstParent⟩
  rcases secondSame liveToo with ⟨secondLive, secondName, secondParent⟩
  have firstAccount : first.accountId = one.accountId := congrArg Prod.snd firstKey
  have secondAccount : second.accountId = two.accountId := congrArg Prod.snd secondKey
  have equal : first = second := by
    refine unique first second heldFirst heldSecond firstLive secondLive
      (firstName.trans (named.trans secondName.symm)) ⟨?_, ?_⟩ ?_
    · rw [firstParent, secondParent, same.1]
    · rw [firstParent, firstAccount, secondAccount]
      exact same.2
    · intro parentId parent
      rw [firstAccount]
      exact keys _ _ (place parentId (firstParent.symm.trans parent))
  have sameKey : one.key = two.key := by rw [← firstKey, ← secondKey, equal]
  rw [DriveFile.key, DriveFile.key, Prod.mk.injEq] at sameKey
  rw [Database.Holds, sameKey.1, sameKey.2] at held
  exact Option.some.inj (held.symm.trans also)

theorem Thins.refl (db : Database) : Thins db db :=
  fun file held => ⟨file, held, rfl, fun live => ⟨live, rfl, rfl⟩⟩

/-- Storing a record by its key is such a step. -/
theorem puts_putFile (db : Database) (record : DriveFile) : Puts record db (db.putFile record) := by
  intro file
  rw [Database.Holds, Database.file_putFile]
  have key : file.id = record.id ∧ file.accountId = record.accountId ↔ file.key = record.key := by
    rw [DriveFile.key, DriveFile.key, Prod.mk.injEq]
  by_cases here : file.key = record.key
  · rw [if_pos (key.mpr here)]
    constructor
    · intro same
      exact Or.inl (Option.some.inj same).symm
    · rintro (same | ⟨_, other⟩)
      · rw [same]
      · exact absurd here other
  · rw [if_neg fun both => here (key.mp both)]
    constructor
    · exact fun held => Or.inr ⟨held, here⟩
    · rintro (same | ⟨held, _⟩)
      · exact absurd (congrArg DriveFile.key same) here
      · exact held

/-- Changing a row in its place stores the changed record. -/
theorem puts_changedAt {change : DriveFile → DriveFile} {keeps : ∀ file, (change file).key = file.key}
    {row : Row DriveFile} (member : row ∈ db.driveFiles.rows) :
    Puts (change row.data) db (changedAt db row.rowid change keeps) := by
  intro file
  rw [holds_iff]
  constructor
  · rintro ⟨other, stored, same⟩
    rcases mem_rows_changedAt.mp stored with ⟨before, apart⟩ | ⟨before, present, number, changed⟩
    · refine Or.inr ⟨holds_iff.mpr ⟨other, before, same⟩, ?_⟩
      rw [keeps, ← same]
      intro key
      exact apart (congrArg Row.rowid (row_eq_of_key before member key))
    · rw [row_eq_of_rowid present member number] at changed
      rw [← same, changed]
      exact Or.inl rfl
  · rintro (same | ⟨held, other⟩)
    · refine ⟨{ row with data := change row.data }, ?_, same.symm⟩
      exact mem_rows_changedAt.mpr (Or.inr ⟨row, member, rfl, rfl⟩)
    · rcases holds_iff.mp held with ⟨before, stored, same⟩
      refine ⟨before, mem_rows_changedAt.mpr (Or.inl ⟨stored, ?_⟩), same⟩
      intro number
      rw [keeps, ← same, row_eq_of_rowid stored member number] at other
      exact other rfl

/-- Rows that are stored with the names and places that they had. -/
theorem thins_of_rowsFrom {kept : DriveFile → Prop} (rows : RowsFrom kept db later) (same : ∀ file, kept file →
    ∃ before, db.Holds before ∧ before.key = file.key ∧
      (file.isTrashed = false → before.isTrashed = false ∧ before.name = file.name ∧ before.parentId = file.parentId)) :
    Thins db later := by
  intro file held
  rcases rows file.id file.accountId file held with before | stores
  · exact ⟨file, before, rfl, fun live => ⟨live, rfl, rfl⟩⟩
  · exact same file stores

end Stored

/-- A step stores its record, if it has one, and gives no other name or place. -/
def GivesNames (record : Option DriveFile) (db later : Database) : Prop :=
  match record with
  | some record => Puts record db later
  | none => Thins db later

theorem GivesNames.of_same {record : Option DriveFile} {db later other : Database}
    (same : later.driveFiles = other.driveFiles)
    (gives : GivesNames record db other) : GivesNames record db later := by
  have holds (file : DriveFile) : later.Holds file ↔ other.Holds file := by
    rw [Database.Holds, Database.Holds, Database.file, Database.file, same]
  cases record with
  | none => exact fun file held => gives file ((holds file).mp held)
  | some record => exact fun file => (holds file).trans (gives file)

end Tree
end GDriver
