import Mathlib.Data.List.Nodup
import Mathlib.Data.List.Pairwise

namespace GDriver
namespace Library

universe u v

/-!
# Stored tables

A stored table is a list of numbered records in ascending row number, which
is also the order in which a scan without a sort meets them.  The number is
given when a record is inserted and never changes while the record stays.

A keyed table has in addition a primary key: no two records share it, so a
lookup by key finds the only candidate.  The proof of that is carried by the
structure, and every operation below rebuilds it.  An upsert replaces the
record with the same key in place, keeping its row number, or appends.

Nothing here mentions what is stored.  The lemmas are the ones a reader of a
keyed table needs: what a lookup sees after each operation.
-/

/-- One stored record with the number the table gave it. -/
structure Row (ρ : Type u) where
  rowid : Nat
  data : ρ
  deriving DecidableEq, Repr

/-- Numbered records in ascending row number. -/
structure Table (ρ : Type u) where
  rows : List (Row ρ)
  ascending : rows.Pairwise (fun earlier later => earlier.rowid < later.rowid)

namespace Table

variable {ρ : Type u}

def empty : Table ρ where
  rows := []
  ascending := List.Pairwise.nil

/-- The records in scan order, without their row numbers. -/
def records (table : Table ρ) : List ρ :=
  table.rows.map Row.data

/-- The largest row number in use, or zero. -/
def lastRowid (table : Table ρ) : Nat :=
  table.rows.foldr (fun row bound => max row.rowid bound) 0

theorem rowid_le_lastRowid (table : Table ρ) (row : Row ρ) (member : row ∈ table.rows) :
    row.rowid ≤ table.lastRowid := by
  unfold lastRowid
  generalize table.rows = rows at member
  induction rows with
  | nil => cases member
  | cons head rest inductionHypothesis =>
      simp only [List.foldr_cons]
      rcases List.mem_cons.mp member with same | later
      · subst same
        exact Nat.le_max_left _ _
      · exact Nat.le_trans (inductionHypothesis later) (Nat.le_max_right _ _)

/-- The number the next inserted record gets. -/
def nextRowid (table : Table ρ) : Nat :=
  table.lastRowid + 1

/-- Append a record under a fresh row number. -/
def insert (table : Table ρ) (record : ρ) : Table ρ where
  rows := table.rows ++ [⟨table.nextRowid, record⟩]
  ascending := by
    apply List.pairwise_append.mpr
    refine ⟨table.ascending, List.pairwise_singleton _ _, ?_⟩
    intro earlier member later last
    rw [List.mem_singleton.mp last]
    exact Nat.lt_succ_of_le (table.rowid_le_lastRowid earlier member)

/-- Change every selected record, leaving row numbers and order alone. -/
def update (table : Table ρ) (selected : Row ρ → Bool) (change : ρ → ρ) : Table ρ where
  rows := table.rows.map fun row =>
    if selected row then { row with data := change row.data } else row
  ascending := by
    apply List.pairwise_map.mpr
    refine table.ascending.imp ?_
    intro earlier later ordered
    split <;> split <;> exact ordered

/-- Drop every selected record. -/
def delete (table : Table ρ) (selected : ρ → Bool) : Table ρ where
  rows := table.rows.filter fun row => !selected row.data
  ascending := table.ascending.filter _

/-- The first row of the scan that satisfies the condition. -/
def findRow? (table : Table ρ) (condition : Row ρ → Bool) : Option (Row ρ) :=
  table.rows.find? condition

theorem of_findRow?_eq_some {table : Table ρ} {condition : Row ρ → Bool} {row : Row ρ}
    (found : table.findRow? condition = some row) : row ∈ table.rows ∧ condition row = true :=
  ⟨List.mem_of_find?_eq_some found, List.find?_some found⟩

/-- The row with this number. -/
def rowAt (table : Table ρ) (rowid : Nat) : Option (Row ρ) :=
  table.findRow? fun row => row.rowid = rowid

@[simp] theorem rows_insert (table : Table ρ) (record : ρ) :
    (table.insert record).rows = table.rows ++ [⟨table.nextRowid, record⟩] := rfl

@[simp] theorem rows_update (table : Table ρ) (selected : Row ρ → Bool) (change : ρ → ρ) :
    (table.update selected change).rows = table.rows.map fun row =>
      if selected row then { row with data := change row.data } else row := rfl

@[simp] theorem rows_delete (table : Table ρ) (selected : ρ → Bool) :
    (table.delete selected).rows = table.rows.filter fun row => !selected row.data := rfl

theorem rowid_of_rowAt {table : Table ρ} {rowid : Nat} {row : Row ρ}
    (found : table.rowAt rowid = some row) : row.rowid = rowid :=
  of_decide_eq_true (of_findRow?_eq_some found).2

/-- Row numbers tell the rows apart. -/
theorem rowAt_of_mem {table : Table ρ} {row : Row ρ} (member : row ∈ table.rows) :
    table.rowAt row.rowid = some row := by
  cases found : table.rowAt row.rowid with
  | none =>
      have absent := List.find?_eq_none.mp found row member
      exact absurd (decide_eq_true rfl) absent
  | some other =>
      have distinct : (table.rows.map Row.rowid).Nodup :=
        List.pairwise_map.mpr (table.ascending.imp Nat.ne_of_lt)
      have stored := (of_findRow?_eq_some found).1
      rw [List.inj_on_of_nodup_map distinct stored member (rowid_of_rowAt found)]

/-- What a scan finds first is the row with the smallest number. -/
theorem findRow?_eq_some_iff {table : Table ρ} {condition : Row ρ → Bool} {row : Row ρ} :
    table.findRow? condition = some row ↔
      row ∈ table.rows ∧ condition row = true ∧
        ∀ other ∈ table.rows, other.rowid < row.rowid → condition other = false := by
  have first {row : Row ρ} (found : table.findRow? condition = some row) (other : Row ρ)
      (member : other ∈ table.rows) (before : other.rowid < row.rowid) : condition other = false := by
    rcases List.find?_eq_some_iff_append.mp found with ⟨_, earlier, later, split, none⟩
    rw [split] at member
    rcases List.mem_append.mp member with early | late
    · exact Bool.not_eq_true' _ ▸ none other early
    · have ascending := table.ascending
      rw [split] at ascending
      have after := (List.pairwise_append.mp ascending).2.1
      rcases List.mem_cons.mp late with same | behind
      · rw [same] at before
        exact absurd before (Nat.lt_irrefl _)
      · exact absurd (List.rel_of_pairwise_cons after behind) (Nat.lt_asymm before)
  constructor
  · intro found
    exact ⟨(of_findRow?_eq_some found).1, (of_findRow?_eq_some found).2, first found⟩
  · rintro ⟨member, holds, none⟩
    cases found : table.findRow? condition with
    | none => exact absurd holds (List.find?_eq_none.mp found row member)
    | some other =>
        rcases of_findRow?_eq_some found with ⟨stored, holdsToo⟩
        rcases Nat.lt_trichotomy other.rowid row.rowid with before | same | after
        · rw [none other stored before] at holdsToo
          cases holdsToo
        · have here := rowAt_of_mem stored
          rw [same, rowAt_of_mem member] at here
          rw [Option.some.inj here]
        · rw [first found row member after] at holds
          cases holds

/-- A row that is there stays when another is inserted. -/
theorem rowAt_insert_of_some {table : Table ρ} {rowid : Nat} {row : Row ρ}
    (found : table.rowAt rowid = some row) (record : ρ) :
    (table.insert record).rowAt rowid = some row := by
  simp only [rowAt, findRow?, rows_insert, List.find?_append] at found ⊢
  rw [found, Option.some_or]

/-- No row has the next number. -/
theorem rowAt_nextRowid (table : Table ρ) : table.rowAt table.nextRowid = none := by
  refine List.find?_eq_none.mpr fun row member same => ?_
  have bound := table.rowid_le_lastRowid row member
  have number := of_decide_eq_true same
  simp only [nextRowid] at number
  omega

/-- The inserted record gets the next number. -/
theorem rowAt_insert_nextRowid (table : Table ρ) (record : ρ) :
    (table.insert record).rowAt table.nextRowid = some ⟨table.nextRowid, record⟩ := by
  have absent := rowAt_nextRowid table
  simp only [rowAt, findRow?, rows_insert, List.find?_append] at absent ⊢
  rw [absent, Option.none_or]
  exact List.find?_cons_of_pos (decide_eq_true rfl)

/-- An update is seen at each number by itself. -/
theorem rowAt_update (table : Table ρ) (selected : Row ρ → Bool) (change : ρ → ρ) (rowid : Nat) :
    (table.update selected change).rowAt rowid =
      (table.rowAt rowid).map fun row =>
        if selected row then { row with data := change row.data } else row := by
  simp only [rowAt, findRow?, rows_update, List.find?_map]
  congr 2
  funext row
  simp only [Function.comp_apply]
  split <;> rfl

end Table

/-- A table whose records are told apart by a primary key. -/
structure KeyedTable {ρ : Type u} {κ : Type v} (key : ρ → κ) extends Table ρ where
  unique : (rows.map fun row => key row.data).Nodup

namespace KeyedTable

variable {ρ : Type u} {κ : Type v} {key : ρ → κ}

def empty : KeyedTable key where
  toTable := Table.empty
  unique := List.nodup_nil

/-- Tables with the same rows are the same. -/
theorem ext_rows {table other : KeyedTable key} (same : table.rows = other.rows) : table = other := by
  rcases table with ⟨⟨rows, _⟩, _⟩
  rcases other with ⟨⟨others, _⟩, _⟩
  cases same
  rfl

variable [DecidableEq κ]

/-- The row stored under a key, with its row number. -/
def lookupRow (table : KeyedTable key) (wanted : κ) : Option (Row ρ) :=
  table.findRow? fun row => key row.data = wanted

/-- The record stored under a key. -/
def lookup (table : KeyedTable key) (wanted : κ) : Option ρ :=
  (table.lookupRow wanted).map Row.data

/-- With unique keys, the row found under a key is the only one carrying it. -/
theorem lookupRow_eq_some_iff (table : KeyedTable key) (wanted : κ) (row : Row ρ) :
    table.lookupRow wanted = some row ↔ row ∈ table.rows ∧ key row.data = wanted := by
  constructor
  · intro found
    rcases Table.of_findRow?_eq_some found with ⟨member, holds⟩
    exact ⟨member, of_decide_eq_true holds⟩
  · rintro ⟨member, same⟩
    cases found : table.lookupRow wanted with
    | none =>
        have absent := List.find?_eq_none.mp found row member
        exact absurd (decide_eq_true same) absent
    | some other =>
        rcases Table.of_findRow?_eq_some found with ⟨stored, holds⟩
        have agree := (of_decide_eq_true holds).trans same.symm
        rw [List.inj_on_of_nodup_map table.unique stored member agree]

theorem lookup_eq_some_iff (table : KeyedTable key) (wanted : κ) (record : ρ) :
    table.lookup wanted = some record ↔ record ∈ table.records ∧ key record = wanted := by
  unfold lookup Table.records
  constructor
  · intro found
    rcases Option.map_eq_some_iff.mp found with ⟨row, rowFound, same⟩
    rcases (table.lookupRow_eq_some_iff wanted row).mp rowFound with ⟨member, named⟩
    subst same
    exact ⟨List.mem_map_of_mem member, named⟩
  · rintro ⟨member, named⟩
    rcases List.mem_map.mp member with ⟨row, stored, same⟩
    subst same
    rw [(table.lookupRow_eq_some_iff wanted row).mpr ⟨stored, named⟩]
    rfl

theorem mem_records_iff (table : KeyedTable key) (record : ρ) :
    record ∈ table.records ↔ table.lookup (key record) = some record := by
  rw [lookup_eq_some_iff]
  exact ⟨fun member => ⟨member, rfl⟩, fun both => both.1⟩

omit [DecidableEq κ] in
theorem nodup_records (table : KeyedTable key) : table.records.Nodup := by
  have keyed : (table.records.map key).Nodup := by
    unfold Table.records
    rw [List.map_map]
    exact table.unique
  exact keyed.of_map

/-- Two tables that agree on every lookup hold the same records. -/
theorem records_perm_of_lookup {table other : KeyedTable key}
    (agree : ∀ wanted, table.lookup wanted = other.lookup wanted) :
    table.records.Perm other.records := by
  apply (List.perm_ext_iff_of_nodup table.nodup_records other.nodup_records).mpr
  intro record
  rw [mem_records_iff, mem_records_iff, agree]

theorem key_of_lookup {table : KeyedTable key} {wanted : κ} {record : ρ}
    (found : table.lookup wanted = some record) : key record = wanted :=
  ((table.lookup_eq_some_iff wanted record).mp found).2

/-- Change every selected record without touching its key. -/
def update (table : KeyedTable key) (selected : Row ρ → Bool) (change : ρ → ρ)
    (keeps : ∀ record, key (change record) = key record) : KeyedTable key where
  toTable := table.toTable.update selected change
  unique := by
    have same : ((table.toTable.update selected change).rows.map fun row => key row.data) =
        table.rows.map fun row => key row.data := by
      simp only [Table.rows_update, List.map_map]
      apply List.map_congr_left
      intro row _
      simp only [Function.comp_apply]
      split
      · exact keeps row.data
      · rfl
    rw [same]
    exact table.unique

omit [DecidableEq κ] in
/-- An update for which no row is selected does nothing. -/
theorem update_of_none {table : KeyedTable key} {selected : Row ρ → Bool} {change : ρ → ρ}
    {keeps : ∀ record, key (change record) = key record} (none_ : ∀ row ∈ table.rows, selected row = false) :
    table.update selected change keeps = table := by
  rcases table with ⟨⟨rows, ascending⟩, unique⟩
  rw [update, KeyedTable.mk.injEq, Table.update, Table.mk.injEq]
  refine (List.map_congr_left fun row member => ?_).trans (List.map_id rows)
  rw [none_ row member]
  rfl

/-- Drop every selected record. -/
def delete (table : KeyedTable key) (selected : ρ → Bool) : KeyedTable key where
  toTable := table.toTable.delete selected
  unique := (List.filter_sublist.map _).nodup table.unique

/-- Append a record with a new key under a number of its own, which is at least the given one. -/
def insertNumbered (table : KeyedTable key) (number : Nat) (record : ρ)
    (absent : ∀ row ∈ table.rows, key row.data ≠ key record) : KeyedTable key where
  rows := table.rows ++ [⟨max number table.nextRowid, record⟩]
  ascending := by
    apply List.pairwise_append.mpr
    refine ⟨table.ascending, List.pairwise_singleton _ _, ?_⟩
    intro earlier member later last
    rw [List.mem_singleton.mp last]
    have bound := Nat.lt_succ_of_le (table.rowid_le_lastRowid earlier member)
    exact Nat.lt_of_lt_of_le bound (Nat.le_max_right _ _)
  unique := by
    rw [List.map_append, List.map_cons, List.map_nil]
    apply List.nodup_append.mpr
    refine ⟨table.unique, List.nodup_singleton _, ?_⟩
    intro earlier member later last
    rcases List.mem_map.mp member with ⟨row, stored, same⟩
    rw [List.mem_singleton.mp last, ← same]
    exact absent row stored

/-- Replace the record with the same key in place, or append a new row. -/
def upsert (table : KeyedTable key) (record : ρ) : KeyedTable key :=
  if absent : ∀ row ∈ table.rows, key row.data ≠ key record then
    { toTable := table.toTable.insert record
      unique := by
        simp only [Table.rows_insert, List.map_append, List.map_cons, List.map_nil]
        apply List.nodup_append.mpr
        refine ⟨table.unique, List.nodup_singleton _, ?_⟩
        intro earlier member later last
        rcases List.mem_map.mp member with ⟨row, stored, same⟩
        rw [List.mem_singleton.mp last, ← same]
        exact absent row stored }
  else
    { toTable := table.toTable.update (fun row => key row.data = key record) (fun _ => record)
      unique := by
        have same : ((table.toTable.update (fun row => key row.data = key record)
              (fun _ => record)).rows.map fun row => key row.data) =
            table.rows.map fun row => key row.data := by
          simp only [Table.rows_update, List.map_map]
          apply List.map_congr_left
          intro row _
          simp only [Function.comp_apply, decide_eq_true_eq]
          split
          · exact Eq.symm (by assumption)
          · rfl
        rw [same]
        exact table.unique }

/-- A scan-order update is seen by a lookup as the change of the one record
under that key, when that record is selected. -/
theorem lookupRow_update (table : KeyedTable key) (selected : Row ρ → Bool) (change : ρ → ρ)
    (keeps : ∀ record, key (change record) = key record) (wanted : κ) :
    (table.update selected change keeps).lookupRow wanted =
      (table.lookupRow wanted).map fun row =>
        if selected row then { row with data := change row.data } else row := by
  unfold lookupRow Table.findRow? update
  simp only [Table.rows_update, List.find?_map]
  congr 2
  funext row
  simp only [Function.comp_apply]
  split <;> simp only [keeps]

/-- Change the record under one key without touching the key. -/
def updateAt (table : KeyedTable key) (place : κ) (change : ρ → ρ)
    (keeps : ∀ record, key (change record) = key record) : KeyedTable key :=
  table.update (fun row => key row.data = place) change keeps

theorem lookupRow_updateAt_self (table : KeyedTable key) (place : κ) (change : ρ → ρ)
    (keeps : ∀ record, key (change record) = key record) :
    (table.updateAt place change keeps).lookupRow place =
      (table.lookupRow place).map fun row => { row with data := change row.data } := by
  unfold updateAt
  rw [lookupRow_update]
  apply Option.map_congr
  intro row found
  rw [if_pos (decide_eq_true ((table.lookupRow_eq_some_iff place row).mp found).2)]

theorem lookupRow_updateAt_of_ne (table : KeyedTable key) {place wanted : κ} (change : ρ → ρ)
    (keeps : ∀ record, key (change record) = key record) (different : wanted ≠ place) :
    (table.updateAt place change keeps).lookupRow wanted = table.lookupRow wanted := by
  unfold updateAt
  rw [lookupRow_update]
  refine (Option.map_congr ?_).trans (congrFun Option.map_id _)
  intro row found
  rw [if_neg]
  · rfl
  · intro selected
    have same := ((table.lookupRow_eq_some_iff wanted row).mp found).2
    exact different (same.symm.trans (of_decide_eq_true selected))

theorem lookup_updateAt (table : KeyedTable key) (place : κ) (change : ρ → ρ)
    (keeps : ∀ record, key (change record) = key record) (wanted : κ) :
    (table.updateAt place change keeps).lookup wanted =
      if wanted = place then (table.lookup wanted).map change else table.lookup wanted := by
  unfold lookup
  split
  · rename_i same
    rw [same, lookupRow_updateAt_self, Option.map_map, Option.map_map]
    rfl
  · rename_i different
    rw [lookupRow_updateAt_of_ne table change keeps different]

/-- Changing the record under a key changes nothing exactly when it is as it would become. -/
theorem updateAt_eq_self_iff (table : KeyedTable key) (place : κ) (change : ρ → ρ)
    (keeps : ∀ record, key (change record) = key record) :
    table.updateAt place change keeps = table ↔
      ∀ record, table.lookup place = some record → change record = record := by
  constructor
  · intro same record found
    have seen := lookup_updateAt table place change keeps place
    rw [same, if_pos rfl, found] at seen
    exact (Option.some.inj seen).symm
  · intro settled
    have rows : (table.updateAt place change keeps).rows = table.rows := by
      refine (List.map_congr_left fun row member => ?_).trans (List.map_id _)
      simp only [decide_eq_true_eq, id_eq]
      split
      · next here =>
          have found := (table.lookupRow_eq_some_iff place row).mpr ⟨member, here⟩
          rw [settled row.data (congrArg (Option.map Row.data) found)]
      · rfl
    exact ext_rows rows

theorem lookupRow_delete (table : KeyedTable key) (selected : ρ → Bool) (wanted : κ) :
    (table.delete selected).lookupRow wanted =
      (table.lookupRow wanted).filter fun row => !selected row.data := by
  apply Option.ext
  intro row
  rw [lookupRow_eq_some_iff, Option.filter_eq_some_iff, lookupRow_eq_some_iff]
  simp only [delete, Table.rows_delete, List.mem_filter]
  constructor
  · rintro ⟨⟨member, kept⟩, same⟩
    exact ⟨⟨member, same⟩, kept⟩
  · rintro ⟨⟨member, same⟩, kept⟩
    exact ⟨⟨member, kept⟩, same⟩

theorem lookupRow_eq_none_iff (table : KeyedTable key) (wanted : κ) :
    table.lookupRow wanted = none ↔ ∀ row ∈ table.rows, key row.data ≠ wanted := by
  unfold lookupRow Table.findRow?
  rw [List.find?_eq_none]
  simp only [decide_eq_true_eq, ne_eq]

/-- After an upsert the key of the new record leads to that record, under
the row number its predecessor had or under a fresh one. -/
theorem lookupRow_upsert_self (table : KeyedTable key) (record : ρ) :
    (table.upsert record).lookupRow (key record) =
      some ⟨((table.lookupRow (key record)).map Row.rowid).getD table.nextRowid, record⟩ := by
  rw [lookupRow_eq_some_iff]
  refine ⟨?_, rfl⟩
  unfold upsert
  split
  · rename_i absent
    rw [(table.lookupRow_eq_none_iff (key record)).mpr absent]
    exact List.mem_append_right _ List.mem_cons_self
  · rename_i present
    cases found : table.lookupRow (key record) with
    | none => exact absurd ((table.lookupRow_eq_none_iff (key record)).mp found) present
    | some row =>
        rcases (table.lookupRow_eq_some_iff _ row).mp found with ⟨member, same⟩
        refine List.mem_map.mpr ⟨row, member, ?_⟩
        rw [if_pos (decide_eq_true same)]
        rfl

/-- An upsert is invisible under every other key. -/
theorem lookupRow_upsert_of_ne (table : KeyedTable key) (record : ρ) {wanted : κ}
    (different : wanted ≠ key record) :
    (table.upsert record).lookupRow wanted = table.lookupRow wanted := by
  apply Option.ext
  intro row
  rw [lookupRow_eq_some_iff, lookupRow_eq_some_iff]
  unfold upsert
  split
  · simp only [Table.rows_insert, List.mem_append, List.mem_singleton]
    constructor
    · rintro ⟨stored | fresh, same⟩
      · exact ⟨stored, same⟩
      · subst fresh
        exact absurd same.symm different
    · rintro ⟨stored, same⟩
      exact ⟨Or.inl stored, same⟩
  · simp only [Table.rows_update, List.mem_map, decide_eq_true_eq]
    constructor
    · rintro ⟨⟨before, stored, changed⟩, same⟩
      split at changed
      · subst changed
        exact absurd same.symm different
      · subst changed
        exact ⟨stored, same⟩
    · rintro ⟨stored, same⟩
      refine ⟨⟨row, stored, ?_⟩, same⟩
      rw [if_neg]
      intro clash
      exact different (same.symm.trans clash)

theorem lookup_upsert (table : KeyedTable key) (record : ρ) (wanted : κ) :
    (table.upsert record).lookup wanted =
      if wanted = key record then some record else table.lookup wanted := by
  unfold lookup
  split
  · rename_i same
    rw [same, lookupRow_upsert_self]
    rfl
  · rename_i different
    rw [lookupRow_upsert_of_ne table record different]

@[simp] theorem lookup_upsert_self (table : KeyedTable key) (record : ρ) :
    (table.upsert record).lookup (key record) = some record := by
  rw [lookup_upsert, if_pos rfl]

theorem lookup_upsert_of_ne (table : KeyedTable key) (record : ρ) {wanted : κ}
    (different : wanted ≠ key record) :
    (table.upsert record).lookup wanted = table.lookup wanted := by
  rw [lookup_upsert, if_neg different]

/-- The records after an upsert: the new one, and the old ones under other keys. -/
theorem mem_records_upsert (table : KeyedTable key) (record other : ρ) :
    other ∈ (table.upsert record).records ↔
      other = record ∨ (other ∈ table.records ∧ key other ≠ key record) := by
  rw [mem_records_iff, lookup_upsert, mem_records_iff]
  split
  · rename_i same
    constructor
    · intro found
      exact Or.inl (Option.some.inj found).symm
    · rintro (equal | ⟨_, different⟩)
      · rw [equal]
      · exact absurd same different
  · rename_i different
    constructor
    · intro found
      exact Or.inr ⟨found, different⟩
    · rintro (equal | ⟨found, _⟩)
      · exact absurd (congrArg key equal) different
      · exact found

/-- An upsert under a key that is there changes the record under it. -/
theorem rows_upsert_of_mem {table : KeyedTable key} {stored record : ρ} (member : stored ∈ table.records)
    (same : key stored = key record) :
    (table.upsert record).rows = table.rows.map fun row =>
      if key row.data = key record then { row with data := record } else row := by
  have present : ¬ ∀ row ∈ table.rows, key row.data ≠ key record := by
    intro absent
    rcases List.mem_map.mp member with ⟨row, inside, its⟩
    apply absent row inside
    rw [its, same]
  rw [upsert, dif_neg present, Table.rows_update]
  apply List.map_congr_left
  intro row _
  simp only [decide_eq_true_eq]

/-- Records of one key are one record. -/
theorem eq_of_key {table : KeyedTable key} {record other : ρ} (member : record ∈ table.records)
    (there : other ∈ table.records) (same : key record = key other) : record = other := by
  have found := (table.mem_records_iff record).mp member
  rw [same, (table.mem_records_iff other).mp there] at found
  exact (Option.some.inj found).symm

/-- Upserting the changed records of a list, one after the other, is an update of the table. -/
theorem foldl_upsert_map [DecidableEq ρ] {change : ρ → ρ} (keeps : ∀ record, key (change record) = key record)
    {listed : List ρ} (distinct : (listed.map key).Nodup) {table : KeyedTable key}
    (stored : ∀ record ∈ listed, record ∈ table.records) :
    (listed.map change).foldl upsert table = table.update (fun row => row.data ∈ listed) change keeps := by
  induction listed generalizing table with
  | nil =>
      apply ext_rows
      exact (List.map_id _).symm.trans (List.map_congr_left fun row _ => by simp)
  | cons record rest inductionHypothesis =>
      have parts := List.nodup_cons.mp distinct
      have member := stored record List.mem_cons_self
      have apart : ∀ other ∈ rest, key other ≠ key record := by
        intro other inside same
        apply parts.1
        rw [← same]
        exact List.mem_map_of_mem inside
      have later : ∀ other ∈ rest, other ∈ (table.upsert (change record)).records := by
        intro other inside
        apply (mem_records_upsert table (change record) other).mpr
        rw [keeps]
        exact Or.inr ⟨stored other (List.mem_cons_of_mem record inside), apart other inside⟩
      rw [List.map_cons, List.foldl_cons, inductionHypothesis parts.2 later]
      apply ext_rows
      change (table.upsert (change record)).rows.map _ = table.rows.map _
      rw [rows_upsert_of_mem member (keeps record).symm, List.map_map]
      apply List.map_congr_left
      intro row inside
      simp only [Function.comp_apply, keeps, decide_eq_true_eq, List.mem_cons]
      by_cases here : key row.data = key record
      · have itself : row.data = record := eq_of_key (List.mem_map_of_mem inside) member here
        have changed : change record ∉ rest := fun again => apart _ again (keeps record)
        rw [if_pos here, if_neg changed, if_pos (Or.inl itself), itself]
      · have other : row.data ≠ record := by
          intro itself
          rw [itself] at here
          exact here rfl
        rw [if_neg here]
        simp only [other, false_or]

end KeyedTable
end Library
end GDriver
