import Mathlib.Data.List.Nodup

/-!
# Tables with a primary key

A table is a list of rows, each key once. An insert is refused when the key is
taken; a change applies to the row of one key and keeps it there. A table can
have a second unique index, which an insert respects as well.
-/

namespace ShieldNet

open List

structure Table {κ ν : Type} (key : ν → κ) where
  rows : List ν
  distinct : (rows.map key).Nodup

namespace Table

variable {κ ν : Type} {key : ν → κ} [DecidableEq κ]

def empty : Table key := ⟨[], nodup_nil⟩

variable (table : Table key)

def find? (k : κ) : Option ν := table.rows.find? fun row => key row = k

def insert? (row : ν) : Option (Table key) :=
  if taken : key row ∈ table.rows.map key then none
  else some {
    rows := table.rows ++ [row]
    distinct := by
      rw [map_append, map_singleton, nodup_append_comm]
      exact nodup_cons.mpr ⟨taken, table.distinct⟩ }

def modify (k : κ) (change : ν → ν)
    (keeps : ∀ row, key row = k → key (change row) = k) : Table key where
  rows := table.rows.map fun row => if key row = k then change row else row
  distinct := by
    have same : key ∘ (fun row => if key row = k then change row else row) = key := by
      funext row
      by_cases here : key row = k
      · simp [here, keeps row here]
      · simp [here]
    rw [map_map, same]
    exact table.distinct

def update (row : ν) : Table key :=
  table.modify (key row) (fun _ => row) fun _ _ => rfl

omit [DecidableEq κ] in
theorem map_key_filterMap_sublist {change : ν → Option ν}
    (keeps : ∀ row new, change row = some new → key new = key row) (rows : List ν) :
    ((rows.filterMap change).map key).Sublist (rows.map key) := by
  induction rows with
  | nil => exact .slnil
  | cons row rest ih =>
    cases changed : change row with
    | none =>
      rw [filterMap_cons_none changed]
      exact ih.cons _
    | some new =>
      rw [filterMap_cons_some changed, map_cons, keeps row new changed]
      exact ih.cons_cons _

def filterMap (change : ν → Option ν)
    (keeps : ∀ row new, change row = some new → key new = key row) : Table key where
  rows := table.rows.filterMap change
  distinct := (map_key_filterMap_sublist keeps table.rows).nodup table.distinct

variable {table stored : Table key} {k other : κ} {row found : ν}

/-- Among rows with distinct keys, the row of a key is the one that is found. -/
theorem find?_key_eq_some_iff {rows : List ν} (distinct : (rows.map key).Nodup) :
    rows.find? (fun row => key row = k) = some row ↔ row ∈ rows ∧ key row = k := by
  constructor
  · intro found
    exact ⟨mem_of_find?_eq_some found, by simpa using find?_some found⟩
  · rintro ⟨member, rfl⟩
    obtain ⟨first, found⟩ : ∃ first, rows.find? (fun other => key other = key row) = some first :=
      Option.isSome_iff_exists.mp (find?_isSome.mpr ⟨row, member, by simp⟩)
    have same : first = row :=
      inj_on_of_nodup_map distinct (mem_of_find?_eq_some found) member
        (by simpa using find?_some found)
    rw [found, same]

theorem find?_eq_some_iff : table.find? k = some row ↔ row ∈ table.rows ∧ key row = k :=
  find?_key_eq_some_iff table.distinct

theorem find?_eq_none_iff : table.find? k = none ↔ k ∉ table.rows.map key := by
  simp [find?]

section

variable (inserted : table.insert? row = some stored)

include inserted

theorem mem_rows_insert? : key row ∉ table.rows.map key ∧ stored.rows = table.rows ++ [row] := by
  unfold insert? at inserted
  split at inserted
  case isTrue => cases inserted
  case isFalse fresh =>
    cases inserted
    exact ⟨fresh, rfl⟩

theorem find?_insert? : stored.find? k = if k = key row then some row else table.find? k := by
  obtain ⟨fresh, rows⟩ := mem_rows_insert? inserted
  split
  case isTrue same =>
    exact find?_eq_some_iff.mpr ⟨by simp [rows], same.symm⟩
  case isFalse differs =>
    simp [find?, rows, find?_append, Ne.symm differs]

theorem find?_of_insert? (isThere : table.find? k = some found) : stored.find? k = some found := by
  rw [find?_insert? inserted, if_neg, isThere]
  rintro rfl
  rw [find?_eq_none_iff.mpr (mem_rows_insert? inserted).1] at isThere
  cases isThere

end

variable {change : ν → ν} {keeps : ∀ row, key row = k → key (change row) = k}

theorem find?_modify : (table.modify k change keeps).find? other =
    if other = k then (table.find? k).map change else table.find? other := by
  have keyed : ∀ row, key (if key row = k then change row else row) = key row := by
    intro row
    split
    case isTrue here => rw [keeps row here, here]
    case isFalse => rfl
  have changed : (table.modify k change keeps).find? other =
      (table.find? other).map fun row => if key row = k then change row else row := by
    rw [find?, modify, find?_map]
    simp only [Function.comp_def, keyed]
    rfl
  rw [changed]
  cases found : table.find? other with
  | none =>
    split
    case isTrue same => rw [← same, found, Option.map_none, Option.map_none]
    case isFalse => rfl
  | some row =>
    have here := (find?_eq_some_iff.mp found).2
    split
    case isTrue same => simp [← same, found, here]
    case isFalse differs => simp [here, differs]

theorem find?_filterMap {change : ν → Option ν}
    {keeps : ∀ row new, change row = some new → key new = key row} :
    (table.filterMap change keeps).find? k = (table.find? k).bind change := by
  apply Option.ext
  intro new
  rw [find?_eq_some_iff, Option.bind_eq_some_iff]
  constructor
  · rintro ⟨listed, rfl⟩
    obtain ⟨old, oldListed, changed⟩ := mem_filterMap.mp listed
    exact ⟨old, find?_eq_some_iff.mpr ⟨oldListed, (keeps old new changed).symm⟩, changed⟩
  · rintro ⟨old, isThere, changed⟩
    obtain ⟨listed, rfl⟩ := find?_eq_some_iff.mp isThere
    exact ⟨mem_filterMap.mpr ⟨old, listed, changed⟩, keeps old new changed⟩

theorem isSome_find?_of_insert? (inserted : table.insert? row = some stored)
    (isThere : (table.find? k).isSome) : (stored.find? k).isSome := by
  obtain ⟨found, isThere⟩ := Option.isSome_iff_exists.mp isThere
  rw [find?_of_insert? inserted isThere]
  rfl

theorem isSome_find?_modify :
    ((table.modify k change keeps).find? other).isSome = (table.find? other).isSome := by
  rw [find?_modify]
  split
  case isTrue same => rw [same, Option.isSome_map]
  case isFalse => rfl

theorem mem_modify : row ∈ (table.modify k change keeps).rows ↔
    ∃ old ∈ table.rows, (if key old = k then change old else old) = row :=
  mem_map

theorem mem_update {old : ν} : old ∈ (table.update row).rows ↔
    ∃ before ∈ table.rows, (if key before = key row then row else before) = old :=
  mem_map

/-! ## A second unique index -/

variable {μ : Type} (index : ν → μ)

def UniqueOn (index : ν → μ) (rows : List ν) : Prop :=
  ∀ first ∈ rows, ∀ second ∈ rows, index first = index second → first = second

variable {index}

theorem UniqueOn.modify (unique : UniqueOn index table.rows)
    (indexed : ∀ row, index (change row) = index row) :
    UniqueOn index (table.modify k change keeps).rows := by
  intro first firstListed second secondListed same
  obtain ⟨old, listed, rfl⟩ := mem_modify.mp firstListed
  obtain ⟨old', listed', rfl⟩ := mem_modify.mp secondListed
  have kept : ∀ row, index (if key row = k then change row else row) = index row := by
    intro row
    split
    case isTrue => exact indexed row
    case isFalse => rfl
  rw [kept, kept] at same
  rw [unique old listed old' listed' same]

variable (index) [DecidableEq μ]

/-- An insert that a second unique index may refuse. -/
def insertUnique? (table : Table key) (row : ν) : Option (Table key) :=
  if index row ∈ table.rows.map index then none else table.insert? row

variable {index}

theorem insertUnique?_eq_some_iff : table.insertUnique? index row = some stored ↔
    index row ∉ table.rows.map index ∧ table.insert? row = some stored :=
  Option.ite_none_left_eq_some

theorem UniqueOn.insertUnique? (unique : UniqueOn index table.rows)
    (inserted : table.insertUnique? index row = some stored) : UniqueOn index stored.rows := by
  obtain ⟨free, inserted⟩ := insertUnique?_eq_some_iff.mp inserted
  rw [(mem_rows_insert? inserted).2]
  intro first firstListed second secondListed same
  rcases mem_append.mp firstListed with old | new
  · rcases mem_append.mp secondListed with old' | new'
    · exact unique first old second old' same
    · rw [mem_singleton.mp new'] at same
      exact absurd (mem_map.mpr ⟨first, old, same⟩) free
  · rw [mem_singleton.mp new] at same ⊢
    rcases mem_append.mp secondListed with old' | new'
    · exact absurd (mem_map.mpr ⟨second, old', same.symm⟩) free
    · exact (mem_singleton.mp new').symm

end Table
end ShieldNet
