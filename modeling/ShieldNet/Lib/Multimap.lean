import ShieldNet.Lib.Assoc

/-!
# Maps to sets

A map from keys to sets of values, as an index keeps one. A key whose set is empty has no
entry, and no value is listed twice under a key.
-/

namespace ShieldNet

open Assoc

structure Multimap (κ ν : Type) [DecidableEq κ] where
  sets : Assoc κ (List ν)
  filled : ∀ key values, sets.get? key = some values → values ≠ [] ∧ values.Nodup

namespace Multimap

variable {κ ν : Type} [DecidableEq κ] [DecidableEq ν]

def empty : Multimap κ ν := ⟨.empty, by simp⟩

variable (map : Multimap κ ν)

def members (key : κ) : List ν := (map.sets.get? key).getD []

omit [DecidableEq ν] in
theorem nodup_members (key : κ) : (map.members key).Nodup := by
  rw [members]
  cases found : map.sets.get? key with
  | none => exact List.nodup_nil
  | some values => exact (map.filled key values found).2

def add (key : κ) (value : ν) : Multimap κ ν where
  sets := map.sets.set key ((map.members key).insert value)
  filled := by
    intro other values found
    rw [get?_set] at found
    split at found
    case isTrue =>
      cases found
      exact ⟨List.ne_nil_of_mem List.mem_insert_self, (map.nodup_members key).insert⟩
    case isFalse => exact map.filled other values found

/-- The map with a value less under a key. The last value of a key takes its entry with
it. -/
def drop (key : κ) (value : ν) : Multimap κ ν :=
  if emptied : (map.members key).erase value = [] then
    { sets := map.sets.erase key
      filled := by
        intro other values found
        rw [get?_erase] at found
        split at found
        case isTrue => cases found
        case isFalse => exact map.filled other values found }
  else
    { sets := map.sets.set key ((map.members key).erase value)
      filled := by
        intro other values found
        rw [get?_set] at found
        split at found
        case isTrue =>
          cases found
          exact ⟨emptied, (map.nodup_members key).erase value⟩
        case isFalse => exact map.filled other values found }

variable {map : Multimap κ ν} {key other : κ} {value listed : ν}

theorem members_add : (map.add key value).members other =
    if other = key then (map.members key).insert value else map.members other := by
  rw [members, add, get?_set]
  split <;> rfl

theorem members_drop : (map.drop key value).members other =
    if other = key then (map.members key).erase value else map.members other := by
  rw [drop]
  split
  case isTrue emptied =>
    rw [members, get?_erase]
    split
    case isTrue => exact emptied.symm
    case isFalse => rfl
  rw [members, get?_set]
  split <;> rfl

theorem mem_members_add : listed ∈ (map.add key value).members other ↔
    (other = key ∧ listed = value) ∨ listed ∈ map.members other := by
  rw [members_add]
  split
  case isTrue same => simp [same]
  case isFalse differs => simp [differs]

theorem mem_members_drop : listed ∈ (map.drop key value).members other ↔
    listed ∈ map.members other ∧ ¬ (other = key ∧ listed = value) := by
  rw [members_drop]
  split
  case isTrue same =>
    rw [(map.nodup_members key).mem_erase_iff, same]
    simp [and_comm]
  case isFalse differs => simp [differs]

end Multimap
end ShieldNet
