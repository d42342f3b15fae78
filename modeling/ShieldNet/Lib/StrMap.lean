import Mathlib.Data.String.Basic

/-!
# Finite maps with string keys

A map is a member list in strictly increasing key order, so two maps with the
same entries are equal and walking a map visits its keys sorted. Inserting
under a key that is present replaces the value (`StrMap.insert`), and a member
list with repeated keys becomes the map of its last values
(`StrMap.ofMembers`).
-/

namespace ShieldNet

open List

structure StrMap (α : Type) where
  entries : List (String × α)
  sorted : entries.Pairwise fun first second => first.1 < second.1

namespace StrMap

variable {α : Type}

def empty : StrMap α := ⟨[], .nil⟩

variable (map : StrMap α)

def keys : List String := map.entries.map Prod.fst

def insertEntry (key : String) (value : α) : List (String × α) → List (String × α)
  | [] => [(key, value)]
  | (other, stored) :: rest =>
    if key < other then (key, value) :: (other, stored) :: rest
    else if key = other then (key, value) :: rest
    else (other, stored) :: insertEntry key value rest

variable {entries : List (String × α)} {key : String}

theorem fst_mem_insertEntry {value : α}
    {entry : String × α} (member : entry ∈ insertEntry key value entries) :
    entry = (key, value) ∨ entry ∈ entries := by
  induction entries with
  | nil => simpa [insertEntry] using member
  | cons head rest ih =>
    simp only [insertEntry] at member
    split at member
    · simpa using member
    · split at member
      · rcases mem_cons.mp member with same | inRest
        · exact .inl same
        · exact .inr (mem_cons_of_mem _ inRest)
      · rcases mem_cons.mp member with same | inRest
        · exact .inr (by simp [same])
        · exact (ih inRest).imp id (mem_cons_of_mem _)

theorem insertEntry_sorted (key : String) (value : α) (entries : List (String × α))
    (sorted : entries.Pairwise fun first second => first.1 < second.1) :
    (insertEntry key value entries).Pairwise fun first second => first.1 < second.1 := by
  induction entries with
  | nil => simp [insertEntry]
  | cons head rest ih =>
    obtain ⟨below, restSorted⟩ := pairwise_cons.mp sorted
    simp only [insertEntry]
    split
    case isTrue before =>
      refine pairwise_cons.mpr ⟨fun entry member => ?_, sorted⟩
      rcases mem_cons.mp member with rfl | inRest
      · exact before
      · exact before.trans (below entry inRest)
    case isFalse notBefore =>
      split
      case isTrue same =>
        subst same
        exact pairwise_cons.mpr ⟨below, restSorted⟩
      case isFalse different =>
        refine pairwise_cons.mpr ⟨fun entry member => ?_, ih restSorted⟩
        rcases fst_mem_insertEntry member with rfl | inRest
        · exact lt_of_le_of_ne (not_lt.mp notBefore) (Ne.symm different)
        · exact below entry inRest

def insert (key : String) (value : α) : StrMap α :=
  ⟨insertEntry key value map.entries, insertEntry_sorted key value map.entries map.sorted⟩

/-- The map of a member list; the last value of a repeated key is kept. -/
def ofMembers (members : List (String × α)) : StrMap α :=
  members.foldl (fun map member => map.insert member.1 member.2) empty

def get? (key : String) : Option α :=
  (map.entries.find? fun entry => entry.1 == key).map Prod.snd

theorem foldl_insert_keys (members : List (String × α)) (start : StrMap α) (key : String)
    (member : key ∈ (members.foldl (fun map entry => map.insert entry.1 entry.2) start).keys) :
    key ∈ start.keys ∨ key ∈ members.map Prod.fst := by
  induction members generalizing start with
  | nil => exact .inl member
  | cons head rest ih =>
    rcases ih (start.insert head.1 head.2) member with inserted | inRest
    · obtain ⟨entry, stored, rfl⟩ := mem_map.mp inserted
      rcases fst_mem_insertEntry stored with rfl | old
      · exact .inr (by simp)
      · exact .inl (mem_map_of_mem old)
    · exact .inr (by simp only [map_cons, mem_cons]; exact .inr inRest)

theorem mem_keys_ofMembers {members : List (String × α)}
    (member : key ∈ (ofMembers members).keys) : key ∈ members.map Prod.fst := by
  rcases foldl_insert_keys members empty key member with none | found
  · simp [keys, empty] at none
  · exact found

theorem insertEntry_of_forall_lt {value : α} (below : ∀ entry ∈ entries, entry.1 < key) :
    insertEntry key value entries = entries ++ [(key, value)] := by
  induction entries with
  | nil => rfl
  | cons head rest ih =>
    rw [forall_mem_cons] at below
    rw [insertEntry, if_neg below.1.asymm, if_neg below.1.ne', ih below.2, cons_append]

theorem ofMembers_entries : ofMembers map.entries = map := by
  have filled : ∀ (members : List (String × α)) (start : StrMap α),
      ((start.entries ++ members).Pairwise fun first second => first.1 < second.1) →
      (members.foldl (fun map member => map.insert member.1 member.2) start).entries =
        start.entries ++ members := by
    intro members
    induction members with
    | nil => exact fun start _ => (append_nil _).symm
    | cons head rest ih =>
      intro start sorted
      have inserted : (start.insert head.1 head.2).entries = start.entries ++ [head] :=
        insertEntry_of_forall_lt fun entry listed =>
          (pairwise_append.mp sorted).2.2 entry listed head mem_cons_self
      rw [foldl_cons, ih, inserted, append_assoc, singleton_append]
      rwa [inserted, append_assoc, singleton_append]
  have same : (ofMembers map.entries).entries = map.entries := filled map.entries empty map.sorted
  cases map
  rw [mk.injEq] at *
  exact same

end StrMap

end ShieldNet
