import Mathlib.Data.List.Nodup

/-!
# Maps with a list of entries

A finite map as the list of its entries, each key once. Setting a key replaces
its entry. Walking the map walks the list; nothing here depends on its order.
-/

namespace ShieldNet

open List

structure Assoc (κ ν : Type) where
  entries : List (κ × ν)
  distinct : (entries.map Prod.fst).Nodup

namespace Assoc

variable {κ ν : Type} [DecidableEq κ]

def empty : Assoc κ ν := ⟨[], .nil⟩

variable (map : Assoc κ ν)

def get? (key : κ) : Option ν :=
  (map.entries.find? fun entry => entry.1 = key).map Prod.snd

def set (key : κ) (value : ν) : Assoc κ ν where
  entries := (key, value) :: map.entries.filter fun entry => entry.1 ≠ key
  distinct := by
    rw [map_cons, nodup_cons]
    refine ⟨?_, (filter_sublist.map Prod.fst).nodup map.distinct⟩
    intro listed
    obtain ⟨entry, kept, same⟩ := mem_map.mp listed
    simpa [same] using (mem_filter.mp kept).2

def erase (key : κ) : Assoc κ ν where
  entries := map.entries.filter fun entry => entry.1 ≠ key
  distinct := (filter_sublist.map Prod.fst).nodup map.distinct

def mapValues (replace : ν → ν) : Assoc κ ν where
  entries := map.entries.map fun entry => (entry.1, replace entry.2)
  distinct := by
    rw [map_map]
    exact map.distinct

variable {map : Assoc κ ν} {key other : κ} {value : ν}

@[simp] theorem get?_empty : (empty : Assoc κ ν).get? key = none := rfl

theorem get?_erase : (map.erase key).get? other = if other = key then none else map.get? other := by
  rw [get?, erase, find?_filter]
  by_cases same : other = key
  · simp [same]
  · have kept : ∀ entry : κ × ν, (decide (entry.1 ≠ key) ∧ decide (entry.1 = other)) ↔
        entry.1 = other := by
      intro entry
      simp only [decide_eq_true_eq, and_iff_right_iff_imp]
      rintro rfl
      exact same
    simp only [kept, same, if_false]
    rfl

theorem get?_set : (map.set key value).get? other =
    if other = key then some value else map.get? other := by
  rw [get?, set, find?_cons]
  by_cases same : key = other
  · simp [same]
  · have behind := @get?_erase κ ν _ map key other
    rw [get?, erase, if_neg (Ne.symm same)] at behind
    rw [decide_eq_false same, if_neg (Ne.symm same)]
    exact behind

theorem get?_foldl_set {α : Type} (keyOf : α → κ) (valueOf : α → ν) {items : List α}
    (distinct : (items.map keyOf).Nodup) :
    (items.foldl (fun filled item => filled.set (keyOf item) (valueOf item)) map).get? key =
      ((items.find? fun item => keyOf item = key).map valueOf).or (map.get? key) := by
  induction items generalizing map with
  | nil => rfl
  | cons item rest ih =>
    rw [map_cons, nodup_cons] at distinct
    rw [foldl_cons, ih distinct.2, get?_set, find?_cons]
    by_cases here : key = keyOf item
    · have absent : rest.find? (fun other => keyOf other = key) = none := by
        rw [find?_eq_none]
        intro other member same
        exact distinct.1 (here ▸ of_decide_eq_true same ▸ mem_map_of_mem member)
      simp [here.symm, absent]
    · simp [here, Ne.symm here]

/-- **The entries are what the map answers.** -/
theorem mem_entries_iff : (key, value) ∈ map.entries ↔ map.get? key = some value := by
  constructor
  · intro listed
    obtain ⟨entry, found⟩ : ∃ entry, map.entries.find? (fun entry => entry.1 = key) = some entry :=
      Option.isSome_iff_exists.mp (find?_isSome.mpr ⟨_, listed, by simp⟩)
    have same : entry = (key, value) :=
      inj_on_of_nodup_map map.distinct (mem_of_find?_eq_some found) listed
        (by simpa using find?_some found)
    rw [get?, found, same]
    rfl
  · intro answer
    obtain ⟨entry, found, rfl⟩ := Option.map_eq_some_iff.mp answer
    have same : entry.1 = key := by simpa using find?_some found
    exact same ▸ mem_of_find?_eq_some found

end Assoc
end ShieldNet
