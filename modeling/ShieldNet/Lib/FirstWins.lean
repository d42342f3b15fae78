import Mathlib.Data.List.Basic

/-!
# Maps where the first insertion wins

`entry(key).or_insert(value)` keeps what is already stored. A map filled that
way from a list answers a lookup with the first entry of the list for the key
(`FirstWins.get?_foldl_orInsert`).
-/

namespace ShieldNet.FirstWins

open List Option

variable {κ ν : Type} [DecidableEq κ] (map : List (κ × ν))

def get? (key : κ) : Option ν :=
  (map.find? fun entry => entry.1 = key).map Prod.snd

/-- `map.entry(key).or_insert(value)`. -/
def orInsert (entry : κ × ν) : List (κ × ν) :=
  if (get? map entry.1).isSome then map else map ++ [entry]

theorem get?_append (first second : List (κ × ν)) (key : κ) :
    get? (first ++ second) key = (get? first key).or (get? second key) := by
  simp only [get?, find?_append]
  cases first.find? fun entry => entry.1 = key <;> simp

theorem get?_orInsert (entry : κ × ν) (key : κ) :
    get? (orInsert map entry) key = (get? map key).or (get? [entry] key) := by
  unfold orInsert
  split
  case isTrue stored =>
    by_cases same : entry.1 = key
    · subst same
      obtain ⟨value, found⟩ := isSome_iff_exists.mp stored
      simp [found]
    · simp [get?, same]
  case isFalse => exact get?_append map [entry] key

/-- **A lookup finds the first entry inserted for its key.** -/
theorem get?_foldl_orInsert (entries map : List (κ × ν)) (key : κ) :
    get? (entries.foldl orInsert map) key = (get? map key).or (get? entries key) := by
  induction entries generalizing map with
  | nil => simp [get?]
  | cons entry rest ih =>
    rw [foldl_cons, ih, get?_orInsert, Option.or_assoc, ← get?_append, singleton_append]

variable {entries : List (κ × ν)} {key : κ}

theorem rel_of_get?_eq_some {value : ν} (found : get? entries key = some value)
    {R : ν → ν → Prop} (refl : ∀ v, R v v)
    (sorted : entries.Pairwise fun first second => R first.2 second.2) {other : ν}
    (listed : (key, other) ∈ entries) : R value other := by
  obtain ⟨entry, foundEntry, rfl⟩ := map_eq_some_iff.mp found
  obtain ⟨-, before, after, rfl, noneBefore⟩ := find?_eq_some_iff_append.mp foundEntry
  rcases mem_append.mp listed with earlier | later
  · simpa using noneBefore _ earlier
  · rcases mem_cons.mp later with rfl | later
    · exact refl _
    · exact rel_of_pairwise_cons (pairwise_append.mp sorted).2.1 later

theorem mem_of_get?_eq_some {value : ν} (found : get? entries key = some value)
    : (key, value) ∈ entries := by
  obtain ⟨entry, foundEntry, rfl⟩ := map_eq_some_iff.mp found
  have same : entry.1 = key := by simpa using find?_some foundEntry
  exact same ▸ mem_of_find?_eq_some foundEntry

theorem not_mem_of_get?_eq_none (missing : get? entries key = none) (value : ν)
    : (key, value) ∉ entries := by
  intro listed
  simpa using find?_eq_none.mp (map_eq_none_iff.mp missing) _ listed

end ShieldNet.FirstWins
