import Mathlib.Data.List.Induction
import Mathlib.Data.List.Sort
import Mathlib.Data.List.TakeWhile

/-!
# Scans that keep the best candidate

A loop that replaces its current best only by a strictly better candidate
returns the first candidate of greatest key (`firstMax_isFirstMax`). The key
may live in any linear order.
-/

namespace ShieldNet

open List

variable {α κ : Type} [LinearOrder κ] (key : α → κ)

def keepBetter (best : Option α) (candidate : α) : Option α :=
  match best with
  | none => some candidate
  | some current => if key current < key candidate then some candidate else some current

def firstMax (candidates : List α) : Option α :=
  candidates.foldl (keepBetter key) none

@[simp] theorem firstMax_nil : firstMax key [] = none := rfl

theorem firstMax_concat (candidates : List α) (last : α) :
    firstMax key (candidates ++ [last]) = keepBetter key (firstMax key candidates) last := by
  simp [firstMax]

variable {key : α → κ}

/-- A step takes the candidate or stays with its best. -/
theorem keepBetter_eq_some {best : Option α} {candidate winner : α}
    (kept : keepBetter key best candidate = some winner) :
    winner = candidate ∨ best = some winner := by
  cases best with
  | none =>
    cases kept
    exact .inl rfl
  | some current =>
    rw [keepBetter] at kept
    split at kept
    case isTrue => exact .inl (Option.some.inj kept).symm
    case isFalse => exact .inr kept

variable {candidates : List α}

theorem firstMax_eq_none_iff : firstMax key candidates = none ↔ candidates = [] := by
  induction candidates using reverseRecOn with
  | nil => simp
  | append_singleton rest last =>
    rw [firstMax_concat]
    cases firstMax key rest with
    | none => simp [keepBetter]
    | some current =>
      simp only [keepBetter]
      split <;> simp

/-- The candidate at its place in the list beats everything before it and is
not beaten by anything after it. -/
def IsFirstMax (key : α → κ) (candidates : List α) (winner : α) : Prop :=
  ∃ before after, candidates = before ++ winner :: after ∧
    (∀ other ∈ before, key other < key winner) ∧
    (∀ other ∈ after, key other ≤ key winner)

variable {winner : α}

section

variable (best : IsFirstMax key candidates winner)

include best

theorem IsFirstMax.mem : winner ∈ candidates := by
  obtain ⟨before, after, rfl, -⟩ := best
  simp

theorem IsFirstMax.le {other : α} (listed : other ∈ candidates) : key other ≤ key winner := by
  obtain ⟨before, after, rfl, better, notBeaten⟩ := best
  rcases mem_append.mp listed with earlier | later
  · exact (better other earlier).le
  · rcases mem_cons.mp later with rfl | later
    · exact le_rfl
    · exact notBeaten other later

/-- Candidates that tie with the winner come after it, in whatever order the
list is sorted by. -/
theorem IsFirstMax.rel_of_tie {R : α → α → Prop}
    (sorted : candidates.Pairwise R) {other : α} (listed : other ∈ candidates)
    (tie : key other = key winner) : other = winner ∨ R winner other := by
  obtain ⟨before, after, rfl, better, -⟩ := best
  rcases mem_append.mp listed with earlier | later
  · exact absurd tie (better other earlier).ne
  · rcases mem_cons.mp later with same | later
    · exact .inl same
    · exact .inr (rel_of_pairwise_cons (pairwise_append.mp sorted).2.1 later)

end

/-- **The scan returns the first candidate of greatest key.** -/
theorem firstMax_isFirstMax (selected : firstMax key candidates = some winner) :
    IsFirstMax key candidates winner := by
  induction candidates using reverseRecOn generalizing winner with
  | nil => simp at selected
  | append_singleton rest last ih =>
    rw [firstMax_concat] at selected
    cases previous : firstMax key rest with
    | none =>
      rw [previous] at selected
      cases selected
      rw [firstMax_eq_none_iff.mp previous]
      exact ⟨[], [], rfl, by simp, by simp⟩
    | some current =>
      rw [previous] at selected
      obtain ⟨before, after, shape, better, notBeaten⟩ := ih previous
      simp only [keepBetter] at selected
      split at selected
      case isTrue beats =>
        cases selected
        refine ⟨rest, [], by simp, fun other listed => ?_, by simp⟩
        exact (IsFirstMax.le ⟨before, after, shape, better, notBeaten⟩ listed).trans_lt beats
      case isFalse notBeats =>
        cases selected
        exact ⟨before, after ++ [last], by simp [shape], better, forall_mem_append.mpr
          ⟨notBeaten, forall_mem_singleton.mpr (not_lt.mp notBeats)⟩⟩

/-- A candidate that nothing later beats stays. -/
theorem foldl_keepBetter_of_le {current : α} {later : List α}
    (notBeaten : ∀ other ∈ later, key other ≤ key current) :
    later.foldl (keepBetter key) (some current) = some current := by
  induction later with
  | nil => rfl
  | cons other rest ih =>
    rw [forall_mem_cons] at notBeaten
    rw [foldl_cons, keepBetter, if_neg (not_lt.mpr notBeaten.1)]
    exact ih notBeaten.2

theorem firstMax_eq_some_iff :
    firstMax key candidates = some winner ↔ IsFirstMax key candidates winner := by
  refine ⟨firstMax_isFirstMax, ?_⟩
  rintro ⟨before, after, rfl, better, notBeaten⟩
  rw [firstMax, foldl_append, foldl_cons]
  change after.foldl (keepBetter key) (keepBetter key (firstMax key before) winner) = _
  have takes : keepBetter key (firstMax key before) winner = some winner := by
    cases previous : firstMax key before with
    | none => rfl
    | some current =>
      exact if_pos (better current (firstMax_isFirstMax previous).mem)
  rw [takes, foldl_keepBetter_of_le notBeaten]

/-- Behind the entries that beat a value, a sorted list has none that does. -/
theorem le_of_mem_dropWhile {bound : κ} {queue : List α}
    (sorted : queue.Pairwise fun one two => key two ≤ key one) {other : α}
    (listed : other ∈ queue.dropWhile fun entry => decide ¬key entry ≤ bound) :
    key other ≤ bound := by
  induction queue with
  | nil => cases listed
  | cons head rest ih =>
    rw [pairwise_cons] at sorted
    rw [dropWhile_cons] at listed
    split at listed
    case isTrue beats => exact ih sorted.2 listed
    case isFalse beaten =>
      have small : key head ≤ bound := by simpa using beaten
      rcases mem_cons.mp listed with rfl | later
      · exact small
      · exact (sorted.1 other later).trans small

/-- **A stable sort by descending key puts the scan's winner first** among the
accepted candidates: an insertion goes before the ties already sorted. -/
theorem find?_insertionSort (key : α → κ) (accepts : α → Bool) (candidates : List α) :
    (candidates.insertionSort fun one two => key two ≤ key one).find? accepts =
      firstMax key (candidates.filter accepts) := by
  induction candidates with
  | nil => rfl
  | cons head rest ih =>
    have sorted := pairwise_insertionSort (fun one two => key two ≤ key one) rest
    have same : ∀ other, other ∈ rest ↔
        other ∈ rest.insertionSort fun one two => key two ≤ key one :=
      fun other => (mem_insertionSort _).symm
    rw [insertionSort_cons, orderedInsert_eq_take_drop]
    generalize rest.insertionSort (fun one two => key two ≤ key one) = queue at sorted same ih ⊢
    have split := takeWhile_append_dropWhile
      (p := fun other => decide ¬key other ≤ key head) (l := queue)
    cases accepted : accepts head with
    | false =>
      rw [find?_append, find?_cons_of_neg (by simp [accepted]), ← find?_append,
        split, ih, filter_cons_of_neg (by simp [accepted])]
    | true =>
      rw [find?_append, find?_cons_of_pos accepted, filter_cons_of_pos accepted]
      cases found : (queue.takeWhile fun other => decide ¬key other ≤ key head).find? accepts with
      | some winner =>
        have beats : key head < key winner := by
          simpa using mem_takeWhile_imp (mem_of_find?_eq_some found)
        rw [← split, find?_append, found] at ih
        obtain ⟨before, after, shape, better, notBeaten⟩ := firstMax_isFirstMax ih.symm
        refine (firstMax_eq_some_iff.mpr ⟨head :: before, after, ?_, ?_, notBeaten⟩).symm
        · rw [shape, cons_append]
        · exact forall_mem_cons.mpr ⟨beats, better⟩
      | none =>
        refine (firstMax_eq_some_iff.mpr ⟨[], _, rfl, by simp, fun other listed => ?_⟩).symm
        obtain ⟨listed, taken⟩ := mem_filter.mp listed
        rw [same, ← split] at listed
        rcases mem_append.mp listed with earlier | later
        · exact absurd taken (by simpa using find?_eq_none.mp found other earlier)
        · exact le_of_mem_dropWhile sorted later

end ShieldNet
