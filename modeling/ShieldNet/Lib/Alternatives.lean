import Mathlib.Data.List.Basic

/-!
# Lists of alternatives

A field of a rule that lists alternatives accepts when one of them does, and is
free when it lists none (`freeOrAny`). Splitting a list into groups of bounded
size keeps what it accepts (`any_groups`), where a free field is one empty
group.
-/

namespace ShieldNet

open List

variable {α : Type}

/-- A list of alternatives accepts; an empty one constrains nothing. -/
def freeOrAny (alternatives : List α) (accepts : α → Bool) : Bool :=
  alternatives.isEmpty || alternatives.any accepts

@[simp] theorem freeOrAny_nil (accepts : α → Bool) : freeOrAny [] accepts := rfl

theorem freeOrAny_eq_true_iff {alternatives : List α} {accepts : α → Bool} :
    freeOrAny alternatives accepts ↔
      alternatives = [] ∨ ∃ alternative ∈ alternatives, accepts alternative := by
  simp [freeOrAny]

theorem freeOrAny_map {β : Type} (change : α → β) (alternatives : List α) (accepts : β → Bool) :
    freeOrAny (alternatives.map change) accepts = freeOrAny alternatives (accepts ∘ change) := by
  simp [freeOrAny, any_map]

/-! ## Groups -/

/-- Consecutive pieces of at most `size` elements; the counter bounds their
number. -/
def chunksUpTo (size : Nat) : Nat → List α → List (List α)
  | 0, _ => []
  | _ + 1, [] => []
  | bound + 1, first :: rest =>
    (first :: rest).take size :: chunksUpTo size bound ((first :: rest).drop size)

def chunks (size : Nat) (items : List α) : List (List α) := chunksUpTo size items.length items

/-- The groups of a field: a free field is one empty group. -/
def groups (size : Nat) (items : List α) : List (List α) :=
  if items.isEmpty then [[]] else chunks size items

variable {size : Nat}

theorem any_chunksUpTo (positive : 0 < size) (accepts : α → Bool) (bound : Nat) (items : List α)
    (enough : items.length ≤ bound) :
    (chunksUpTo size bound items).any (freeOrAny · accepts) = items.any accepts := by
  induction bound generalizing items with
  | zero =>
    obtain rfl : items = [] := length_eq_zero_iff.mp (Nat.le_zero.mp enough)
    rfl
  | succ bound ih =>
    cases items with
    | nil => rfl
    | cons first rest =>
      have shorter : ((first :: rest).drop size).length ≤ bound := by
        rw [length_drop]
        omega
      have nonempty : ((first :: rest).take size).isEmpty = false := by
        obtain ⟨less, rfl⟩ := Nat.exists_eq_succ_of_ne_zero (Nat.ne_of_gt positive)
        rfl
      rw [chunksUpTo, any_cons, ih _ shorter, freeOrAny, nonempty,
        Bool.false_or, ← any_append, take_append_drop]

/-- **Some group of a field accepts exactly when the field does.** -/
theorem any_groups (positive : 0 < size) (items : List α) (accepts : α → Bool) :
    (groups size items).any (freeOrAny · accepts) = freeOrAny items accepts := by
  cases items with
  | nil => rfl
  | cons first rest =>
    have split : groups size (first :: rest) = chunks size (first :: rest) := rfl
    rw [split, chunks, any_chunksUpTo positive accepts _ _ (Nat.le_refl _)]
    rfl

variable {items : List α}

theorem freeOrAny_iff_groups (positive : 0 < size) {accepts : α → Bool} :
    freeOrAny items accepts ↔
      ∃ group ∈ groups size items, freeOrAny group accepts := by
  rw [← any_groups positive, any_eq_true]

theorem length_le_of_mem_chunksUpTo {bound : Nat} {group : List α}
    (member : group ∈ chunksUpTo size bound items) : group.length ≤ size := by
  induction bound generalizing items with
  | zero => cases member
  | succ bound ih =>
    cases items with
    | nil => cases member
    | cons first rest =>
      rcases mem_cons.mp member with rfl | later
      · exact length_take_le _ _
      · exact ih later

theorem length_le_of_mem_groups {group : List α} (member : group ∈ groups size items)
    : group.length ≤ size := by
  cases items with
  | nil =>
    rw [mem_singleton.mp member]
    exact Nat.zero_le _
  | cons first rest => exact length_le_of_mem_chunksUpTo member

end ShieldNet
