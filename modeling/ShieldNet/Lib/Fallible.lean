import Mathlib.Data.List.Basic

/-!
# Computations that may fail

Inversion rules for a computation known to have succeeded: a sequence succeeds
when its parts do, and a loop when each of its rounds does.
-/

namespace ShieldNet

open List

/-- Peel one step off a computation that succeeded. -/
theorem bind_eq_ok {ε α β : Type} {first : Except ε α} {next : α → Except ε β} {result : β}
    (succeeded : (first >>= next) = .ok result) :
    ∃ value, first = .ok value ∧ next value = .ok result := by
  cases first with
  | error e => cases succeeded
  | ok value => exact ⟨value, rfl, succeeded⟩

theorem map_eq_ok {ε α β : Type} {first : Except ε α} {build : α → β} {result : β}
    (succeeded : first.map build = .ok result) :
    ∃ value, first = .ok value ∧ build value = result := by
  cases first with
  | error e => cases succeeded
  | ok value => exact ⟨value, rfl, Except.ok.inj succeeded⟩

theorem ite_eq_of_ne {α : Type} {condition : Prop} [Decidable condition] {first rest result : α}
    (same : (if condition then first else rest) = result) (differ : first ≠ result) :
    ¬ condition ∧ rest = result := by
  split at same
  case isTrue => exact absurd same differ
  case isFalse passed => exact ⟨passed, same⟩

theorem ite_error_eq_ok {ε α : Type} {refused : Prop} [Decidable refused] {error : ε}
    {rest : Except ε α} {result : α}
    (succeeded : (if refused then .error error else rest) = .ok result) :
    ¬ refused ∧ rest = .ok result :=
  ite_eq_of_ne succeeded (by rintro ⟨⟩)

/-- **A relation that each round extends by its own entry holds of the whole
loop.** `R` says what the entries seen so far have made of the state. -/
theorem foldlM_eq_ok_induction {ε α β : Type} {step : β → α → Except ε β} {R : List α → β → Prop}
    (extend : ∀ seen state entry next, R seen state → step state entry = .ok next →
      R (seen ++ [entry]) next) {entries seen : List α} {start result : β} (begun : R seen start)
    (succeeded : entries.foldlM step start = .ok result) : R (seen ++ entries) result := by
  induction entries generalizing seen start with
  | nil =>
    cases succeeded
    rw [append_nil]
    exact begun
  | cons entry rest ih =>
    obtain ⟨next, round, remaining⟩ := bind_eq_ok succeeded
    have continued := ih (extend seen start entry next begun round) remaining
    rw [append_assoc] at continued
    exact continued

def okOr {ε α : Type} (fallback : α) : Except ε α → α
  | .ok value => value
  | .error _ => fallback

/-- A loop that collects results succeeds when each entry does, and collects
their results in order. -/
theorem mapM_eq_ok {ε α β : Type} (fallback : β) {step : α → Except ε β} {entries : List α}
    {results : List β} (succeeded : entries.mapM step = .ok results) :
    (∀ entry ∈ entries, step entry = .ok (okOr fallback (step entry))) ∧
    results = entries.map fun entry => okOr fallback (step entry) := by
  induction entries generalizing results with
  | nil =>
    cases succeeded
    exact ⟨fun _ listed => absurd listed not_mem_nil, rfl⟩
  | cons entry rest ih =>
    rw [mapM_cons] at succeeded
    obtain ⟨result, first, remaining⟩ := bind_eq_ok succeeded
    obtain ⟨others, collected, final⟩ := bind_eq_ok remaining
    cases final
    obtain ⟨each, rfl⟩ := ih collected
    have value : okOr fallback (step entry) = result := by rw [first, okOr]
    rw [forall_mem_cons, map_cons, value]
    exact ⟨⟨first, each⟩, rfl⟩

end ShieldNet
