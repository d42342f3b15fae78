import ShieldNet.Lib.Saturating

/-!
# The fencing gate

`FenceState` of `crates/sng-ha/src/state_sync.rs`: one atomic word that holds the highest
Master epoch seen, biased by one, with zero for a gate that has seen none. `admit` is a
loop of a load and a compare-and-swap, and each of the two is a step of its own here, so
that several readers can share a gate.

At the ceiling of the word the gate no longer tells the two highest epochs apart.
-/

namespace ShieldNet.Ha

/-- Zero, or the admitted epoch plus one. -/
structure FenceState where
  state : UInt64
  deriving DecidableEq

def decodeFence (stored : UInt64) : Bool × UInt64 :=
  if stored = 0 then (false, 0) else (true, stored - 1)

namespace FenceState

def new : FenceState := ⟨0⟩

variable (fence : FenceState)

def current : UInt64 := (decodeFence fence.state).2

def isPrimed : Bool := (decodeFence fence.state).1

variable (epoch : UInt64)

def raised : FenceState := ⟨saturatingAdd (max epoch fence.current) 1⟩

def Refuses : Prop := fence.isPrimed = true ∧ epoch < fence.current

instance (fence : FenceState) (epoch : UInt64) : Decidable (fence.Refuses epoch) :=
  inferInstanceAs (Decidable (_ ∧ _))

theorem toNat_current : fence.current.toNat = fence.state.toNat - 1 := by
  rw [current, decodeFence]
  split
  case isTrue zero =>
    rw [zero]
    rfl
  case isFalse nonzero =>
    have positive : (1 : UInt64) ≤ fence.state := by
      exact Nat.one_le_iff_ne_zero.mpr fun zero => nonzero (UInt64.toNat_inj.mp zero)
    exact UInt64.toNat_sub_of_le _ _ positive

theorem toNat_current_raised : (fence.raised epoch).current.toNat =
    min (max epoch.toNat fence.current.toNat) (u64Max - 1) := by
  rw [toNat_current, raised, toNat_saturatingAdd, toNat_max]
  have one : (1 : UInt64).toNat = 1 := rfl
  omega

theorem current_le_raised : fence.current.toNat ≤ (fence.raised epoch).current.toNat := by
  have below := toNat_le_u64Max fence.state
  have current := toNat_current fence
  rw [toNat_current_raised]
  omega

theorem current_le_of_not_refuses {fence : FenceState} {epoch : UInt64}
    (admits : ¬ fence.Refuses epoch) : fence.current ≤ epoch := by
  rw [Refuses, UInt64.lt_iff_toNat_lt, isPrimed, decodeFence] at admits
  rw [UInt64.le_iff_toNat_le]
  split at admits
  case isTrue zero =>
    rw [toNat_current, zero]
    exact Nat.zero_le _
  case isFalse => exact Nat.not_lt.mp fun behind => admits ⟨rfl, behind⟩

/-- Below the ceiling the gate is at the epoch it has just admitted. -/
theorem current_raised {fence : FenceState} {epoch : UInt64} (admits : ¬ fence.Refuses epoch)
    (below : epoch.toNat < u64Max) : (fence.raised epoch).current = epoch := by
  have upto := UInt64.le_iff_toNat_le.mp (current_le_of_not_refuses admits)
  apply UInt64.toNat_inj.mp
  rw [toNat_current_raised]
  omega

/-- Where `admit` stands: before the load, or before the exchange for the word it has
loaded. -/
inductive Admission where
  | load
  | exchange (cur : UInt64)
  deriving DecidableEq

/-- One step of `FenceState::admit`: it goes on, or it returns. -/
def admitStep : Admission → FenceState × (Admission ⊕ Bool)
  | .load =>
    if fence.Refuses epoch then (fence, .inr false)
    else (fence, .inl (.exchange fence.state))
  | .exchange cur =>
    if fence.state = cur then (raised ⟨cur⟩ epoch, .inr true)
    else (fence, .inl .load)

def Admission.Sound : Admission → Prop
  | .load => True
  | .exchange cur => ¬ Refuses ⟨cur⟩ epoch

/-- **What a step of `admit` does**: the gate stays and the loop goes on or refuses, or the
gate is raised at once from the word that it holds. -/
theorem admitStep_cases (admission : Admission) :
    (∃ next, next.Sound epoch ∧ fence.admitStep epoch admission = (fence, .inl next)) ∨
    fence.admitStep epoch admission = (fence, .inr false) ∨
    (admission = .exchange fence.state ∧
      fence.admitStep epoch admission = (fence.raised epoch, .inr true)) := by
  cases admission with
  | load =>
    rw [admitStep]
    split
    case isTrue => exact .inr (.inl rfl)
    case isFalse admits => exact .inl ⟨.exchange fence.state, admits, rfl⟩
  | exchange cur =>
    rw [admitStep]
    split
    case isTrue same =>
      subst same
      exact .inr (.inr ⟨rfl, rfl⟩)
    case isFalse => exact .inl ⟨.load, trivial, rfl⟩

end FenceState

end ShieldNet.Ha
