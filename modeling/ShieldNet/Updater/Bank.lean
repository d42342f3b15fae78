import Mathlib.Data.Nat.Notation

/-!
# Banks and the bootloader

The dual-bank model of `crates/sng-updater/src/bank.rs` and `bootloader.rs`: what the
metadata partition records of the two slots, which slot it takes for the active one,
and the pin of the bootloader, committed or pending. The two are kept apart in the
source, and nothing but the updater brings them together.
-/

namespace ShieldNet.Updater

/-! ## Versions -/

structure ImageVersion where
  major : UInt32
  minor : UInt32
  patch : UInt32
  deriving DecidableEq

namespace ImageVersion

/-- The derived order: by the fields, the first that differs. -/
def Older (a b : ImageVersion) : Prop := a.major < b.major ∨ (a.major = b.major ∧
    (a.minor < b.minor ∨ (a.minor = b.minor ∧ a.patch < b.patch)))

instance : LT ImageVersion := ⟨Older⟩

instance (a b : ImageVersion) : Decidable (a < b) := inferInstanceAs (Decidable (_ ∨ _))

theorem lt_trans {a b c : ImageVersion} (early : a < b) (late : b < c) : a < c := by
  change Older a b at early
  change Older b c at late
  change Older a c
  simp only [Older, UInt32.lt_iff_toNat_lt, ← UInt32.toNat_inj] at early late ⊢
  omega

end ImageVersion

/-! ## Slots -/

inductive Bank where
  | a
  | b
  deriving DecidableEq

def Bank.other : Bank → Bank
  | .a => .b
  | .b => .a

@[simp] theorem Bank.other_ne (bank : Bank) : bank.other ≠ bank := by
  cases bank <;> decide

def Bank.text : Bank → String
  | .a => "A"
  | .b => "B"

inductive BankSlotState where
  | empty
  | committed (version : ImageVersion)
  | staged (version : ImageVersion)
  | rolledBack (version : ImageVersion)
  deriving DecidableEq

def BankSlotState.version : BankSlotState → Option ImageVersion
  | .empty => none
  | .committed version | .staged version | .rolledBack version => some version

structure BankLayout where
  active : Bank
  slotA : BankSlotState
  slotB : BankSlotState

namespace BankLayout

variable (layout : BankLayout)

def slotState : Bank → BankSlotState
  | .a => layout.slotA
  | .b => layout.slotB

def activeVersion : Option ImageVersion := (layout.slotState layout.active).version

def inactive : Bank := layout.active.other

def setSlot (slot : Bank) (state : BankSlotState) : BankLayout :=
  match slot with
  | .a => { layout with slotA := state }
  | .b => { layout with slotB := state }

@[simp] theorem setSlot_active (slot : Bank) (state : BankSlotState) :
    (layout.setSlot slot state).active = layout.active := by
  cases slot <;> rfl

@[simp] theorem setSlot_slotState_self (slot : Bank) (state : BankSlotState)
    : (layout.setSlot slot state).slotState slot = state := by
  cases slot <;> rfl

theorem setSlot_slotState_of_ne {slot other : Bank} (state : BankSlotState)
    (differ : slot ≠ other) :
    (layout.setSlot slot state).slotState other = layout.slotState other := by
  cases slot <;> cases other <;> first | rfl | exact absurd rfl differ

theorem setSlot_activeVersion {slot : Bank} (state : BankSlotState)
    (inactive : slot = layout.active.other) :
    (layout.setSlot slot state).activeVersion = layout.activeVersion := by
  obtain ⟨active, slotA, slotB⟩ := layout
  subst inactive
  cases active <;> rfl

theorem activeVersion_of_active (slot : Bank) :
    activeVersion { layout with active := slot } = (layout.slotState slot).version := by
  cases slot <;> rfl

end BankLayout

/-! ## The bootloader -/

inductive ActiveBankState where
  | committed (bank : Bank)
  | pending (bank previous : Bank)
  deriving DecidableEq

def ActiveBankState.current : ActiveBankState → Bank
  | .committed bank | .pending bank _ => bank

def ActiveBankState.Pending : ActiveBankState → Prop
  | .committed _ => False
  | .pending .. => True

instance : (state : ActiveBankState) → Decidable state.Pending
  | .committed _ => .isFalse id
  | .pending .. => .isTrue trivial

/-- `InMemoryBootloader::swap_to`; the error is the message of `UpdaterError::Bootloader`. -/
def ActiveBankState.swapTo (bank : Bank) : ActiveBankState → Except String ActiveBankState
  | .pending .. => .error "swap already pending"
  | .committed previous => .ok (.pending bank previous)

def ActiveBankState.commit : ActiveBankState → Except String ActiveBankState
  | .pending bank _ => .ok (.committed bank)
  | .committed _ => .error "no swap pending — commit is a no-op"

def ActiveBankState.rollback : ActiveBankState → Except String ActiveBankState
  | .pending _ previous => .ok (.committed previous)
  | .committed _ => .error "no swap pending — rollback is a no-op"

end ShieldNet.Updater
