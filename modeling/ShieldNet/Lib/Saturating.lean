import Mathlib.Data.Nat.Basic
import Mathlib.Tactic.Common

/-!
# Saturating words

`u64` counters that stop at the highest value instead of wrapping around.
-/

namespace ShieldNet

def u64Max : Nat := UInt64.size - 1

def saturatingAdd (a b : UInt64) : UInt64 := UInt64.ofNat (min (a.toNat + b.toNat) u64Max)

theorem toNat_saturatingAdd (a b : UInt64) :
    (saturatingAdd a b).toNat = min (a.toNat + b.toNat) u64Max := by
  refine UInt64.toNat_ofNat_of_lt' ?_
  simp only [u64Max, UInt64.size]
  omega

theorem toNat_le_u64Max (a : UInt64) : a.toNat ≤ u64Max := Nat.le_pred_of_lt a.toNat_lt

theorem le_saturatingAdd (a b : UInt64) : a ≤ saturatingAdd a b := by
  rw [UInt64.le_iff_toNat_le, toNat_saturatingAdd]
  exact le_min (Nat.le_add_right ..) (toNat_le_u64Max a)

theorem toNat_max (a b : UInt64) : (max a b).toNat = max a.toNat b.toNat := by
  change (if a ≤ b then b else a).toNat = _
  simp only [UInt64.le_iff_toNat_le]
  split <;> omega

end ShieldNet
