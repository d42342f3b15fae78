import Mathlib.Data.ZMod.Basic
import Mathlib.RingTheory.Int.Basic
import Mathlib.Tactic.LinearCombination

/-!
# Transaction ids

`UdpResolver::next_txid` of `crates/sng-dns/src/resolver.rs`. Its multiplier is even, so a step
loses a bit of the difference between two seeds. Whether the ids of two queries are the same is a
matter of how many bits the first step left (`txid_eq_iff`), and from the sixteenth query on they
always are.
-/

namespace ShieldNet.Dns

open Function

/-- The seed after a query, which is also the id of the query. -/
def nextTxid (seed : ℕ) : ℕ := (seed * 0x515A + 0x3A29) % 2 ^ 16

/-- The id of a query, the first one being number zero. -/
def txid (seed query : ℕ) : ℕ := nextTxid^[query + 1] seed

theorem cast_nextTxid (seed : ℕ) : (nextTxid seed : ZMod (2 ^ 16)) = seed * 0x515A + 0x3A29 := by
  rw [nextTxid, ZMod.natCast_mod]
  push_cast
  rfl

theorem cast_iterate_sub (steps first second : ℕ) :
    (nextTxid^[steps] first - nextTxid^[steps] second : ZMod (2 ^ 16)) =
      0x515A ^ steps * (first - second) := by
  induction steps with
  | zero => simp
  | succ steps ih =>
    rw [iterate_succ_apply', iterate_succ_apply', cast_nextTxid, cast_nextTxid]
    linear_combination 0x515A * ih

/-- Any number of steps moves a seed by an odd multiple of what the first one does. -/
theorem exists_odd_iterate_sub (seed steps : ℕ) : ∃ factor : ℤ, Odd factor ∧
    (nextTxid^[steps + 1] seed - seed : ZMod (2 ^ 16)) = factor * (0x5159 * seed + 0x3A29) := by
  induction steps with
  | zero =>
    refine ⟨1, odd_one, ?_⟩
    rw [iterate_one, cast_nextTxid]
    push_cast
    ring
  | succ steps ih =>
    obtain ⟨factor, -, moved⟩ := ih
    refine ⟨0x515A * factor + 1, (Even.mul_right (by decide) factor).add_one, ?_⟩
    rw [iterate_succ_apply', cast_nextTxid]
    push_cast
    linear_combination 0x515A * moved

/-- An odd multiple of a power of the multiplier adds as many bits as the power has factors. -/
theorem dvd_pow_mul_iff {factor left : ℤ} (odd : Odd factor) (steps : ℕ) :
    2 ^ 16 ∣ 0x515A ^ steps * (factor * left) ↔ 2 ^ (16 - steps) ∣ left := by
  have multiplier : (0x515A : ℤ) ^ steps * (factor * left) =
      2 ^ steps * (10413 ^ steps * factor * left) := by
    rw [show (0x515A : ℤ) = 2 * 10413 from rfl, mul_pow]
    ring
  have rest : Odd (10413 ^ steps * factor) := (Odd.pow (by decide)).mul odd
  rw [multiplier]
  rcases Nat.le_total steps 16 with within | beyond
  · rw [← Nat.add_sub_of_le within, pow_add, Nat.add_sub_cancel_left,
      mul_dvd_mul_iff_left (pow_ne_zero _ two_ne_zero)]
    have coprime := (Int.isCoprime_two_left.mpr rest).pow_left (m := 16 - steps)
    exact ⟨coprime.dvd_of_dvd_mul_left, fun divides => divides.mul_left _⟩
  · rw [Nat.sub_eq_zero_of_le beyond, pow_zero]
    exact iff_of_true ((pow_dvd_pow 2 beyond).mul_right _) (one_dvd _)

/-- **Two queries have the same id exactly when the first step left too few bits.** -/
theorem txid_eq_iff (seed : ℕ) {first second : ℕ} (before : first < second) :
    txid seed first = txid seed second ↔ 2 ^ (15 - first) ∣ 0x5159 * seed + 0x3A29 := by
  obtain ⟨steps, rfl⟩ := Nat.exists_eq_add_of_lt before
  obtain ⟨factor, odd, moved⟩ := exists_odd_iterate_sub seed steps
  have apart : (txid seed (first + steps + 1) - txid seed first : ZMod (2 ^ 16)) =
      (0x515A ^ (first + 1) * (factor * (0x5159 * seed + 0x3A29)) : ℤ) := by
    rw [txid, show first + steps + 1 + 1 = first + 1 + (steps + 1) by omega,
      iterate_add_apply, txid, cast_iterate_sub, moved]
    push_cast
    rfl
  have word (query : ℕ) : txid seed query % 2 ^ 16 = txid seed query := by
    rw [txid, iterate_succ_apply', nextTxid, Nat.mod_mod]
  calc txid seed first = txid seed (first + steps + 1)
    _ ↔ (txid seed (first + steps + 1) - txid seed first : ZMod (2 ^ 16)) = 0 := by
      rw [sub_eq_zero, ZMod.natCast_eq_natCast_iff', word, word, eq_comm]
    _ ↔ (2 ^ 16 : ℤ) ∣ 0x515A ^ (first + 1) * (factor * (0x5159 * seed + 0x3A29)) := by
      rw [apart, ZMod.intCast_zmod_eq_zero_iff_dvd]
      rfl
    _ ↔ 2 ^ (15 - first) ∣ 0x5159 * seed + 0x3A29 := by
      rw [dvd_pow_mul_iff odd, show 16 - (first + 1) = 15 - first by omega]
      norm_cast

theorem first_ids_differ : ¬ 2 ^ 15 ∣ 0x5159 * 0x9E37 + 0x3A29 ∧ txid 0x9E37 0 ≠ txid 0x9E37 1 :=
  ⟨by decide, (txid_eq_iff 0x9E37 Nat.zero_lt_one).not.mpr (by decide)⟩

/-- **The sixteenth id comes again at once.** -/
theorem txid_stuck : txid 0x9E37 15 = txid 0x9E37 16 := by decide

end ShieldNet.Dns
