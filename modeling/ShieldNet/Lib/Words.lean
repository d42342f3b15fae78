import ShieldNet.Lib.Ip

/-!
# Comparing the leading bits of words

Two words agree on their leading bits when they agree at every position from
some bit on. Shifting the rest away (`prefixAgrees`) and masking it out of the
difference are two ways to test that.
-/

namespace ShieldNet

open BitVec

variable {w : Nat}

def AgreeFrom (low : Nat) (a b : BitVec w) : Prop :=
  ∀ i, low ≤ i → i < w → a.getLsbD i = b.getLsbD i

theorem prefixAgrees_iff {len : Nat} {a b : BitVec w} :
    prefixAgrees len a b ↔ AgreeFrom (w - len) a b := by
  rw [prefixAgrees, beq_iff_eq]
  constructor
  · intro same i above inside
    have bit := congrArg (fun word : BitVec w => word.getLsbD (i - (w - len))) same
    simp only [getLsbD_ushiftRight] at bit
    rwa [show w - len + (i - (w - len)) = i by omega] at bit
  · intro agree
    apply eq_of_getLsbD_eq
    intro i _
    rw [getLsbD_ushiftRight, getLsbD_ushiftRight]
    by_cases inside : w - len + i < w
    · exact agree _ (by omega) inside
    · rw [getLsbD_of_ge a _ (by omega), getLsbD_of_ge b _ (by omega)]

theorem masked_eq_zero_iff {a b : BitVec w} {low : Nat} :
    (a ^^^ b) &&& (allOnes w <<< low) = 0 ↔ AgreeFrom low a b := by
  constructor
  · intro zero i above inside
    have bit := congrArg (fun word : BitVec w => word.getLsbD i) zero
    have position : i - low < w := by omega
    simp only [getLsbD_and, getLsbD_xor, getLsbD_shiftLeft,
      getLsbD_allOnes, ofNat_eq_ofNat, getLsbD_zero, inside, position,
      decide_true, Bool.true_and, Bool.and_true, Bool.and_eq_false_imp] at bit
    have notBelow : decide (i < low) = false := by simpa using above
    simpa [notBelow] using bit
  · intro agree
    apply eq_of_getLsbD_eq
    intro i inside
    by_cases above : low ≤ i
    · simp [agree i above inside]
    · simp [Nat.lt_of_not_le above]

theorem agreeFrom_zero_iff {a b : BitVec w} : AgreeFrom 0 a b ↔ a = b := by
  constructor
  · intro agree
    exact eq_of_getLsbD_eq fun i inside => agree i (Nat.zero_le i) inside
  · rintro rfl i _ _
    rfl

/-- The two halves of a double word: agreement from a bit of the upper half. -/
theorem agreeFrom_high_iff {a b : BitVec 128} {low : Nat} :
    AgreeFrom low (a.extractLsb' 64 64) (b.extractLsb' 64 64) ↔ AgreeFrom (64 + low) a b := by
  constructor
  · intro agree i above inside
    have bit := agree (i - 64) (by omega) (by omega)
    rw [getLsbD_extractLsb', getLsbD_extractLsb', show 64 + (i - 64) = i by omega] at bit
    simpa [show i - 64 < 64 by omega] using bit
  · intro agree i above inside
    rw [getLsbD_extractLsb', getLsbD_extractLsb', agree (64 + i) (by omega) (by omega)]

/-- Agreement from a bit of the lower half is agreement there and equality of
the upper halves. -/
theorem agreeFrom_low_iff {a b : BitVec 128} {low : Nat} (small : low ≤ 64) :
    AgreeFrom low a b ↔ a.extractLsb' 64 64 = b.extractLsb' 64 64 ∧
      AgreeFrom low (a.extractLsb' 0 64) (b.extractLsb' 0 64) := by
  rw [← agreeFrom_zero_iff, agreeFrom_high_iff]
  constructor
  · intro agree
    refine ⟨fun i above inside => agree i (by omega) inside, fun i above inside => ?_⟩
    rw [getLsbD_extractLsb', getLsbD_extractLsb', Nat.zero_add, agree i above (by omega)]
  · rintro ⟨high, lower⟩ i above inside
    by_cases upper : 64 ≤ i
    · exact high i (by omega) inside
    · have bit := lower i above (by omega)
      simpa [show i < 64 by omega] using bit

/-- A short word placed at the front of a double word agrees on a prefix as the
short words do. -/
theorem prefixAgrees_append_zero {len : Nat} (fits : len ≤ 32) (a b : BitVec 32) :
    prefixAgrees len (a ++ 0#96) (b ++ 0#96) = prefixAgrees len a b := by
  rw [Bool.eq_iff_iff, prefixAgrees_iff, prefixAgrees_iff]
  constructor
  · intro agree i above inside
    have bit := agree (96 + i) (by omega) (by omega)
    rw [getLsbD_append, getLsbD_append, show 96 + i - 96 = i by omega] at bit
    simpa [show ¬96 + i < 96 by omega] using bit
  · intro agree i above inside
    rw [getLsbD_append, getLsbD_append]
    by_cases low : i < 96
    · simp [low]
    · simp only [low]
      exact agree (i - 96) (by omega) (by omega)

end ShieldNet
