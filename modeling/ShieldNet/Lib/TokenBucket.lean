import Mathlib.Algebra.Order.Group.Nat

/-!
# Token buckets

A bucket of a bounded number of tokens that earns one per period, with time
that has not yet earned a token left on its clock, and what it can hand out
within an interval: what it holds at the start, no more than its capacity, and
one token for each period that completes inside.

The second kind of bucket earns by a rate, so many tokens in so much time. It
turns the tokens it grants back into time, and what it can still hand out stays
within the rate as long as that division leaves nothing behind
(`prospect_refillAt_le`).
-/

namespace ShieldNet

/-- The tokens of a bucket and the time up to which they are earned. -/
structure TokenBucket where
  tokens : Nat
  last : Nat

namespace TokenBucket

variable (bucket : TokenBucket)

/-- The whole periods since the clock. -/
def earned (period now : Nat) : Nat := (now - bucket.last) / period

def refill (capacity period now : Nat) : TokenBucket :=
  if 0 < bucket.earned period now then
    ⟨min (bucket.tokens + bucket.earned period now) capacity,
      bucket.last + bucket.earned period now * period⟩
  else bucket

/-- One request at a time: whether it is admitted, and the bucket after it. -/
def request (capacity period now : Nat) : Bool × TokenBucket :=
  if 0 < (bucket.refill capacity period now).tokens then
    (true, ⟨(bucket.refill capacity period now).tokens - 1,
      (bucket.refill capacity period now).last⟩)
  else (false, bucket.refill capacity period now)

def allowance (capacity period start finish : Nat) : Nat :=
  min (bucket.tokens + bucket.earned period start) capacity +
    (bucket.earned period finish - bucket.earned period start)

variable (bucket : TokenBucket) {capacity period start now finish : Nat}

theorem refill_tokens (within : bucket.tokens ≤ capacity) (period now : Nat) :
    (bucket.refill capacity period now).tokens =
      min (bucket.tokens + bucket.earned period now) capacity := by
  unfold refill
  split
  · rfl
  · omega

theorem request_tokens_le (within : bucket.tokens ≤ capacity) (period now : Nat) :
    (bucket.request capacity period now).2.tokens ≤ capacity := by
  have refilled := bucket.refill_tokens within period now
  unfold request
  split
  · exact (Nat.sub_le _ _).trans (refilled.trans_le (min_le_right _ _))
  · exact refilled.trans_le (min_le_right _ _)

theorem earned_mono (period : Nat) {earlier later : Nat} (ordered : earlier ≤ later) :
    bucket.earned period earlier ≤ bucket.earned period later :=
  Nat.div_le_div_right (Nat.sub_le_sub_right ordered _)

/-- Refilling spends the periods it turns into tokens. -/
theorem earned_refill (capacity period now other : Nat) :
    (bucket.refill capacity period now).earned period other =
      bucket.earned period other - bucket.earned period now := by
  unfold refill
  split
  case isTrue =>
    rw [earned, ← Nat.sub_sub, Nat.mul_comm, Nat.sub_mul_div]
    rfl
  case isFalse none =>
    rw [Nat.eq_zero_of_not_pos none, Nat.sub_zero]

/-- **A request inside the interval that is admitted uses up one token of the
allowance.** -/
theorem allowance_request (within : bucket.tokens ≤ capacity) (after : start ≤ now)
    (before : now ≤ finish) :
    (bucket.request capacity period now).2.allowance capacity period start finish +
      (if (bucket.request capacity period now).1 then 1 else 0) ≤
    bucket.allowance capacity period start finish := by
  have sinceStart := bucket.earned_mono period after
  have untilFinish := bucket.earned_mono period before
  have tokens := bucket.refill_tokens within period now
  have atStart := bucket.earned_refill capacity period now start
  have atFinish := bucket.earned_refill capacity period now finish
  unfold request
  split
  case isTrue some =>
    simp only [allowance, earned, if_true] at *
    omega
  case isFalse empty =>
    simp only [allowance, Bool.false_eq_true, if_false] at *
    omega

/-- A full bucket hands out its capacity and a token for each whole period. -/
theorem allowance_full_le (capacity period : Nat) (after : start ≤ now) (finish : Nat) :
    (mk capacity now).allowance capacity period start finish ≤
      capacity + (finish - start) / period := by
  have later : (finish - now) / period ≤ (finish - start) / period :=
    Nat.div_le_div_right (Nat.sub_le_sub_left after _)
  have none : start - now = 0 := Nat.sub_eq_zero_of_le after
  rw [allowance, earned, earned, none, Nat.zero_div, Nat.add_zero, Nat.sub_zero, min_self]
  exact Nat.add_le_add_left later _

/-- Over an interval in which no period completes on time from before it, a
bucket hands out at most its capacity and a token for each whole period. -/
theorem allowance_le (capacity : Nat) {length : Nat}
    (carried : (start - bucket.last) % period + length % period < period) :
    bucket.allowance capacity period start (start + length) ≤ capacity + length / period := by
  have completed : bucket.earned period (start + length) ≤
      length / period + bucket.earned period start :=
    calc (start + length - bucket.last) / period
      _ ≤ (length + (start - bucket.last)) / period := Nat.div_le_div_right (by omega)
      _ = length / period + (start - bucket.last) / period := by
          rw [Nat.add_div (by omega), if_neg (by omega), Nat.add_zero]
  exact Nat.add_le_add (min_le_right _ _) (Nat.sub_le_iff_le_add.mpr completed)

/-! ## Buckets that earn by a rate -/

/-- What `rate` tokens in `scale` units of time come to since the clock, cut at
the most one refill may grant. -/
def accrued (bucket : TokenBucket) (rate scale most now : Nat) : Nat :=
  min ((now - bucket.last) * rate / scale) most

/-- The bucket at a time. The clock is put forward by the time of the tokens
granted, rounded down. -/
def refillAt (bucket : TokenBucket) (capacity rate scale most now : Nat) : TokenBucket :=
  if 0 < bucket.accrued rate scale most now then
    ⟨min (bucket.tokens + bucket.accrued rate scale most now) capacity,
      bucket.last + bucket.accrued rate scale most now * scale / rate⟩
  else bucket

/-- What a bucket can hand out up to a time. -/
def prospect (bucket : TokenBucket) (rate scale finish : Nat) : Nat :=
  bucket.tokens + (finish - bucket.last) * rate / scale

variable {rate scale most : Nat}

/-- The tokens granted never stand for more time than has passed. -/
theorem accrued_mul_div_le (rate scale most now : Nat) :
    bucket.accrued rate scale most now * scale / rate ≤ now - bucket.last := by
  have earned : bucket.accrued rate scale most now * scale ≤ (now - bucket.last) * rate :=
    (Nat.mul_le_mul_right _ (min_le_left _ _)).trans (Nat.div_mul_le_self _ _)
  exact Nat.div_le_of_le_mul (earned.trans (Nat.mul_comm _ _).le)

/-- **A refill whose tokens stand for a whole number of units of time grants
nothing that was not in prospect.** -/
theorem prospect_refillAt_le (capacity : Nat)
    (exact : rate ∣ bucket.accrued rate scale most now * scale) (before : now ≤ finish) :
    (bucket.refillAt capacity rate scale most now).prospect rate scale finish ≤
      bucket.prospect rate scale finish := by
  unfold refillAt
  split
  case isTrue =>
    have inProspect : bucket.accrued rate scale most now ≤ (finish - bucket.last) * rate / scale :=
      (min_le_left _ _).trans
        (Nat.div_le_div_right (Nat.mul_le_mul_right _ (Nat.sub_le_sub_right before _)))
    generalize bucket.accrued rate scale most now = granted at exact inProspect ⊢
    -- The time taken off the clock earned exactly the tokens granted.
    have left : (finish - (bucket.last + granted * scale / rate)) * rate / scale =
        (finish - bucket.last) * rate / scale - granted := by
      rw [← Nat.sub_sub, Nat.sub_mul, Nat.div_mul_cancel exact, Nat.mul_comm granted,
        Nat.sub_mul_div]
    simp only [prospect, left]
    omega
  case isFalse => exact le_rfl

/-- **A refill that stays below the capacity grants all that is earned**, and puts the clock
forward by no more time than the tokens stand for. -/
theorem refillAt_of_lt {capacity : Nat} (enough : capacity ≤ most)
    (below : (bucket.refillAt capacity rate scale most now).tokens < capacity) :
    (bucket.refillAt capacity rate scale most now).tokens =
        bucket.tokens + (now - bucket.last) * rate / scale ∧
      ((bucket.refillAt capacity rate scale most now).last - bucket.last) * rate ≤
        (now - bucket.last) * rate / scale * scale := by
  unfold refillAt accrued at below ⊢
  generalize (now - bucket.last) * rate / scale = earned at below ⊢
  by_cases some : 0 < min earned most
  case pos =>
    rw [if_pos some] at below ⊢
    have uncut : min earned most = earned := by
      dsimp only at below
      omega
    rw [uncut] at below ⊢
    dsimp only at below ⊢
    rw [Nat.add_sub_cancel_left]
    exact ⟨by omega, Nat.div_mul_le_self _ _⟩
  case neg =>
    rw [if_neg some] at below ⊢
    have nothing : earned = 0 := by omega
    rw [nothing, Nat.sub_self, Nat.zero_mul]
    exact ⟨rfl, Nat.zero_le _⟩

/-- The tokens gained since `start` cover the time that the clock was put forward. -/
def Covers (rate scale : Nat) (start bucket : TokenBucket) : Prop := start.tokens ≤ bucket.tokens ∧
    (bucket.last - start.last) * rate ≤ (bucket.tokens - start.tokens) * scale

/-- **A bucket that covers its clock goes on to, and has gained all that was earned since the
start.** -/
theorem Covers.refillAt {start bucket : TokenBucket} (covers : Covers rate scale start bucket)
    (positive : 0 < scale) {capacity : Nat} (enough : capacity ≤ most)
    (below : (bucket.refillAt capacity rate scale most now).tokens < capacity) :
    Covers rate scale start (bucket.refillAt capacity rate scale most now) ∧
      (now - start.last) * rate / scale ≤
        (bucket.refillAt capacity rate scale most now).tokens - start.tokens := by
  obtain ⟨tokens, last⟩ := bucket.refillAt_of_lt enough below
  have gained : bucket.tokens + (now - bucket.last) * rate / scale - start.tokens =
      (now - bucket.last) * rate / scale + (bucket.tokens - start.tokens) := by
    rw [Nat.sub_add_comm covers.1, Nat.add_comm]
  rw [Covers, tokens, gained, ← Nat.add_mul_div_right _ _ positive]
  refine ⟨⟨covers.1.trans (Nat.le_add_right _ _), ?_⟩, Nat.div_le_div_right ?_⟩
  · rw [Nat.add_mul_div_right _ _ positive, Nat.add_mul]
    refine le_trans ?_ (Nat.add_le_add last covers.2)
    rw [← Nat.add_mul]
    exact Nat.mul_le_mul_right _ (by omega)
  · refine le_trans ?_ (Nat.add_le_add_left covers.2 _)
    rw [← Nat.add_mul]
    exact Nat.mul_le_mul_right _ (by omega)

end TokenBucket
end ShieldNet
