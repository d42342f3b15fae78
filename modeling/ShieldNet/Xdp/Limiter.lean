import Mathlib.Data.Finset.Max
import ShieldNet.Xdp.Flood

/-!
# The limiter outside the kernel

The token bucket of `crates/sng-ebpf/src/ddos.rs`. A refill grants the whole tokens of the time
that has passed and puts the clock forward by the time of those tokens, rounded down. So a bucket
that is polled loses nothing of what its rate comes to, however often it is polled
(`polled_bucket_not_starved`). What the rounding leaves on the clock is granted again, and how much
that is depends on when the bucket is polled (`extra_poll_reduces_credit`).
-/

namespace ShieldNet.Xdp

open List

structure RateLimit where
  capacity : UInt64
  refillPerSec : UInt64

/-- `u64::try_from(value).unwrap_or(u64::MAX)`. -/
def toU64OrMax (value : Nat) : UInt64 := if value < UInt64.size then .ofNat value else -1

theorem toNat_toU64OrMax (value : Nat) :
    (toU64OrMax value).toNat = min value (UInt64.size - 1) := by
  unfold toU64OrMax
  split
  case isTrue fits =>
    rw [UInt64.toNat_ofNat_of_lt' fits, min_eq_left (Nat.le_sub_one_of_lt fits)]
  case isFalse wide =>
    rw [min_eq_right ((Nat.sub_le _ _).trans (Nat.not_lt.mp wide))]
    decide

namespace TokenBucketState

def earned (bucket : TokenBucketState) (limit : RateLimit) (now : UInt64) : Nat :=
  (saturatingSub now bucket.lastRefillNs).toNat * limit.refillPerSec.toNat / nanosPerSec.toNat

def refill (bucket : TokenBucketState) (limit : RateLimit) (now : UInt64) : TokenBucketState :=
  if limit.refillPerSec = 0 then { bucket with lastRefillNs := max bucket.lastRefillNs now }
  else if saturatingSub now bucket.lastRefillNs = 0 then bucket
  else if bucket.earned limit now = 0 then bucket
  else
    let added := toU64OrMax (bucket.earned limit now)
    let consumedNs := toU64OrMax (added.toNat * nanosPerSec.toNat / limit.refillPerSec.toNat)
    { tokens := min (saturatingAdd bucket.tokens added) limit.capacity
      lastRefillNs := saturatingAdd bucket.lastRefillNs consumedNs }

variable (bucket : TokenBucketState) {limit : RateLimit} (now : UInt64)

theorem toNat_granted (limit : RateLimit) : (toU64OrMax (bucket.earned limit now)).toNat =
    bucket.bucket.accrued limit.refillPerSec.toNat 1000000000 (UInt64.size - 1) now.toNat := by
  rw [toNat_toU64OrMax, earned, toNat_saturatingSub]
  rfl

/-- **The refill is that of a bucket that earns by a rate**: the clock never
passes the present, so neither it nor the time taken off is cut. -/
theorem bucket_refill (refills : limit.refillPerSec ≠ 0) : (bucket.refill limit now).bucket =
    bucket.bucket.refillAt limit.capacity.toNat limit.refillPerSec.toNat 1000000000
      (UInt64.size - 1) now.toNat := by
  have granted := bucket.toNat_granted now limit
  have spent := bucket.bucket.accrued_mul_div_le limit.refillPerSec.toNat 1000000000
    (UInt64.size - 1) now.toNat
  have nowBound := now.toNat_lt
  have lastBound := bucket.lastRefillNs.toNat_lt
  have capacityBound := limit.capacity.toNat_lt
  rw [TokenBucket.refillAt, ← granted, refill, if_neg refills]
  rw [← granted] at spent
  by_cases nothing : bucket.earned limit now = 0
  case pos =>
    have none : ¬ 0 < (toU64OrMax (bucket.earned limit now)).toNat := by
      rw [nothing]
      decide
    rw [if_neg none, if_pos nothing, ite_self]
  case neg =>
    have some : 0 < (toU64OrMax (bucket.earned limit now)).toNat := by
      rw [toNat_toU64OrMax]
      exact lt_min (Nat.pos_of_ne_zero nothing) (by decide)
    have elapsed : saturatingSub now bucket.lastRefillNs ≠ 0 := by
      intro still
      rw [earned, still, UInt64.toNat_zero, Nat.zero_mul, Nat.zero_div] at nothing
      exact nothing rfl
    rw [if_pos some, if_neg elapsed, if_neg nothing]
    generalize toU64OrMax (bucket.earned limit now) = added at spent ⊢
    have tokens : (min (saturatingAdd bucket.tokens added) limit.capacity).toNat =
        min (bucket.tokens.toNat + added.toNat) limit.capacity.toNat := by
      rw [toNat_min, toNat_saturatingAdd]
      omega
    have last : (saturatingAdd bucket.lastRefillNs
        (toU64OrMax (added.toNat * nanosPerSec.toNat / limit.refillPerSec.toNat))).toNat =
        bucket.lastRefillNs.toNat + added.toNat * 1000000000 / limit.refillPerSec.toNat := by
      have scale : nanosPerSec.toNat = 1000000000 := rfl
      rw [toNat_saturatingAdd, toNat_toU64OrMax, scale]
      generalize added.toNat * 1000000000 / limit.refillPerSec.toNat = consumed at spent ⊢
      simp only [TokenBucketState.bucket, UInt64.size] at spent ⊢
      omega
    simp only [TokenBucketState.bucket, tokens, last]

end TokenBucketState

/-- The tokens that refills at these times add to a bucket of which nothing is taken. -/
def credited (limit : RateLimit) (bucket : TokenBucketState) (times : List UInt64) : Nat :=
  (times.foldl (·.refill limit ·) bucket).tokens.toNat - bucket.tokens.toNat

/-- No refill at these times reaches the capacity. -/
def StaysBelow (limit : RateLimit) : TokenBucketState → List UInt64 → Prop :=
  AlongRun (·.refill limit ·) fun bucket now => (bucket.refill limit now).tokens < limit.capacity

variable {limit : RateLimit} {bucket : TokenBucketState}

section

variable (refills : limit.refillPerSec ≠ 0)

include refills

theorem covers_refill {start : TokenBucket}
    (covers : start.Covers limit.refillPerSec.toNat 1000000000 bucket.bucket) {now : UInt64}
    (below : (bucket.refill limit now).tokens < limit.capacity) :
    start.Covers limit.refillPerSec.toNat 1000000000 (bucket.refill limit now).bucket ∧
      (now.toNat - start.last) * limit.refillPerSec.toNat / 1000000000 ≤
        (bucket.refill limit now).tokens.toNat - start.tokens := by
  have tokens : (bucket.refill limit now).bucket.tokens < limit.capacity.toNat :=
    UInt64.lt_iff_toNat_lt.mp below
  change _ ∧ _ ≤ (bucket.refill limit now).bucket.tokens - start.tokens
  rw [bucket.bucket_refill now refills] at tokens ⊢
  exact covers.refillAt (by decide) (Nat.le_sub_one_of_lt limit.capacity.toNat_lt) tokens

theorem earned_le_credited {times : List UInt64}
    (below : StaysBelow limit bucket times) {start : TokenBucket}
    (covers : start.Covers limit.refillPerSec.toNat 1000000000 bucket.bucket) {now : UInt64}
    (polled : now ∈ times) :
    (now.toNat - start.last) * limit.refillPerSec.toNat / 1000000000 ≤
      (times.foldl (·.refill limit ·) bucket).tokens.toNat - start.tokens := by
  induction times generalizing bucket with
  | nil => cases polled
  | cons first rest ih =>
    have step := covers_refill refills covers below.1
    rcases mem_cons.mp polled with rfl | later
    · -- what is credited by then is not lost again
      have kept := AlongRun.invariant (fun reached : TokenBucketState =>
        (bucket.refill limit now).bucket.Covers limit.refillPerSec.toNat 1000000000 reached.bucket)
        (fun reached now covers below => (covers_refill refills covers below).1) below.2
        ⟨le_rfl, by simp⟩
      exact step.2.trans (Nat.sub_le_sub_right kept.1 _)
    · exact ih below.2 step.1 later

theorem credited_le
    (exact : limit.refillPerSec.toNat ∣ 1000000000) {times : List UInt64} {finish : Nat}
    (before : ∀ now ∈ times, now.toNat ≤ finish) : credited limit bucket times ≤
      (finish - bucket.lastRefillNs.toNat) * limit.refillPerSec.toNat / 1000000000 := by
  have kept := foldlRecOn (motive := fun reached : TokenBucketState =>
      reached.bucket.prospect limit.refillPerSec.toNat 1000000000 finish ≤
        bucket.bucket.prospect limit.refillPerSec.toNat 1000000000 finish) times
    (·.refill limit ·) le_rfl fun reached held now polled => by
      rw [reached.bucket_refill now refills]
      exact (TokenBucket.prospect_refillAt_le _ _ (exact.mul_left _) (before now polled)).trans held
  exact Nat.sub_le_iff_le_add'.mpr ((Nat.le_add_right _ _).trans kept)

end

/-- **A bucket that is polled is not starved**: by each poll at least what the rate comes to since
the clock has been credited, as long as no refill reaches the capacity. Where the rate divides a
second, polling more often never reduces the credit. -/
theorem polled_bucket_not_starved (limit : RateLimit) (refills : limit.refillPerSec ≠ 0)
    (bucket : TokenBucketState) (times : List UInt64) (below : StaysBelow limit bucket times) :
    (∀ now ∈ times, (now.toNat - bucket.lastRefillNs.toNat) * limit.refillPerSec.toNat /
      1000000000 ≤ credited limit bucket times) ∧
    (limit.refillPerSec.toNat ∣ 1000000000 → ∀ fewer : List UInt64, fewer ⊆ times →
      credited limit bucket fewer ≤ credited limit bucket times) := by
  have bound : ∀ now ∈ times, (now.toNat - bucket.lastRefillNs.toNat) *
      limit.refillPerSec.toNat / 1000000000 ≤ credited limit bucket times := fun now polled =>
    earned_le_credited refills below ⟨le_rfl, by simp⟩ polled
  refine ⟨bound, fun exact fewer polled => ?_⟩
  cases fewer with
  | nil => exact (Nat.sub_self _).trans_le (Nat.zero_le _)
  | cons first rest =>
    obtain ⟨last, listed, latest⟩ := (first :: rest).toFinset.exists_max_image UInt64.toNat
      ⟨first, mem_toFinset.mpr mem_cons_self⟩
    exact (credited_le refills exact fun now member =>
      latest now (mem_toFinset.mpr member)).trans
      (bound last (polled (mem_toFinset.mp listed)))

/-- Half a token in a nanosecond, polled at every one. -/
theorem half_token_not_starved :
    (3 - 0) * 500000000 / 1000000000 ≤ credited ⟨9, 500000000⟩ ⟨0, 0⟩ [1, 2, 3] ∧
      credited ⟨9, 500000000⟩ ⟨0, 0⟩ [1, 3] ≤ credited ⟨9, 500000000⟩ ⟨0, 0⟩ [1, 2, 3] :=
  have polled := polled_bucket_not_starved ⟨9, 500000000⟩ (by decide) ⟨0, 0⟩ [1, 2, 3]
    ⟨by decide, by decide, by decide, trivial⟩
  ⟨polled.1 3 (by decide), polled.2 (by decide) [1, 3] (by decide)⟩

/-- **A poll more reduces the credit**: at seven tokens in ten nanoseconds, polls at 17 and 31
credit 22 tokens, and with one more at 8 it is 21. -/
theorem extra_poll_reduces_credit : credited ⟨100, 700000000⟩ ⟨0, 0⟩ [17, 31] = 22 ∧
    credited ⟨100, 700000000⟩ ⟨0, 0⟩ [8, 17, 31] = 21 := by
  decide +kernel

end ShieldNet.Xdp
