import Mathlib.Tactic.Linarith
import Mathlib.Tactic.Positivity
import ShieldNet.Lib.Assoc
import ShieldNet.Lib.Text

/-!
# Rate limits

One bucket of tokens for each tenant and principal (`crates/sng-swg/src/rate_limit.rs`),
with counts and rates as exact fractions. A bucket begins full, when it is first
asked for, so the first request of a pair is decided alike at any time
(`acquire_empty`). Nothing but its own requests bears on the decisions for a pair,
where the keys of the pairs differ and what is evicted would be full again
(`decisions_eq_alone`).
-/

namespace ShieldNet.Swg

open Assoc List

/-- `RateLimiter::new` asserts both bounds. -/
structure RateLimiter where
  capacity : ℚ
  refillPerSec : ℚ
  positive : 0 < capacity
  nonneg : 0 ≤ refillPerSec

structure Bucket where
  tokens : ℚ
  lastRefill : Nat

structure RateLimitDecision where
  permitted : Bool
  retryAfterSecs : Nat
  bucketKey : Text

def formatKey (tenantId principalId : Text) : Text := tenantId ++ '|' :: principalId

namespace RateLimiter

variable (limiter : RateLimiter)

/-- A clock that runs backwards earns nothing. -/
def refill (bucket : Bucket) (now : Nat) : Bucket :=
  let elapsed : ℚ := (now - bucket.lastRefill : Nat) / 1000000000
  ⟨min (bucket.tokens + elapsed * limiter.refillPerSec) limiter.capacity, now⟩

/-- How long until there is a token, at least a second and at most an hour. -/
def waitSecs (tokens : ℚ) : Nat := max 1 (if 0 < limiter.refillPerSec then
    min 3600 ((1 - tokens) / limiter.refillPerSec).ceil.toNat
  else 60)

def acquire (buckets : Assoc Text Bucket) (now : Nat) (tenantId principalId : Text) :
    RateLimitDecision × Assoc Text Bucket :=
  let key := formatKey tenantId principalId
  let bucket := limiter.refill ((buckets.get? key).getD ⟨limiter.capacity, now⟩) now
  if 1 ≤ bucket.tokens then
    (⟨true, 0, key⟩, buckets.set key { bucket with tokens := bucket.tokens - 1 })
  else (⟨false, limiter.waitSecs bucket.tokens, key⟩, buckets.set key bucket)

theorem refill_full (now : Nat) : (limiter.refill ⟨limiter.capacity, now⟩ now).tokens =
    limiter.capacity := by
  simp [refill]

/-- The first request of a pair is decided by the capacity alone. -/
theorem acquire_empty (now : Nat) (tenantId principalId : Text) :
    (limiter.acquire .empty now tenantId principalId).1 =
      if 1 ≤ limiter.capacity then ⟨true, 0, formatKey tenantId principalId⟩
      else ⟨false, limiter.waitSecs limiter.capacity, formatKey tenantId principalId⟩ := by
  rw [acquire]
  rw [get?_empty, Option.getD_none, refill_full]
  split <;> rfl

def evictIdle (buckets : Assoc Text Bucket) (now idleMax : Nat) : Assoc Text Bucket where
  entries := buckets.entries.filter fun entry =>
    now < entry.2.lastRefill || now - entry.2.lastRefill < idleMax
  distinct := (filter_sublist.map Prod.fst).nodup buckets.distinct

inductive LimiterCall where
  | acquire (tenantId principalId : Text)
  | evictIdle (idleMax : Nat)
  deriving DecidableEq

/-- The decisions on the requests of a pair, from calls with their times. -/
def decisions (tenantId principalId : Text) :
    Assoc Text Bucket → List (Nat × LimiterCall) → List RateLimitDecision
  | _, [] => []
  | buckets, (now, .acquire tenant principal) :: calls =>
    let (decision, after) := limiter.acquire buckets now tenant principal
    if tenant = tenantId ∧ principal = principalId then
      decision :: decisions tenantId principalId after calls
    else decisions tenantId principalId after calls
  | buckets, (now, .evictIdle idleMax) :: calls =>
    decisions tenantId principalId (evictIdle buckets now idleMax) calls

/-- The bucket that a request counts from. -/
def found (bucket : Option Bucket) (now : Nat) : Bucket :=
  limiter.refill (bucket.getD ⟨limiter.capacity, now⟩) now

/-- A request of another pair has another key, and an eviction leaves a bucket the time
to fill up. -/
def Undisturbed (tenantId principalId : Text) : LimiterCall → Prop
  | .acquire tenant principal => formatKey tenant principal = formatKey tenantId principalId →
      tenant = tenantId ∧ principal = principalId
  | .evictIdle idleMax => limiter.capacity ≤ idleMax / 1000000000 * limiter.refillPerSec

/-- From a time on, a request of the key finds the same bucket here as there. -/
structure Alike (key : Text) (now : Nat) (here there : Assoc Text Bucket) : Prop where
  nonneg : ∀ bucket ∈ here.get? key, 0 ≤ bucket.tokens
  same : ∀ later, now ≤ later →
    limiter.found (here.get? key) later = limiter.found (there.get? key) later

section Pair

variable {limiter} {key tenant principal : Text} {now idleMax later : Nat}
  {here there : Assoc Text Bucket} {bucket : Bucket}

theorem found_nonneg {stored : Option Bucket} (nonneg : ∀ bucket ∈ stored, 0 ≤ bucket.tokens) :
    0 ≤ (limiter.found stored now).tokens := by
  have before : 0 ≤ (stored.getD ⟨limiter.capacity, now⟩).tokens := by
    cases stored with
    | none => exact limiter.positive.le
    | some bucket => exact nonneg bucket rfl
  refine le_min (add_nonneg before ?_) limiter.positive.le
  exact mul_nonneg (by positivity) limiter.nonneg

/-- A bucket that has had the time to fill up is as good as none. -/
theorem found_idle (nonneg : 0 ≤ bucket.tokens)
    (fills : limiter.capacity ≤ idleMax / 1000000000 * limiter.refillPerSec)
    (idle : idleMax ≤ later - bucket.lastRefill) :
    limiter.found (some bucket) later = limiter.found none later := by
  have earned : limiter.capacity ≤ bucket.tokens +
      (later - bucket.lastRefill : Nat) / 1000000000 * limiter.refillPerSec := by
    refine fills.trans (le_add_of_nonneg_of_le nonneg ?_)
    have := limiter.nonneg
    gcongr
  simp [found, refill, min_eq_right earned]

theorem get?_evictIdle :
    (evictIdle here now idleMax).get? key = some bucket ↔ here.get? key = some bucket ∧
      (now < bucket.lastRefill ∨ now - bucket.lastRefill < idleMax) := by
  rw [← mem_entries_iff, ← mem_entries_iff, evictIdle, mem_filter]
  simp

theorem Alike.evict (alike : limiter.Alike key now here there)
    (fills : limiter.capacity ≤ idleMax / 1000000000 * limiter.refillPerSec) :
    limiter.Alike key now (evictIdle here now idleMax) there := by
  refine ⟨fun bucket kept => alike.nonneg bucket (get?_evictIdle.mp kept).1, ?_⟩
  intro later after
  rw [← alike.same later after]
  cases kept : (evictIdle here now idleMax).get? key with
  | some bucket => rw [(get?_evictIdle.mp kept).1]
  | none =>
    cases stored : here.get? key with
    | none => rfl
    | some bucket =>
      refine (found_idle (alike.nonneg bucket stored) fills ?_).symm
      by_contra short
      rw [get?_evictIdle.mpr ⟨stored, by omega⟩] at kept
      cases kept

theorem Alike.acquire_other (alike : limiter.Alike key now here there)
    (apart : key ≠ formatKey tenant principal) :
    limiter.Alike key now (limiter.acquire here now tenant principal).2 there := by
  have kept : (limiter.acquire here now tenant principal).2.get? key = here.get? key := by
    rw [acquire]
    split <;> rw [get?_set, if_neg apart]
  exact ⟨kept ▸ alike.nonneg, kept ▸ alike.same⟩

theorem Alike.acquire_own (alike : limiter.Alike (formatKey tenant principal) now here there) :
    (limiter.acquire here now tenant principal).1 = (limiter.acquire there now tenant principal).1 ∧
      limiter.Alike (formatKey tenant principal) now (limiter.acquire here now tenant principal).2
        (limiter.acquire there now tenant principal).2 := by
  have same := alike.same now le_rfl
  have nonneg : 0 ≤ (limiter.found _ now).tokens := found_nonneg alike.nonneg
  unfold found at same nonneg
  simp only [acquire, ← same]
  split
  case isTrue enough =>
    exact ⟨rfl, by simpa [get?_set] using enough, by simp [get?_set]⟩
  case isFalse _ =>
    exact ⟨rfl, by simpa [get?_set] using nonneg, by simp [get?_set]⟩

theorem Alike.decisions_eq {calls : List (Nat × LimiterCall)}
    (alike : limiter.Alike (formatKey tenant principal) now here there)
    (ordered : (now :: calls.map Prod.fst).Pairwise (· ≤ ·))
    (undisturbed : ∀ call ∈ calls, limiter.Undisturbed tenant principal call.2) :
    limiter.decisions tenant principal here calls =
      limiter.decisions tenant principal there
        (calls.filter (·.2 = .acquire tenant principal)) := by
  induction calls generalizing now here there with
  | nil => rfl
  | cons call calls ih =>
    obtain ⟨time, call⟩ := call
    obtain ⟨after, rest⟩ := pairwise_cons.mp ordered
    obtain ⟨this, others⟩ := forall_mem_cons.mp undisturbed
    have alike : limiter.Alike (formatKey tenant principal) time here there :=
      ⟨alike.nonneg, fun later last => alike.same later ((after time (by simp)).trans last)⟩
    cases call with
    | evictIdle idleMax => exact ih (alike.evict this) rest others
    | acquire other user =>
      by_cases own : other = tenant ∧ user = principal
      · obtain ⟨rfl, rfl⟩ := own
        obtain ⟨decided, next⟩ := alike.acquire_own
        simp [decisions, decided, ih next rest others]
      · have next := alike.acquire_other (fun same => own (this same.symm))
        simpa [decisions, own] using ih next rest others

end Pair

/-- **Nothing but its own requests bears on the decisions for a pair**, while the clock
does not go back, the other pairs have other keys, and evictions leave the buckets the
time to fill up. -/
theorem decisions_eq_alone (tenant principal : Text) (calls : List (Nat × LimiterCall))
    (ordered : (calls.map Prod.fst).Pairwise (· ≤ ·))
    (undisturbed : ∀ call ∈ calls, limiter.Undisturbed tenant principal call.2) :
    limiter.decisions tenant principal .empty calls = limiter.decisions tenant principal .empty
      (calls.filter (·.2 = .acquire tenant principal)) := by
  have alike : limiter.Alike (formatKey tenant principal) 0 .empty .empty :=
    ⟨by simp, fun _ _ => rfl⟩
  exact alike.decisions_eq (pairwise_cons.mpr ⟨by simp, ordered⟩) undisturbed

/-- One request, and a new one each second. -/
def onePerSecond : RateLimiter := ⟨1, 1, by norm_num, by norm_num⟩

theorem second_decision_kept : onePerSecond.decisions ['a'] ['b'] .empty [(0, .acquire ['a'] ['b']),
      (0, .acquire ['c'] ['b']), (0, .evictIdle 1000000000), (0, .acquire ['a'] ['b'])] =
    onePerSecond.decisions ['a'] ['b'] .empty
      [(0, .acquire ['a'] ['b']), (0, .acquire ['a'] ['b'])] :=
  onePerSecond.decisions_eq_alone ['a'] ['b'] _ (by decide)
    (by simp [Undisturbed, onePerSecond, formatKey])

/-- The principal `b|c` of the tenant `a` pays for `c` of `a|b`, and an eviction fills a
bucket that was empty. -/
theorem decisions_disturbed :
    ((onePerSecond.decisions ['a'] ['b', '|', 'c'] .empty [(0, .acquire ['a', '|', 'b'] ['c']),
        (0, .acquire ['a'] ['b', '|', 'c'])]).map (·.permitted) = [false] ∧
      (onePerSecond.decisions ['a'] ['b', '|', 'c'] .empty
        [(0, .acquire ['a'] ['b', '|', 'c'])]).map (·.permitted) = [true]) ∧
    (onePerSecond.decisions ['a'] ['b'] .empty [(0, .acquire ['a'] ['b']), (0, .evictIdle 0),
        (0, .acquire ['a'] ['b'])]).map (·.permitted) = [true, true] ∧
      (onePerSecond.decisions ['a'] ['b'] .empty
        [(0, .acquire ['a'] ['b']), (0, .acquire ['a'] ['b'])]).map (·.permitted) =
          [true, false] := by
  decide +kernel

end RateLimiter

end ShieldNet.Swg
