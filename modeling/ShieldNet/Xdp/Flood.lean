import ShieldNet.Lib.Runs
import ShieldNet.Lib.TokenBucket
import ShieldNet.Xdp.Ingress

/-!
# The flood limit of the ingress program

How many UDP packets of one source get past the program within an interval. The
kernel's bucket is a token bucket of the library, so what it admits is bounded
by its allowance. The verdict cache stands in front of it, and a flow whose
packet was admitted once is not charged again while its verdict is fresh.
`flood_limit_without_cached_passes` bounds the runs in which no packet of the
source is answered that way, and `cached_flow_exceeds_its_limit` is one in which
they are.
-/

namespace ShieldNet.Xdp

open TokenBucket Function

/-! ## The kernel's bucket -/

variable (entry : TokenBucketState)

def TokenBucketState.bucket : TokenBucket := ⟨entry.tokens.toNat, entry.lastRefillNs.toNat⟩

theorem toNat_saturatingSub (a b : UInt64) : (saturatingSub a b).toNat = a.toNat - b.toNat := by
  unfold saturatingSub
  split
  case isTrue less =>
    have := UInt64.lt_iff_toNat_lt.mp less
    simp
    omega
  case isFalse notLess =>
    rw [UInt64.toNat_sub_of_le _ _ (UInt64.not_lt.mp notLess)]

theorem toNat_saturatingAdd (a b : UInt64) :
    (saturatingAdd a b).toNat = min (a.toNat + b.toNat) (2 ^ 64 - 1) := by
  have bBound := b.toNat_lt
  have sum := UInt64.toNat_add a b
  unfold saturatingAdd
  split
  case isTrue wraps =>
    have := UInt64.lt_iff_toNat_lt.mp wraps
    have full : (-1 : UInt64).toNat = 2 ^ 64 - 1 := by decide
    omega
  case isFalse fits =>
    have := UInt64.le_iff_toNat_le.mp (UInt64.not_lt.mp fits)
    omega

theorem toNat_min (a b : UInt64) : (min a b).toNat = min a.toNat b.toNat := by
  change (if a ≤ b then a else b).toNat = _
  rw [min_def]
  simp only [UInt64.le_iff_toNat_le]
  split <;> rfl

theorem pos_iff_toNat_pos {a : UInt64} : a > 0 ↔ 0 < a.toNat := UInt64.lt_iff_toNat_lt

theorem toNat_tokensAdded (refillPerSec now : UInt64) : (tokensAdded entry refillPerSec now).toNat =
    entry.bucket.earned (nsPerToken refillPerSec).toNat now.toNat := by
  rw [tokensAdded, UInt64.toNat_div, toNat_saturatingSub]
  rfl

variable {refillPerSec : UInt64}

/-- **The kernel's refill is that of the bucket**: neither the product nor the
clock can overflow, and the token count is cut at the capacity anyway. -/
theorem bucket_refillBucket (capacity : UInt64) (refills : refillPerSec > 0) (now : UInt64) :
    (refillBucket entry capacity refillPerSec now).bucket =
      entry.bucket.refill capacity.toNat (nsPerToken refillPerSec).toNat now.toNat := by
  have added := toNat_tokensAdded entry refillPerSec now
  have spent : (tokensAdded entry refillPerSec now).toNat * (nsPerToken refillPerSec).toNat ≤
      now.toNat - entry.lastRefillNs.toNat := by
    rw [added]
    exact Nat.div_mul_le_self _ _
  have nowBound := now.toNat_lt
  have lastBound := entry.lastRefillNs.toNat_lt
  have capacityBound := capacity.toNat_lt
  rw [refillBucket, if_pos refills, refill, ← added]
  simp only [pos_iff_toNat_pos]
  split
  case isTrue =>
    have tokens : (min (saturatingAdd entry.tokens (tokensAdded entry refillPerSec now))
        capacity).toNat =
        min (entry.tokens.toNat + (tokensAdded entry refillPerSec now).toNat) capacity.toNat := by
      rw [toNat_min, toNat_saturatingAdd]
      omega
    have last : (saturatingAdd entry.lastRefillNs
        (tokensAdded entry refillPerSec now * nsPerToken refillPerSec)).toNat =
        entry.lastRefillNs.toNat +
          (tokensAdded entry refillPerSec now).toNat * (nsPerToken refillPerSec).toNat := by
      rw [toNat_saturatingAdd, UInt64.toNat_mul]
      generalize (tokensAdded entry refillPerSec now).toNat * _ = consumed at spent ⊢
      omega
    simp only [TokenBucketState.bucket, tokens, last]
  case isFalse => rfl

/-- **The kernel's limiter is a request to the bucket of the source.** -/
theorem bucketAdmit_eq {capacity : UInt64} (positive : capacity ≠ 0) (refills : refillPerSec > 0)
    (buckets : Buckets) (src : BitVec 128) (now : UInt64) :
    ∃ entry : TokenBucketState, bucketAdmit buckets src capacity refillPerSec now =
        ((((buckets src).getD ⟨capacity, now⟩).bucket.request capacity.toNat
          (nsPerToken refillPerSec).toNat now.toNat).1, update buckets src (some entry)) ∧
      entry.bucket = (((buckets src).getD ⟨capacity, now⟩).bucket.request capacity.toNat
        (nsPerToken refillPerSec).toNat now.toNat).2 := by
  rw [bucketAdmit, if_neg positive, request, ← bucket_refillBucket _ _ refills]
  generalize refillBucket _ capacity refillPerSec now = entry
  split
  case isTrue some =>
    have tokens : entry.tokens > 0 := pos_iff_toNat_pos.mpr some
    have one : (entry.tokens - 1).toNat = entry.tokens.toNat - 1 :=
      UInt64.toNat_sub_of_le _ _ (UInt64.le_iff_toNat_le.mpr some)
    simp only [if_pos tokens]
    exact ⟨_, rfl, by simp only [TokenBucketState.bucket, one]⟩
  case isFalse none =>
    have empty : ¬ entry.tokens > 0 := fun tokens => none (pos_iff_toNat_pos.mp tokens)
    simp only [if_neg empty]
    exact ⟨_, rfl, rfl⟩

/-- Where the refill rate divides a second, a token takes the whole quotient. -/
theorem toNat_nsPerToken (divides : refillPerSec.toNat ∣ 1000000000) :
    refillPerSec > 0 ∧ (nsPerToken refillPerSec).toNat = 1000000000 / refillPerSec.toNat := by
  have positive : 0 < refillPerSec.toNat := Nat.pos_of_dvd_of_pos divides (by decide)
  have quotient : (nanosPerSec / refillPerSec).toNat = 1000000000 / refillPerSec.toNat :=
    UInt64.toNat_div _ _
  have nonzero : nanosPerSec / refillPerSec ≠ 0 := by
    intro zero
    rw [zero] at quotient
    exact (Nat.div_pos (Nat.le_of_dvd (by decide) divides) positive).ne quotient
  exact ⟨pos_iff_toNat_pos.mpr positive, by rw [nsPerToken, if_neg nonzero, quotient]⟩

/-! ## What the limiter admits -/

section Limiter

variable (capacity refillPerSec : UInt64) (start stop : Nat)

/-- The source's bucket holds no more than the capacity. -/
def Fits (entry : Option TokenBucketState) : Prop :=
  ∀ held ∈ entry, held.tokens.toNat ≤ capacity.toNat

/-- What the limiter can still admit from a source within the interval. -/
def allowanceOf (entry : Option TokenBucketState) : Nat :=
  match entry with
  | some held =>
    held.bucket.allowance capacity.toNat (nsPerToken refillPerSec).toNat start stop
  | none => capacity.toNat + (stop - start) / (nsPerToken refillPerSec).toNat

variable {capacity refillPerSec start stop}

/-- **An admission inside the interval is paid from the allowance.** -/
theorem bucketAdmit_paid (refills : refillPerSec > 0) {buckets : Buckets} {src : BitVec 128}
    (fits : Fits capacity (buckets src)) {now : UInt64} (after : start ≤ now.toNat)
    (before : now.toNat ≤ stop) :
    Fits capacity ((bucketAdmit buckets src capacity refillPerSec now).2 src) ∧
    allowanceOf capacity refillPerSec start stop
        ((bucketAdmit buckets src capacity refillPerSec now).2 src) +
      (if (bucketAdmit buckets src capacity refillPerSec now).1 then 1 else 0) ≤
    allowanceOf capacity refillPerSec start stop (buckets src) := by
  by_cases positive : capacity = 0
  case pos =>
    rw [bucketAdmit, if_pos positive]
    exact ⟨fits, le_rfl⟩
  case neg =>
    -- A source without a bucket gets a full one, which is within its allowance.
    have held : ((buckets src).getD ⟨capacity, now⟩).bucket.tokens ≤ capacity.toNat ∧
        ((buckets src).getD ⟨capacity, now⟩).bucket.allowance capacity.toNat
          (nsPerToken refillPerSec).toNat start stop ≤
        allowanceOf capacity refillPerSec start stop (buckets src) := by
      cases found : buckets src with
      | none => exact ⟨le_rfl, allowance_full_le _ _ after _⟩
      | some entry => exact ⟨fits entry found, le_rfl⟩
    obtain ⟨entry, admits, bucket⟩ := bucketAdmit_eq positive refills buckets src now
    simp only [admits, update_self]
    refine ⟨?_, ?_⟩
    · rintro _ ⟨⟩
      exact (congrArg tokens bucket).trans_le (request_tokens_le _ held.1 _ _)
    · refine le_trans ?_ held.2
      rw [allowanceOf, bucket]
      exact allowance_request _ held.1 after before

end Limiter

/-! ## What gets past the program -/

def udpFrom (src : BitVec 128) (parsed : Parsed) : Bool :=
  parsed.key.protocol == protoUdp && parsed.key.src == src

theorem udpFrom_eq_true_iff {src : BitVec 128} {parsed : Parsed} :
    udpFrom src parsed ↔ parsed.key.protocol = protoUdp ∧ parsed.key.src = src := by
  simp [udpFrom]

section Program

variable {maps : IngressMaps} {cfg : WireDdosConfig} {src : BitVec 128} {start stop : Nat}

/-- The step from one state to another keeps the source's bucket within its
capacity and pays from the allowance for what it lets past. -/
def Paid (cfg : WireDdosConfig) (src : BitVec 128) (start stop : Nat)
    (before after : IngressState) (past : Bool) : Prop :=
  Fits cfg.udpCapacity (before.udpBuckets src) → Fits cfg.udpCapacity (after.udpBuckets src) ∧
    allowanceOf cfg.udpCapacity cfg.udpRefillPerSec start stop (after.udpBuckets src) +
      (if past then 1 else 0) ≤
    allowanceOf cfg.udpCapacity cfg.udpRefillPerSec start stop (before.udpBuckets src)

/-- A step that leaves the source's bucket alone may let nothing past. -/
theorem Paid.unchanged {before after : IngressState} {past : Bool}
    (same : after.udpBuckets src = before.udpBuckets src) (nothing : past = false) :
    Paid cfg src start stop before after past := by
  intro fits
  rw [same, nothing]
  exact ⟨fits, le_rfl⟩

/-- A step may be followed by what leaves the bucket alone and stops packets. -/
theorem Paid.followed {before between after : IngressState} {past fewer : Bool}
    (paid : Paid cfg src start stop before between past)
    (same : after.udpBuckets src = between.udpBuckets src) (stops : fewer → past) :
    Paid cfg src start stop before after fewer := by
  intro fits
  obtain ⟨kept, covered⟩ := paid fits
  rw [same]
  refine ⟨kept, le_trans (Nat.add_le_add_left ?_ _) covered⟩
  cases fewer with
  | false => exact Nat.zero_le _
  | true => rw [stops rfl]

theorem rateLimitAdmits_paid (enabled : cfg.udpEnabled) (refills : cfg.udpRefillPerSec > 0)
    (state : IngressState) {parsed : Parsed} {now : UInt64}
    (inside : udpFrom src parsed → start ≤ now.toNat ∧ now.toNat ≤ stop) :
    Paid cfg src start stop state (rateLimitAdmits cfg state parsed now).2
      (udpFrom src parsed && (rateLimitAdmits cfg state parsed now).1) := by
  unfold rateLimitAdmits
  split
  case isTrue syn =>
    refine .unchanged rfl ?_
    have tcp := parsed.synIsTcp (Bool.and_eq_true_iff.mp syn).1
    simp [udpFrom, tcp, protoTcp, protoUdp]
  split
  case isTrue udp =>
    by_cases own : parsed.key.src = src
    case pos =>
      obtain ⟨after, before⟩ := inside (udpFrom_eq_true_iff.mpr ⟨udp.1, own⟩)
      subst own
      rw [udpFrom_eq_true_iff.mpr ⟨udp.1, rfl⟩, Bool.true_and]
      exact fun fits => bucketAdmit_paid refills fits after before
    case neg =>
      refine .unchanged ?_ (by simp [udpFrom, own])
      simp only [bucketAdmit]
      split
      · rfl
      · split <;> exact update_of_ne (Ne.symm own) _ _
  case isFalse other =>
    refine .unchanged rfl ?_
    have notUdp : parsed.key.protocol ≠ protoUdp := fun udp => other ⟨udp, enabled⟩
    simp [udpFrom, notUdp]

end Program

/-! ## Runs -/

def ServedOpen (state : IngressState) (key : FlowKey) (now : UInt64) : Prop :=
  ∃ entry ∈ freshVerdict state key now, xdpActionOrPass entry.action ≠ .drop

namespace IngressEvent

/-- A UDP packet of the source that the program does not drop. -/
def getsPast (maps : IngressMaps) (src : BitVec 128) (state : IngressState) : IngressEvent → Bool
  | .packet (some parsed) now =>
    udpFrom src parsed && (tryClassify maps state (some parsed) now).1 != .drop
  | _ => false

/-- A UDP packet of the source comes within the interval, and the source's
bucket is not evicted. -/
def Within (src : BitVec 128) (start stop : Nat) : IngressEvent → Prop
  | .packet (some parsed) now =>
    udpFrom src parsed = true → start ≤ now.toNat ∧ now.toNat ≤ stop
  | .evictUdpBucket other => other ≠ src
  | _ => True

/-- No UDP packet of the source is answered by a verdict that lets it past. -/
def Uncached (src : BitVec 128) (state : IngressState) : IngressEvent → Prop
  | .packet (some parsed) now => udpFrom src parsed = true → ¬ ServedOpen state parsed.key now
  | _ => True

end IngressEvent

/-- The source has no bucket, or one that holds no more than the capacity and
whose time from before the interval completes no token within it. -/
def StartsWithin (cfg : WireDdosConfig) (start length : Nat) (entry : Option TokenBucketState) :
    Prop :=
  ∀ held ∈ entry, held.tokens ≤ cfg.udpCapacity ∧
    (start - held.lastRefillNs.toNat) % (1000000000 / cfg.udpRefillPerSec.toNat) +
      length % (1000000000 / cfg.udpRefillPerSec.toNat) < 1000000000 / cfg.udpRefillPerSec.toNat

section Runs

variable {maps : IngressMaps} {cfg : WireDdosConfig} {src : BitVec 128} {start stop : Nat}

/-- **Each step pays for what it lets past.** -/
theorem ingressStep_paid (configured : maps.ddos = some cfg) (enabled : cfg.udpEnabled)
    (refills : cfg.udpRefillPerSec > 0) (state : IngressState) (event : IngressEvent)
    (within : event.Within src start stop) (uncached : event.Uncached src state) :
    Paid cfg src start stop state (ingressStep maps state event)
      (event.getsPast maps src state) := by
  cases event with
  | packet parsed now =>
    cases parsed with
    | none => exact .unchanged rfl rfl
    | some parsed =>
      simp only [ingressStep, IngressEvent.getsPast, tryClassify]
      split
      case h_1 entry fresh =>
        refine .unchanged rfl (Bool.eq_false_iff.mpr fun past => ?_)
        obtain ⟨udp, open_⟩ := Bool.and_eq_true_iff.mp past
        exact uncached udp ⟨entry, fresh, by simpa using open_⟩
      case h_2 =>
        have limited := rateLimitAdmits_paid enabled refills state within
        simp only [mitigate, configured]
        split
        case isTrue => exact .unchanged rfl (Bool.and_false _)
        split
        case isTrue admitted =>
          rw [admitted, Bool.and_true] at limited
          refine limited.followed ?_ fun past => (Bool.and_eq_true_iff.mp past).1
          simp only [inspect]
          split <;> rfl
        refine limited.followed rfl fun past => ?_
        simp [finish, xdpActionOrPass] at past
  | evictUdpBucket other =>
    exact .unchanged (update_of_ne (Ne.symm within) _ _) rfl
  | _ => exact .unchanged rfl rfl

end Runs

/-- **The flood limit holds in the runs without cached passes**: whatever else
the program sees, in an interval no more UDP packets of a source get past it
than the capacity and the tokens refilled. The order of the packets does not
matter. -/
theorem flood_limit_without_cached_passes (maps : IngressMaps) (cfg : WireDdosConfig)
    (configured : maps.ddos = some cfg) (enabled : cfg.udpEnabled = true)
    (divides : cfg.udpRefillPerSec.toNat ∣ 1000000000) (src : BitVec 128) (state : IngressState)
    (start length : Nat) (events : List IngressEvent)
    (within : ∀ event ∈ events, event.Within src start (start + length))
    (bucket : StartsWithin cfg start length (state.udpBuckets src))
    (uncached : AlongRun (ingressStep maps) (fun state event => event.Uncached src state)
      state events) :
    countAlong (ingressStep maps) (fun state event => event.getsPast maps src state) state events ≤
      cfg.udpCapacity.toNat + length * cfg.udpRefillPerSec.toNat / 1000000000 := by
  obtain ⟨refills, period⟩ := toNat_nsPerToken divides
  have tokens : length * cfg.udpRefillPerSec.toNat / 1000000000 =
      length / (nsPerToken cfg.udpRefillPerSec).toNat := by
    rw [period]
    obtain ⟨quotient, product⟩ := divides
    have positive : 0 < cfg.udpRefillPerSec.toNat := pos_iff_toNat_pos.mp refills
    rw [product, Nat.mul_div_cancel_left _ positive, Nat.mul_comm length,
      Nat.mul_div_mul_left _ _ positive]
  have fits : Fits cfg.udpCapacity (state.udpBuckets src) := fun held found =>
    UInt64.le_iff_toNat_le.mp (bucket held found).1
  have potential : allowanceOf cfg.udpCapacity cfg.udpRefillPerSec start (start + length)
      (state.udpBuckets src) ≤
      cfg.udpCapacity.toNat + length / (nsPerToken cfg.udpRefillPerSec).toNat := by
    cases found : state.udpBuckets src with
    | none => rw [allowanceOf, Nat.add_sub_cancel_left]
    | some held =>
      refine allowance_le _ _ ?_
      rw [period]
      exact (bucket held found).2
  rw [tokens]
  refine le_trans ((uncached.and_forall within).countAlong_le
    (fun state => Fits cfg.udpCapacity (state.udpBuckets src)) ?_
    (fun state => allowanceOf cfg.udpCapacity cfg.udpRefillPerSec start (start + length)
      (state.udpBuckets src)) ?_ fits) potential
  · intro state event fits ⟨within, uncached⟩
    exact (ingressStep_paid configured enabled refills state event within uncached fits).1
  · intro state event fits ⟨within, uncached⟩
    exact (ingressStep_paid configured enabled refills state event within uncached fits).2

/-- A limit of one packet and one token a second, in front of a firewall that
passes everything. -/
def floodMaps : IngressMaps where
  firewall := ⟨fun _ => none, some ⟨0, 0⟩⟩
  classRules _ := none
  classInfo := some ⟨0, 0⟩
  ddos := some ⟨1, 1, 1, 1, false, true, false⟩
  geoipV4 _ := none
  geoipV6 _ := none
  geoBlock _ := false

def emptyState : IngressState := ⟨fun _ => none, fun _ => none, fun _ => none, fun _ => none⟩

def floodPacket (srcPort : UInt16) : Parsed where
  key := .new ⟨.v4 0xC6336401#32, .v4 0x0A000001#32, srcPort, 53, protoUdp⟩
  isTcpSyn := false
  bytes := 512
  synIsTcp := nofun

def floodSource : BitVec 128 := addrBytes (.v4 0xC6336401#32)

/-- The packets of two flows are charged, and the second is dropped. -/
theorem two_flows_stay_within_the_limit :
    countAlong (ingressStep floodMaps)
      (fun state event => event.getsPast floodMaps floodSource state)
      emptyState [.packet (some (floodPacket 1000)) 0, .packet (some (floodPacket 1001)) 1] ≤
    (1 : UInt64).toNat + 1 * (1 : UInt64).toNat / 1000000000 :=
  flood_limit_without_cached_passes floodMaps ⟨1, 1, 1, 1, false, true, false⟩ rfl rfl (by decide)
    floodSource emptyState 0 1 _
    (by simp [IngressEvent.Within]) (by simp [StartsWithin, emptyState])
    ⟨fun _ ⟨_, fresh, _⟩ => Option.not_mem_none _ fresh,
      fun _ ⟨_, fresh, _⟩ => Option.not_mem_none _ fresh, trivial⟩

def oneFlow : List IngressEvent :=
  [.packet (some (floodPacket 1000)) 0, .packet (some (floodPacket 1000)) 1,
    .packet (some (floodPacket 1000)) 2]

/-- **A flow whose first packet is admitted is not limited while its verdict is
fresh**: three packets of one flow within two nanoseconds get past a limit of
one. -/
theorem cached_flow_exceeds_its_limit : (∀ event ∈ oneFlow, event.Within floodSource 0 2) ∧
    StartsWithin ⟨1, 1, 1, 1, false, true, false⟩ 0 2 (emptyState.udpBuckets floodSource) ∧
    ¬ countAlong (ingressStep floodMaps)
        (fun state event => event.getsPast floodMaps floodSource state) emptyState oneFlow ≤
      (1 : UInt64).toNat + 2 * (1 : UInt64).toNat / 1000000000 := by
  refine ⟨?_, ?_, by decide⟩
  · simp [oneFlow, IngressEvent.Within]
  · simp [StartsWithin, emptyState]

end ShieldNet.Xdp
