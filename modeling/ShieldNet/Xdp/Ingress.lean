import ShieldNet.Xdp.Kernel

/-!
# The ingress program

`sng_xdp_classify` of `crates/sng-ebpf/bpf/src/main.rs` with the stages behind
it: the cached verdict of the flow, the country block, the flood limits, the
traffic class and the firewall, over the maps the loader fills and those the
program keeps itself. The kernel's own maps are taken by what a lookup answers,
and tail calls are taken to succeed. Packets come parsed.
-/

namespace ShieldNet.Xdp

/-! ## Contract -/

def protoTcp : UInt8 := 6

def protoUdp : UInt8 := 17

def classBlock : UInt8 := 5

def verdictTtlNs : UInt64 := 5000000000

def nanosPerSec : UInt64 := 1000000000

def maxClassRules : Nat := 1024

structure WireClassRule where
  dst : BitVec 128
  prefixLen : Nat
  family : IpFamily
  portPresent : Bool
  trafficClass : UInt8
  dstPort : UInt16

structure WireClassMeta where
  count : Nat
  fallbackClass : UInt8

structure WireDdosConfig where
  synCapacity : UInt64
  synRefillPerSec : UInt64
  udpCapacity : UInt64
  udpRefillPerSec : UInt64
  synEnabled : Bool
  udpEnabled : Bool
  geoipEnabled : Bool

structure WireCountry where
  first : UInt8
  second : UInt8

structure VerdictCacheEntry where
  action : XdpAction
  trafficClass : UInt8
  insertedNs : UInt64

structure FlowState where
  lastSeenNs : UInt64
  firstSeenNs : UInt64
  packets : UInt64
  bytes : UInt64
  action : XdpAction
  trafficClass : UInt8
  l4Protocol : UInt8
  anomalyFlags : UInt8

structure TokenBucketState where
  tokens : UInt64
  lastRefillNs : UInt64

/-- `Parsed`. The parser reads the flags of a TCP header only. -/
structure Parsed where
  key : FlowKey
  isTcpSyn : Bool
  bytes : UInt32
  synIsTcp : isTcpSyn = true → key.protocol = protoTcp

structure IngressMaps where
  firewall : FirewallMaps
  classRules : Nat → Option WireClassRule
  classInfo : Option WireClassMeta
  ddos : Option WireDdosConfig
  geoipV4 : BitVec 32 → Option WireCountry
  geoipV6 : BitVec 128 → Option WireCountry
  geoBlock : WireCountry → Bool

abbrev Buckets := BitVec 128 → Option TokenBucketState

structure IngressState where
  verdicts : FlowKey → Option VerdictCacheEntry
  flows : FlowKey → Option FlowState
  synBuckets : Buckets
  udpBuckets : Buckets

/-! ## Flows and verdicts -/

def saturatingSub (a b : UInt64) : UInt64 := if a < b then 0 else a - b

def saturatingAdd (a b : UInt64) : UInt64 := if a + b < a then -1 else a + b

def accountFlow (state : IngressState) (key : FlowKey) (bytes : UInt32) (action : XdpAction)
    (trafficClass : UInt8) (now : UInt64) : IngressState :=
  let updated : FlowState :=
    match state.flows key with
    | some flow =>
      { flow with
        lastSeenNs := now
        packets := saturatingAdd flow.packets 1
        bytes := saturatingAdd flow.bytes bytes.toUInt64
        action
        trafficClass }
    | none =>
      { lastSeenNs := now
        firstSeenNs := now
        packets := 1
        bytes := bytes.toUInt64
        action
        trafficClass
        l4Protocol := key.protocol
        anomalyFlags := 0 }
  { state with flows := Function.update state.flows key (some updated) }

def xdpActionOrPass : XdpAction → XdpAction
  | .drop => .drop
  | .aborted => .aborted
  | _ => .pass

def finish (state : IngressState) (key : FlowKey) (bytes : UInt32) (action : XdpAction)
    (trafficClass : UInt8) (now : UInt64) : XdpAction × IngressState :=
  let cached :=
    { state with verdicts := Function.update state.verdicts key (some ⟨action, trafficClass, now⟩) }
  (xdpActionOrPass action, accountFlow cached key bytes action trafficClass now)

def freshVerdict (state : IngressState) (key : FlowKey) (now : UInt64) : Option VerdictCacheEntry :=
  (state.verdicts key).filter fun entry => saturatingSub now entry.insertedNs ≤ verdictTtlNs

/-! ## Country block -/

variable (maps : IngressMaps)

def geoipBlocked (key : FlowKey) : Bool :=
  let country :=
    match key.family with
    | .v4 => maps.geoipV4 (key.src.extractLsb' 96 32)
    | .v6 => maps.geoipV6 key.src
  country.any maps.geoBlock

/-! ## Flood limits -/

/-- The time that earns one token. -/
def nsPerToken (refillPerSec : UInt64) : UInt64 :=
  if nanosPerSec / refillPerSec = 0 then 1 else nanosPerSec / refillPerSec

def tokensAdded (bucket : TokenBucketState) (refillPerSec now : UInt64) : UInt64 :=
  saturatingSub now bucket.lastRefillNs / nsPerToken refillPerSec

/-- The refill of `bucket_admit`: the clock advances by the time of the whole
tokens granted. -/
def refillBucket (bucket : TokenBucketState) (capacity refillPerSec now : UInt64) :
    TokenBucketState :=
  if refillPerSec > 0 then
    if tokensAdded bucket refillPerSec now > 0 then
      { tokens := min (saturatingAdd bucket.tokens (tokensAdded bucket refillPerSec now)) capacity
        lastRefillNs := saturatingAdd bucket.lastRefillNs
          (tokensAdded bucket refillPerSec now * nsPerToken refillPerSec) }
    else bucket
  else if now > bucket.lastRefillNs then { bucket with lastRefillNs := now }
  else bucket

def bucketAdmit (buckets : Buckets) (src : BitVec 128) (capacity refillPerSec now : UInt64) :
    Bool × Buckets :=
  if capacity = 0 then (false, buckets)
  else
    let bucket := refillBucket ((buckets src).getD ⟨capacity, now⟩) capacity refillPerSec now
    if bucket.tokens > 0 then
      (true, Function.update buckets src (some { bucket with tokens := bucket.tokens - 1 }))
    else (false, Function.update buckets src (some bucket))

def rateLimitAdmits (cfg : WireDdosConfig) (state : IngressState) (parsed : Parsed) (now : UInt64) :
    Bool × IngressState :=
  if parsed.isTcpSyn && cfg.synEnabled then
    let (admitted, synBuckets) :=
      bucketAdmit state.synBuckets parsed.key.src cfg.synCapacity cfg.synRefillPerSec now
    (admitted, { state with synBuckets })
  else if parsed.key.protocol = protoUdp ∧ cfg.udpEnabled then
    let (admitted, udpBuckets) :=
      bucketAdmit state.udpBuckets parsed.key.src cfg.udpCapacity cfg.udpRefillPerSec now
    (admitted, { state with udpBuckets })
  else (true, state)

/-! ## Classification -/

def classChunk : Nat := 512

def classMeta : Nat × UInt8 :=
  match maps.classInfo with
  | some info => (info.count, info.fallbackClass)
  | none => (0, classBlock)

def classRuleMatches (rule : WireClassRule) (key : FlowKey) : Bool := rule.family == key.family &&
  prefixMatch key.dst rule.dst rule.prefixLen (lenBytes key.family) &&
  !(rule.portPresent && rule.dstPort != key.dstPort)

def runClassifyChunk (key : FlowKey) (later lo : Nat) : UInt8 :=
  match runChunks maps.classRules (classMeta maps).1 classChunk maxClassRules
    (classRuleMatches · key) later lo with
  | some rule => rule.trafficClass
  | none => (classMeta maps).2

/-- The stages behind the entry program: `sng_xdp_stage_classify` and the one
behind it, `resolve_class_and_advance`, the firewall and `sng_xdp_stage_apply`. -/
def inspect (state : IngressState) (parsed : Parsed) (now : UInt64) : XdpAction × IngressState :=
  let trafficClass := runClassifyChunk maps parsed.key 1 0
  if trafficClass = classBlock then finish state parsed.key parsed.bytes .drop trafficClass now
  else
    finish state parsed.key parsed.bytes (runFirewall maps.firewall parsed.key) trafficClass now

/-! ## The program -/

def mitigate (state : IngressState) (parsed : Parsed) (now : UInt64) : XdpAction × IngressState :=
  match maps.ddos with
  | none => inspect maps state parsed now
  | some cfg =>
    if cfg.geoipEnabled && geoipBlocked maps parsed.key then
      finish state parsed.key parsed.bytes .drop classBlock now
    else if (rateLimitAdmits cfg state parsed now).1 then
      inspect maps (rateLimitAdmits cfg state parsed now).2 parsed now
    else
      finish (rateLimitAdmits cfg state parsed now).2 parsed.key parsed.bytes .drop classBlock now

/-- A fresh verdict of the flow answers for the whole
program, and what cannot be parsed is passed. -/
def tryClassify (state : IngressState) (parsed : Option Parsed) (now : UInt64)
    : XdpAction × IngressState :=
  match parsed with
  | none => (.pass, state)
  | some parsed =>
    match freshVerdict state parsed.key now with
    | some entry =>
      (xdpActionOrPass entry.action,
        accountFlow state parsed.key parsed.bytes entry.action entry.trafficClass now)
    | none => mitigate maps state parsed now

/-- What happens to the program's maps: packets, and the kernel making room in
one of them. -/
inductive IngressEvent where
  | packet (parsed : Option Parsed) (now : UInt64)
  | evictVerdict (key : FlowKey)
  | evictFlow (key : FlowKey)
  | evictSynBucket (src : BitVec 128)
  | evictUdpBucket (src : BitVec 128)

def ingressStep (state : IngressState) : IngressEvent → IngressState
  | .packet parsed now => (tryClassify maps state parsed now).2
  | .evictVerdict key => { state with verdicts := Function.update state.verdicts key none }
  | .evictFlow key => { state with flows := Function.update state.flows key none }
  | .evictSynBucket src => { state with synBuckets := Function.update state.synBuckets src none }
  | .evictUdpBucket src => { state with udpBuckets := Function.update state.udpBuckets src none }

end ShieldNet.Xdp
