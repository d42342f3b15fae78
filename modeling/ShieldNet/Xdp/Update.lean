import ShieldNet.Lib.Interleaving
import ShieldNet.Xdp.Ingress

/-!
# Updating the rules under traffic

`AyaLoader::update_rules` of `crates/sng-ebpf/src/loader.rs` runs while packets are in
the pipeline on other CPUs. The loader overwrites the slots of the rule array one by
one, then the metadata, and then removes the keys it finds in the verdict cache. A
packet looks its flow up in the cache, passes the mitigation and classification
stages, and scans the rule array: each chunk reads the metadata when it begins, and
each rule is read on its own. The verdict is cached in a last step.

The maps are overwritten in place. A packet that scans while the loader writes can
meet rules of both sets under the count and default of the old one, and a packet that
has its verdict before the update can cache it after the flush. In the runs where
no packet is in the firewall stages while the loader writes, a packet gets the verdict
of the old set or of the new one, and that of the new one when the update has
returned (`update_atomic_for_packets`).
-/

namespace ShieldNet.Xdp

open Service Function List

/-! ## The set in the maps -/

/-- The result of `marshal_rules`: wire rules that fit the array, and the default. The
metadata entry holds their number. -/
structure WireSet where
  wires : List WireRule
  defaultAction : UInt8
  fits : wires.length ≤ maxFwRules

namespace WireSet

variable (set : WireSet)

def info : WireRuleSetMeta := ⟨set.wires.length, set.defaultAction⟩

variable (key : FlowKey)

/-- What part of the set decides on a flow. -/
def decides (wires : List WireRule) : XdpAction :=
  firstMatch (fwRuleMatches · key) (fun wire => ruleToAction wire.action)
    (ruleToAction set.defaultAction) wires

def verdict : XdpAction := set.decides key set.wires

def Remains (i : Nat) : Prop :=
  set.verdict key = set.decides key (set.wires.drop i)

theorem remains_zero : set.Remains key 0 := rfl

section

variable {set : WireSet} {key : FlowKey} {i : Nat} (remains : set.Remains key i)
include remains

theorem Remains.matched {wire : WireRule} (found : set.wires[i]? = some wire)
    (accepts : fwRuleMatches wire key) : ruleToAction wire.action = set.verdict key := by
  obtain ⟨inside, rfl⟩ := List.getElem?_eq_some_iff.mp found
  rw [remains, decides, drop_eq_getElem_cons inside, firstMatch_cons, if_pos accepts]

theorem Remains.passedOver (inside : i < set.wires.length)
    (refuses : ∀ wire, set.wires[i]? = some wire → fwRuleMatches wire key = false) :
    set.Remains key (i + 1) := by
  have refused := refuses _ (getElem?_eq_getElem inside)
  rw [Remains, remains, decides, decides, drop_eq_getElem_cons inside, firstMatch_cons,
    if_neg (Bool.eq_false_iff.mp refused)]

theorem Remains.default (past : set.wires.length ≤ i)
    : ruleToAction set.defaultAction = set.verdict key := by
  rw [remains, decides, drop_eq_nil_of_le past, firstMatch_nil]

end

/-- The verdicts of the firewall are those that the program returns as they are. -/
theorem xdpActionOrPass_verdict : xdpActionOrPass (set.verdict key) = set.verdict key := by
  have action : ∀ code, xdpActionOrPass (ruleToAction code) = ruleToAction code := by
    intro code
    rw [ruleToAction]
    split <;> rfl
  rw [verdict, decides, firstMatch_map xdpActionOrPass, action]
  congr 1
  funext wire
  exact action wire.action

def ofMarshalled {set : XdpRuleSet} {wires : List WireRule} {info : WireRuleSetMeta}
    (marshalled : marshalRules set = .ok (wires, info)) : WireSet :=
  ⟨wires, info.defaultAction, (marshalRules_eq_ok marshalled).2.1⟩

/-- **The verdict of a marshalled set is that of the rule set.** -/
theorem verdict_ofMarshalled {set : XdpRuleSet} {wires : List WireRule} {info : WireRuleSetMeta}
    (marshalled : marshalRules set = .ok (wires, info)) {tuple : FiveTuple}
    (sameFamily : tuple.srcIp.family = tuple.dstIp.family) :
    (ofMarshalled marshalled).verdict (.new tuple) = (set.evaluate tuple).action.xdpAction :=
  firstMatch_marshalled marshalled sameFamily

end WireSet

/-! ## The loader -/

/-- Where `update_rules` stands: `write_array` has written so many slots, and the
metadata follow the last one; then `flush_verdict_cache`. -/
inductive UpdateStage where
  | writeRules (written : Nat)
  | listKeys
  | removeKeys (keys : List FlowKey)
  | returned

/-- What packets and the loader share: the maps, and the set that the loader installs
with its place in `update_rules`. -/
structure FastPath where
  maps : IngressMaps
  state : IngressState
  next : WireSet
  stage : UpdateStage

/-- `Array::set` on a slot of the rule array. -/
def FirewallMaps.setRule (maps : FirewallMaps) (index : Nat) (wire : WireRule) : FirewallMaps :=
  { maps with rules := update maps.rules index (some wire) }

/-- `cache.remove`; a key that is gone is no failure. -/
def IngressState.removeVerdict (state : IngressState) (key : FlowKey) : IngressState :=
  { state with verdicts := update state.verdicts key none }

/-- What the loader does next. The kernel answers `keys` with the keys of the
cache. -/
def FastPath.updateRules (path : FastPath) (keys : List FlowKey) : FastPath :=
  match path.stage with
  | .writeRules written =>
    match path.next.wires[written]? with
    | some wire =>
      { path with
        maps := { path.maps with firewall := path.maps.firewall.setRule written wire }
        stage := .writeRules (written + 1) }
    | none =>
      { path with
        maps := { path.maps with
          firewall := { path.maps.firewall with info := some path.next.info } }
        stage := .listKeys }
  | .listKeys => { path with stage := .removeKeys keys }
  | .removeKeys (key :: rest) =>
    { path with state := path.state.removeVerdict key, stage := .removeKeys rest }
  | .removeKeys [] => { path with stage := .returned }
  | .returned => path

/-! ## Packets -/

structure XdpScratch where
  key : FlowKey
  now : UInt64
  bytes : UInt32
  trafficClass : UInt8
  action : XdpAction

inductive Eviction where
  | verdict (key : FlowKey)
  | flow (key : FlowKey)
  | synBucket (src : BitVec 128)
  | udpBucket (src : BitVec 128)

def Eviction.event : Eviction → IngressEvent
  | .verdict key => .evictVerdict key
  | .flow key => .evictFlow key
  | .synBucket src => .evictSynBucket src
  | .udpBucket src => .evictUdpBucket src

/-- A packet arrives, or the kernel makes room, or the loader runs. -/
inductive FastPathRequest where
  | packet (parsed : Option Parsed) (now : UInt64)
  | evict (eviction : Eviction)
  | updateRules

/-- Where a packet stands in the pipeline, next to the kernel and the loader. A packet
in `chunk` is about to read the metadata, one in `scan` to read rule `i`. -/
inductive FastPathCall where
  | enter (parsed : Parsed) (now : UInt64)
  | mitigate (parsed : Parsed) (now : UInt64)
  | classify (scratch : XdpScratch)
  | chunk (scratch : XdpScratch) (later lo : Nat)
  | scan (scratch : XdpScratch) (later lo count : Nat) (default : UInt8) (i : Nat)
  | apply (scratch : XdpScratch)
  | done (key : FlowKey) (trafficClass : UInt8) (action : XdpAction)
  | unparsed
  | evict (eviction : Eviction)
  | evicted
  | loader

open FastPathCall

def stashFlow (parsed : Parsed) (now : UInt64) : XdpScratch :=
  ⟨parsed.key, now, parsed.bytes, 0, .pass⟩

namespace FastPathCall

def start : FastPathRequest → FastPathCall
  | .packet (some parsed) now => .enter parsed now
  | .packet none _ => .unparsed
  | .evict eviction => .evict eviction
  | .updateRules => .loader

def finishing (path : FastPath) (key : FlowKey) (bytes : UInt32) (action : XdpAction)
    (trafficClass : UInt8) (now : UInt64) : FastPath × FastPathCall :=
  ({ path with state := (finish path.state key bytes action trafficClass now).2 },
    .done key trafficClass (finish path.state key bytes action trafficClass now).1)

/-- No rule of the chunk matched: the next program takes over while there are rules
for it, or the default applies. -/
def endOfChunk (scratch : XdpScratch) (lo count : Nat) (default : UInt8) : Nat → FastPathCall
  | next + 1 =>
    if lo + fwChunk < count ∧ lo + fwChunk < maxFwRules then .chunk scratch next (lo + fwChunk)
    else .apply { scratch with action := ruleToAction default }
  | 0 => .apply { scratch with action := ruleToAction default }

def advance (keys : List FlowKey) (path : FastPath) : FastPathCall → FastPath × FastPathCall
  | .enter parsed now =>
    match freshVerdict path.state parsed.key now with
    | some entry =>
      ({ path with
          state := accountFlow path.state parsed.key parsed.bytes entry.action
            entry.trafficClass now },
        .done parsed.key entry.trafficClass (xdpActionOrPass entry.action))
    | none => (path, .mitigate parsed now)
  | .mitigate parsed now =>
    match path.maps.ddos with
    | none => (path, .classify (stashFlow parsed now))
    | some cfg =>
      if cfg.geoipEnabled && geoipBlocked path.maps parsed.key then
        finishing path parsed.key parsed.bytes .drop classBlock now
      else if (rateLimitAdmits cfg path.state parsed now).1 then
        ({ path with state := (rateLimitAdmits cfg path.state parsed now).2 },
          .classify (stashFlow parsed now))
      else
        finishing { path with state := (rateLimitAdmits cfg path.state parsed now).2 }
          parsed.key parsed.bytes .drop classBlock now
  | .classify scratch =>
    if runClassifyChunk path.maps scratch.key 1 0 = classBlock then
      finishing path scratch.key scratch.bytes .drop classBlock scratch.now
    else
      (path, .chunk { scratch with trafficClass := runClassifyChunk path.maps scratch.key 1 0 } 7 0)
  | .chunk scratch later lo =>
    (path, .scan scratch later lo (fwMeta path.maps.firewall).1 (fwMeta path.maps.firewall).2 lo)
  | .scan scratch later lo count default i =>
    if i < lo + fwChunk ∧ i < count then
      match path.maps.firewall.rules i with
      | some rule =>
        if fwRuleMatches rule scratch.key then
          (path, .apply { scratch with action := ruleToAction rule.action })
        else (path, .scan scratch later lo count default (i + 1))
      | none => (path, .scan scratch later lo count default (i + 1))
    else (path, endOfChunk scratch lo count default later)
  | .apply scratch =>
    finishing path scratch.key scratch.bytes scratch.action scratch.trafficClass scratch.now
  | .done key trafficClass action => (path, .done key trafficClass action)
  | .unparsed => (path, .unparsed)
  | .evict eviction =>
    ({ path with state := ingressStep path.maps path.state eviction.event }, .evicted)
  | .evicted => (path, .evicted)
  | .loader => (path.updateRules keys, .loader)

end FastPathCall

/-- Packets, the kernel and the loader on their CPUs. -/
def fastPath : Service FastPath FastPathRequest (List FlowKey) FastPathCall :=
  ⟨start, advance⟩

/-! ## What a step does -/

namespace FastPathCall

variable {keys : List FlowKey} {path stored : FastPath} {call moved : FastPathCall}

variable (keys path) in
/-- The kinds of steps: a cached verdict answers; a packet is dropped before the
firewall; it goes on without touching the cache; it passes through the firewall; its
verdict is cached; the kernel makes room; the loader runs; nothing is left to do. -/
inductive Stepped : FastPathCall → FastPath → FastPathCall → Prop where
  | answered {parsed now entry state} :
      path.state.verdicts parsed.key = some entry → state.verdicts = path.state.verdicts →
      Stepped (.enter parsed now) { path with state }
        (.done parsed.key entry.trafficClass (xdpActionOrPass entry.action))
  | blocked {call state key now} : call ≠ .loader →
      state.verdicts = update path.state.verdicts key (some ⟨.drop, classBlock, now⟩) →
      Stepped call { path with state } (.done key classBlock .drop)
  | missed {parsed now} : Stepped (.enter parsed now) path (.mitigate parsed now)
  | admitted {parsed now scratch state} : state.verdicts = path.state.verdicts →
      Stepped (.mitigate parsed now) { path with state } (.classify scratch)
  | classified {scratch trafficClass} : trafficClass ≠ classBlock →
      Stepped (.classify scratch) path (.chunk { scratch with trafficClass } 7 0)
  | begun {scratch later lo} : Stepped (.chunk scratch later lo) path
        (.scan scratch later lo (fwMeta path.maps.firewall).1 (fwMeta path.maps.firewall).2 lo)
  | matched {scratch later lo count i default rule} :
      i < count → path.maps.firewall.rules i = some rule → fwRuleMatches rule scratch.key = true →
      Stepped (.scan scratch later lo count default i) path
        (.apply { scratch with action := ruleToAction rule.action })
  | passedOver {scratch later lo count i default} : i < lo + fwChunk → i < count →
      (∀ rule, path.maps.firewall.rules i = some rule → fwRuleMatches rule scratch.key = false) →
      Stepped (.scan scratch later lo count default i) path
        (.scan scratch later lo count default (i + 1))
  | handedOn {scratch next lo count i default} :
      ¬ (i < lo + fwChunk ∧ i < count) → lo + fwChunk < count →
      Stepped (.scan scratch (next + 1) lo count default i) path
        (.chunk scratch next (lo + fwChunk))
  | defaulted {scratch later lo count i default} : ¬ (i < lo + fwChunk ∧ i < count) →
      (later = 0 ∨ count ≤ lo + fwChunk ∨ maxFwRules ≤ lo + fwChunk) →
      Stepped (.scan scratch later lo count default i) path
        (.apply { scratch with action := ruleToAction default })
  | cached {scratch state} : state.verdicts = update path.state.verdicts scratch.key
        (some ⟨scratch.action, scratch.trafficClass, scratch.now⟩) →
      Stepped (.apply scratch) { path with state }
        (.done scratch.key scratch.trafficClass (xdpActionOrPass scratch.action))
  | evicted {eviction state} :
      (∀ key entry, state.verdicts key = some entry → path.state.verdicts key = some entry) →
      Stepped (.evict eviction) { path with state } .evicted
  | updated : Stepped .loader (path.updateRules keys) .loader
  | idle {call : FastPathCall} : Stepped call path call

theorem rateLimitAdmits_verdicts (cfg : WireDdosConfig) (state : IngressState) (parsed : Parsed)
    (now : UInt64) : (rateLimitAdmits cfg state parsed now).2.verdicts = state.verdicts := by
  rw [rateLimitAdmits]
  (repeat' split) <;> rfl

theorem advance_stepped (keys : List FlowKey) (path : FastPath) (call : FastPathCall) :
    Stepped keys path call (advance keys path call).1 (advance keys path call).2 := by
  cases call with
  | enter parsed now =>
    rw [advance]
    split
    case h_1 entry fresh => exact .answered (Option.eq_some_of_filter_eq_some fresh) rfl
    case h_2 => exact .missed
  | mitigate parsed now =>
    rw [advance]
    split
    case h_1 => exact .admitted rfl
    case h_2 cfg _ =>
      have verdicts := rateLimitAdmits_verdicts cfg path.state parsed now
      split
      case isTrue => exact .blocked nofun rfl
      split
      case isTrue => exact .admitted verdicts
      have dropped : (finish (rateLimitAdmits cfg path.state parsed now).2 parsed.key
          parsed.bytes .drop classBlock now).2.verdicts =
          update path.state.verdicts parsed.key (some ⟨.drop, classBlock, now⟩) := by
        rw [← verdicts]
        rfl
      exact .blocked nofun dropped
  | classify scratch =>
    rw [advance]
    split
    case isTrue => exact .blocked nofun rfl
    case isFalse other => exact .classified other
  | chunk scratch later lo => exact .begun
  | scan scratch later lo count default i =>
    rw [advance]
    split
    case isTrue inside =>
      split
      case h_1 rule found =>
        split
        case isTrue accepts => exact .matched inside.2 found accepts
        case isFalse refuses =>
          refine .passedOver inside.1 inside.2 fun other foundOther => ?_
          cases found.symm.trans foundOther
          exact Bool.eq_false_iff.mpr refuses
      case h_2 none =>
        refine .passedOver inside.1 inside.2 fun _ found => ?_
        cases none.symm.trans found
    case isFalse outside =>
      cases later with
      | zero => exact .defaulted outside (.inl rfl)
      | succ next =>
        rw [endOfChunk]
        split
        case isTrue more => exact .handedOn outside more.1
        case isFalse last =>
          rw [not_and_or, Nat.not_lt, Nat.not_lt] at last
          exact .defaulted outside (.inr last)
  | apply scratch => exact .cached rfl
  | evict eviction =>
    refine .evicted fun key entry found => ?_
    cases eviction with
    | verdict evictedKey =>
      change update path.state.verdicts evictedKey none key = some entry at found
      by_cases same : key = evictedKey
      · subst same
        rw [update_self] at found
        cases found
      · rwa [update_of_ne same] at found
    | _ => exact found
  | loader => exact .updated
  | _ => exact .idle

def InFirewall : FastPathCall → Prop
  | .chunk _ _ lo => lo ≠ 0
  | .scan .. | .apply _ => True
  | .enter .. | .mitigate .. | .classify _ | .done .. | .unparsed | .evict _ | .evicted
  | .loader => False

instance (call : FastPathCall) : Decidable call.InFirewall := by
  cases call <;> dsimp only [InFirewall] <;> infer_instance

end FastPathCall

/-! ## While the loader runs -/

namespace UpdateStage

variable (old new : WireSet)

/-- The set that the maps hold, unless they hold part of each. -/
def inForce : UpdateStage → Option WireSet
  | .writeRules 0 => some old
  | .writeRules (_ + 1) => none
  | .listKeys | .removeKeys _ | .returned => some new

/-- Some slots are overwritten, and the metadata are not. -/
def Torn : UpdateStage → Prop
  | .writeRules written => written ≠ 0
  | .listKeys | .removeKeys _ | .returned => False

def Holds (maps : FirewallMaps) : UpdateStage → Prop
  | .writeRules written => (∀ i, i < written → maps.rules i = new.wires[i]?) ∧
      (∀ i, written ≤ i → i < old.wires.length → maps.rules i = old.wires[i]?) ∧
      maps.info = some old.info
  | .listKeys | .removeKeys _ | .returned => maps.Hold new.wires new.info

/-- What the cache may say of a flow: the old verdict until its key is removed, and
the new one when the metadata are written. -/
def MayCache (key : FlowKey) (action : XdpAction) : UpdateStage → Prop
  | .writeRules _ => action = old.verdict key
  | .listKeys => action = old.verdict key ∨ action = new.verdict key
  | .removeKeys keys => (key ∈ keys ∧ action = old.verdict key) ∨ action = new.verdict key
  | .returned => action = new.verdict key

variable {old new set : WireSet} {maps : FirewallMaps} {stage : UpdateStage} {key : FlowKey}
  {action : XdpAction}

theorem Holds.hold (holds : stage.Holds old new maps) (force : stage.inForce old new = some set) :
    maps.Hold set.wires set.info := by
  match stage, force with
  | .writeRules 0, rfl => exact ⟨fun i inside => holds.2.1 i (Nat.zero_le i) inside, holds.2.2⟩
  | .listKeys, rfl | .removeKeys _, rfl | .returned, rfl => exact holds

theorem inForce_of_not_torn (whole : ¬ stage.Torn) : ∃ set, stage.inForce old new = some set := by
  match stage with
  | .writeRules 0 => exact ⟨old, rfl⟩
  | .writeRules (_ + 1) => exact absurd (Nat.succ_ne_zero _) whole
  | .listKeys | .removeKeys _ | .returned => exact ⟨new, rfl⟩

theorem mayCache_inForce (force : stage.inForce old new = some set) :
    stage.MayCache old new key (set.verdict key) := by
  match stage, force with
  | .writeRules 0, rfl => exact rfl
  | .listKeys, rfl | .removeKeys _, rfl => exact .inr rfl
  | .returned, rfl => exact rfl

theorem MayCache.old_or_new (may : stage.MayCache old new key action) :
    action = old.verdict key ∨ action = new.verdict key := by
  match stage with
  | .writeRules _ => exact .inl may
  | .listKeys => exact may
  | .removeKeys _ => exact may.imp_left And.right
  | .returned => exact .inr may

end UpdateStage

/-- A run of `update_rules` from one set to another is under way or over. -/
structure FastPath.Installing (old new : WireSet) (path : FastPath) : Prop where
  next : path.next = new
  maps : path.stage.Holds old new path.maps.firewall
  cache : ∀ key entry, path.state.verdicts key = some entry → entry.trafficClass ≠ classBlock →
    path.stage.MayCache old new key entry.action

/-- The maps hold a set, the cache agrees with it, and the loader is about to install
another. -/
structure FastPath.Before (old new : WireSet) (path : FastPath) : Prop where
  next : path.next = new
  stage : path.stage = .writeRules 0
  maps : path.maps.firewall.Hold old.wires old.info
  cache : ∀ key entry, path.state.verdicts key = some entry → entry.trafficClass ≠ classBlock →
    entry.action = old.verdict key

theorem FastPath.Before.installing {old new : WireSet} {path : FastPath}
    (before : path.Before old new) : path.Installing old new where
  next := before.next
  maps := by
    rw [before.stage]
    exact ⟨fun i below => absurd below (Nat.not_lt_zero i), fun i _ => before.maps.rules i,
      before.maps.info⟩
  cache := by
    rw [before.stage]
    exact before.cache

/-- No packet is in the firewall stages when the loader writes to their maps, and none
begins to scan while some of the writes are done. -/
def Undisturbed (system : Shared FastPath FastPathCall) : FastPathCall → Prop
  | .loader =>
    match system.store.stage with
    | .writeRules _ => ∀ other ∈ system.calls, ¬ other.InFirewall
    | .listKeys | .removeKeys _ | .returned => True
  | .chunk .. => ¬ system.store.stage.Torn
  | .enter .. | .mitigate .. | .classify _ | .scan .. | .apply _ | .done .. | .unparsed | .evict _
  | .evicted => True

def KeysListed (keys : List FlowKey) (path : FastPath) : FastPathCall → Prop
  | .loader => path.stage = .listKeys → ∀ key, (path.state.verdicts key).isSome → key ∈ keys
  | .enter .. | .mitigate .. | .classify _ | .chunk .. | .scan .. | .apply _ | .done .. | .unparsed
  | .evict _ | .evicted => True

namespace FastPathCall

variable {keys : List FlowKey} {path stored : FastPath} {call moved : FastPathCall}
  {old new : WireSet}

/-- What a packet in the firewall stages relies on: the maps hold one set, it has read
the metadata of that set, and the wires it has not come to decide on its flow. -/
def Relies (old new : WireSet) (stage : UpdateStage) : FastPathCall → Prop
  | .chunk scratch later lo => scratch.trafficClass ≠ classBlock ∧
      ((later = 7 ∧ lo = 0) ∨ lo ≠ 0 ∧ ∃ set, stage.inForce old new = some set ∧
        set.Remains scratch.key lo ∧ set.wires.length ≤ lo + fwChunk * (later + 1))
  | .scan scratch later lo count default i => scratch.trafficClass ≠ classBlock ∧
      ∃ set, stage.inForce old new = some set ∧ count = set.wires.length ∧
        default = set.defaultAction ∧ i ≤ lo + fwChunk ∧ set.Remains scratch.key i ∧
        set.wires.length ≤ lo + fwChunk * (later + 1)
  | .apply scratch => scratch.trafficClass ≠ classBlock ∧
      ∃ set, stage.inForce old new = some set ∧ scratch.action = set.verdict scratch.key
  | .enter .. | .mitigate .. | .classify _ | .done .. | .unparsed | .evict _ | .evicted
  | .loader => True

theorem updateRules_installing (installing : path.Installing old new)
    (listed : KeysListed keys path .loader) : (path.updateRules keys).Installing old new := by
  obtain ⟨rfl, maps, cache⟩ := installing
  rw [FastPath.updateRules]
  split
  case h_1 written stage =>
    rw [stage] at maps cache
    obtain ⟨front, back, info⟩ := maps
    split
    case h_1 wire found =>
      refine ⟨rfl, ⟨?_, ?_, info⟩, cache⟩
      · intro i below
        rcases Nat.lt_succ_iff_lt_or_eq.mp below with earlier | rfl
        · exact (update_of_ne (Nat.ne_of_lt earlier) ..).trans (front i earlier)
        · exact (update_self ..).trans found.symm
      · intro i above inside
        exact (update_of_ne (Nat.ne_of_gt above) ..).trans (back i (Nat.le_of_succ_le above) inside)
    case h_2 finished =>
      have written := getElem?_eq_none_iff.mp finished
      refine ⟨rfl, ⟨?_, rfl⟩, fun key entry found other => .inl (cache key entry found other)⟩
      exact fun i inside => front i (Nat.lt_of_lt_of_le inside written)
  case h_2 stage =>
    rw [stage] at maps cache
    refine ⟨rfl, maps, fun key entry found other => ?_⟩
    have key_listed := listed stage key (Option.isSome_iff_exists.mpr ⟨entry, found⟩)
    exact (cache key entry found other).imp_left fun isOld => ⟨key_listed, isOld⟩
  case h_3 removed rest stage =>
    rw [stage] at maps cache
    refine ⟨rfl, maps, fun key entry found other => ?_⟩
    change update path.state.verdicts removed none key = some entry at found
    by_cases same : key = removed
    · subst same
      rw [update_self] at found
      cases found
    · rw [update_of_ne same] at found
      exact (cache key entry found other).imp_left fun listed =>
        ⟨mem_of_ne_of_mem same listed.1, listed.2⟩
  case h_4 stage =>
    rw [stage] at maps cache
    refine ⟨rfl, maps, fun key entry found other => ?_⟩
    exact (cache key entry found other).resolve_left fun listed => absurd listed.1 not_mem_nil
  case h_5 => exact ⟨rfl, maps, cache⟩

theorem Stepped.stage (stepped : Stepped keys path call stored moved) (packet : call ≠ .loader) :
    stored.stage = path.stage := by
  cases stepped with
  | updated => exact absurd rfl packet
  | _ => rfl

/-- A cache whose entries were there or are allowed is one that the update may leave. -/
theorem installing_of_cache {state : IngressState} (installing : path.Installing old new)
    (cache : ∀ key entry, state.verdicts key = some entry → entry.trafficClass ≠ classBlock →
      path.state.verdicts key = some entry ∨ path.stage.MayCache old new key entry.action) :
    FastPath.Installing old new { path with state } := by
  refine ⟨installing.next, installing.maps, fun key entry found other => ?_⟩
  rcases cache key entry found other with before | may
  · exact installing.cache key entry before other
  · exact may

/-- **A step keeps what the update has brought about.** -/
theorem Stepped.installing (stepped : Stepped keys path call stored moved)
    (installing : path.Installing old new) (relies : call.Relies old new path.stage)
    (listed : KeysListed keys path call) : stored.Installing old new := by
  cases stepped with
  | answered _ same | admitted same =>
    exact installing_of_cache installing fun _ _ found _ => .inl (same ▸ found)
  | blocked _ updated =>
    refine installing_of_cache installing fun key entry found other => .inl ?_
    rw [updated, update_apply] at found
    split at found
    case isTrue =>
      cases found
      exact absurd rfl other
    case isFalse => exact found
  | @cached scratch state updated =>
    obtain ⟨-, set, force, action⟩ := relies
    refine installing_of_cache installing fun key entry found _ => ?_
    rw [updated, update_apply] at found
    split at found
    case isTrue same =>
      cases found
      subst same
      rw [action]
      exact .inr (UpdateStage.mayCache_inForce force)
    case isFalse => exact .inl found
  | evicted fewer =>
    exact installing_of_cache installing fun key entry found _ => .inl (fewer key entry found)
  | updated => exact updateRules_installing installing listed
  | _ =>
    exact installing

theorem relies_begun {scratch : XdpScratch} {later lo : Nat} (installing : path.Installing old new)
    (relies : (chunk scratch later lo).Relies old new path.stage)
    (whole : ¬ path.stage.Torn) :
    (scan scratch later lo (fwMeta path.maps.firewall).1
      (fwMeta path.maps.firewall).2 lo).Relies old new path.stage := by
  obtain ⟨other, first | ⟨-, set, force, remains, covered⟩⟩ := relies
  · obtain ⟨rfl, rfl⟩ := first
    obtain ⟨set, force⟩ := UpdateStage.inForce_of_not_torn whole
    have info := (installing.maps.hold force).info
    rw [fwMeta, info]
    exact ⟨other, set, force, rfl, rfl, Nat.zero_le _, set.remains_zero _, set.fits⟩
  · have info := (installing.maps.hold force).info
    rw [fwMeta, info]
    exact ⟨other, set, force, rfl, rfl, Nat.le_add_right .., remains, covered⟩

/-- **A step leaves the packet with what it relies on.** -/
theorem Stepped.relies (stepped : Stepped keys path call stored moved)
    (installing : path.Installing old new) (relies : call.Relies old new path.stage)
    (whole : ∀ scratch later lo, call = .chunk scratch later lo → ¬ path.stage.Torn) :
    moved.Relies old new stored.stage := by
  cases stepped with
  | classified other => exact ⟨other, .inl ⟨rfl, rfl⟩⟩
  | begun => exact relies_begun installing relies (whole _ _ _ rfl)
  | matched inside found accepts =>
    obtain ⟨other, set, force, rfl, -, -, remains, -⟩ := relies
    rw [(installing.maps.hold force).rules _ inside] at found
    exact ⟨other, set, force, remains.matched found accepts⟩
  | passedOver within inside refuses =>
    obtain ⟨other, set, force, rfl, default, -, remains, covered⟩ := relies
    rw [(installing.maps.hold force).rules _ inside] at refuses
    exact ⟨other, set, force, rfl, default, within, remains.passedOver inside refuses, covered⟩
  | handedOn outside more =>
    obtain ⟨other, set, force, rfl, -, within, remains, covered⟩ := relies
    refine ⟨other, .inr ⟨Nat.add_one_ne_zero _, set, force, ?_, ?_⟩⟩
    · have finished : _ = _ := Nat.le_antisymm within (by omega)
      rwa [finished] at remains
    · rw [fwChunk] at covered ⊢
      omega
  | defaulted outside last =>
    obtain ⟨other, set, force, rfl, rfl, within, remains, covered⟩ := relies
    refine ⟨other, set, force, remains.default ?_⟩
    have fits := set.fits
    rcases last with rfl | short | full <;> omega
  | idle => exact relies
  | _ => trivial

theorem Relies.of_not_inFirewall {stage later : UpdateStage} (relies : call.Relies old new stage)
    (outside : ¬ call.InFirewall) : call.Relies old new later := by
  cases call with
  | chunk scratch laterPrograms lo =>
    obtain ⟨other, first | ⟨later, -⟩⟩ := relies
    · exact ⟨other, .inl first⟩
    · exact absurd later outside
  | scan | apply => exact absurd trivial outside
  | _ => trivial

/-- What a packet relies on stands while others move. -/
theorem Relies.stable {other : FastPathCall} {system : Shared FastPath FastPathCall}
    (relies : other.Relies old new system.store.stage) (underWay : other ∈ system.calls)
    (undisturbed : Undisturbed system call)
    (stepped : Stepped keys system.store call stored moved) :
    other.Relies old new stored.stage := by
  by_cases packet : call = .loader
  · subst packet
    cases stepped with
    | updated =>
      rw [Undisturbed] at undisturbed
      rw [FastPath.updateRules]
      split
      case h_1 stage =>
        rw [stage] at undisturbed
        exact relies.of_not_inFirewall (undisturbed other underWay)
      case h_2 stage | h_3 stage | h_4 stage =>
        rw [stage] at relies
        exact relies
      case h_5 => exact relies
    | blocked packet => exact absurd rfl packet
    | idle => exact relies
  · rw [stepped.stage packet]
    exact relies

/-- A packet that gets its verdict from the firewall or from the cache gets that of the
old set or of the new one; of the new one when the update has returned. -/
theorem Stepped.verdict (stepped : Stepped keys path call stored moved)
    (installing : path.Installing old new) (relies : call.Relies old new path.stage)
    (differs : call ≠ moved) {key : FlowKey} {trafficClass : UInt8} {action : XdpAction}
    (result : moved = .done key trafficClass action) (other : trafficClass ≠ classBlock) :
    (action = old.verdict key ∨ action = new.verdict key) ∧
      (path.stage = .returned → action = new.verdict key) := by
  have given : ∀ {verdict : XdpAction}, path.stage.MayCache old new key verdict →
      (xdpActionOrPass verdict = old.verdict key ∨ xdpActionOrPass verdict = new.verdict key) ∧
        (path.stage = .returned → xdpActionOrPass verdict = new.verdict key) := by
    intro verdict may
    refine ⟨?_, fun returned => ?_⟩
    · rcases may.old_or_new with rfl | rfl
      · exact .inl (old.xdpActionOrPass_verdict key)
      · exact .inr (new.xdpActionOrPass_verdict key)
    · rw [returned] at may
      cases may
      exact new.xdpActionOrPass_verdict key
  cases stepped with
  | answered found =>
    cases result
    exact given (installing.cache _ _ found other)
  | cached =>
    cases result
    obtain ⟨-, set, force, isVerdict⟩ := relies
    rw [isVerdict]
    exact given (UpdateStage.mayCache_inForce force)
  | blocked =>
    cases result
    exact absurd rfl other
  | idle => exact absurd rfl differs
  | _ => cases result

end FastPathCall

/-! ## Whole runs -/

/-- What is asked of each move: the schedule keeps packets and writes apart, and the
kernel lists the keys of the cache. -/
def KeptApart (keys : List FlowKey) (system : Shared FastPath FastPathCall)
    (call : FastPathCall) : Prop :=
  Undisturbed system call ∧ KeysListed keys system.store call

open FastPathCall in
theorem run_installing {old new : WireSet} {path : FastPath} (before : path.Before old new)
    {moves : List (Move FastPathRequest (List FlowKey))}
    (along : AlongRun fastPath.step (AtMove KeptApart) (idle path) moves) :
    Asserts (FastPath.Installing old new) (fun path call => call.Relies old new path.stage)
      (fastPath.run path moves) := by
  refine run_asserts _ _ ?_ ?_ ?_ before.installing along
  · rintro path (⟨_ | parsed, now⟩ | eviction | _) - <;> trivial
  · intro keys system call asserted underWay kept
    have stepped := advance_stepped keys system.store call
    have relies := asserted.calls call underWay
    refine ⟨stepped.installing asserted.store relies kept.2,
      stepped.relies asserted.store relies ?_⟩
    rintro scratch later lo rfl
    exact kept.1
  · intro keys system call other asserted apart kept
    exact (asserted.calls other apart.mem_right).stable apart.mem_right kept.1
      (advance_stepped keys system.store call)

/-- A packet that gets its verdict from the firewall, or from the cache that the firewall
fills, gets the verdict of the old set or of the new one; when `update_rules` has
returned, of the new one. A packet that an earlier stage has dropped carries the blocked
class. -/
def AtomicForPackets (oldSet newSet : XdpRuleSet) (path : FastPath)
    (moves : List (Move FastPathRequest (List FlowKey))) : Prop :=
  ∀ early (index : ℕ) keys later, moves = early ++ .resume index keys :: later →
    ∀ call tuple trafficClass action, (fastPath.run path early).calls[index]? = some call →
      (fastPath.run path (early ++ [.resume index keys])).calls[index]? =
        some (.done (.new tuple) trafficClass action) →
      call ≠ .done (.new tuple) trafficClass action → trafficClass ≠ classBlock →
      tuple.srcIp.family = tuple.dstIp.family → (action = (oldSet.evaluate tuple).action.xdpAction ∨
          action = (newSet.evaluate tuple).action.xdpAction) ∧
        ((fastPath.run path early).store.stage = .returned →
          action = (newSet.evaluate tuple).action.xdpAction)

/-- **An update is atomic for packets when the writes and the firewall stages are kept
apart.** -/
theorem update_atomic_for_packets {oldSet newSet : XdpRuleSet} {oldWires newWires : List WireRule}
    {oldInfo newInfo : WireRuleSetMeta}
    (oldMarshals : marshalRules oldSet = .ok (oldWires, oldInfo))
    (newMarshals : marshalRules newSet = .ok (newWires, newInfo)) {path : FastPath}
    (before : path.Before (.ofMarshalled oldMarshals) (.ofMarshalled newMarshals))
    {moves : List (Move FastPathRequest (List FlowKey))}
    (along : AlongRun fastPath.step (AtMove KeptApart) (idle path) moves) :
    AtomicForPackets oldSet newSet path moves := by
  rintro early index keys later rfl call tuple trafficClass action found judged now other sameFamily
  have asserted := run_installing before (alongRun_append.mp along).1
  have moved : (call.advance keys (fastPath.run path early).store).2 =
      .done (.new tuple) trafficClass action := by
    rw [run_snoc, step, found] at judged
    rw [getElem?_set_self (List.getElem?_eq_some_iff.mp found).1] at judged
    exact Option.some.inj judged
  have stepped := call.advance_stepped keys (fastPath.run path early).store
  rw [← WireSet.verdict_ofMarshalled oldMarshals sameFamily,
    ← WireSet.verdict_ofMarshalled newMarshals sameFamily]
  exact stepped.verdict asserted.store (asserted.calls call (mem_of_getElem? found))
    (moved ▸ now) moved other

/-! ## Two schedules -/

def bareRule (id : String) (protocol : Option UInt8) (action : XdpRuleAction) : XdpRule where
  id
  srcCidrs := []
  dstCidrs := []
  srcPorts := []
  dstPorts := []
  protocol
  action

def closedSet : XdpRuleSet := ⟨[bareRule "drop-all" none .drop], .pass⟩

def tcpSet : XdpRuleSet :=
  ⟨[bareRule "pass-tcp" (some protoTcp) .pass, bareRule "drop-all" none .drop], .pass⟩

theorem closedSet_marshals :
    marshalRules closedSet = .ok (closedSet.rules.flatMap expansion, ⟨1, 0⟩) := by decide

theorem tcpSet_marshals :
    marshalRules tcpSet = .ok (tcpSet.rules.flatMap expansion, ⟨2, 0⟩) := by decide

/-- The maps hold the closed set, nothing is cached, and the loader is about to install
the other set. -/
def closedPath : FastPath where
  maps :=
    { firewall := ⟨fun i => (closedSet.rules.flatMap expansion)[i]?, some ⟨1, 0⟩⟩
      classRules := fun _ => none
      classInfo := some ⟨0, 2⟩
      ddos := none
      geoipV4 := fun _ => none
      geoipV6 := fun _ => none
      geoBlock := fun _ => false }
  state := ⟨fun _ => none, fun _ => none, fun _ => none, fun _ => none⟩
  next := .ofMarshalled tcpSet_marshals
  stage := .writeRules 0

theorem closedPath_before :
    closedPath.Before (.ofMarshalled closedSet_marshals) (.ofMarshalled tcpSet_marshals) :=
  ⟨rfl, rfl, ⟨fun _ _ => rfl, rfl⟩, nofun⟩

def sampleTuple (protocol : UInt8) : FiveTuple :=
  ⟨.v4 0x0A000001#32, .v4 0x0B000001#32, 40000, 53, protocol⟩

def samplePacket (protocol : UInt8) : Parsed :=
  ⟨.new (sampleTuple protocol), false, 60, nofun⟩

/-- The loader has written the first slot when a UDP packet is scanned. -/
def tornRun : List (Move FastPathRequest (List FlowKey)) :=
  [.request .updateRules, .request (.packet (some (samplePacket protoUdp)) 0), .resume 0 []] ++
    replicate 7 (.resume 1 [])

/-- A TCP packet has its verdict before the update and caches it afterwards; the next
packet of the flow comes later. -/
def lateRun : List (Move FastPathRequest (List FlowKey)) :=
  [.request .updateRules, .request (.packet (some (samplePacket protoTcp)) 0)] ++
    replicate 5 (.resume 1 []) ++ replicate 5 (.resume 0 []) ++
    [.resume 1 [], .request (.packet (some (samplePacket protoTcp)) 1), .resume 2 []]

/-- **Updates are not atomic for packets.** Both sets drop UDP, and the scan under the
half-written array passes it. The new set passes TCP, and a packet that arrives after
the update has returned is dropped. -/
theorem updates_not_atomic : ¬ AtomicForPackets closedSet tcpSet closedPath tornRun ∧
    ¬ AtomicForPackets closedSet tcpSet closedPath lateRun := by
  constructor
  · intro atomic
    have judged := atomic (tornRun.take 9) 1 [] [] rfl
      (.apply ⟨.new (sampleTuple protoUdp), 0, 60, 2, .pass⟩) (sampleTuple protoUdp) 2 .pass
      rfl rfl nofun (by decide) rfl
    exact absurd judged.1 (by decide)
  · intro atomic
    have judged := atomic (lateRun.take 14) 2 [] [] rfl
      (.enter (samplePacket protoTcp) 1)
      (sampleTuple protoTcp) 2 .drop rfl rfl nofun (by decide) rfl
    exact absurd (judged.2 rfl) (by decide)

def quietRun : List (Move FastPathRequest (List FlowKey)) :=
  .request .updateRules :: (replicate 5 (.resume 0 []) ++
    .request (.packet (some (samplePacket protoTcp)) 0) :: replicate 6 (.resume 1 []))

theorem quietRun_keptApart :
    AlongRun fastPath.step (AtMove KeptApart) (idle closedPath) quietRun := by
  have outside : ∀ other ∈ [loader], ¬ other.InFirewall := by decide
  refine ⟨trivial, ?_, ?_, ?_, ?_, ?_, trivial, ?_, ?_, ?_, ?_, ?_, ?_, trivial⟩ <;> rintro _ ⟨⟩
  -- the writes, the list of keys, and the return
  · exact ⟨outside, nofun⟩
  · exact ⟨outside, nofun⟩
  · exact ⟨outside, nofun⟩
  · exact ⟨trivial, fun _ _ => nofun⟩
  · exact ⟨trivial, nofun⟩
  -- the packet, which reads the metadata in its fourth step
  · exact ⟨trivial, trivial⟩
  · exact ⟨trivial, trivial⟩
  · exact ⟨trivial, trivial⟩
  · exact ⟨id, trivial⟩
  · exact ⟨trivial, trivial⟩
  · exact ⟨trivial, trivial⟩

theorem quiet_packet_passed : AtomicForPackets closedSet tcpSet closedPath quietRun ∧
    (fastPath.run closedPath quietRun).calls[1]? =
      some (.done (.new (sampleTuple protoTcp)) 2 .pass) :=
  ⟨update_atomic_for_packets closedSet_marshals tcpSet_marshals closedPath_before
    quietRun_keptApart, rfl⟩

end ShieldNet.Xdp
