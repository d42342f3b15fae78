import ShieldNet.Xdp.Wire

/-!
# The kernel's firewall stages

The firewall part of `crates/sng-ebpf/bpf/src/main.rs`: eight programs, each
scanning 128 entries of the rule array and handing on to the next, and the
matcher they share, with its masked compare of address words. Tail calls are
taken to succeed.

`kernel_enforces_marshalled_rules` says that walking a marshalled rule set
gives the action of the rule set it was marshalled from.
-/

namespace ShieldNet.Xdp

open WireCidr List

/-! ## State -/

inductive XdpAction where
  | aborted
  | drop
  | pass
  | tx
  | redirect
  deriving DecidableEq

def XdpRuleAction.xdpAction : XdpRuleAction → XdpAction
  | .pass => .pass
  | .drop => .drop

structure FlowKey where
  src : BitVec 128
  dst : BitVec 128
  srcPort : UInt16
  dstPort : UInt16
  protocol : UInt8
  family : IpFamily
  deriving DecidableEq

/-- One family stands for both ends, that of the source. -/
def FlowKey.new (tuple : FiveTuple) : FlowKey :=
  ⟨addrBytes tuple.srcIp, addrBytes tuple.dstIp, tuple.srcPort, tuple.dstPort, tuple.protocol,
    tuple.srcIp.family⟩

/-- The maps the firewall stages read: the rule array, where an index may hold
what an earlier set left there, and the metadata entry. -/
structure FirewallMaps where
  rules : Nat → Option WireRule
  info : Option WireRuleSetMeta

structure FirewallMaps.Hold (maps : FirewallMaps) (wires : List WireRule)
    (info : WireRuleSetMeta) : Prop where
  rules : ∀ i, i < wires.length → maps.rules i = wires[i]?
  info : maps.info = some info

/-! ## Matching -/

/-- The mask of the leading bits of a word: `u64::MAX << (64 - bits)`. -/
def leadingMask (bits : Nat) : BitVec 64 :=
  if bits = 64 then BitVec.allOnes 64 else BitVec.allOnes 64 <<< (64 - bits)

def prefixMatch (addr net : BitVec 128) (prefixLen lenBytes : Nat) : Bool :=
  let maxBits := lenBytes * 8
  let bits := if prefixLen < maxBits then prefixLen else maxBits
  if bits = 0 then true
  else
    let aHi := addr.extractLsb' 64 64
    let nHi := net.extractLsb' 64 64
    if bits ≤ 64 then (aHi ^^^ nHi) &&& leadingMask bits == 0
    else if aHi ≠ nHi then false
    else
      let aLo := addr.extractLsb' 0 64
      let nLo := net.extractLsb' 0 64
      (aLo ^^^ nLo) &&& leadingMask (bits - 64) == 0

/-- The live slots of a field; an empty field accepts, otherwise one of them
has to. -/
def slotsMatch {α : Type} (wireMax : Nat) (slots : List α) (live : Nat) (accepts : α → Bool) :
    Bool :=
  if live = 0 then true
  else (slots.take (if live < wireMax then live else wireMax)).any accepts

def cidrListMatches (cidrs : List WireCidr) (n : Nat) (addr : BitVec 128) (family : IpFamily)
    (lenBytes : Nat) : Bool :=
  slotsMatch maxCidrsPerRule cidrs n fun c =>
    c.family == family && prefixMatch addr c.addr c.prefixLen lenBytes

def portListMatches (ports : List WirePortRange) (n : Nat) (port : UInt16) : Bool :=
  slotsMatch maxPortsPerRule ports n fun r => r.lower ≤ port && port ≤ r.upper

def lenBytes : IpFamily → Nat
  | .v4 => 4
  | .v6 => 16

def fwRuleMatches (rule : WireRule) (key : FlowKey) : Bool :=
  !(rule.protocolPresent && rule.protocol != key.protocol) &&
  cidrListMatches rule.srcCidrs rule.nSrcCidrs key.src key.family (lenBytes key.family) &&
  cidrListMatches rule.dstCidrs rule.nDstCidrs key.dst key.family (lenBytes key.family) &&
  portListMatches rule.srcPorts rule.nSrcPorts key.srcPort &&
  portListMatches rule.dstPorts rule.nDstPorts key.dstPort

/-! ## Stages -/

section Stages

variable {ρ : Type}

/-- The loop of a stage over a rule array, from an index over so many
entries. -/
def scanEntries (entries : Nat → Option ρ) (count : Nat) (accepts : ρ → Bool) : Nat → Nat → Option ρ
  | 0, _ => none
  | remaining + 1, i =>
    if i < count then
      match entries i with
      | some rule =>
        if accepts rule then some rule
        else scanEntries entries count accepts remaining (i + 1)
      | none => scanEntries entries count accepts remaining (i + 1)
    else none

/-- A stage with the number of programs behind it: without a match the next
program takes over while it has entries to scan. -/
def runChunks (entries : Nat → Option ρ) (count chunk limit : Nat) (accepts : ρ → Bool) :
    Nat → Nat → Option ρ
  | later, lo =>
    match scanEntries entries count accepts chunk lo with
    | some rule => some rule
    | none =>
      match later with
      | next + 1 =>
        if lo + chunk < count ∧ lo + chunk < limit then
          runChunks entries count chunk limit accepts next (lo + chunk)
        else none
      | 0 => none

end Stages

def ruleDrop : UInt8 := 1

def ruleToAction (ruleAction : UInt8) : XdpAction := if ruleAction = ruleDrop then .drop else .pass

variable (maps : FirewallMaps)

/-- Count and default; without an entry nothing is scanned. -/
def fwMeta : Nat × UInt8 :=
  match maps.info with
  | some info => (info.count, info.defaultAction)
  | none => (0, ruleDrop)

def fwChunk : Nat := 128

def runFirewallChunk (key : FlowKey) (later lo : Nat) : XdpAction :=
  match runChunks maps.rules (fwMeta maps).1 fwChunk maxFwRules (fwRuleMatches · key) later lo with
  | some rule => ruleToAction rule.action
  | none => ruleToAction (fwMeta maps).2

/-- `sng_xdp_stage_firewall` and the seven programs behind it. -/
def runFirewall (key : FlowKey) : XdpAction := runFirewallChunk maps key 7 0

/-! ## The masked compare -/

theorem leadingMask_eq_zero_iff {bits : Nat} {a b : BitVec 64} :
    (a ^^^ b) &&& leadingMask bits = 0 ↔ AgreeFrom (64 - bits) a b := by
  unfold leadingMask
  split
  case isTrue full =>
    have shift : BitVec.allOnes 64 = BitVec.allOnes 64 <<< (64 - bits) := by simp [full]
    rw [shift]
    exact masked_eq_zero_iff
  case isFalse => exact masked_eq_zero_iff

/-- **The compare by two masked words is agreement on the clamped prefix.** -/
theorem prefixMatch_eq (addr net : BitVec 128) (prefixLen : Nat) (family : IpFamily) :
    prefixMatch addr net prefixLen (lenBytes family) =
      prefixAgrees (min prefixLen (lenBytes family * 8)) addr net := by
  have clamp : (if prefixLen < lenBytes family * 8 then prefixLen else lenBytes family * 8) =
      min prefixLen (lenBytes family * 8) := by
    split <;> omega
  have width : lenBytes family * 8 ≤ 128 := by cases family <;> decide
  simp only [prefixMatch, clamp]
  generalize bound : min prefixLen (lenBytes family * 8) = bits
  rw [Bool.eq_iff_iff, prefixAgrees_iff]
  split
  case isTrue none =>
    simp only [true_iff, none]
    intro i above inside
    omega
  case isFalse some =>
    split
    case isTrue short =>
      rw [beq_iff_eq, leadingMask_eq_zero_iff, agreeFrom_high_iff,
        show 64 + (64 - bits) = 128 - bits by omega]
    case isFalse long =>
      rw [agreeFrom_low_iff (show 128 - bits ≤ 64 by omega)]
      split
      case isTrue different => simp [different]
      case isFalse same =>
        rw [beq_iff_eq, leadingMask_eq_zero_iff, and_iff_right (not_not.mp same),
          show 64 - (bits - 64) = 128 - bits by omega]

theorem fromNet_matches (net : IpNet) (addr : IpAddr) : ((fromNet net).family == addr.family &&
      prefixMatch (addrBytes addr) (fromNet net).addr (fromNet net).prefixLen
        (lenBytes addr.family)) = net.contains addr := by
  rw [prefixMatch_eq]
  cases net with
  | v4 bits len =>
    cases addr with
    | v4 word =>
      have fits : len.val ≤ 32 := by omega
      simp only [fromNet, IpNet.family, IpNet.prefixLen, IpNet.network,
        IpAddr.family, addrBytes, lenBytes, beq_self_eq_true, Bool.true_and,
        IpNet.contains, min_eq_left (show len.val ≤ 4 * 8 by omega)]
      rw [prefixAgrees_append_zero fits, prefixAgrees, prefixAgrees,
        keepPrefix_ushiftRight le_rfl, BEq.comm]
    | v6 word => rfl
  | v6 bits len =>
    cases addr with
    | v4 word => rfl
    | v6 word =>
      simp only [fromNet, IpNet.family, IpNet.prefixLen, IpNet.network,
        IpAddr.family, addrBytes, lenBytes, beq_self_eq_true, Bool.true_and,
        IpNet.contains, min_eq_left (show len.val ≤ 16 * 8 by omega)]
      rw [prefixAgrees, prefixAgrees, keepPrefix_ushiftRight le_rfl, BEq.comm]

/-! ## Fields and rules -/

theorem slotsMatch_fillSlots {α β : Type} {wireMax : Nat} (small : wireMax ≤ 255) (unused : β)
    (wire : α → β) {group : List α} (fits : group.length ≤ wireMax) (accepts : β → Bool) :
    slotsMatch wireMax (fillSlots wireMax unused wire group) (groupLen group) accepts =
      freeOrAny group (accepts ∘ wire) := by
  have live : groupLen group = group.length := min_eq_left (by omega)
  have bound : (if group.length < wireMax then group.length else wireMax) = group.length := by
    split <;> omega
  rw [slotsMatch, live, bound]
  cases group with
  | nil => rfl
  | cons first rest =>
    have front : (fillSlots wireMax unused wire (first :: rest)).take (first :: rest).length =
        (first :: rest).map wire := by
      rw [fillSlots, take_take, min_eq_left fits]
      exact take_left' (length_map _)
    rw [front, if_neg (by simp), any_map]
    rfl

/-- The kernel matches a wire rule when the groups it was made of accept the
packet. -/
theorem fwRuleMatches_wireRule (rule : XdpRule) {tuple : FiveTuple}
    (sameFamily : tuple.srcIp.family = tuple.dstIp.family) {sc dc : List IpNet}
    {sp dp : List PortRange} (scFits : sc.length ≤ maxCidrsPerRule)
    (dcFits : dc.length ≤ maxCidrsPerRule) (spFits : sp.length ≤ maxPortsPerRule)
    (dpFits : dp.length ≤ maxPortsPerRule) :
    fwRuleMatches (wireRule rule sc dc sp dp) (.new tuple) =
      (freeOrAny sc (·.contains tuple.srcIp) && (freeOrAny dc (·.contains tuple.dstIp) &&
        (freeOrAny sp (·.contains tuple.srcPort) && (freeOrAny dp (·.contains tuple.dstPort) &&
          rule.protocol.all (· == tuple.protocol))))) := by
  have cidrs : ∀ {group : List IpNet} (addr : IpAddr), group.length ≤ maxCidrsPerRule →
      cidrListMatches (fillSlots maxCidrsPerRule .default .fromNet group) (groupLen group)
        (addrBytes addr) addr.family (lenBytes addr.family) =
      freeOrAny group (·.contains addr) := by
    intro group addr fits
    rw [cidrListMatches, slotsMatch_fillSlots (by decide) _ _ fits]
    congr 1
    funext net
    exact fromNet_matches net addr
  have ports : ∀ {group : List PortRange} (port : UInt16), group.length ≤ maxPortsPerRule →
      portListMatches (fillSlots maxPortsPerRule .default .fromRange group) (groupLen group) port =
      freeOrAny group (·.contains port) := by
    intro group port fits
    rw [portListMatches, slotsMatch_fillSlots (by decide) _ _ fits]
    rfl
  have protocol : (!(rule.protocol.isSome && rule.protocol.getD 0 != tuple.protocol)) =
      rule.protocol.all (· == tuple.protocol) := by
    cases rule.protocol <;> simp [bne]
  simp only [fwRuleMatches, wireRule, FlowKey.new, cidrs tuple.srcIp scFits, ports _ spFits,
    ports _ dpFits, protocol]
  rw [sameFamily, cidrs tuple.dstIp dcFits]
  generalize freeOrAny sc _ = a
  generalize freeOrAny dc _ = b
  generalize freeOrAny sp _ = c
  generalize freeOrAny dp _ = d
  generalize rule.protocol.all _ = e
  revert a b c d e
  decide

/-- **Some wire rule of a rule matches a packet exactly when the rule does.**
The fields are conjoined and their groups are alternatives, so the cross
product of the groups covers the rule. -/
theorem expansion_matches (rule : XdpRule) {tuple : FiveTuple}
    (sameFamily : tuple.srcIp.family = tuple.dstIp.family) :
    (expansion rule).any (fwRuleMatches · (.new tuple)) = rule.matches tuple := by
  have cidrs : 0 < maxCidrsPerRule := by decide
  have ports : 0 < maxPortsPerRule := by decide
  rw [Bool.eq_iff_iff, XdpRule.matches]
  simp only [expansion, wireProduct, any_eq_true, mem_flatMap, mem_map, Bool.and_eq_true]
  constructor
  · rintro ⟨_, ⟨sc, scIn, dc, dcIn, sp, spIn, dp, dpIn, rfl⟩, accepted⟩
    rw [fwRuleMatches_wireRule rule sameFamily (length_le_of_mem_groups scIn)
      (length_le_of_mem_groups dcIn) (length_le_of_mem_groups spIn)
      (length_le_of_mem_groups dpIn)] at accepted
    simp only [Bool.and_eq_true] at accepted
    obtain ⟨scAccepts, dcAccepts, spAccepts, dpAccepts, protocol⟩ := accepted
    exact ⟨⟨⟨⟨(freeOrAny_iff_groups cidrs).mpr ⟨sc, scIn, scAccepts⟩,
      (freeOrAny_iff_groups cidrs).mpr ⟨dc, dcIn, dcAccepts⟩⟩,
      (freeOrAny_iff_groups ports).mpr ⟨sp, spIn, spAccepts⟩⟩,
      (freeOrAny_iff_groups ports).mpr ⟨dp, dpIn, dpAccepts⟩⟩, protocol⟩
  · rintro ⟨⟨⟨⟨srcIp, dstIp⟩, srcPort⟩, dstPort⟩, protocol⟩
    obtain ⟨sc, scIn, scAccepts⟩ := (freeOrAny_iff_groups cidrs).mp srcIp
    obtain ⟨dc, dcIn, dcAccepts⟩ := (freeOrAny_iff_groups cidrs).mp dstIp
    obtain ⟨sp, spIn, spAccepts⟩ := (freeOrAny_iff_groups ports).mp srcPort
    obtain ⟨dp, dpIn, dpAccepts⟩ := (freeOrAny_iff_groups ports).mp dstPort
    refine ⟨_, ⟨sc, scIn, dc, dcIn, sp, spIn, dp, dpIn, rfl⟩, ?_⟩
    rw [fwRuleMatches_wireRule rule sameFamily (length_le_of_mem_groups scIn)
      (length_le_of_mem_groups dcIn) (length_le_of_mem_groups spIn)
      (length_le_of_mem_groups dpIn)]
    simp only [Bool.and_eq_true]
    exact ⟨scAccepts, dcAccepts, spAccepts, dpAccepts, protocol⟩

theorem action_of_mem_expansion {rule : XdpRule} {wire : WireRule}
    (member : wire ∈ expansion rule) :
    ruleToAction wire.action = rule.action.xdpAction := by
  simp only [expansion, wireProduct, mem_flatMap, mem_map] at member
  obtain ⟨sc, -, dc, -, sp, -, dp, -, rfl⟩ := member
  cases action : rule.action <;> simp [wireRule, action] <;> rfl

/-! ## The scan -/

section Scan

variable {ρ : Type} {entries : Nat → Option ρ} {accepts : ρ → Bool} {rules : List ρ}

section

variable (held : ∀ i, i < rules.length → entries i = rules[i]?)
include held

theorem scanEntries_eq (remaining i : Nat) : scanEntries entries rules.length accepts remaining i =
    firstMatch accepts some none ((rules.drop i).take remaining) := by
  induction remaining generalizing i with
  | zero => rw [scanEntries, take_zero, firstMatch_nil]
  | succ remaining ih =>
    rw [scanEntries]
    split
    case isTrue inside =>
      rw [held i inside, getElem?_eq_getElem inside, drop_eq_getElem_cons inside,
        take_succ_cons, firstMatch_cons, ih]
    case isFalse outside =>
      rw [drop_eq_nil_of_le (not_lt.mp outside), take_nil, firstMatch_nil]

/-- What the later programs find is the fallback of the stage's part. -/
theorem scanEntries_then (chunk lo : Nat) {otherwise : Option ρ}
    (rest : otherwise = firstMatch accepts some none (rules.drop (lo + chunk))) :
    (match scanEntries entries rules.length accepts chunk lo with
      | some rule => some rule
      | none => otherwise) = firstMatch accepts some none (rules.drop lo) := by
  have answered : ∀ part : List ρ, (firstMatch accepts some none part).or otherwise =
      firstMatch accepts some otherwise part :=
    fun part => firstMatch_map (Option.or · otherwise) part
  rw [← take_append_drop chunk (rules.drop lo), drop_drop, firstMatch_append, ← rest,
    ← answered, scanEntries_eq held]
  cases firstMatch accepts some none ((rules.drop lo).take chunk) <;> rfl

/-- **The programs together walk the rest of the array**: the induction is on
the programs left, whose chunks cover it. -/
theorem runChunks_eq {chunk limit : Nat} (within : rules.length ≤ limit) {later lo : Nat}
    (covered : rules.length ≤ lo + chunk * (later + 1)) :
    runChunks entries rules.length chunk limit accepts later lo =
      firstMatch accepts some none (rules.drop lo) := by
  induction later generalizing lo with
  | zero =>
    rw [runChunks]
    refine scanEntries_then held chunk lo ?_
    rw [drop_eq_nil_of_le (by omega), firstMatch_nil]
  | succ later ih =>
    rw [runChunks]
    refine scanEntries_then held chunk lo ?_
    split
    case isTrue more => exact ih (by rw [Nat.mul_succ] at covered; omega)
    case isFalse done =>
      rw [drop_eq_nil_of_le (by omega), firstMatch_nil]

end

end Scan

theorem runFirewall_eq {maps : FirewallMaps} {wires : List WireRule} {defaultAction : UInt8}
    (held : maps.Hold wires ⟨wires.length, defaultAction⟩) (within : wires.length ≤ maxFwRules)
    (key : FlowKey) :
    runFirewall maps key = firstMatch (fwRuleMatches · key) (fun wire => ruleToAction wire.action)
        (ruleToAction defaultAction) wires := by
  have entry : fwMeta maps = (wires.length, defaultAction) := by simp only [fwMeta, held.info]
  have answered : (match firstMatch (fwRuleMatches · key) some none wires with
      | some rule => ruleToAction rule.action
      | none => ruleToAction defaultAction) =
      firstMatch (fwRuleMatches · key) (fun wire => ruleToAction wire.action)
        (ruleToAction defaultAction) wires :=
    firstMatch_map (fun found : Option WireRule => match found with
      | some rule => ruleToAction rule.action
      | none => ruleToAction defaultAction) wires
  rw [runFirewall, runFirewallChunk, entry,
    runChunks_eq held.rules within (show wires.length ≤ 0 + fwChunk * (7 + 1) from within),
    drop_zero, answered]

variable {set : XdpRuleSet} {wires : List WireRule} {info : WireRuleSetMeta}

/-- The first wire rule that matches has the action the set gives. -/
theorem firstMatch_marshalled (marshalled : marshalRules set = .ok (wires, info))
    {tuple : FiveTuple} (sameFamily : tuple.srcIp.family = tuple.dstIp.family) :
    firstMatch (fwRuleMatches · (.new tuple)) (fun wire => ruleToAction wire.action)
      (ruleToAction info.defaultAction) wires = (set.evaluate tuple).action.xdpAction := by
  obtain ⟨rfl, -, rfl⟩ := marshalRules_eq_ok marshalled
  have default : ruleToAction set.defaultAction.code = set.defaultAction.xdpAction := by
    cases set.defaultAction <;> rfl
  rw [set.evaluate_action, firstMatch_map XdpRuleAction.xdpAction, default]
  exact firstMatch_flatMap (fun rule _ => expansion_matches rule sameFamily)
    (fun rule _ wire member _ => action_of_mem_expansion member)

/-- **The kernel enforces the marshalled rules**: with a marshalled set in its
maps, it gives a packet the action the set gives it. -/
theorem kernel_enforces_marshalled_rules (set : XdpRuleSet) (wires : List WireRule)
    (info : WireRuleSetMeta) (marshalled : marshalRules set = .ok (wires, info))
    (maps : FirewallMaps) (held : maps.Hold wires info) (tuple : FiveTuple)
    (sameFamily : tuple.srcIp.family = tuple.dstIp.family) :
    runFirewall maps (.new tuple) = (set.evaluate tuple).action.xdpAction := by
  have walked := firstMatch_marshalled marshalled sameFamily
  obtain ⟨-, within, rfl⟩ := marshalRules_eq_ok marshalled
  rw [runFirewall_eq held within, walked]

def wideRule : XdpRule where
  id := "wide"
  action := .drop
  srcCidrs := [.v4 0x0A000000#32 24, .v4 0x0A000100#32 24, .v4 0x0A000200#32 24,
    .v4 0x0A000300#32 24, .v4 0x0A000400#32 24]
  dstCidrs := []
  srcPorts := []
  dstPorts := [⟨80, 443⟩]
  protocol := some 6

def wideSet : XdpRuleSet := ⟨[wideRule], .pass⟩

def wideMaps : FirewallMaps where
  rules i := (expansion wideRule)[i]?
  info := some ⟨2, 0⟩

def wideTuple : FiveTuple := ⟨.v4 0x0A000409#32, .v4 0x0B000001#32, 40000, 443, 6⟩

/-- The packet meets the second of the two wire rules and is dropped. -/
theorem wide_rule_drops : marshalRules wideSet = .ok (expansion wideRule, ⟨2, 0⟩) ∧
    (wideSet.evaluate wideTuple).action = .drop ∧
    runFirewall wideMaps (.new wideTuple) = .drop :=
  ⟨by decide, by decide, (kernel_enforces_marshalled_rules wideSet _ _ (by decide) wideMaps
    ⟨fun _ _ => rfl, rfl⟩ wideTuple rfl).trans (by decide)⟩

end ShieldNet.Xdp
