import ShieldNet.Steering.Table
import ShieldNet.Xdp.Ingress

/-!
# Traffic classes in the kernel

`compile_classification` turns the address ranges of a steering rule set into
a classifier, whose rules are sorted by descending prefix length, and
`marshal_classification` writes them into the array the kernel scans. The
steering table, the classifier and the kernel give an address one class
(`classifiers_agree`): the sort is stable, so that a tie goes to the range the
rule set has first in all three.
-/

namespace ShieldNet.Xdp

open Steering SteeringTable List

/-! ## The classifier -/

structure ClassRule where
  dst : IpNet
  dstPort : Option UInt16
  trafficClass : TrafficClass

open ClassRule

def ClassRule.matches (rule : ClassRule) (dstIp : IpAddr) (dstPort : UInt16) : Bool :=
  rule.dst.contains dstIp && rule.dstPort.all (· == dstPort)

/-- The order of `sort_longest_prefix`: the longer prefix first, and of equal
ones the rule with a port. -/
def ClassRule.NotAfter (one two : ClassRule) : Prop := two.dst.prefixLen < one.dst.prefixLen ∨
    two.dst.prefixLen = one.dst.prefixLen ∧ (two.dstPort.isSome → one.dstPort.isSome)

instance : DecidableRel NotAfter := fun _ _ => by
  unfold NotAfter
  infer_instance

structure Classifier where
  rules : List ClassRule
  fallback : TrafficClass

def Classifier.new (rules : List ClassRule) : Classifier where
  rules := rules.insertionSort NotAfter
  fallback := .defaultConservative

def Classifier.classify (classifier : Classifier) (dstIp : IpAddr) (dstPort : UInt16) :
    TrafficClass :=
  ((classifier.rules.find? (·.matches dstIp dstPort)).map trafficClass).getD classifier.fallback

variable (parseNet : String → Option IpNet)

/-- The rules of one class: a range that does not parse is skipped. -/
def classRules (rules : SteeringClassRules) : List ClassRule :=
  rules.ipRanges.filterMap fun range =>
    (parseNet range).map fun net => ⟨net, none, rules.trafficClass⟩

def compileClassification (ruleSet : SteeringRuleSet) : Classifier :=
  .new (ruleSet.classes.flatMap (classRules parseNet))

/-! ## The wire format -/

def classToU8 (trafficClass : TrafficClass) : UInt8 := .ofNat trafficClass.rank

def WireClassRule.ofRule (rule : ClassRule) : WireClassRule where
  dst := (WireCidr.fromNet rule.dst).addr
  prefixLen := (WireCidr.fromNet rule.dst).prefixLen
  family := (WireCidr.fromNet rule.dst).family
  portPresent := rule.dstPort.isSome
  trafficClass := classToU8 rule.trafficClass
  dstPort := rule.dstPort.getD 0

def marshalClassification (classifier : Classifier) :
    Except String (List WireClassRule × WireClassMeta) :=
  if classifier.rules.length > maxClassRules then
    .error s!"classification table has {classifier.rules.length} entries, exceeding the XDP capacity of {maxClassRules}"
  else
    let out := classifier.rules.map .ofRule
    .ok (out, ⟨out.length, classToU8 classifier.fallback⟩)

structure IngressMaps.HoldClasses (maps : IngressMaps) (rules : List WireClassRule)
    (info : WireClassMeta) : Prop where
  rules : ∀ i, i < rules.length → maps.classRules i = rules[i]?
  info : maps.classInfo = some info

/-! ## Agreement -/

section Agreement

variable (parseNet : String → Option IpNet) (ruleSet : SteeringRuleSet)

def ClassRule.ofRange (range : IpNet × TrafficClass) : ClassRule := ⟨range.1, none, range.2⟩

theorem addClass_ipRanges (table : SteeringTable) (rules : SteeringClassRules) :
    (table.addClass parseNet rules).ipRanges.map .ofRange =
      table.ipRanges.map .ofRange ++ classRules parseNet rules := by
  have domains : ∀ (domains : List Text) (table : SteeringTable),
      (domains.foldl (addDomain rules.trafficClass) table).ipRanges = table.ipRanges := by
    intro domains
    induction domains with
    | nil => exact fun _ => rfl
    | cons domain rest ih =>
      intro table
      rw [foldl_cons, ih, addDomain]
      split <;> rfl
  have ranges : ∀ (ranges : List String) (table : SteeringTable),
      (ranges.foldl (addRange parseNet rules.trafficClass) table).ipRanges.map ofRange =
        table.ipRanges.map .ofRange ++ classRules parseNet { rules with ipRanges := ranges } := by
    intro ranges
    induction ranges with
    | nil => exact fun table => (append_nil _).symm
    | cons range rest ih =>
      intro table
      rw [foldl_cons, ih]
      cases parsed : parseNet range <;> simp [addRange, classRules, parsed, ofRange]
  rw [addClass, ranges, domains]

/-- The table and the classifier are built from the same ranges, in the same
order. -/
theorem fromRuleSet_ipRanges : (fromRuleSet parseNet ruleSet).ipRanges.map .ofRange =
    ruleSet.classes.flatMap (classRules parseNet) := by
  have general : ∀ (classes : List SteeringClassRules) (table : SteeringTable),
      (classes.foldl (addClass parseNet) table).ipRanges.map ofRange =
        table.ipRanges.map .ofRange ++ classes.flatMap (classRules parseNet) := by
    intro classes
    induction classes with
    | nil => exact fun table => (append_nil _).symm
    | cons rules rest ih =>
      intro table
      rw [foldl_cons, ih, addClass_ipRanges, flatMap_cons, append_assoc]
  exact general ruleSet.classes .empty

/-- Without ports the classifier's order is that of the prefix lengths. -/
theorem compileClassification_rules : (compileClassification parseNet ruleSet).rules =
    ((fromRuleSet parseNet ruleSet).ipRanges.insertionSort fun one two =>
      two.1.prefixLen ≤ one.1.prefixLen).map .ofRange := by
  rw [compileClassification, Classifier.new, ← fromRuleSet_ipRanges]
  refine (map_insertionSort _ NotAfter ofRange _ ?_).symm
  simp [NotAfter, ofRange, le_iff_lt_or_eq]

theorem find?_compileClassification (ip : IpAddr) (port : UInt16) :
    (compileClassification parseNet ruleSet).rules.find? (·.matches ip port) =
      (firstMax (fun range : IpNet × TrafficClass => range.1.prefixLen)
        ((fromRuleSet parseNet ruleSet).ipRanges.filter (·.1.contains ip))).map
          .ofRange := by
  have same : ((·.matches ip port) ∘ ofRange) =
      fun range : IpNet × TrafficClass => range.1.contains ip :=
    funext fun range => by simp [ofRange, ClassRule.matches]
  rw [compileClassification_rules, find?_map, same,
    find?_insertionSort fun range : IpNet × TrafficClass => range.1.prefixLen]

theorem classRuleMatches_ofRule (rule : ClassRule) (key : FlowKey) (ip : IpAddr) (port : UInt16) :
    classRuleMatches (.ofRule rule)
        { key with dst := addrBytes ip, family := ip.family, dstPort := port } =
      rule.matches ip port := by
  have ports : (!(rule.dstPort.isSome && rule.dstPort.getD 0 != port)) =
      rule.dstPort.all (· == port) := by
    cases rule.dstPort <;> simp [bne]
  simp only [classRuleMatches, WireClassRule.ofRule, ClassRule.matches, fromNet_matches, ports]

theorem runClassifyChunk_eq {maps : IngressMaps} {wires : List WireClassRule} {fallback : UInt8}
    (held : maps.HoldClasses wires ⟨wires.length, fallback⟩) (within : wires.length ≤ maxClassRules)
    (key : FlowKey) :
    runClassifyChunk maps key 1 0 =
      ((wires.find? (classRuleMatches · key)).map WireClassRule.trafficClass).getD fallback := by
  have entry : classMeta maps = (wires.length, fallback) := by simp only [classMeta, held.info]
  rw [runClassifyChunk, entry,
    runChunks_eq held.rules within (show wires.length ≤ 0 + classChunk * (1 + 1) from within),
    drop_zero, firstMatch_some]
  cases wires.find? (classRuleMatches · key) <;> rfl

/-- **The steering table, the classifier and the kernel agree on the class of
an address.** -/
theorem classifiers_agree (ip : IpAddr) (port : UInt16) :
    ((fromRuleSet parseNet ruleSet).classForIp ip).getD .inspectFull =
      (compileClassification parseNet ruleSet).classify ip port ∧
    ∀ wires info,
      marshalClassification (compileClassification parseNet ruleSet) = .ok (wires, info) →
      ∀ maps : IngressMaps, maps.HoldClasses wires info → ∀ key : FlowKey, runClassifyChunk maps
            { key with dst := addrBytes ip, family := ip.family, dstPort := port } 1 0 =
          classToU8 ((compileClassification parseNet ruleSet).classify ip port) := by
  constructor
  · rw [Classifier.classify, find?_compileClassification, Option.map_map]
    rfl
  · intro wires info marshalled maps held key
    generalize compileClassification parseNet ruleSet = classifier at marshalled ⊢
    unfold marshalClassification at marshalled
    split at marshalled
    case isTrue => cases marshalled
    case isFalse fits =>
      cases marshalled
      have same : ((classRuleMatches · { key with
            dst := addrBytes ip, family := ip.family, dstPort := port }) ∘
          WireClassRule.ofRule) = (·.matches ip port) :=
        funext fun rule => classRuleMatches_ofRule rule key ip port
      rw [runClassifyChunk_eq held (by simpa using fits), find?_map, same, Classifier.classify]
      cases classifier.rules.find? (·.matches ip port) <;> rfl

end Agreement

/-- A trusted range, and a blocked one inside it that comes later. -/
def nestedRanges : SteeringRuleSet :=
  ⟨[⟨.trustedDirect, [], ["10.0.0.0/8"]⟩, ⟨.block, [], ["10.1.0.0/16"]⟩]⟩

def parseNested : String → Option IpNet
  | "10.0.0.0/8" => some (.v4 0x0A000000#32 8)
  | "10.1.0.0/16" => some (.v4 0x0A010000#32 16)
  | _ => none

def nestedMaps : IngressMaps where
  firewall := ⟨fun _ => none, none⟩
  classRules i := ((compileClassification parseNested nestedRanges).rules.map .ofRule)[i]?
  classInfo := some ⟨2, classToU8 .defaultConservative⟩
  ddos := none
  geoipV4 _ := none
  geoipV6 _ := none
  geoBlock _ := false

/-- The kernel finds an address in both ranges and takes the narrow one. -/
theorem nested_range_blocked :
    runClassifyChunk nestedMaps
      (.new ⟨.v4 0xC0A80001#32, .v4 0x0A010203#32, 40000, 443, protoTcp⟩) 1 0 =
      classToU8 .block :=
  (classifiers_agree parseNested nestedRanges (.v4 0x0A010203#32) 443).2 _ _ rfl nestedMaps
    ⟨fun _ _ => rfl, rfl⟩ (.new ⟨.v4 0xC0A80001#32, .v4 0x0A010203#32, 40000, 443, protoTcp⟩)

end ShieldNet.Xdp
