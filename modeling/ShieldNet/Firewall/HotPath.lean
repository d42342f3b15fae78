import ShieldNet.Firewall.Kernel
import ShieldNet.Xdp.Rules

/-!
# The fast paths and the engine

`compile_hot_path` of `crates/sng-fw/src/backend.rs` translates the front of a
rule list for the kernel's early hook and for offload devices: `log` rules are
skipped, and translation stops at the first rule the fast path cannot model,
after which nothing but passing is left. `fit_to_capacity` of `offload.rs` cuts
a rule set to the size of a device.

The fast path compares protocol numbers and the engine spellings.
`hot_path_drop_is_denied_iff` says when a drop of the fast path is a denial of
the engine: whenever the rule that dropped the packet spells the protocol as
the packet does, and otherwise when the engine denies the packet by another
rule. `drop_of_an_aliased_protocol` is a drop the engine does not make.
-/

namespace ShieldNet.Firewall

open List

open Xdp (XdpRule XdpRuleSet XdpRuleAction FiveTuple)

/-! ## Translation -/

def hotPathAction : RuleAction → Option XdpRuleAction
  | .allow => some .pass
  | .deny => some .drop
  | .inspect => none
  | .steer => none
  | .log => none

/-- The rule asks for no subject and no zone. -/
def eligible (rule : FirewallRule) : Bool :=
  rule.matching.subject == .any && rule.fromZones.isEmpty && rule.toZones.isEmpty

def toXdpRule (rule : FirewallRule) (action : XdpRuleAction) : XdpRule where
  id := rule.id
  srcCidrs := rule.matching.srcCidrs
  dstCidrs := rule.matching.dstCidrs
  srcPorts := rule.matching.srcPorts.map fun range => ⟨range.lower, range.upper⟩
  dstPorts := rule.matching.dstPorts.map fun range => ⟨range.lower, range.upper⟩
  protocol := rule.matching.protocol.ianaNumber
  action

/-- The loop of `compile_hot_path`: the translated rules, and whether the whole
list was modelled. -/
def hotPathRules : List FirewallRule → List XdpRule × Bool
  | [] => ([], true)
  | rule :: rest =>
    if rule.action = .log then hotPathRules rest
    else
      match hotPathAction rule.action with
      | none => ([], false)
      | some action =>
        if eligible rule then
          (toXdpRule rule action :: (hotPathRules rest).1, (hotPathRules rest).2)
        else ([], false)

variable (compiled : CompiledRuleSet)

def compileHotPath : XdpRuleSet where
  rules := (hotPathRules compiled.rules).1
  defaultAction :=
    if (hotPathRules compiled.rules).2 then (hotPathAction compiled.defaultAction).getD .pass
    else .pass

def fitToCapacity (rules : XdpRuleSet) (capacity : Nat) : XdpRuleSet :=
  if rules.rules.length ≤ capacity then rules
  else ⟨rules.rules.take capacity, .pass⟩

variable (flow : FlowKey)

def FlowKey.tuple (number : UInt8) : FiveTuple :=
  ⟨flow.srcIp, flow.dstIp, flow.srcPort, flow.dstPort, number⟩

/-! ## What was translated -/

/-- The fast path need not stop at the rule. -/
def modellable (rule : FirewallRule) : Bool :=
  rule.action == .log || ((hotPathAction rule.action).isSome && eligible rule)

def modelled (rules : List FirewallRule) : List FirewallRule :=
  (rules.takeWhile modellable).filter fun rule => rule.action != .log

def xdpAction (rule : FirewallRule) : XdpRuleAction := (hotPathAction rule.action).getD .pass

theorem hotPathRules_eq (rules : List FirewallRule) : hotPathRules rules =
    ((modelled rules).map fun rule => toXdpRule rule (xdpAction rule), rules.all modellable) := by
  induction rules with
  | nil => rfl
  | cons rule rest ih =>
    rw [hotPathRules, ih, all_cons]
    by_cases logged : rule.action = .log
    · simp [logged, modellable, modelled]
    · cases translated : hotPathAction rule.action with
      | none => simp [logged, modellable, translated, modelled]
      | some action =>
        by_cases fits : eligible rule
        · simp [logged, modellable, translated, fits, modelled, xdpAction]
        · simp [logged, modellable, translated, fits, modelled]

def hotAccepts (rule : FirewallRule) : Bool :=
  rule.matching.matchesTuple flow && rule.matching.protocol.acceptsNumber flow.protocol

theorem toXdpRule_matches {flow : FlowKey} {number : UInt8}
    (spelled : flow.protocol.ianaNumber = some number) (rule : FirewallRule)
    (action : XdpRuleAction) :
    (toXdpRule rule action).matches (flow.tuple number) = hotAccepts flow rule := by
  have numbers : rule.matching.protocol.ianaNumber.all (· == number) =
      rule.matching.protocol.acceptsNumber flow.protocol := by
    rw [Protocol.acceptsNumber, spelled]
    congr 1
    funext other
    rw [Bool.eq_iff_iff, beq_iff_eq, beq_iff_eq, Option.some.injEq]
    exact eq_comm
  simp only [XdpRule.matches, toXdpRule, FlowKey.tuple, freeOrAny_map, numbers, hotAccepts,
    RuleMatch.matchesTuple]
  rfl

theorem fitted_action (capacity : Nat) {flow : FlowKey} {number : UInt8}
    (spelled : flow.protocol.ianaNumber = some number) :
    ((fitToCapacity (compileHotPath compiled) capacity).evaluate (flow.tuple number)).action =
      firstMatch (hotAccepts flow) xdpAction
        (if (modelled compiled.rules).length ≤ capacity ∧ compiled.rules.all modellable
          then (hotPathAction compiled.defaultAction).getD .pass else .pass)
        ((modelled compiled.rules).take capacity) := by
  have chain : ∀ (fallback : XdpRuleAction) (rules : List FirewallRule),
      firstMatch (fun rule : XdpRule => rule.matches (flow.tuple number)) XdpRule.action fallback
        (rules.map fun rule => toXdpRule rule (xdpAction rule)) =
      firstMatch (hotAccepts flow) xdpAction fallback rules := by
    intro fallback rules
    induction rules with
    | nil => rfl
    | cons rule rest ih =>
      rw [map_cons, firstMatch_cons, firstMatch_cons, ih, toXdpRule_matches spelled]
      rfl
  rw [XdpRuleSet.evaluate_action, fitToCapacity]
  by_cases fits : (modelled compiled.rules).length ≤ capacity
  · simp only [compileHotPath, hotPathRules_eq, length_map, fits, if_true, true_and,
      take_of_length_le fits, chain]
  · simp only [compileHotPath, hotPathRules_eq, length_map, fits, if_false, false_and,
      ← map_take, chain]

/-! ## Drops -/

variable (subject : Option String)

def engineDecides (rule : FirewallRule) : Bool :=
  rule.action.isTerminal && engineAccepts (compiled.zones.classify flow.srcIp)
    (compiled.zones.classify flow.dstIp) flow subject rule

/-- The first terminal rule that accepts the flow denies it, or there is none
and the default does. -/
def RulesDeny : Prop :=
  (∃ rule, FirstAccepted (engineDecides compiled flow subject) compiled.rules rule ∧
    rule.action = .deny) ∨
  ((∀ rule ∈ compiled.rules, engineDecides compiled flow subject rule = false) ∧
    compiled.defaultAction = .deny)

theorem evaluate_eq_deny_iff : (evaluate (some compiled) flow subject).action = .deny ↔
    gateDenies compiled.zones flow ∨ RulesDeny compiled flow subject := by
  rw [evaluate_action]
  cases gate : gateDenies compiled.zones flow with
  | true => simp
  | false =>
    rw [if_neg Bool.false_ne_true, or_iff_right Bool.false_ne_true]
    exact firstMatch_iff (· = RuleAction.deny) _

variable {rule : FirewallRule}

/-- A rule the fast path can model is accepted by the engine only if the fast
path accepts it too. -/
theorem hotAccepts_of_engineDecides {compiled : CompiledRuleSet} {flow : FlowKey}
    {subject : Option String} (known : flow.protocol ≠ .any)
    (decides : engineDecides compiled flow subject rule) :
    (rule.action != .log) ∧ hotAccepts flow rule := by
  simp only [engineDecides, engineAccepts, RuleMatch.matches, Bool.and_eq_true] at decides
  obtain ⟨terminal, -, ⟨tuple, protocol⟩, -⟩ := decides
  refine ⟨?_, ?_⟩
  · cases action : rule.action <;> simp_all [RuleAction.isTerminal]
  · rw [hotAccepts, tuple, Protocol.acceptsNumber_of_accepts known protocol, Bool.and_self]

/-- A modelled rule that spells the protocol as the packet does is accepted by
the engine, whatever the subject and the zones. -/
theorem engineDecides_of_hotAccepts {compiled : CompiledRuleSet} {flow : FlowKey}
    {subject : Option String} (fits : modellable rule) (unlogged : rule.action ≠ .log)
    (accepted : hotAccepts flow rule)
    (alike : rule.matching.protocol.accepts flow.protocol) :
    engineDecides compiled flow subject rule := by
  simp only [modellable, eligible, Bool.or_eq_true, Bool.and_eq_true, beq_iff_eq, unlogged,
    false_or, List.isEmpty_iff] at fits
  obtain ⟨-, ⟨noSubject, noFrom⟩, noTo⟩ := fits
  simp only [hotAccepts, Bool.and_eq_true] at accepted
  have terminal : rule.action.isTerminal := by
    cases action : rule.action <;> simp_all [RuleAction.isTerminal]
  simp [engineDecides, engineAccepts, RuleMatch.matches, zoneMatch, terminal, noFrom, noTo,
    accepted.1, alike, noSubject, subjectAccepts]

/-- **The first rule of the fast path that accepts a packet and spells its
protocol alike is the engine's first rule as well.** -/
theorem firstAccepted_engine {compiled : CompiledRuleSet} {capacity : Nat} {flow : FlowKey}
    {subject : Option String} (known : flow.protocol ≠ .any)
    (found : FirstAccepted (hotAccepts flow) ((modelled compiled.rules).take capacity) rule)
    (alike : rule.matching.protocol.accepts flow.protocol) :
    FirstAccepted (engineDecides compiled flow subject) compiled.rules rule := by
  have inModelled := found.append ((modelled compiled.rules).drop capacity)
  rw [take_append_drop] at inModelled
  have inFront := inModelled.of_filter
  obtain ⟨before, after, split, accepted, -⟩ := inFront
  have member : rule ∈ compiled.rules.takeWhile modellable := by simp [split]
  rw [Bool.and_eq_true, bne_iff_ne] at accepted
  have decides : engineDecides compiled flow subject rule :=
    engineDecides_of_hotAccepts (mem_takeWhile_imp member) accepted.1 accepted.2 alike
  have stricter := inModelled.of_filter.strengthen (fun other _ holds => by
    obtain ⟨unlogged, hot⟩ := hotAccepts_of_engineDecides known holds
    rw [unlogged, hot, Bool.and_self]) decides
  have whole := stricter.append (compiled.rules.dropWhile modellable)
  rw [takeWhile_append_dropWhile] at whole
  exact whole

/-- **A drop of the fast path is a denial of the engine, exactly when the zone
gate denies, or the rule that drops the packet spells its protocol alike, or
the engine's rules deny it anyway.** -/
theorem hot_path_drop_is_denied_iff (compiled : CompiledRuleSet) (capacity : Nat) (flow : FlowKey)
    (number : UInt8) (spelled : flow.protocol.ianaNumber = some number) (subject : Option String) :
    (((fitToCapacity (compileHotPath compiled) capacity).evaluate (flow.tuple number)).action =
        .drop → (evaluate (some compiled) flow subject).action = .deny) ↔
      gateDenies compiled.zones flow = true ∨
      ∀ rule, FirstAccepted (hotAccepts flow) ((modelled compiled.rules).take capacity) rule →
        rule.action = .deny → rule.matching.protocol.accepts flow.protocol = true ∨
          RulesDeny compiled flow subject := by
  have known : flow.protocol ≠ .any := by
    rintro same
    rw [same] at spelled
    cases spelled
  have drops : ∀ action : RuleAction, (hotPathAction action).getD .pass = .drop ↔
      action = .deny := by
    intro action
    cases action <;> decide
  rw [fitted_action compiled capacity spelled, evaluate_eq_deny_iff,
    firstMatch_iff (· = XdpRuleAction.drop)]
  constructor
  · intro sound
    rw [or_iff_not_imp_left]
    intro open_ rule found denies
    have denied := sound (.inl ⟨rule, found, (drops rule.action).mpr denies⟩)
    exact .inr (denied.resolve_left open_)
  · rintro (gate | condition) dropped
    · exact .inl gate
    · refine .inr ?_
      rcases dropped with ⟨rule, found, dropsRule⟩ | ⟨passed, fallback⟩
      · have denies := (drops rule.action).mp dropsRule
        rcases condition rule found denies with alike | denied
        · exact .inl ⟨rule, firstAccepted_engine known found alike, denies⟩
        · exact denied
      · -- Only the default of a list that was modelled whole drops.
        split at fallback
        case isFalse => cases fallback
        case isTrue complete =>
          refine .inr ⟨fun rule listed => ?_, (drops _).mp fallback⟩
          refine Bool.eq_false_iff.mpr fun decides => ?_
          obtain ⟨unlogged, hot⟩ := hotAccepts_of_engineDecides known decides
          have carried : rule ∈ modelled compiled.rules := by
            rw [modelled, takeWhile_eq_self_iff.mpr (by simpa using complete.2)]
            exact mem_filter.mpr ⟨listed, unlogged⟩
          rw [take_of_length_le complete.1] at passed
          rw [passed rule carried] at hot
          cases hot

def denyProtocol (protocol : Protocol) : CompiledRuleSet where
  rules := [⟨"ngfw-deny", { RuleMatch.default with protocol }, .deny, [], [], ""⟩]
  zones := .default
  nat := ⟨"sng_nat", []⟩
  defaultAction := .allow
  sourceGraphId := "graph"
  sourceGraphVersion := 1
  script := okOr ⟨[], .drop, []⟩ (renderScript .default
    [⟨"ngfw-deny", { RuleMatch.default with protocol }, .deny, [], [], ""⟩] .allow)

/-- A rule for TCP drops TCP packets on both paths, on a device of any size
that holds it. -/
theorem drop_of_tcp_is_denied :
    ((fitToCapacity (compileHotPath (denyProtocol .tcp)) 1).evaluate (sampleFlow.tuple 6)).action =
      .drop ∧ (evaluate (some (denyProtocol .tcp)) sampleFlow none).action = .deny := by
  have dropped : ((fitToCapacity (compileHotPath (denyProtocol .tcp)) 1).evaluate
      (sampleFlow.tuple 6)).action = .drop := by decide
  refine ⟨dropped, (hot_path_drop_is_denied_iff (denyProtocol .tcp) 1 sampleFlow 6 rfl none).mpr
    (.inr ?_) dropped⟩
  rintro rule ⟨before, after, split, -⟩ -
  have member : rule ∈ (modelled (denyProtocol .tcp).rules).take 1 := by simp [split]
  rw [mem_singleton.mp member]
  exact .inl rfl

/-- **A rule for protocol number 6 drops a TCP packet on the fast path, and the
engine allows it.** -/
theorem drop_of_an_aliased_protocol : sampleFlow.protocol.ianaNumber = some 6 ∧
    ((fitToCapacity (compileHotPath (denyProtocol (.other 6))) 1).evaluate
      (sampleFlow.tuple 6)).action = .drop ∧
    (evaluate (some (denyProtocol (.other 6))) sampleFlow none).action = .allow := by
  decide

end ShieldNet.Firewall
