import ShieldNet.Lib.Alternatives
import ShieldNet.Lib.FirstMatch
import ShieldNet.Lib.Ip

/-!
# The rules of the fast path

`crates/sng-ebpf/src/firewall.rs`: the address and port part of a firewall rule
with a protocol number and an action the fast path can take by itself, and the
rule set it walks per packet.
-/

namespace ShieldNet.Xdp

structure PortRange where
  lower : UInt16
  upper : UInt16

def PortRange.contains (range : PortRange) (port : UInt16) : Bool :=
  range.lower ≤ port && port ≤ range.upper

inductive XdpRuleAction where
  | pass
  | drop
  deriving DecidableEq

structure FiveTuple where
  srcIp : IpAddr
  dstIp : IpAddr
  srcPort : UInt16
  dstPort : UInt16
  protocol : UInt8

structure XdpRule where
  id : String
  srcCidrs : List IpNet
  dstCidrs : List IpNet
  srcPorts : List PortRange
  dstPorts : List PortRange
  protocol : Option UInt8
  action : XdpRuleAction

def XdpRule.matches (rule : XdpRule) (tuple : FiveTuple) : Bool :=
  freeOrAny rule.srcCidrs (·.contains tuple.srcIp) &&
  freeOrAny rule.dstCidrs (·.contains tuple.dstIp) &&
  freeOrAny rule.srcPorts (·.contains tuple.srcPort) &&
  freeOrAny rule.dstPorts (·.contains tuple.dstPort) &&
  rule.protocol.all (· == tuple.protocol)

/-- `EbpfError`, the errors of validating and marshalling a rule set. -/
inductive EbpfError where
  | ruleIdEmpty
  | portsInverted (lower upper : UInt16)
  | tooManyElements (field : String) (count limit : Nat)
  | tooManyRules (count limit : Nat)
  deriving DecidableEq

/-- `XdpRule::validate`, as the violation it finds. -/
def XdpRule.violation (rule : XdpRule) : Option EbpfError :=
  if rule.id = "" then some .ruleIdEmpty
  else (rule.srcPorts ++ rule.dstPorts).findSome? fun range =>
    if range.lower > range.upper then some (.portsInverted range.lower range.upper) else none

structure XdpRuleSet where
  rules : List XdpRule
  defaultAction : XdpRuleAction

variable (set : XdpRuleSet)

def XdpRuleSet.violation : Option EbpfError :=
  set.rules.findSome? XdpRule.violation

structure XdpDecision where
  action : XdpRuleAction
  matchedRuleId : Option String

def XdpRuleSet.evaluate (tuple : FiveTuple) : XdpDecision :=
  firstMatch (fun rule : XdpRule => rule.matches tuple)
    (fun rule => ⟨rule.action, some rule.id⟩) ⟨set.defaultAction, none⟩ set.rules

/-- The action of a decision, as a chain of its own. -/
theorem XdpRuleSet.evaluate_action (tuple : FiveTuple) : (set.evaluate tuple).action =
    firstMatch (fun rule : XdpRule => rule.matches tuple) XdpRule.action set.defaultAction
      set.rules :=
  firstMatch_map XdpDecision.action set.rules

end ShieldNet.Xdp
