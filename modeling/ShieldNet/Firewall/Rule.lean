import ShieldNet.Lib.Alternatives
import ShieldNet.Policy.Bundle

/-!
# Firewall rules

`crates/sng-fw/src/rule.rs`: protocols, port ranges, the predicates of a rule
and its action, together with the flow key of `engine.rs` a rule is matched
against. The lists of a rule are alternatives, the fields are conjoined, and an
empty list leaves its field free.
-/

namespace ShieldNet.Firewall

open Policy (SubjectMatch SubjectKind)

/-! ## Errors -/

/-- What a rule compiler refuses, with the data its messages name. -/
inductive FirewallError where
  | zoneNameEmpty
  | zoneWithoutNetworks (zone : String)
  | unknownFromZone (zone : String)
  | unknownToZone (zone : String)
  | zonesOverlap (first second : String) (net other : IpNet)
  | setNameCollision (first second setName : String)
  | natRuleIdEmpty
  | dnatWithoutDestination (rule : String)
  | natPortsInverted (rule : String) (lower upper : UInt16)
  | unknownSubject (rule name : String)
  | unknownPredicate (rule name : String)
  | unrecognisedSubjectMatcher (rule : String)
  | incompatibleSubject (rule : String) (kind : SubjectKind) (matcher : String)
  | malformedZones (rule kind : String)
  | unknownZone (rule kind zone : String)
  | familyAgnosticSlot (rule : String)

/-! ## Protocols and ports -/

inductive Protocol where
  | tcp
  | udp
  | icmp
  | icmpv6
  | sctp
  | gre
  | esp
  | ah
  | other (number : UInt8)
  | any
  deriving DecidableEq

def Protocol.ianaNumber : Protocol → Option UInt8
  | .icmp => some 1
  | .tcp => some 6
  | .udp => some 17
  | .gre => some 47
  | .esp => some 50
  | .ah => some 51
  | .sctp => some 132
  | .icmpv6 => some 58
  | .other number => some number
  | .any => none

structure PortRange where
  lower : UInt16
  upper : UInt16
  deriving DecidableEq

def PortRange.contains (range : PortRange) (port : UInt16) : Bool :=
  range.lower ≤ port && port ≤ range.upper

/-! ## Matching -/

structure FlowKey where
  srcIp : IpAddr
  dstIp : IpAddr
  srcPort : UInt16
  dstPort : UInt16
  protocol : Protocol

structure RuleMatch where
  srcCidrs : List IpNet
  dstCidrs : List IpNet
  srcPorts : List PortRange
  dstPorts : List PortRange
  protocol : Protocol
  subject : SubjectMatch

def RuleMatch.default : RuleMatch := ⟨[], [], [], [], .any, .any⟩

/-- `Any` on either side is a wildcard; otherwise the spellings are compared. -/
def Protocol.accepts (rule packet : Protocol) : Bool :=
  match rule, packet with
  | .any, _ => true
  | _, .any => true
  | rule, packet => rule == packet

/-- The subject clause of a rule: without a value only the wildcard accepts. -/
def subjectAccepts (matcher : SubjectMatch) (value : Option String) : Bool :=
  match matcher, value with
  | .any, _ => true
  | matcher, some value => matcher.matchesString value
  | _, none => false

def RuleMatch.matchesTuple (rule : RuleMatch) (flow : FlowKey) : Bool :=
  freeOrAny rule.srcCidrs (·.contains flow.srcIp) &&
  freeOrAny rule.dstCidrs (·.contains flow.dstIp) &&
  freeOrAny rule.srcPorts (·.contains flow.srcPort) &&
  freeOrAny rule.dstPorts (·.contains flow.dstPort)

def RuleMatch.matches (rule : RuleMatch) (flow : FlowKey) (subject : Option String) : Bool :=
  rule.matchesTuple flow && rule.protocol.accepts flow.protocol &&
    subjectAccepts rule.subject subject

/-! ## Actions -/

inductive RuleAction where
  | allow
  | deny
  | inspect
  | log
  | steer
  deriving DecidableEq

def RuleAction.isTerminal : RuleAction → Bool
  | .log => false
  | _ => true

def RuleAction.metaMark : RuleAction → Option Nat
  | .inspect => some 0x1001
  | .log => some 0x1002
  | .steer => some 0x1003
  | .allow => none
  | .deny => none

structure FirewallRule where
  id : String
  matching : RuleMatch
  action : RuleAction
  fromZones : List String
  toZones : List String
  description : String

end ShieldNet.Firewall
