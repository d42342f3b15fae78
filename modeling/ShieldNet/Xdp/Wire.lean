import ShieldNet.Lib.Fallible
import ShieldNet.Lib.Words
import ShieldNet.Xdp.Rules

/-!
# The wire form of a rule set

`marshal_rules` of `crates/sng-ebpf/src/wire.rs`: a rule becomes a run of wire
rules with at most four networks and four port ranges in each field, the cross
product of the groups its fields are split into. Sixteen bytes in network order
are one word, the first byte its most significant one.
-/

namespace ShieldNet.Xdp

/-! ## Layout -/

def maxFwRules : Nat := 1024

def maxCidrsPerRule : Nat := 4

def maxPortsPerRule : Nat := 4

def logicalMaxCidrsPerRule : Nat := 8

def logicalMaxPortsPerRule : Nat := 8

structure WireCidr where
  addr : BitVec 128
  prefixLen : Nat
  family : IpFamily
  deriving DecidableEq

structure WirePortRange where
  lower : UInt16
  upper : UInt16
  deriving DecidableEq

/-- The contents of a slot that is not live. -/
def WireCidr.default : WireCidr := ⟨0, 0, .v4⟩

@[inherit_doc WireCidr.default]
def WirePortRange.default : WirePortRange := ⟨0, 0⟩

/-- Every field has its slots and the number of live ones. -/
structure WireRule where
  srcCidrs : List WireCidr
  dstCidrs : List WireCidr
  srcPorts : List WirePortRange
  dstPorts : List WirePortRange
  nSrcCidrs : Nat
  nDstCidrs : Nat
  nSrcPorts : Nat
  nDstPorts : Nat
  protocol : UInt8
  protocolPresent : Bool
  action : UInt8
  deriving DecidableEq

structure WireRuleSetMeta where
  count : Nat
  defaultAction : UInt8
  deriving DecidableEq

def XdpRuleAction.code : XdpRuleAction → UInt8
  | .pass => 0
  | .drop => 1

/-! ## Addresses -/

/-- The sixteen bytes of an address, an IPv4 one in the first four. -/
def addrBytes : IpAddr → BitVec 128
  | .v4 bits => bits ++ 0#96
  | .v6 bits => bits

def WireCidr.fromNet (net : IpNet) : WireCidr := ⟨addrBytes net.network, net.prefixLen, net.family⟩

def WirePortRange.fromRange (range : PortRange) : WirePortRange := ⟨range.lower, range.upper⟩

/-! ## Marshalling -/

def chunkField {α : Type} (items : List α) (wireMax logicalMax : Nat) (what : String) :
    Except EbpfError (List (List α)) :=
  if items.length > logicalMax then .error (.tooManyElements what items.length logicalMax)
  else .ok (groups wireMax items)

/-- The slots of a field, the group in front and the rest unused. -/
def fillSlots {α β : Type} (wireMax : Nat) (unused : β) (wire : α → β) (group : List α) : List β :=
  ((group.map wire) ++ List.replicate (wireMax - group.length) unused).take wireMax

/-- The count saturates at a byte. -/
def groupLen {α : Type} (group : List α) : Nat := min group.length 255

def wireRule (rule : XdpRule) (sc dc : List IpNet) (sp dp : List PortRange) : WireRule where
  srcCidrs := fillSlots maxCidrsPerRule .default .fromNet sc
  dstCidrs := fillSlots maxCidrsPerRule .default .fromNet dc
  srcPorts := fillSlots maxPortsPerRule .default .fromRange sp
  dstPorts := fillSlots maxPortsPerRule .default .fromRange dp
  nSrcCidrs := groupLen sc
  nDstCidrs := groupLen dc
  nSrcPorts := groupLen sp
  nDstPorts := groupLen dp
  protocol := rule.protocol.getD 0
  protocolPresent := rule.protocol.isSome
  action := rule.action.code

def wireProduct (rule : XdpRule) (scs dcs : List (List IpNet)) (sps dps : List (List PortRange)) :
    List WireRule :=
  scs.flatMap fun sc => dcs.flatMap fun dc => sps.flatMap fun sp => dps.map fun dp =>
    wireRule rule sc dc sp dp

def expandRule (rule : XdpRule) : Except EbpfError (List WireRule) :=
  match rule.violation with
  | some e => .error e
  | none => do
      let scs ← chunkField rule.srcCidrs maxCidrsPerRule logicalMaxCidrsPerRule "source CIDRs"
      let dcs ← chunkField rule.dstCidrs maxCidrsPerRule logicalMaxCidrsPerRule "destination CIDRs"
      let sps ← chunkField rule.srcPorts maxPortsPerRule logicalMaxPortsPerRule "source ports"
      let dps ← chunkField rule.dstPorts maxPortsPerRule logicalMaxPortsPerRule "destination ports"
      .ok (wireProduct rule scs dcs sps dps)

/-- One round of the loop of `marshal_rules`. -/
def marshalRule (out : List WireRule) (rule : XdpRule) : Except EbpfError (List WireRule) := do
  let expanded ← expandRule rule
  if out.length + expanded.length > maxFwRules then
    .error (.tooManyRules (out.length + expanded.length) maxFwRules)
  else .ok (out ++ expanded)

def marshalRules (set : XdpRuleSet) : Except EbpfError (List WireRule × WireRuleSetMeta) :=
  match set.violation with
  | some e => .error e
  | none => do
      let out ← set.rules.foldlM marshalRule []
      .ok (out, ⟨out.length, set.defaultAction.code⟩)

/-! ## What is marshalled -/

def expansion (rule : XdpRule) : List WireRule :=
  wireProduct rule (groups maxCidrsPerRule rule.srcCidrs) (groups maxCidrsPerRule rule.dstCidrs)
    (groups maxPortsPerRule rule.srcPorts) (groups maxPortsPerRule rule.dstPorts)

theorem chunkField_eq_ok {α : Type} {items : List α} {wireMax logicalMax : Nat} {what : String}
    {result : List (List α)} (accepted : chunkField items wireMax logicalMax what = .ok result) :
    result = groups wireMax items := by
  unfold chunkField at accepted
  split at accepted
  · cases accepted
  · exact (Except.ok.inj accepted).symm

theorem expandRule_eq_ok {rule : XdpRule} {wires : List WireRule}
    (accepted : expandRule rule = .ok wires) : wires = expansion rule := by
  unfold expandRule at accepted
  split at accepted
  · cases accepted
  · obtain ⟨scs, sourceCidrs, afterSc⟩ := bind_eq_ok accepted
    obtain ⟨dcs, destinationCidrs, afterDc⟩ := bind_eq_ok afterSc
    obtain ⟨sps, sourcePorts, afterSp⟩ := bind_eq_ok afterDc
    obtain ⟨dps, destinationPorts, final⟩ := bind_eq_ok afterSp
    cases final
    rw [chunkField_eq_ok sourceCidrs, chunkField_eq_ok destinationCidrs,
      chunkField_eq_ok sourcePorts, chunkField_eq_ok destinationPorts, expansion]

/-- The loop has turned these rules into their runs, within the array. -/
def Marshalled (seen : List XdpRule) (out : List WireRule) : Prop :=
  out = seen.flatMap expansion ∧ out.length ≤ maxFwRules

theorem Marshalled.extend {seen : List XdpRule} {out next : List WireRule} {rule : XdpRule}
    (begun : Marshalled seen out) (round : marshalRule out rule = .ok next) :
    Marshalled (seen ++ [rule]) next := by
  obtain ⟨rfl, -⟩ := begun
  obtain ⟨expanded, expands, checked⟩ := bind_eq_ok round
  split at checked
  · cases checked
  case isFalse fits =>
    cases checked
    rw [expandRule_eq_ok expands] at fits ⊢
    rw [Marshalled, List.length_append, List.flatMap_append, List.flatMap_singleton]
    exact ⟨rfl, not_lt.mp fits⟩

/-- **A marshalled set is the runs of its rules, in order, and they fit the
kernel's array.** -/
theorem marshalRules_eq_ok {set : XdpRuleSet} {wires : List WireRule} {info : WireRuleSetMeta}
    (accepted : marshalRules set = .ok (wires, info)) :
    wires = set.rules.flatMap expansion ∧ wires.length ≤ maxFwRules ∧
    info = ⟨wires.length, set.defaultAction.code⟩ := by
  unfold marshalRules at accepted
  split at accepted
  · cases accepted
  · obtain ⟨out, folded, final⟩ := bind_eq_ok accepted
    obtain ⟨rfl, rfl⟩ := Prod.mk.inj (Except.ok.inj final)
    have loop : Marshalled ([] ++ set.rules) out := foldlM_eq_ok_induction (R := Marshalled)
        (fun seen state rule next begun round => begun.extend round) ⟨rfl, Nat.zero_le _⟩ folded
    exact ⟨loop.1, loop.2, rfl⟩

end ShieldNet.Xdp
