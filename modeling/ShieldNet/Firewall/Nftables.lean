import ShieldNet.Firewall.Zone
import ShieldNet.Lib.FirstMatch

/-!
# The rendered forward chain

`render_script` and its parts in `crates/sng-fw/src/compile.rs`: a set per zone
and family, the chain policy, and for each rule one line per address family and
pair of zones. A line is a list of clauses, a mark and, for terminal actions, a
verdict.

The kernel's reading of a chain is `forwardVerdict`: clauses are conjoined, the
first line with a verdict whose clauses hold decides, and the policy answers
otherwise. `forwardVerdict_eq` says what that amounts to for the rules the
chain was rendered from.
-/

namespace ShieldNet.Firewall

open ZoneTable List

/-! ## Scripts -/

inductive Side where
  | source
  | destination
  deriving DecidableEq

inductive NftProtocol where
  | tcp
  | udp
  | icmp
  | icmpv6
  | sctp
  | esp
  | ah
  | number (value : UInt8)
  deriving DecidableEq

def Protocol.asNft : Protocol → Option NftProtocol
  | .tcp => some .tcp
  | .udp => some .udp
  | .icmp => some .icmp
  | .icmpv6 => some .icmpv6
  | .sctp => some .sctp
  | .gre => some (.number 47)
  | .esp => some .esp
  | .ah => some .ah
  | .other value => some (.number value)
  | .any => none

def NftProtocol.value : NftProtocol → UInt8
  | .tcp => 6
  | .udp => 17
  | .icmp => 1
  | .icmpv6 => 58
  | .sctp => 132
  | .esp => 50
  | .ah => 51
  | .number value => value

/-- A match clause: `ip saddr @set`, `ip saddr { .. }`, `meta l4proto`,
`th sport { .. }` and their counterparts. -/
inductive NftClause where
  | addrSet (side : Side) (family : IpFamily) (setName : Text)
  | addrIn (side : Side) (family : IpFamily) (nets : List IpNet)
  | l4proto (protocol : NftProtocol)
  | ports (side : Side) (ranges : List PortRange)
  deriving DecidableEq

open NftClause

inductive NftVerdict where
  | accept
  | drop
  deriving DecidableEq

structure NftLine where
  clauses : List NftClause
  mark : Option Nat
  verdict : Option NftVerdict
  comment : String
  deriving DecidableEq

structure NftSet where
  family : IpFamily
  name : Text
  elements : List IpNet
  deriving DecidableEq

/-- The filter table of an `NftablesScript`: the zone sets, the policy of its
chains, and the lines of the forward chain. -/
structure NftablesScript where
  sets : List NftSet
  policy : NftVerdict
  forward : List NftLine
  deriving DecidableEq

/-! ## Rendering -/

def FlowKey.addr (flow : FlowKey) : Side → IpAddr
  | .source => flow.srcIp
  | .destination => flow.dstIp

def FlowKey.port (flow : FlowKey) : Side → UInt16
  | .source => flow.srcPort
  | .destination => flow.dstPort

def RuleMatch.cidrs (matching : RuleMatch) : Side → List IpNet
  | .source => matching.srcCidrs
  | .destination => matching.dstCidrs

def FirewallRule.zones (rule : FirewallRule) : Side → List String
  | .source => rule.fromZones
  | .destination => rule.toZones

def RuleAction.asNftVerdict : RuleAction → NftVerdict
  | .deny => .drop
  | _ => .accept

def defaultChainPolicy : RuleAction → NftVerdict
  | .allow => .accept
  | _ => .drop

/-- The name of a zone's set: `zone_` or `zone6_`, and the sanitised name. -/
def zoneSetName (family : IpFamily) (name : String) : Text := (match family with
    | .v4 => ['z', 'o', 'n', 'e', '_']
    | .v6 => ['z', 'o', 'n', 'e', '6', '_']) ++ sanitizeSetName name

variable (zones : ZoneTable)

/-- The sets of a table: one per zone and family it has networks of. -/
def zoneSets : List NftSet := zones.zones.flatMap fun zone =>
    ([IpFamily.v4, .v6].filter zone.hasFamily).map fun family =>
      { family, name := zoneSetName family zone.name
        elements := zone.networks.filter fun net => net.family == family }

def zoneHasFamily (name : String) (family : IpFamily) : Bool :=
  (zones.get? name).any (·.hasFamily family)

/-- The rule has networks of the family, or zones with such networks. -/
def mentionsFamily (rule : FirewallRule) (family : IpFamily) : Bool :=
  ((rule.matching.srcCidrs ++ rule.matching.dstCidrs).any fun net => net.family == family) ||
  ((rule.fromZones ++ rule.toZones).any fun name => zoneHasFamily zones name family)

def ruleAddressFamilies (rule : FirewallRule) : List (Option IpFamily) :=
  match [IpFamily.v4, .v6].filter (mentionsFamily zones rule) with
  | [] => [none]
  | families => families.map some

/-- A zone list as slots: no restriction when it is empty. -/
def zoneSlots (names : List String) : List (Option String) :=
  if names.isEmpty then [none] else names.map some

structure Slot where
  family : Option IpFamily
  fromZone : Option String
  toZone : Option String

def Slot.zone (slot : Slot) : Side → Option String
  | .source => slot.fromZone
  | .destination => slot.toZone

def ruleSlots (rule : FirewallRule) : List Slot :=
  (ruleAddressFamilies zones rule).flatMap fun family =>
    (zoneSlots rule.fromZones).flatMap fun fromZone =>
      (zoneSlots rule.toZones).map fun toZone => ⟨family, fromZone, toZone⟩

/-- The zone has networks of the family, where both are given. -/
def slotApplies (family : Option IpFamily) (zone : Option String) : Bool :=
  match zone, family with
  | some name, some family => zoneHasFamily zones name family
  | _, _ => true

def ofFamily (family : Option IpFamily) (nets : List IpNet) : List IpNet :=
  nets.filter fun net => family.all (net.family == ·)

def addressClauses (side : Side) (family : IpFamily) (zone : Option String)
    (nets : List IpNet) : List NftClause :=
  (zone.map fun name => .addrSet side family (zoneSetName family name)).toList ++
    if nets.isEmpty then [] else [.addrIn side family nets]

def portClauses (side : Side) (ranges : List PortRange) : List NftClause :=
  if ranges.isEmpty then [] else [.ports side ranges]

/-- A line of the rule behind the given address clauses. Only terminal actions
get a verdict. -/
def ruleLine (rule : FirewallRule) (addresses : List NftClause) : NftLine where
  clauses := addresses ++ (rule.matching.protocol.asNft.map l4proto).toList ++
    portClauses .source rule.matching.srcPorts ++
    portClauses .destination rule.matching.dstPorts
  mark := rule.action.metaMark
  verdict := if rule.action.isTerminal then some rule.action.asNftVerdict else none
  comment := rule.id

def renderSingleRule (rule : FirewallRule) (slot : Slot) (src dst : List IpNet) :
    Except FirewallError NftLine :=
  match slot.family with
  | some family => .ok (ruleLine rule (addressClauses .source family slot.fromZone src ++
      addressClauses .destination family slot.toZone dst))
  | none =>
    if slot.fromZone.isNone && slot.toZone.isNone && src.isEmpty && dst.isEmpty then
      .ok (ruleLine rule [])
    else .error (.familyAgnosticSlot rule.id)

/-- The rule lists networks for the end, and none of them is of the family. -/
def losesNetworks (rule : FirewallRule) (family : Option IpFamily) (side : Side) : Bool :=
  !(rule.matching.cidrs side).isEmpty && (ofFamily family (rule.matching.cidrs side)).isEmpty

/-- The line of a slot, if it gets one: a zone without networks of the family
and a list of networks without one of the family leave it out. -/
def renderSlot (rule : FirewallRule) (slot : Slot) : Except FirewallError (List NftLine) :=
  if !slotApplies zones slot.family slot.fromZone then .ok []
  else if !slotApplies zones slot.family slot.toZone then .ok []
  else if losesNetworks rule slot.family .source then .ok []
  else if losesNetworks rule slot.family .destination then .ok []
  else
    (renderSingleRule rule slot (ofFamily slot.family rule.matching.srcCidrs)
      (ofFamily slot.family rule.matching.dstCidrs)).map ([·])

def renderRule (rule : FirewallRule) : Except FirewallError (List NftLine) :=
  ((ruleSlots zones rule).mapM (renderSlot zones rule)).map flatten

/-- `render_script`, its filter table. -/
def renderScript (rules : List FirewallRule) (defaultAction : RuleAction) :
    Except FirewallError NftablesScript :=
  (rules.mapM (renderRule zones)).map fun blocks =>
    { sets := zoneSets zones
      policy := defaultChainPolicy defaultAction
      forward := blocks.flatten }

/-! ## The kernel's reading -/

variable (sets : List NftSet)

def NftClause.accepts (flow : FlowKey) : NftClause → Bool
  | .addrSet side family name =>
    (flow.addr side).family == family && sets.any fun set =>
      set.name == name && set.elements.any (·.contains (flow.addr side))
  | .addrIn side family nets =>
    (flow.addr side).family == family && nets.any (·.contains (flow.addr side))
  | .l4proto protocol => flow.protocol.ianaNumber == some protocol.value
  | .ports side ranges => ranges.any (·.contains (flow.port side))

def NftLine.accepts (flow : FlowKey) (line : NftLine) : Bool :=
  line.clauses.all (NftClause.accepts sets flow)

def NftablesScript.forwardVerdict (script : NftablesScript) (flow : FlowKey) : NftVerdict :=
  firstMatch (fun line => line.verdict.isSome && line.accepts script.sets flow)
    (fun line => line.verdict.getD script.policy) script.policy script.forward

/-! ## What the clauses of a line say -/

/-- The addresses and zones a rule lists for one end admit the packet. -/
def sideAccepts (rule : FirewallRule) (flow : FlowKey) (side : Side) : Bool :=
  freeOrAny (rule.matching.cidrs side) (·.contains (flow.addr side)) &&
  freeOrAny (rule.zones side) fun name => (zones.get? name).any (·.contains (flow.addr side))

def Protocol.acceptsNumber (rule packet : Protocol) : Bool :=
  rule.ianaNumber.all fun number => packet.ianaNumber == some number

def kernelAccepts (rule : FirewallRule) (flow : FlowKey) : Bool :=
  sideAccepts zones rule flow .source && sideAccepts zones rule flow .destination &&
  rule.matching.protocol.acceptsNumber flow.protocol &&
  freeOrAny rule.matching.srcPorts (·.contains flow.srcPort) &&
  freeOrAny rule.matching.dstPorts (·.contains flow.dstPort)

theorem l4proto_accepts_iff (flow : FlowKey) (protocol : Protocol) :
    (protocol.asNft.map l4proto).toList.all (accepts sets flow) =
      protocol.acceptsNumber flow.protocol := by
  cases protocol <;>
    simp [Protocol.asNft, Protocol.acceptsNumber, Protocol.ianaNumber, accepts, NftProtocol.value]

theorem portClauses_accepts (flow : FlowKey) (side : Side) (ranges : List PortRange) :
    (portClauses side ranges).all (accepts sets flow) =
      freeOrAny ranges (·.contains (flow.port side)) := by
  cases ranges <;> simp [portClauses, freeOrAny, accepts]

variable {family : IpFamily}

theorem zoneSetName_eq_iff {family' : IpFamily} {name name' : String} :
    zoneSetName family name = zoneSetName family' name' ↔
      family = family' ∧ sanitizeSetName name = sanitizeSetName name' := by
  cases family <;> cases family' <;> simp [zoneSetName]

section Sets

variable {zones : ZoneTable} (valid : zones.Valid)

include valid

/-- **A set holds an address exactly when its zone does.** No other zone adds
to the set, because set names tell the zones of a valid table apart. -/
theorem addrSet_accepts_iff {name : String} {zone : Zone} (stored : zones.get? name = some zone)
    (flow : FlowKey) (side : Side) (family : IpFamily) :
    (addrSet side family (zoneSetName family name)).accepts (zoneSets zones) flow ↔
      (flow.addr side).family = family ∧ zone.contains (flow.addr side) := by
  obtain ⟨listed, rfl⟩ := get?_eq_some_iff.mp stored
  rw [accepts, Bool.and_eq_true, beq_iff_eq]
  refine and_congr_right fun families => ?_
  rw [any_eq_true]
  constructor
  · rintro ⟨set, member, holds⟩
    obtain ⟨other, otherListed, rendered⟩ := mem_flatMap.mp member
    obtain ⟨otherFamily, -, rfl⟩ := mem_map.mp rendered
    rw [Bool.and_eq_true, beq_iff_eq, zoneSetName_eq_iff, any_eq_true] at holds
    obtain ⟨⟨-, sameName⟩, net, netMember, inside⟩ := holds
    obtain rfl := valid.setName_unique otherListed listed sameName
    exact any_eq_true.mpr ⟨net, (mem_filter.mp netMember).1, inside⟩
  · intro inside
    obtain ⟨net, netMember, contains⟩ := any_eq_true.mp inside
    have netFamily : net.family = family := (IpNet.family_eq_of_contains contains).trans families
    have has : zone.hasFamily family :=
      any_eq_true.mpr ⟨net, netMember, beq_iff_eq.mpr netFamily⟩
    refine ⟨_, mem_flatMap.mpr ⟨zone, listed, mem_map.mpr ⟨family, ?_, rfl⟩⟩, ?_⟩
    · cases family <;> simp [has]
    · simp only [beq_self_eq_true, Bool.true_and, any_eq_true]
      exact ⟨net, mem_filter.mpr ⟨netMember, beq_iff_eq.mpr netFamily⟩, contains⟩

/-- The address clauses of one end: the zone holds the address, and so does one
of the networks, where they are given. -/
theorem addressClauses_accepts_iff {side : Side} {slotZone : Option String}
    (applies : slotApplies zones (some family) slotZone) (nets : List IpNet)
    (flow : FlowKey) :
    (addressClauses side family slotZone nets).all (accepts (zoneSets zones) flow) ↔
      (∀ name, slotZone = some name → (flow.addr side).family = family ∧
        (zones.get? name).any (·.contains (flow.addr side))) ∧
      (nets ≠ [] → (flow.addr side).family = family ∧
        nets.any (·.contains (flow.addr side))) := by
  rw [addressClauses, all_append, Bool.and_eq_true]
  refine and_congr ?_ ?_
  · cases slotZone with
    | none => simp
    | some name =>
      cases stored : zones.get? name with
      | none => simp [slotApplies, zoneHasFamily, stored] at applies
      | some zone =>
        simp only [Option.map_some, Option.toList_some, all_cons, all_nil,
          Bool.and_true, addrSet_accepts_iff valid stored, Option.some.injEq,
          forall_eq', stored, Option.any_some]
  · cases nets with
    | nil => simp
    | cons net rest => simp [accepts]

end Sets

/-! ## From lines to rules -/

/-- The slot gets a line: on both ends the zone has networks of the family, and
listed networks keep one of the family. -/
def Emitted (zones : ZoneTable) (rule : FirewallRule) (slot : Slot) : Prop :=
  ∀ side, slotApplies zones slot.family (slot.zone side) = true ∧
    losesNetworks rule slot.family side = false

variable {rule : FirewallRule} {zones : ZoneTable} {slot : Slot} {lines : List NftLine}

theorem mem_renderSlot_iff (rendered : renderSlot zones rule slot = .ok lines) (line : NftLine) :
    line ∈ lines ↔ Emitted zones rule slot ∧
      renderSingleRule rule slot (ofFamily slot.family rule.matching.srcCidrs)
        (ofFamily slot.family rule.matching.dstCidrs) = .ok line := by
  have skipped : ¬Emitted zones rule slot → lines = [] → (line ∈ lines ↔
      Emitted zones rule slot ∧ renderSingleRule rule slot
        (ofFamily slot.family rule.matching.srcCidrs)
        (ofFamily slot.family rule.matching.dstCidrs) = .ok line) := by
    rintro absent rfl
    simp [absent]
  unfold renderSlot at rendered
  split at rendered
  case isTrue skip =>
    exact skipped (fun emitted => by simp [show slotApplies _ _ slot.fromZone from
      (emitted .source).1] at skip) (Except.ok.inj rendered).symm
  split at rendered
  case isTrue skip =>
    exact skipped (fun emitted => by simp [show slotApplies _ _ slot.toZone from
      (emitted .destination).1] at skip) (Except.ok.inj rendered).symm
  split at rendered
  case isTrue skip =>
    exact skipped (fun emitted => by simp [(emitted .source).2] at skip)
      (Except.ok.inj rendered).symm
  split at rendered
  case isTrue skip =>
    exact skipped (fun emitted => by simp [(emitted .destination).2] at skip)
      (Except.ok.inj rendered).symm
  case isFalse fromApplies toApplies src dst =>
    have emitted : Emitted zones rule slot := by
      intro side
      cases side with
      | source => exact ⟨by simpa [Slot.zone] using fromApplies, by simpa using src⟩
      | destination => exact ⟨by simpa [Slot.zone] using toApplies, by simpa using dst⟩
    obtain ⟨only, single, rfl⟩ := map_eq_ok rendered
    simp [emitted, single, eq_comm]

theorem mem_zoneSlots_iff {names : List String} {slotZone : Option String} :
    slotZone ∈ zoneSlots names ↔
      (names = [] ∧ slotZone = none) ∨ ∃ name ∈ names, slotZone = some name := by
  cases names with
  | nil => simp [zoneSlots]
  | cons name rest => simp [zoneSlots, eq_comm]

theorem mem_ruleSlots_iff :
    slot ∈ ruleSlots zones rule ↔ slot.family ∈ ruleAddressFamilies zones rule ∧
      ∀ side, slot.zone side ∈ zoneSlots (rule.zones side) := by
  simp only [ruleSlots, mem_flatMap, mem_map]
  constructor
  · rintro ⟨family, listed, fromZone, fromListed, toZone, toListed, rfl⟩
    refine ⟨listed, fun side => ?_⟩
    cases side with
    | source => exact fromListed
    | destination => exact toListed
  · rintro ⟨listed, zones⟩
    exact ⟨slot.family, listed, slot.fromZone, zones .source, slot.toZone, zones .destination, rfl⟩

theorem some_mem_ruleAddressFamilies_iff :
    some family ∈ ruleAddressFamilies zones rule ↔ mentionsFamily zones rule family := by
  unfold ruleAddressFamilies
  split
  case h_1 blank =>
    have absent := filter_eq_nil_iff.mp blank family (by cases family <;> simp)
    simp [absent]
  rw [mem_map]
  constructor
  · rintro ⟨listed, member, same⟩
    cases same
    exact (mem_filter.mp member).2
  · intro mentioned
    exact ⟨family, mem_filter.mpr ⟨by cases family <;> simp, mentioned⟩, rfl⟩

theorem none_mem_ruleAddressFamilies (absent : ∀ family, mentionsFamily zones rule family = false) :
    none ∈ ruleAddressFamilies zones rule := by
  have blank : [IpFamily.v4, .v6].filter (mentionsFamily zones rule) = [] :=
    filter_eq_nil_iff.mpr fun family _ => by simp [absent family]
  rw [ruleAddressFamilies, blank]
  exact mem_singleton.mpr rfl

variable {line : NftLine}

theorem line_accepts_iff {src dst : List IpNet}
    (single : renderSingleRule rule slot src dst = .ok line) (sets : List NftSet) (flow : FlowKey) :
    line.accepts sets flow ↔ (∀ family, slot.family = some family →
        (addressClauses .source family slot.fromZone src).all (NftClause.accepts sets flow) ∧
        (addressClauses .destination family slot.toZone dst).all (accepts sets flow) =
          true) ∧
      rule.matching.protocol.acceptsNumber flow.protocol ∧
      freeOrAny rule.matching.srcPorts (·.contains flow.srcPort) ∧
      freeOrAny rule.matching.dstPorts (·.contains flow.dstPort) := by
  unfold renderSingleRule at single
  cases families : slot.family with
  | some family =>
    rw [families] at single
    cases single
    simp only [NftLine.accepts, ruleLine, all_append, Bool.and_eq_true,
      l4proto_accepts_iff, portClauses_accepts, FlowKey.port, Option.some.injEq,
      forall_eq', and_assoc]
  | none =>
    simp only [families] at single
    split at single
    case isTrue =>
      cases single
      simp only [NftLine.accepts, ruleLine, nil_append, all_append,
        Bool.and_eq_true, l4proto_accepts_iff, portClauses_accepts, FlowKey.port, reduceCtorEq,
        false_implies, implies_true, true_and, and_assoc]
    case isFalse => cases single

section Rules

variable {zones : ZoneTable} {rule : FirewallRule} {flow : FlowKey} {side : Side}

theorem sideAccepts_of_clauses {slotZone : Option String} (valid : zones.Valid)
    (listed : slotZone ∈ zoneSlots (rule.zones side))
    (applies : slotApplies zones (some family) slotZone)
    (keeps : losesNetworks rule (some family) side = false)
    (accepted : (addressClauses side family slotZone
      (ofFamily (some family) (rule.matching.cidrs side))).all (accepts (zoneSets zones) flow)) :
    sideAccepts zones rule flow side := by
  obtain ⟨inZone, inNets⟩ := (addressClauses_accepts_iff valid applies _ flow).mp accepted
  rw [sideAccepts, Bool.and_eq_true, freeOrAny_eq_true_iff, freeOrAny_eq_true_iff]
  constructor
  · by_cases free : rule.matching.cidrs side = []
    · exact .inl free
    · have kept : ofFamily (some family) (rule.matching.cidrs side) ≠ [] := by
        simpa [losesNetworks, free] using keeps
      obtain ⟨net, member, inside⟩ := any_eq_true.mp (inNets kept).2
      exact .inr ⟨net, (mem_filter.mp member).1, inside⟩
  · rcases mem_zoneSlots_iff.mp listed with ⟨free, -⟩ | ⟨name, member, rfl⟩
    · exact .inl free
    · exact .inr ⟨name, member, (inZone name rfl).2⟩

theorem clauses_of_sideAccepts (valid : zones.Valid)
    (accepted : sideAccepts zones rule flow side) :
    ∃ slotZone ∈ zoneSlots (rule.zones side),
      slotApplies zones (some (flow.addr side).family) slotZone ∧
      losesNetworks rule (some (flow.addr side).family) side = false ∧
      (addressClauses side (flow.addr side).family slotZone
        (ofFamily (some (flow.addr side).family) (rule.matching.cidrs side))).all
          (accepts (zoneSets zones) flow) := by
  rw [sideAccepts, Bool.and_eq_true, freeOrAny_eq_true_iff, freeOrAny_eq_true_iff] at accepted
  obtain ⟨nets, inZones⟩ := accepted
  obtain ⟨slotZone, listed, holds⟩ : ∃ slotZone ∈ zoneSlots (rule.zones side),
      ∀ name, slotZone = some name → (zones.get? name).any (·.contains (flow.addr side)) := by
    rcases inZones with free | ⟨name, member, inside⟩
    · exact ⟨none, mem_zoneSlots_iff.mpr (.inl ⟨free, rfl⟩), by simp⟩
    · refine ⟨some name, mem_zoneSlots_iff.mpr (.inr ⟨name, member, rfl⟩), ?_⟩
      intro other same
      rw [← Option.some.inj same]
      exact inside
  have applies : slotApplies zones (some (flow.addr side).family) slotZone := by
    cases slotZone with
    | none => rfl
    | some name =>
      obtain ⟨zone, stored, inside⟩ := (Option.any_eq_true _ _).mp (holds name rfl)
      obtain ⟨net, member, contains⟩ := any_eq_true.mp inside
      rw [slotApplies, zoneHasFamily, stored, Option.any_some]
      exact any_eq_true.mpr ⟨net, member, beq_iff_eq.mpr (IpNet.family_eq_of_contains contains)⟩
  have kept : rule.matching.cidrs side ≠ [] →
      (ofFamily (some (flow.addr side).family) (rule.matching.cidrs side)).any
        (·.contains (flow.addr side)) := by
    intro listedNets
    obtain ⟨net, member, inside⟩ := nets.resolve_left listedNets
    refine any_eq_true.mpr ⟨net, mem_filter.mpr ⟨member, ?_⟩, inside⟩
    simp [IpNet.family_eq_of_contains inside]
  refine ⟨slotZone, listed, applies, ?_, ?_⟩
  · by_cases free : rule.matching.cidrs side = []
    · simp [losesNetworks, free]
    · obtain ⟨net, member, -⟩ := any_eq_true.mp (kept free)
      have nonempty := ne_nil_of_mem member
      simp [losesNetworks, nonempty]
  · refine (addressClauses_accepts_iff valid applies _ flow).mpr ⟨?_, ?_⟩
    · intro name same
      exact ⟨rfl, holds name same⟩
    · intro nonempty
      refine ⟨rfl, kept fun free => nonempty ?_⟩
      rw [free]
      rfl

theorem mentionsFamily_of_sideAccepts (accepted : sideAccepts zones rule flow side)
    (constrained : rule.matching.cidrs side ≠ [] ∨ rule.zones side ≠ []) :
    mentionsFamily zones rule (flow.addr side).family := by
  rw [sideAccepts, Bool.and_eq_true, freeOrAny_eq_true_iff, freeOrAny_eq_true_iff] at accepted
  rw [mentionsFamily, Bool.or_eq_true]
  rcases constrained with listed | listed
  · obtain ⟨net, member, inside⟩ := accepted.1.resolve_left listed
    refine .inl (any_eq_true.mpr ⟨net, ?_, beq_iff_eq.mpr (IpNet.family_eq_of_contains inside)⟩)
    cases side with
    | source => exact mem_append_left _ member
    | destination => exact mem_append_right _ member
  · obtain ⟨name, member, inside⟩ := accepted.2.resolve_left listed
    obtain ⟨zone, stored, contains⟩ := (Option.any_eq_true _ _).mp inside
    obtain ⟨net, netMember, netContains⟩ := any_eq_true.mp contains
    have has : zoneHasFamily zones name (flow.addr side).family := by
      rw [zoneHasFamily, stored, Option.any_some]
      exact any_eq_true.mpr
        ⟨net, netMember, beq_iff_eq.mpr (IpNet.family_eq_of_contains netContains)⟩
    refine .inr (any_eq_true.mpr ⟨name, ?_, has⟩)
    cases side with
    | source => exact mem_append_left _ member
    | destination => exact mem_append_right _ member

/-- A line that accepts a packet comes from a rule the packet meets. -/
theorem kernelAccepts_of_line (valid : zones.Valid) {slot : Slot}
    (listed : slot ∈ ruleSlots zones rule) (emitted : Emitted zones rule slot)
    (single : renderSingleRule rule slot (ofFamily slot.family rule.matching.srcCidrs)
      (ofFamily slot.family rule.matching.dstCidrs) = .ok line)
    (accepted : line.accepts (zoneSets zones) flow) :
    kernelAccepts zones rule flow := by
  obtain ⟨addresses, number, srcPorts, dstPorts⟩ :=
    (line_accepts_iff single (zoneSets zones) flow).mp accepted
  obtain ⟨-, zoneListed⟩ := mem_ruleSlots_iff.mp listed
  have sides : ∀ side, sideAccepts zones rule flow side := by
    cases families : slot.family with
    | some family =>
      rw [families] at addresses
      rw [Emitted, families] at emitted
      intro side
      refine sideAccepts_of_clauses valid (zoneListed side) (emitted side).1 (emitted side).2 ?_
      cases side with
      | source => exact (addresses family rfl).1
      | destination => exact (addresses family rfl).2
    | none =>
      -- A line without a family carries no address clause: the rule lists nothing.
      simp only [renderSingleRule, families] at single
      split at single
      case isFalse => cases single
      case isTrue bare =>
        have everything : ∀ nets : List IpNet, ofFamily none nets = nets := fun nets =>
          filter_eq_self.mpr fun _ _ => rfl
        rw [everything, everything] at bare
        simp only [Bool.and_eq_true, Option.isNone_iff_eq_none, List.isEmpty_iff] at bare
        obtain ⟨⟨⟨noFrom, noTo⟩, noSrc⟩, noDst⟩ := bare
        have free : ∀ side, rule.matching.cidrs side = [] ∧ slot.zone side = none := by
          intro side
          cases side with
          | source => exact ⟨noSrc, noFrom⟩
          | destination => exact ⟨noDst, noTo⟩
        intro side
        rcases mem_zoneSlots_iff.mp (zoneListed side) with ⟨noZones, -⟩ | ⟨name, -, some⟩
        · rw [sideAccepts, (free side).1, noZones, freeOrAny_nil, freeOrAny_nil, Bool.and_self]
        · rw [(free side).2] at some
          cases some
  rw [kernelAccepts, sides .source, sides .destination, number, srcPorts, dstPorts]
  rfl

def AcceptedByLine (zones : ZoneTable) (rule : FirewallRule) (flow : FlowKey) : Prop :=
  ∃ slot ∈ ruleSlots zones rule, ∃ lines, renderSlot zones rule slot = .ok lines ∧
    ∃ line ∈ lines, line.accepts (zoneSets zones) flow = true

/-- A rule that names an address has the line of the packet's family and of the
zones that hold its addresses. -/
theorem line_of_constrained (valid : zones.Valid)
    (sameFamily : flow.srcIp.family = flow.dstIp.family)
    (rendered : ∀ slot ∈ ruleSlots zones rule, ∃ lines, renderSlot zones rule slot = .ok lines)
    (accepted : kernelAccepts zones rule flow) {end_ : Side}
    (constrained : rule.matching.cidrs end_ ≠ [] ∨ rule.zones end_ ≠ []) :
    AcceptedByLine zones rule flow := by
  simp only [kernelAccepts, Bool.and_eq_true] at accepted
  obtain ⟨⟨⟨⟨source, destination⟩, number⟩, srcPorts⟩, dstPorts⟩ := accepted
  have sides : ∀ side, sideAccepts zones rule flow side := by
    intro side
    cases side with
    | source => exact source
    | destination => exact destination
  have families : ∀ side, (flow.addr side).family = flow.srcIp.family := by
    intro side
    cases side with
    | source => rfl
    | destination => exact sameFamily.symm
  obtain ⟨fromZone, fromListed, fromApplies, fromKeeps, fromClauses⟩ :=
    clauses_of_sideAccepts valid source
  obtain ⟨toZone, toListed, toApplies, toKeeps, toClauses⟩ :=
    clauses_of_sideAccepts valid destination
  rw [families .destination] at toApplies toKeeps toClauses
  let slot : Slot := ⟨some flow.srcIp.family, fromZone, toZone⟩
  have listed : slot ∈ ruleSlots zones rule := by
    refine mem_ruleSlots_iff.mpr ⟨some_mem_ruleAddressFamilies_iff.mpr ?_, ?_⟩
    · rw [← families end_]
      exact mentionsFamily_of_sideAccepts (sides end_) constrained
    · intro side
      cases side with
      | source => exact fromListed
      | destination => exact toListed
  have emitted : Emitted zones rule slot := by
    intro side
    cases side with
    | source => exact ⟨fromApplies, fromKeeps⟩
    | destination => exact ⟨toApplies, toKeeps⟩
  obtain ⟨lines, block⟩ := rendered slot listed
  obtain ⟨line, single⟩ : ∃ line, renderSingleRule rule slot
      (ofFamily slot.family rule.matching.srcCidrs)
      (ofFamily slot.family rule.matching.dstCidrs) = .ok line := ⟨_, rfl⟩
  refine ⟨slot, listed, lines, block, line,
    (mem_renderSlot_iff block line).mpr ⟨emitted, single⟩, ?_⟩
  apply (line_accepts_iff single (zoneSets zones) flow).mpr
  refine ⟨?_, number, srcPorts, dstPorts⟩
  intro family same
  rw [← Option.some.inj same]
  exact ⟨fromClauses, toClauses⟩

/-- A rule that names no address has one line, without an address clause. -/
theorem line_of_unconstrained
    (rendered : ∀ slot ∈ ruleSlots zones rule, ∃ lines, renderSlot zones rule slot = .ok lines)
    (accepted : kernelAccepts zones rule flow)
    (free : ∀ side, rule.matching.cidrs side = [] ∧ rule.zones side = []) :
    AcceptedByLine zones rule flow := by
  simp only [kernelAccepts, Bool.and_eq_true] at accepted
  obtain ⟨⟨⟨-, number⟩, srcPorts⟩, dstPorts⟩ := accepted
  have noSrc : rule.matching.srcCidrs = [] := (free .source).1
  have noDst : rule.matching.dstCidrs = [] := (free .destination).1
  have noFrom : rule.fromZones = [] := (free .source).2
  have noTo : rule.toZones = [] := (free .destination).2
  let slot : Slot := ⟨none, none, none⟩
  have listed : slot ∈ ruleSlots zones rule := by
    refine mem_ruleSlots_iff.mpr ⟨none_mem_ruleAddressFamilies ?_, ?_⟩
    · intro family
      simp [mentionsFamily, noSrc, noDst, noFrom, noTo]
    · intro side
      refine mem_zoneSlots_iff.mpr (.inl ⟨(free side).2, ?_⟩)
      cases side <;> rfl
  have emitted : Emitted zones rule slot := by
    intro side
    refine ⟨?_, by simp [losesNetworks, (free side).1]⟩
    cases side <;> rfl
  obtain ⟨lines, block⟩ := rendered slot listed
  have single : renderSingleRule rule slot (ofFamily slot.family rule.matching.srcCidrs)
      (ofFamily slot.family rule.matching.dstCidrs) = .ok (ruleLine rule []) := by
    rw [noSrc, noDst]
    rfl
  refine ⟨slot, listed, lines, block, _, (mem_renderSlot_iff block _).mpr ⟨emitted, single⟩, ?_⟩
  apply (line_accepts_iff single (zoneSets zones) flow).mpr
  refine ⟨?_, number, srcPorts, dstPorts⟩
  intro family same
  cases same

theorem line_of_kernelAccepts (valid : zones.Valid)
    (sameFamily : flow.srcIp.family = flow.dstIp.family)
    (rendered : ∀ slot ∈ ruleSlots zones rule, ∃ lines, renderSlot zones rule slot = .ok lines)
    (accepted : kernelAccepts zones rule flow) : AcceptedByLine zones rule flow := by
  by_cases constrained : ∃ side, rule.matching.cidrs side ≠ [] ∨ rule.zones side ≠ []
  · obtain ⟨side, listed⟩ := constrained
    exact line_of_constrained valid sameFamily rendered accepted listed
  · push Not at constrained
    exact line_of_unconstrained rendered accepted constrained

/-- **The lines of a rule accept a packet exactly when it meets the rule's
networks, zones, ports and protocol number.** -/
theorem renderRule_accepts (valid : zones.Valid)
    (sameFamily : flow.srcIp.family = flow.dstIp.family)
    (rendered : renderRule zones rule = .ok lines) :
    lines.any (NftLine.accepts (zoneSets zones) flow) = kernelAccepts zones rule flow := by
  obtain ⟨results, blocks, rfl⟩ := map_eq_ok rendered
  obtain ⟨each, rfl⟩ := mapM_eq_ok [] blocks
  rw [Bool.eq_iff_iff, any_eq_true]
  constructor
  · rintro ⟨line, member, accepted⟩
    obtain ⟨block, blockMember, inBlock⟩ := mem_flatten.mp member
    obtain ⟨slot, listed, rfl⟩ := mem_map.mp blockMember
    obtain ⟨emitted, single⟩ := (mem_renderSlot_iff (each slot listed) line).mp inBlock
    exact kernelAccepts_of_line valid listed emitted single accepted
  · intro accepted
    obtain ⟨slot, listed, block, render, line, member, holds⟩ :=
      line_of_kernelAccepts valid sameFamily (fun slot listed => ⟨_, each slot listed⟩) accepted
    refine ⟨line, mem_flatten.mpr ⟨block, mem_map.mpr ⟨slot, listed, ?_⟩, member⟩, holds⟩
    rw [render, okOr]

theorem renderSingleRule_of_mem (rendered : renderRule zones rule = .ok lines)
    (member : line ∈ lines) : ∃ slot src dst, renderSingleRule rule slot src dst = .ok line := by
  obtain ⟨results, blocks, rfl⟩ := map_eq_ok rendered
  obtain ⟨each, rfl⟩ := mapM_eq_ok [] blocks
  obtain ⟨block, blockMember, inBlock⟩ := mem_flatten.mp member
  obtain ⟨slot, listed, rfl⟩ := mem_map.mp blockMember
  obtain ⟨-, single⟩ := (mem_renderSlot_iff (each slot listed) line).mp inBlock
  exact ⟨slot, _, _, single⟩

theorem verdict_of_mem_renderRule (rendered : renderRule zones rule = .ok lines)
    (member : line ∈ lines) :
    line.verdict = if rule.action.isTerminal then some rule.action.asNftVerdict else none := by
  obtain ⟨slot, src, dst, single⟩ := renderSingleRule_of_mem rendered member
  unfold renderSingleRule at single
  split at single
  · rw [← Except.ok.inj single, ruleLine]
  · split at single
    · rw [← Except.ok.inj single, ruleLine]
    · cases single

end Rules

/-- **The forward chain decides by the first terminal rule the packet meets.** -/
theorem forwardVerdict_eq {zones : ZoneTable} (valid : zones.Valid) {rules : List FirewallRule}
    {defaultAction : RuleAction} {script : NftablesScript}
    (rendered : renderScript zones rules defaultAction = .ok script) {flow : FlowKey}
    (sameFamily : flow.srcIp.family = flow.dstIp.family) :
    script.forwardVerdict flow =
      firstMatch (fun rule => rule.action.isTerminal && kernelAccepts zones rule flow)
        (fun rule => rule.action.asNftVerdict) (defaultChainPolicy defaultAction) rules := by
  obtain ⟨results, blocks, rfl⟩ := map_eq_ok rendered
  obtain ⟨each, rfl⟩ := mapM_eq_ok [] blocks
  have verdicts : ∀ rule ∈ rules, ∀ line ∈ okOr [] (renderRule zones rule), line.verdict =
      if rule.action.isTerminal then some rule.action.asNftVerdict else none :=
    fun rule listed line member => verdict_of_mem_renderRule (each rule listed) member
  refine firstMatch_flatMap (fun rule listed => ?_) (fun rule listed line member decides => ?_)
  · -- The lines of a rule that is not terminal have no verdict and never decide.
    rw [← renderRule_accepts valid sameFamily (each rule listed)]
    cases terminal : rule.action.isTerminal with
    | true =>
      rw [Bool.true_and, Bool.eq_iff_iff, any_eq_true, any_eq_true]
      refine exists_congr fun line => and_congr_right fun member => ?_
      rw [verdicts rule listed line member, if_pos terminal, Option.isSome_some, Bool.true_and]
    | false =>
      rw [Bool.false_and, any_eq_false]
      intro line member
      simp [verdicts rule listed line member, terminal]
  · rw [verdicts rule listed line member] at decides ⊢
    cases terminal : rule.action.isTerminal with
    | true => rfl
    | false => simp [terminal] at decides

end ShieldNet.Firewall
