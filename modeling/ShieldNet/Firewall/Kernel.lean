import ShieldNet.Firewall.Widening

/-!
# The kernel chain and the in-memory firewall

A line of the forward chain carries the networks, zones, ports and protocol
number of its rule. The engine also asks for the rule's subject, compares
protocols by their spelling, and closes the zone gate before any rule. So what
the engine accepts of a rule the kernel accepts too (`engineAccepts_eq`), while
the kernel may accept packets the engine denies
(`subject_rule_is_open_in_the_kernel`).

`kernel_no_more_permissive_iff` says for which packets and subject values the
kernel is no more permissive than the engine.
-/

namespace ShieldNet.Firewall

open Policy (SubjectMatch)

/-- A forwarded packet: both addresses are of one family, and the protocol is
known. -/
structure Packet extends FlowKey where
  sameFamily : srcIp.family = dstIp.family
  known : protocol ≠ .any

theorem zoneMatch_classify {zones : ZoneTable} (valid : zones.Valid) (names : List String)
    (addr : IpAddr) :
    zoneMatch names (zones.classify addr) =
      freeOrAny names fun name => (zones.get? name).any (·.contains addr) := by
  have same : ∀ name, (zones.classify addr == some name) =
      (zones.get? name).any (·.contains addr) := by
    intro name
    rw [Bool.eq_iff_iff, beq_iff_eq, ZoneTable.classify_eq_some_iff valid, Option.any_eq_true]
    constructor
    · rintro ⟨zone, listed, named, inside⟩
      exact ⟨zone, ZoneTable.get?_eq_some_iff.mpr ⟨listed, named⟩, inside⟩
    · rintro ⟨zone, stored, inside⟩
      obtain ⟨listed, named⟩ := ZoneTable.get?_eq_some_iff.mp stored
      exact ⟨zone, listed, named, inside⟩
  rw [zoneMatch]
  congr 1
  funext name
  exact same name

theorem Protocol.acceptsNumber_of_accepts {rule packet : Protocol} (known : packet ≠ .any)
    (accepted : rule.accepts packet) : rule.acceptsNumber packet := by
  by_cases wildcard : rule = .any
  · rw [wildcard]
    rfl
  · have same : rule = packet := by
      cases rule <;> cases packet <;> simp_all [Protocol.accepts]
    rw [same, acceptsNumber]
    cases packet.ianaNumber with
    | none => rfl
    | some number => simp

/-- The subject of the rule accepts the value, and its protocol is spelled as
the packet's. -/
def admitsIdentity (flow : FlowKey) (subject : Option String) (rule : FirewallRule) : Bool :=
  rule.matching.protocol.accepts flow.protocol && subjectAccepts rule.matching.subject subject

/-- **The engine accepts what the kernel accepts, for the subjects and the
spelling of the protocol the rule admits.** -/
theorem engineAccepts_eq {zones : ZoneTable} (valid : zones.Valid) (packet : Packet)
    (subject : Option String) (rule : FirewallRule) :
    engineAccepts (zones.classify packet.srcIp) (zones.classify packet.dstIp) packet.toFlowKey
        subject rule =
      (kernelAccepts zones rule packet.toFlowKey &&
        admitsIdentity packet.toFlowKey subject rule) := by
  have number : rule.matching.protocol.accepts packet.protocol →
      rule.matching.protocol.acceptsNumber packet.protocol :=
    Protocol.acceptsNumber_of_accepts packet.known
  rw [engineAccepts, zoneMatch_classify valid, zoneMatch_classify valid, RuleMatch.matches,
    RuleMatch.matchesTuple, kernelAccepts, sideAccepts, sideAccepts, admitsIdentity]
  rw [Bool.eq_iff_iff]
  simp only [Bool.and_eq_true]
  tauto

/-! ## When the kernel is no more permissive -/

/-- The packet meets a terminal rule, as far as the kernel looks. -/
def meets (zones : ZoneTable) (flow : FlowKey) (rule : FirewallRule) : Bool :=
  rule.action.isTerminal && kernelAccepts zones rule flow

/-- The first terminal rule the packet meets denies, or it meets none and the
default is not `allow`. -/
def KernelRefuses (set : CompiledRuleSet) (flow : FlowKey) : Prop :=
  (∃ rule, FirstAccepted (meets set.zones flow) set.rules rule ∧ rule.action = .deny) ∨
  ((∀ rule ∈ set.rules, meets set.zones flow rule = false) ∧ set.defaultAction ≠ .allow)

/-- The zone policy does not deny, and of the terminal rules the packet meets
the first that admits its subject and protocol does not deny; without one, the
default does not. -/
def EngineAdmits (set : CompiledRuleSet) (flow : FlowKey) (subject : Option String) : Prop :=
  gateDenies set.zones flow = false ∧
  ((∃ rule, FirstAccepted (fun rule => meets set.zones flow rule &&
      admitsIdentity flow subject rule) set.rules rule ∧ rule.action ≠ .deny) ∨
    ((∀ rule ∈ set.rules, (meets set.zones flow rule && admitsIdentity flow subject rule) = false) ∧
      set.defaultAction ≠ .deny))

section Walks

variable {set : CompiledRuleSet} (valid : set.zones.Valid)
  (rendered : renderScript set.zones set.rules set.defaultAction = .ok set.script)
  (packet : Packet)

include valid

include rendered in
theorem forwardVerdict_eq_drop_iff :
    set.script.forwardVerdict packet.toFlowKey = .drop ↔ KernelRefuses set packet.toFlowKey := by
  have denies : ∀ action : RuleAction, action.asNftVerdict = .drop ↔ action = .deny := by
    intro action
    cases action <;> decide
  have refuses : ∀ action : RuleAction, defaultChainPolicy action = .drop ↔ action ≠ .allow := by
    intro action
    cases action <;> decide
  rw [forwardVerdict_eq valid rendered packet.sameFamily]
  refine (firstMatch_iff (· = NftVerdict.drop) _).trans ?_
  simp only [denies, refuses]
  rfl

theorem evaluate_ne_deny_iff (subject : Option String) :
    (evaluate (some set) packet.toFlowKey subject).action ≠ .deny ↔
      EngineAdmits set packet.toFlowKey subject := by
  rw [evaluate_action, EngineAdmits]
  cases gate : gateDenies set.zones packet.toFlowKey with
  | true => simp
  | false =>
    rw [if_neg Bool.false_ne_true, and_iff_right rfl]
    refine (firstMatch_iff (· ≠ RuleAction.deny) _).trans ?_
    simp only [engineAccepts_eq valid, meets, Bool.and_assoc]

/-- **The kernel chain accepts only what the engine does not deny, exactly when
it drops the packet or the engine admits it.** -/
theorem kernel_no_more_permissive_iff
    (rendered : renderScript set.zones set.rules set.defaultAction = .ok set.script)
    (packet : Packet) (subject : Option String) :
    (set.script.forwardVerdict packet.toFlowKey = .accept →
      (evaluate (some set) packet.toFlowKey subject).action ≠ .deny) ↔
      KernelRefuses set packet.toFlowKey ∨ EngineAdmits set packet.toFlowKey subject := by
  rw [← evaluate_ne_deny_iff valid packet subject,
    ← forwardVerdict_eq_drop_iff valid rendered packet]
  cases set.script.forwardVerdict packet.toFlowKey <;> simp

end Walks

/-! ## A rule for one user -/

def samplePacket : Packet := { sampleFlow with sameFamily := rfl, known := by decide }

def aliceSet : CompiledRuleSet where
  rules := [⟨"ngfw-allow", matchingOf aliceRule.subjects [], .allow, [], [], ""⟩]
  zones := .default
  nat := ⟨"sng_nat", []⟩
  defaultAction := .deny
  sourceGraphId := "graph"
  sourceGraphVersion := 1
  script := ⟨[], .drop, [⟨[], none, some .accept, "ngfw-allow"⟩]⟩

/-- For the user of the rule the two agree. -/
theorem alice_is_admitted_by_both : compile aliceBundle .default ⟨"sng_nat", []⟩ = .ok aliceSet ∧
    (aliceSet.script.forwardVerdict samplePacket.toFlowKey = .accept →
      (evaluate (some aliceSet) samplePacket.toFlowKey (some "alice")).action ≠ .deny) := by
  have accepted : compile aliceBundle .default ⟨"sng_nat", []⟩ = .ok aliceSet := rfl
  obtain ⟨valid, -, -, -, rendered, -⟩ := compile_eq_ok accepted
  refine ⟨accepted, (kernel_no_more_permissive_iff valid rendered samplePacket (some "alice")).mpr
    (.inr ⟨rfl, .inl ⟨_, ⟨[], [], rfl, rfl, ?_⟩, by decide⟩⟩)⟩
  exact fun _ listed => absurd listed List.not_mem_nil

/-- **The rule's line has no clause for the subject: the kernel accepts the
packet of another user, and the engine denies it.** -/
theorem subject_rule_is_open_in_the_kernel :
    compile aliceBundle .default ⟨"sng_nat", []⟩ = .ok aliceSet ∧
    aliceSet.script.forwardVerdict samplePacket.toFlowKey = .accept ∧
    (evaluate (some aliceSet) samplePacket.toFlowKey (some "bob")).action = .deny :=
  ⟨rfl, rfl, rfl⟩

end ShieldNet.Firewall
