import ShieldNet.Firewall.Zone
import ShieldNet.Policy.Engine

/-!
# Compiling the firewall rules of a bundle

`crates/sng-fw/src/compile.rs`: the NGFW rules of a loaded bundle become
`FirewallRule`s. Subjects and predicates are folded one after the other into
the fields of a `RuleMatch`: networks into the source networks, literal values
into one set of subject values, destination networks into theirs. Combinations
the firewall cannot enforce are errors (subjects) or drop the rule
(predicates).
-/

namespace ShieldNet.Firewall

open FirstWins List Option

open Policy (SubjectMatch SubjectKind PredicateMatch Subject Predicate Verb Rule LoadedBundle)

/-! ## Address translation -/

inductive NatType where
  | snat (target : IpAddr) (port : Option PortRange)
  | dnat (target : IpAddr) (port : Option PortRange)
  | masquerade (port : Option PortRange)

structure NatRule where
  id : String
  srcCidrs : List IpNet
  dstCidrs : List IpNet
  dstPorts : List PortRange
  protocol : Protocol
  iif : String
  oif : String
  nat : NatType
  description : String

def NatRule.rewritesEverything (rule : NatRule) : Bool :=
  match rule.nat with
  | .dnat _ _ => rule.dstCidrs.isEmpty && rule.dstPorts.isEmpty && rule.iif == ""
  | _ => false

/-- `NatRule::validate`, as the violation it finds. -/
def NatRule.violation (rule : NatRule) : Option FirewallError :=
  if rule.id = "" then some .natRuleIdEmpty
  else if rule.rewritesEverything then some (.dnatWithoutDestination rule.id)
  else rule.dstPorts.findSome? fun range =>
    if range.lower > range.upper then some (.natPortsInverted rule.id range.lower range.upper)
    else none

structure NatTable where
  tableName : String
  rules : List NatRule

def NatTable.default : NatTable := ⟨"", []⟩

def NatTable.violation (table : NatTable) : Option FirewallError :=
  table.rules.findSome? NatRule.violation

/-! ## Folding subjects and predicates -/

def mergeSubjectLiteral (slot : SubjectMatch) (value : String) : SubjectMatch :=
  match slot with
  | .any => .literal value
  | .literal existing => if existing = value then slot else .anyOf [existing, value]
  | .anyOf values => if value ∈ values then slot else .anyOf (values ++ [value])
  | .cidr _ => slot
  | .domainSuffix _ => slot
  | .unknown => slot

def describeMatcher : SubjectMatch → String
  | .any => "any"
  | .literal _ => "literal"
  | .anyOf _ => "any_of"
  | .cidr _ => "cidr"
  | .domainSuffix _ => "domain_suffix"
  | .unknown => "unknown"

def foldSubject (ruleId : String) (kind : SubjectKind) (matcher : SubjectMatch)
    (into : RuleMatch) : Except FirewallError RuleMatch :=
  match kind, matcher with
  | .network, .cidr net
  | .device, .cidr net => .ok { into with srcCidrs := into.srcCidrs ++ [net] }
  | .user, .literal value
  | .app, .literal value
  | .site, .literal value
  | .device, .literal value =>
    .ok { into with subject := mergeSubjectLiteral into.subject value }
  | .user, .anyOf values
  | .app, .anyOf values
  | .site, .anyOf values
  | .device, .anyOf values =>
    .ok { into with subject := values.foldl mergeSubjectLiteral into.subject }
  | _, .any => .ok into
  | _, .unknown => .error (.unrecognisedSubjectMatcher ruleId)
  | kind, matcher => .error (.incompatibleSubject ruleId kind (describeMatcher matcher))

/-- `none` drops the rule. -/
def foldPredicate (matcher : PredicateMatch) (into : RuleMatch) : Option RuleMatch :=
  match matcher with
  | .dstCidr net => some { into with dstCidrs := into.dstCidrs ++ [net] }
  | .always => some into
  | _ => none

def verbToAction : Verb → Option RuleAction
  | .allow => some .allow
  | .deny => some .deny
  | .inspect => some .inspect
  | .log => some .log
  | .steer => some .steer
  | .decrypt => none
  | .suggestOnly => none

/-! ## Compiling -/

def collectNamedSubjects (rules : List Rule) : List (String × Subject) :=
  Policy.buildVertexIndex Rule.subjects Subject.name rules

def collectNamedPredicates (rules : List Rule) : List (String × Predicate) :=
  Policy.buildVertexIndex Rule.predicates Predicate.name rules

/-- The action of a rule; a suggestion is logged, and a rule without a filter
action is left out. -/
def ruleAction (rule : Rule) : Option RuleAction :=
  if rule.verb = .suggestOnly then
    if rule.suggestedVerb.isSome then verbToAction .log else none
  else verbToAction rule.verb

variable (subjectLookup : List (String × Subject))

def foldSubjectRef (ruleId : String) (into : RuleMatch) (name : String)
    : Except FirewallError RuleMatch :=
  match get? subjectLookup name with
  | some subject => foldSubject ruleId subject.kind subject.matcher into
  | none => .error (.unknownSubject ruleId name)

def foldPredicateRefs (predicateLookup : List (String × Predicate)) (ruleId : String) :
    List String → RuleMatch → Except FirewallError (Option RuleMatch)
  | [], into => .ok (some into)
  | name :: rest, into =>
    match get? predicateLookup name with
    | none => .error (.unknownPredicate ruleId name)
    | some predicate =>
      match foldPredicate predicate.matcher into with
      | none => .ok none
      | some next => foldPredicateRefs predicateLookup ruleId rest next

def zoneList (zones : ZoneTable) (rule : Rule) (key kind : String) :
    Except FirewallError (List String) :=
  match rule.extra.get? key with
  | none => .ok []
  | some document =>
    match Serde.vec Serde.string document with
    | none => .error (.malformedZones rule.id kind)
    | some names =>
      match names.find? fun name => !zones.containsKey name with
      | some name => .error (.unknownZone rule.id kind name)
      | none => .ok names

variable (predicateLookup : List (String × Predicate))

/-- The predicate set of a rule; `none` when a predicate drops the rule. -/
def ruleMatching (rule : Rule) : Except FirewallError (Option RuleMatch) := do
  let inline ← rule.subjects.foldlM
    (fun into subject => foldSubject rule.id subject.kind subject.matcher into) .default
  let subjects ← rule.subjectRefs.foldlM (foldSubjectRef subjectLookup rule.id) inline
  match rule.predicates.foldlM (fun into predicate => foldPredicate predicate.matcher into)
      subjects with
  | none => .ok none
  | some predicates => foldPredicateRefs predicateLookup rule.id rule.predicateRefs predicates

def compileOne (zones : ZoneTable) (rule : Rule) : Except FirewallError (Option FirewallRule) :=
  match ruleAction rule with
  | none => .ok none
  | some action => do
      match ← ruleMatching subjectLookup predicateLookup rule with
      | none => .ok none
      | some matching =>
        let fromZones ← zoneList zones rule "from_zones" "from_zone"
        let toZones ← zoneList zones rule "to_zones" "to_zone"
        .ok (some
          { id := rule.id, matching, action, fromZones, toZones
            description := rule.description })

/-! ## What a compiled rule consists of -/

def sourceNets : SubjectMatch → List IpNet
  | .cidr net => [net]
  | _ => []

def subjectValues : SubjectMatch → List String
  | .literal value => [value]
  | .anyOf values => values
  | _ => []

def destinationNets : PredicateMatch → List IpNet
  | .dstCidr net => [net]
  | _ => []

/-- The subject can be folded: networks and devices by network, everything but
networks by value, anything by the wildcard. -/
def Foldable (subject : Subject) : Prop :=
  match subject.matcher with
  | .any => True
  | .cidr _ => subject.kind = .network ∨ subject.kind = .device
  | .literal _ => subject.kind ≠ .network
  | .anyOf _ => subject.kind ≠ .network
  | .domainSuffix _ => False
  | .unknown => False

def Enforceable (predicate : Predicate) : Prop :=
  predicate.matcher = .always ∨ ∃ net, predicate.matcher = .dstCidr net

def matchingOf (subjects : List Subject) (predicates : List Predicate) : RuleMatch where
  srcCidrs := subjects.flatMap fun subject => sourceNets subject.matcher
  dstCidrs := predicates.flatMap fun predicate => destinationNets predicate.matcher
  srcPorts := []
  dstPorts := []
  protocol := .any
  subject := (subjects.flatMap fun subject => subjectValues subject.matcher).foldl
    mergeSubjectLiteral .any

variable {ruleId : String} {subject : Subject}

theorem foldSubject_eq_ok {into out : RuleMatch}
    (folded : foldSubject ruleId subject.kind subject.matcher into = .ok out) :
    Foldable subject ∧
    out = { into with
      srcCidrs := into.srcCidrs ++ sourceNets subject.matcher
      subject := (subjectValues subject.matcher).foldl mergeSubjectLiteral into.subject } := by
  obtain ⟨name, kind, matcher⟩ := subject
  cases matcher with
  | any =>
    cases kind <;> obtain rfl := Except.ok.inj folded <;> simp [Foldable, sourceNets, subjectValues]
  | domainSuffix suffix => cases kind <;> cases folded
  | unknown => cases kind <;> cases folded
  | _ =>
    cases kind <;> simp_all [foldSubject, Foldable, sourceNets, subjectValues]

theorem foldPredicate_eq_some {predicate : Predicate} {into out : RuleMatch}
    (folded : foldPredicate predicate.matcher into = some out) :
    Enforceable predicate ∧
    out = { into with dstCidrs := into.dstCidrs ++ destinationNets predicate.matcher } := by
  unfold foldPredicate at folded
  split at folded
  case h_1 net same =>
    cases folded
    exact ⟨.inr ⟨net, same⟩, by simp [same, destinationNets]⟩
  case h_2 same =>
    cases folded
    exact ⟨.inl same, by simp [same, destinationNets]⟩
  case h_3 => cases folded

def SubjectsFolded (seen : List Subject) (state : RuleMatch) : Prop :=
  (∀ subject ∈ seen, Foldable subject) ∧ state = matchingOf seen []

theorem SubjectsFolded.extend {seen : List Subject} {state next : RuleMatch}
    (folded : SubjectsFolded seen state)
    (round : foldSubject ruleId subject.kind subject.matcher state = .ok next) :
    SubjectsFolded (seen ++ [subject]) next := by
  obtain ⟨foldable, rfl⟩ := foldSubject_eq_ok round
  obtain ⟨allFoldable, rfl⟩ := folded
  constructor
  · exact forall_mem_append.mpr ⟨allFoldable, forall_mem_singleton.mpr foldable⟩
  · simp [matchingOf, foldl_append]

/-- The subjects of a rule, inline ones first, then those its references
name. -/
def resolvedSubjects (rule : Rule) : List Subject :=
  rule.subjects ++ rule.subjectRefs.filterMap (get? subjectLookup)

def resolvedPredicates (rule : Rule) : List Predicate :=
  rule.predicates ++ rule.predicateRefs.filterMap (get? predicateLookup)

variable {start result : RuleMatch} {names : List String}

theorem foldSubjectRefs_eq_ok {subjectLookup : List (String × Subject)}
    {seen : List Subject} (begun : SubjectsFolded seen start)
    (succeeded : names.foldlM (foldSubjectRef subjectLookup ruleId) start = .ok result) :
    (∀ name ∈ names, (get? subjectLookup name).isSome) ∧
    SubjectsFolded (seen ++ names.filterMap (get? subjectLookup)) result := by
  induction names generalizing seen start with
  | nil =>
    cases succeeded
    simpa using begun
  | cons name rest ih =>
    obtain ⟨next, round, remaining⟩ := bind_eq_ok succeeded
    unfold foldSubjectRef at round
    cases found : get? subjectLookup name with
    | none => simp [found] at round
    | some subject =>
      rw [found] at round
      obtain ⟨resolved, folded⟩ := ih (begun.extend round) remaining
      rw [filterMap_cons_some found]
      rw [append_assoc, singleton_append] at folded
      exact ⟨forall_mem_cons.mpr ⟨by rw [found, isSome_some], resolved⟩, folded⟩

def PredicatesFolded (subjects : List Subject) (seen : List Predicate) (state : RuleMatch) : Prop :=
  (∀ predicate ∈ seen, Enforceable predicate) ∧ state = matchingOf subjects seen

variable {subjects : List Subject} {seen : List Predicate}

theorem PredicatesFolded.extend {state next : RuleMatch} {predicate : Predicate}
    (folded : PredicatesFolded subjects seen state)
    (round : foldPredicate predicate.matcher state = some next) :
    PredicatesFolded subjects (seen ++ [predicate]) next := by
  obtain ⟨enforceable, rfl⟩ := foldPredicate_eq_some round
  obtain ⟨allEnforceable, rfl⟩ := folded
  constructor
  · exact forall_mem_append.mpr ⟨allEnforceable, forall_mem_singleton.mpr enforceable⟩
  · simp [matchingOf]

theorem foldPredicates_eq_some {predicates seen : List Predicate}
    (begun : PredicatesFolded subjects seen start)
    (succeeded : predicates.foldlM (fun into predicate => foldPredicate predicate.matcher into)
      start = some result) :
    PredicatesFolded subjects (seen ++ predicates) result := by
  induction predicates generalizing seen start with
  | nil =>
    cases succeeded
    simpa using begun
  | cons predicate rest ih =>
    obtain ⟨next, round, remaining⟩ := bind_eq_some_iff.mp succeeded
    have folded := ih (begun.extend round) remaining
    rw [append_assoc, singleton_append] at folded
    exact folded

theorem foldPredicateRefs_eq_ok {predicateLookup : List (String × Predicate)}
    (begun : PredicatesFolded subjects seen start)
    (succeeded : foldPredicateRefs predicateLookup ruleId names start = .ok (some result)) :
    (∀ name ∈ names, (get? predicateLookup name).isSome) ∧
    PredicatesFolded subjects (seen ++ names.filterMap (get? predicateLookup)) result := by
  induction names generalizing seen start with
  | nil =>
    obtain rfl : start = result := Option.some.inj (Except.ok.inj succeeded)
    simpa using begun
  | cons name rest ih =>
    unfold foldPredicateRefs at succeeded
    cases found : get? predicateLookup name with
    | none => simp [found] at succeeded
    | some predicate =>
      rw [found] at succeeded
      cases round : foldPredicate predicate.matcher start with
      | none => simp [round] at succeeded
      | some next =>
        simp only [round] at succeeded
        obtain ⟨resolved, folded⟩ := ih (begun.extend round) succeeded
        rw [filterMap_cons_some found]
        rw [append_assoc, singleton_append] at folded
        exact ⟨forall_mem_cons.mpr ⟨by rw [found, isSome_some], resolved⟩, folded⟩

/-- **What a compiled rule consists of.** Every reference is resolved, every
subject and predicate can be enforced, and the predicate set is made of
them. -/
theorem compileOne_eq_ok_some {subjectLookup : List (String × Subject)}
    {predicateLookup : List (String × Predicate)} {zones : ZoneTable} {rule : Rule}
    {compiled : FirewallRule}
    (succeeded : compileOne subjectLookup predicateLookup zones rule = .ok (some compiled)) :
    (∀ name ∈ rule.subjectRefs, (get? subjectLookup name).isSome) ∧
    (∀ name ∈ rule.predicateRefs, (get? predicateLookup name).isSome) ∧
    (∀ subject ∈ resolvedSubjects subjectLookup rule, Foldable subject) ∧
    (∀ predicate ∈ resolvedPredicates predicateLookup rule, Enforceable predicate) ∧
    compiled.matching = matchingOf (resolvedSubjects subjectLookup rule)
      (resolvedPredicates predicateLookup rule) := by
  unfold compileOne at succeeded
  split at succeeded
  case h_1 => cases succeeded
  case h_2 action _ =>
    obtain ⟨matching?, matched, assembled⟩ := bind_eq_ok succeeded
    cases matching? with
    | none => cases assembled
    | some matching =>
      obtain ⟨fromZones, -, afterFrom⟩ := bind_eq_ok assembled
      obtain ⟨toZones, -, final⟩ := bind_eq_ok afterFrom
      obtain rfl := Option.some.inj (Except.ok.inj final)
      obtain ⟨inline, inlineFolded, afterInline⟩ := bind_eq_ok matched
      obtain ⟨subjects, refsFolded, afterSubjects⟩ := bind_eq_ok afterInline
      have begun : SubjectsFolded ([] ++ rule.subjects) inline :=
        foldlM_eq_ok_induction (R := SubjectsFolded)
          (fun seen state subject next folded round => folded.extend round)
          ⟨fun _ listed => absurd listed not_mem_nil, rfl⟩ inlineFolded
      obtain ⟨subjectRefs, subjectsFolded⟩ := foldSubjectRefs_eq_ok begun refsFolded
      cases inlinePredicates : rule.predicates.foldlM
          (fun into predicate => foldPredicate predicate.matcher into) subjects with
      | none => simp [inlinePredicates] at afterSubjects
      | some predicates =>
        rw [inlinePredicates] at afterSubjects
        have folded : PredicatesFolded _ ([] ++ rule.predicates) predicates :=
          foldPredicates_eq_some ⟨fun _ listed => absurd listed not_mem_nil,
            subjectsFolded.2⟩ inlinePredicates
        obtain ⟨predicateRefs, allFolded⟩ := foldPredicateRefs_eq_ok folded afterSubjects
        exact ⟨subjectRefs, predicateRefs, subjectsFolded.1, allFolded.1, allFolded.2⟩

/-! ## The subject slot -/

/-- The slot stands for these values, the wildcard for none. -/
def HoldsValues (slot : SubjectMatch) (values : List String) : Prop :=
  match slot with
  | .any => values = []
  | .literal held => values ≠ [] ∧ ∀ value, value ∈ values ↔ value = held
  | .anyOf held => values ≠ [] ∧ ∀ value, value ∈ values ↔ value ∈ held
  | _ => False

theorem HoldsValues.merge {slot : SubjectMatch} {values : List String}
    (holds : HoldsValues slot values) (value : String) :
    HoldsValues (mergeSubjectLiteral slot value) (values ++ [value]) := by
  cases slot with
  | any =>
    obtain rfl : values = [] := holds
    simp [mergeSubjectLiteral, HoldsValues]
  | literal held =>
    obtain ⟨-, same⟩ := holds
    by_cases equal : held = value
    · simp [mergeSubjectLiteral, HoldsValues, equal, same]
    · simp [mergeSubjectLiteral, HoldsValues, equal, same]
  | anyOf held =>
    obtain ⟨-, same⟩ := holds
    by_cases listed : value ∈ held
    · simp only [mergeSubjectLiteral, if_pos listed, HoldsValues]
      refine ⟨by simp, fun other => ?_⟩
      rw [mem_append, same, mem_singleton]
      constructor
      · rintro (already | rfl)
        · exact already
        · exact listed
      · exact .inl
    · simp [mergeSubjectLiteral, HoldsValues, listed, same]
  | _ => exact holds.elim

theorem holdsValues_foldl (values : List String) :
    HoldsValues (values.foldl mergeSubjectLiteral .any) values := by
  have general : ∀ (rest seen : List String) (slot : SubjectMatch), HoldsValues slot seen →
      HoldsValues (rest.foldl mergeSubjectLiteral slot) (seen ++ rest) := by
    intro rest
    induction rest with
    | nil =>
      intro seen slot holds
      rw [append_nil]
      exact holds
    | cons value rest ih =>
      intro seen slot holds
      have next := ih (seen ++ [value]) _ (holds.merge value)
      rw [append_assoc] at next
      exact next
  exact general values [] .any rfl

/-- **The merged slot accepts the union of the values; without any it accepts
everything.** -/
theorem subjectAccepts_foldl_merge (values : List String) (value : String) :
    subjectAccepts (values.foldl mergeSubjectLiteral .any) (some value) ↔
      values = [] ∨ value ∈ values := by
  have holds := holdsValues_foldl values
  revert holds
  generalize values.foldl mergeSubjectLiteral .any = slot
  intro holds
  cases slot with
  | any =>
    obtain rfl : values = [] := holds
    simp [subjectAccepts]
  | literal held =>
    obtain ⟨nonempty, same⟩ := holds
    rw [or_iff_right nonempty, same]
    exact beq_iff_eq.trans eq_comm
  | anyOf held =>
    obtain ⟨nonempty, same⟩ := holds
    simp [subjectAccepts, SubjectMatch.matchesString, nonempty, same]
  | _ => exact holds.elim

/-- **When a compiled rule matches a packet with a subject value.** Each of the
three lists is a set of alternatives, and an empty one is free. -/
theorem matchingOf_matches_iff (subjects : List Subject) (predicates : List Predicate)
    (flow : FlowKey) (value : String) :
    (matchingOf subjects predicates).matches flow (some value) ↔
      (subjects.flatMap (fun subject => sourceNets subject.matcher) = [] ∨
        ∃ subject ∈ subjects, ∃ net ∈ sourceNets subject.matcher, net.contains flow.srcIp) ∧
      (predicates.flatMap (fun predicate => destinationNets predicate.matcher) = [] ∨
        ∃ predicate ∈ predicates, ∃ net ∈ destinationNets predicate.matcher,
          net.contains flow.dstIp) ∧
      (subjects.flatMap (fun subject => subjectValues subject.matcher) = [] ∨
        ∃ subject ∈ subjects, value ∈ subjectValues subject.matcher) := by
  have alternatives : ∀ {α : Type} (entries : List α) (nets : α → List IpNet) (addr : IpAddr),
      freeOrAny (entries.flatMap nets) (·.contains addr) ↔
        entries.flatMap nets = [] ∨ ∃ entry ∈ entries, ∃ net ∈ nets entry,
          net.contains addr := by
    intro α entries nets addr
    rw [freeOrAny_eq_true_iff]
    refine or_congr_right ?_
    constructor
    · rintro ⟨net, listed, inside⟩
      obtain ⟨entry, member, contributed⟩ := mem_flatMap.mp listed
      exact ⟨entry, member, net, contributed, inside⟩
    · rintro ⟨entry, member, net, contributed, inside⟩
      exact ⟨net, mem_flatMap.mpr ⟨entry, member, contributed⟩, inside⟩
  have anyProtocol : Protocol.any.accepts flow.protocol := rfl
  simp only [RuleMatch.matches, RuleMatch.matchesTuple, matchingOf, Bool.and_eq_true,
    alternatives, subjectAccepts_foldl_merge, mem_flatMap, anyProtocol, and_true,
    freeOrAny_nil, and_assoc]

end ShieldNet.Firewall
