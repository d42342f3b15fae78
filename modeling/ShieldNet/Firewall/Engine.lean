import ShieldNet.Firewall.Compile
import ShieldNet.Firewall.Nftables
import Mathlib.Data.List.ReduceOption

/-!
# The in-memory firewall

`RuleCompiler::compile` assembles a rule set, and `FirewallEngine::evaluate` of
`crates/sng-fw/src/engine.rs` decides a flow against it: the zone gate first,
then the rules in order, where `log` rules are recorded and passed over, then
the default action. `evaluate_action` states the verdict as a first-match
chain. `FirewallEngine::install` replaces the rule set, unless it is older or the
kernel refuses it.
-/

namespace ShieldNet.Firewall

open List

open Policy (LoadedBundle)

/-! ## Compiled rule sets -/

structure CompiledRuleSet where
  rules : List FirewallRule
  zones : ZoneTable
  nat : NatTable
  defaultAction : RuleAction
  sourceGraphId : String
  sourceGraphVersion : Int
  script : NftablesScript

def compileRules (bundle : LoadedBundle) (zones : ZoneTable) :
    Except FirewallError (List FirewallRule) :=
  ((bundle.rules.filter fun rule => rule.domain == .ngfw).mapM
    (compileOne (collectNamedSubjects bundle.rules) (collectNamedPredicates bundle.rules)
      zones)).map reduceOption

def compile (bundle : LoadedBundle) (zones : ZoneTable) (nat : NatTable) :
    Except FirewallError CompiledRuleSet :=
  match zones.violation.or nat.violation with
  | some e => .error e
  | none => do
      let rules ← compileRules bundle zones
      let defaultAction := (verbToAction bundle.defaultVerb).getD .deny
      let script ← renderScript zones rules defaultAction
      .ok
        { rules, zones, nat, defaultAction, script
          sourceGraphId := bundle.graphId
          sourceGraphVersion := bundle.graphVersion }

/-! ## Evaluating -/

structure FirewallVerdict where
  action : RuleAction
  matchedRuleId : Option String
  loggedRuleIds : List String
  fromZone : Option String
  toZone : Option String

/-- A restricted rule never matches an address without a zone. -/
def zoneMatch (allowed : List String) (zone : Option String) : Bool :=
  freeOrAny allowed fun name => zone == some name

/-- The clauses of a rule accept the flow between these zones. -/
def engineAccepts (fromZone toZone : Option String) (flow : FlowKey) (subject : Option String)
    (rule : FirewallRule) : Bool :=
  zoneMatch rule.fromZones fromZone && zoneMatch rule.toZones toZone &&
    rule.matching.matches flow subject

def walk (fromZone toZone : Option String) (flow : FlowKey) (subject : Option String)
    (defaultAction : RuleAction) : List FirewallRule → List String → FirewallVerdict
  | [], logged => ⟨defaultAction, none, logged, fromZone, toZone⟩
  | rule :: rest, logged =>
    if engineAccepts fromZone toZone flow subject rule then
      if rule.action.isTerminal then
        ⟨rule.action, some rule.id, logged, fromZone, toZone⟩
      else walk fromZone toZone flow subject defaultAction rest (logged ++ [rule.id])
    else walk fromZone toZone flow subject defaultAction rest logged

/-- The zone gate: the policy between two known zones is `deny`. -/
def gateDenies (zones : ZoneTable) (flow : FlowKey) : Bool :=
  match zones.classify flow.srcIp, zones.classify flow.dstIp with
  | some fromZone, some toZone => zones.lookup fromZone toZone == .deny
  | _, _ => false

def evaluate (ruleset : Option CompiledRuleSet) (flow : FlowKey) (subject : Option String) :
    FirewallVerdict :=
  match ruleset with
  | none => ⟨.deny, none, [], none, none⟩
  | some installed =>
    let fromZone := installed.zones.classify flow.srcIp
    let toZone := installed.zones.classify flow.dstIp
    if gateDenies installed.zones flow then ⟨.deny, none, [], fromZone, toZone⟩
    else walk fromZone toZone flow subject installed.defaultAction installed.rules []

theorem walk_action (fromZone toZone : Option String) (flow : FlowKey) (subject : Option String)
    (defaultAction : RuleAction) (rules : List FirewallRule) (logged : List String) :
    (walk fromZone toZone flow subject defaultAction rules logged).action = firstMatch
        (fun rule => rule.action.isTerminal && engineAccepts fromZone toZone flow subject rule)
        FirewallRule.action defaultAction rules := by
  induction rules generalizing logged with
  | nil => rfl
  | cons rule rest ih =>
    rw [walk, firstMatch_cons]
    by_cases accepted : engineAccepts fromZone toZone flow subject rule
    · by_cases terminal : rule.action.isTerminal
      · simp [accepted, terminal]
      · simp [accepted, terminal, ih]
    · simp [accepted, ih]

/-- **The verdict of an installed rule set.** -/
theorem evaluate_action (installed : CompiledRuleSet) (flow : FlowKey) (subject : Option String) :
    (evaluate (some installed) flow subject).action = if gateDenies installed.zones flow then .deny
      else firstMatch (fun rule => rule.action.isTerminal && engineAccepts
          (installed.zones.classify flow.srcIp) (installed.zones.classify flow.dstIp) flow subject
          rule)
        FirewallRule.action installed.defaultAction installed.rules := by
  unfold evaluate
  by_cases denied : gateDenies installed.zones flow
  · simp [denied]
  · simp [denied, walk_action]

/-! ## Installing -/

inductive InstallError where
  | stale (incoming current : Int)
  | apply

/-- The result, and the rule set that is in force after it.
`digest` is the digest of the script that is rendered from a rule set, and the kernel
decides whether the script applies. -/
def install (digest : CompiledRuleSet → List UInt8) (applies : Bool)
    (previous : Option CompiledRuleSet) (compiled : CompiledRuleSet) :
    Except InstallError Unit × Option CompiledRuleSet :=
  match previous with
  | none => if applies then (.ok (), some compiled) else (.error .apply, none)
  | some current =>
    if digest current = digest compiled ∧
        current.sourceGraphVersion = compiled.sourceGraphVersion then (.ok (), some current)
    else if compiled.sourceGraphVersion < current.sourceGraphVersion then
      (.error (.stale compiled.sourceGraphVersion current.sourceGraphVersion), some current)
    else if applies then (.ok (), some compiled)
    else (.error .apply, some current)

structure FirewallEngine where
  ruleset : Option CompiledRuleSet
  applied : Option (List UInt8)

open FirewallEngine

/-- The text of a script, and its digest. The text is that of the filter table and of
the NAT table. -/
structure Scripts where
  text : NftablesScript → NatTable → List UInt8
  digest : List UInt8 → List UInt8

namespace Scripts

def of (scripts : Scripts) (set : CompiledRuleSet) : List UInt8 := scripts.text set.script set.nat

/-- The two sets have one digest and one version, so the second is not installed. -/
def Dedups (scripts : Scripts) (current compiled : CompiledRuleSet) : Prop :=
  scripts.digest (scripts.of current) = scripts.digest (scripts.of compiled) ∧
    current.sourceGraphVersion = compiled.sourceGraphVersion

instance (scripts : Scripts) (current compiled : CompiledRuleSet) :
    Decidable (scripts.Dedups current compiled) :=
  inferInstanceAs (Decidable (_ ∧ _))

end Scripts

/-- The two sets give every flow the same verdict, and have one script. -/
structure SameInForce (scripts : Scripts) (current compiled : CompiledRuleSet) : Prop where
  verdicts : ∀ flow subject,
    evaluate (some current) flow subject = evaluate (some compiled) flow subject
  script : scripts.of current = scripts.of compiled

namespace FirewallEngine

variable (scripts : Scripts) (engine : FirewallEngine)

/-- `FirewallEngine::install`, with the backend: it is called unless the set is
dropped as a duplicate or as stale. -/
def install (compiled : CompiledRuleSet)
    (applies : Bool) : Except InstallError Unit × FirewallEngine :=
  let installed :=
    Firewall.install (fun set => scripts.digest (scripts.of set)) applies engine.ruleset compiled
  let called := engine.ruleset.all fun current =>
    !decide (scripts.Dedups current compiled) &&
      !decide (compiled.sourceGraphVersion < current.sourceGraphVersion)
  (installed.1,
    { ruleset := installed.2
      applied := if called && applies then some (scripts.of compiled) else engine.applied })

def Coherent : Prop :=
  engine.applied = engine.ruleset.map scripts.of

/-- The engine after installs, each with whether the backend applies its script. -/
def installs (calls : List (CompiledRuleSet × Bool)) : FirewallEngine :=
  calls.foldl (fun engine call => (engine.install scripts call.1 call.2).2) engine

variable {scripts : Scripts} {engine : FirewallEngine} {compiled : CompiledRuleSet} {applies : Bool}

/-- **An install puts the set in force and its script in the backend, or leaves both
as they were**; without an error the latter is for a duplicate only. -/
theorem install_cases (scripts : Scripts) (engine : FirewallEngine) (compiled : CompiledRuleSet)
    (applies : Bool) :
    engine.install scripts compiled applies =
        (.ok (), ⟨some compiled, some (scripts.of compiled)⟩) ∧
      (∀ current ∈ engine.ruleset, current.sourceGraphVersion ≤ compiled.sourceGraphVersion) ∨
    (engine.install scripts compiled applies).2 = engine ∧
      ((engine.install scripts compiled applies).1 = .ok () →
        ∃ current ∈ engine.ruleset, scripts.Dedups current compiled) := by
  obtain ⟨ruleset, applied⟩ := engine
  cases ruleset with
  | none => cases applies <;> simp [install, Firewall.install]
  | some current =>
    by_cases same : scripts.Dedups current compiled
    · right
      simp [install, Firewall.install, same, if_pos (show _ ∧ _ from same)]
    · have different : ¬ (scripts.digest (scripts.of current) =
          scripts.digest (scripts.of compiled) ∧
            current.sourceGraphVersion = compiled.sourceGraphVersion) := same
      by_cases stale : compiled.sourceGraphVersion < current.sourceGraphVersion
      · right
        simp [install, Firewall.install, if_neg different, stale]
      · cases applies <;>
          simp [install, Firewall.install, if_neg different, stale, same, Int.not_lt.mp stale]

theorem install_of_dedups {current : CompiledRuleSet} (live : engine.ruleset = some current)
    (dedups : scripts.Dedups current compiled) :
    engine.install scripts compiled applies = (.ok (), engine) := by
  obtain ⟨ruleset, applied⟩ := engine
  subst live
  simp [install, Firewall.install, dedups, if_pos (show _ ∧ _ from dedups)]

/-- The backend's last script is that of the live rule set after every install. -/
theorem Coherent.install (coherent : engine.Coherent scripts) :
    (engine.install scripts compiled applies).2.Coherent scripts := by
  rcases install_cases scripts engine compiled applies with ⟨installed, -⟩ | ⟨same, -⟩
  · rw [installed]
    rfl
  · rw [same]
    exact coherent

theorem version_installs_le {current : CompiledRuleSet} (live : engine.ruleset = some current)
    (calls : List (CompiledRuleSet × Bool)) :
    ∃ later, (engine.installs scripts calls).ruleset = some later ∧
      current.sourceGraphVersion ≤ later.sourceGraphVersion := by
  induction calls generalizing engine current with
  | nil => exact ⟨current, live, le_rfl⟩
  | cons call rest ih =>
    rcases install_cases scripts engine call.1 call.2 with ⟨installed, newer⟩ | ⟨same, -⟩
    · have replaced : (engine.install scripts call.1 call.2).2.ruleset = some call.1 := by
        rw [installed]
      obtain ⟨later, found, above⟩ := ih replaced
      exact ⟨later, found, (newer current live).trans above⟩
    · have kept : (engine.install scripts call.1 call.2).2.ruleset = some current := by
        rw [same, live]
      exact ih kept

/-- **The kernel runs the script of the live rule set** over every sequence of installs, whichever
scripts the backend refuses. -/
theorem installs_coherent (scripts : Scripts) (calls : List (CompiledRuleSet × Bool)) :
    (installs scripts ⟨none, none⟩ calls).Coherent scripts :=
  List.foldlRecOn calls _ rfl fun _ coherent _ _ => coherent.install

end FirewallEngine

/-- **An install is exact exactly when a duplicate is one in all that decides**: after `Ok`
every flow gets the verdict of the set passed and the backend's last script is its
script, after an error the live set is the one before, and over installs the live
version never decreases. -/
theorem install_exact_iff (scripts : Scripts) (engine : FirewallEngine)
    (coherent : engine.Coherent scripts) (compiled : CompiledRuleSet) (applies : Bool) :
    (((engine.install scripts compiled applies).1 = .ok () →
      (∀ flow subject, evaluate (engine.install scripts compiled applies).2.ruleset flow subject =
        evaluate (some compiled) flow subject) ∧
      (engine.install scripts compiled applies).2.applied = some (scripts.of compiled)) ∧
    (∀ error, (engine.install scripts compiled applies).1 = .error error →
      (engine.install scripts compiled applies).2.ruleset = engine.ruleset) ∧
    ∀ calls current, engine.ruleset = some current →
      ∃ later, (engine.installs scripts calls).ruleset = some later ∧
        current.sourceGraphVersion ≤ later.sourceGraphVersion) ↔
    ∀ current ∈ engine.ruleset, scripts.Dedups current compiled →
      SameInForce scripts current compiled := by
  constructor
  · rintro ⟨exact, -⟩ current live dedups
    rw [install_of_dedups live dedups] at exact
    obtain ⟨verdicts, script⟩ := exact rfl
    rw [coherent, live, Option.map_some] at script
    rw [live] at verdicts
    exact ⟨verdicts, Option.some.inj script⟩
  · intro duplicates
    refine ⟨?_, ?_, fun calls current live => version_installs_le live calls⟩
    · intro succeeded
      rcases install_cases scripts engine compiled applies with
        ⟨installed, -⟩ | ⟨same, duplicate⟩
      · rw [installed]
        exact ⟨fun _ _ => rfl, rfl⟩
      · obtain ⟨current, live, dedups⟩ := duplicate succeeded
        have inForce := duplicates current live dedups
        rw [same, live, coherent, live, Option.map_some, inForce.script]
        exact ⟨inForce.verdicts, rfl⟩
    · intro error failed
      rcases install_cases scripts engine compiled applies with
        ⟨installed, -⟩ | ⟨same, -⟩
      · rw [installed] at failed
        cases failed
      · rw [same]

def lanSet (intra : ZonePolicy) (version : Int) : CompiledRuleSet where
  rules := []
  zones := ⟨[⟨"lan", [.v4 0x0A000000#32 8], ""⟩], [], intra, .deny, pairwise_singleton _ _⟩
  nat := ⟨"sng_nat", []⟩
  defaultAction := .allow
  sourceGraphId := "graph"
  sourceGraphVersion := version
  script := ⟨[⟨.v4, zoneSetName .v4 "lan", [.v4 0x0A000000#32 8]⟩], .accept, []⟩

/-- Texts that tell the script of `lanSet` from the others, and are their own digests. -/
def lanScripts : Scripts :=
  ⟨fun script _ => if script = (lanSet .allow 1).script then [1] else [0], id⟩

def lanEngine : FirewallEngine := ⟨some (lanSet .allow 1), some (lanScripts.of (lanSet .allow 1))⟩

def lanFlow : FlowKey := ⟨.v4 0x0A000001#32, .v4 0x0A000002#32, 40000, 443, .tcp⟩

/-- A newer set is in force once its install returns. -/
theorem newer_set_installed :
    (evaluate (lanEngine.install lanScripts (lanSet .deny 2) true).2.ruleset lanFlow none).action =
      .deny := by
  have duplicates : ∀ current ∈ lanEngine.ruleset, lanScripts.Dedups current (lanSet .deny 2) →
      SameInForce lanScripts current (lanSet .deny 2) := by
    rintro _ ⟨⟩ ⟨-, version⟩
    exact absurd version (by decide)
  have exact := (install_exact_iff lanScripts lanEngine rfl (lanSet .deny 2) true).mpr duplicates
  rw [(exact.1 rfl).1 lanFlow none]
  decide

/-- **`Ok` without an install**: a change of the policy between zones alone is in
neither script nor version, so the set is dropped as a duplicate and the flow it
denies stays allowed. -/
theorem zone_policy_not_installed : lanEngine.Coherent lanScripts ∧
    (lanEngine.install lanScripts (lanSet .deny 1) true).1.isOk = true ∧
    (evaluate (some (lanSet .deny 1)) lanFlow none).action = .deny ∧
    (evaluate (lanEngine.install lanScripts (lanSet .deny 1) true).2.ruleset lanFlow none).action =
      .allow :=
  ⟨rfl, by decide, by decide, by decide⟩

/-! ## What `compile` produces -/

/-- **An accepted bundle: the tables are valid, the rules are those of the
bundle's NGFW rules, and the script renders them.** -/
theorem compile_eq_ok {bundle : LoadedBundle} {zones : ZoneTable} {nat : NatTable}
    {set : CompiledRuleSet} (accepted : compile bundle zones nat = .ok set) :
    zones.Valid ∧ nat.violation = none ∧ set.zones = zones ∧
    set.defaultAction = (verbToAction bundle.defaultVerb).getD .deny ∧
    renderScript zones set.rules set.defaultAction = .ok set.script ∧
    ∀ compiled, compiled ∈ set.rules ↔ ∃ rule ∈ bundle.rules, rule.domain = .ngfw ∧
      compileOne (collectNamedSubjects bundle.rules) (collectNamedPredicates bundle.rules) zones
        rule = .ok (some compiled) := by
  unfold compile at accepted
  split at accepted
  case h_1 => cases accepted
  case h_2 clean =>
    obtain ⟨rules, compiledRules, afterRules⟩ := bind_eq_ok accepted
    obtain ⟨script, rendered, final⟩ := bind_eq_ok afterRules
    cases final
    obtain ⟨zonesValid, natValid⟩ := Option.or_eq_none_iff.mp clean
    refine ⟨zonesValid, natValid, rfl, rfl, rendered, fun compiled => ?_⟩
    obtain ⟨results, collected, rfl⟩ := map_eq_ok compiledRules
    obtain ⟨each, rfl⟩ := mapM_eq_ok none collected
    rw [reduceOption_mem_iff, mem_map]
    constructor
    · rintro ⟨rule, listed, same⟩
      obtain ⟨member, domain⟩ := mem_filter.mp listed
      exact ⟨rule, member, beq_iff_eq.mp domain, same ▸ each rule listed⟩
    · rintro ⟨rule, member, domain, succeeded⟩
      refine ⟨rule, mem_filter.mpr ⟨member, beq_iff_eq.mpr domain⟩, ?_⟩
      rw [succeeded, okOr]

end ShieldNet.Firewall
