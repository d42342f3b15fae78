import ShieldNet.Policy.Wire

/-!
# Compiled bundles

`encodeBundlePayloadFor` builds the bundle body of a target from the typed
graph, with the inline-CASB and threat-intelligence rules `Compile` folds in.
A body loads exactly when the default action is not
`suggest_only` and every selected rule is loadable: its domain, verb and kinds
are ones the enforcement plane has, a suggestion suggests a verb, and its
opaque documents are readable (`publishable_loads_iff`). The validator of the
control plane promises less than that: it accepts the domain `inline_casb`,
suggestions without a verb, a `suggest_only` default and any document.
-/

namespace ShieldNet.Policy

open Serde Option LoadedBundle EnforcementDomain

/-! ## Building a body -/

def compilerVersion : String := "sng-policy/0.1"

/-- The rules `Compile` folds into the typed graph: inline-CASB rules, then
threat-intelligence rules. -/
def Graph.foldIn (g : Graph) (casbRules iocRules : List GoRule) : Graph :=
  { g with rules := g.rules ++ casbRules ++ iocRules }

def encodeBundlePayloadFor (target : BundleTarget) (graphId : String) (graphVersion : Int)
    (typed : Graph) (steering : Option Steering.SteeringRuleSet) : RawBundle where
  schemaVersion := 1
  target := target
  graphId := graphId
  graphVersion := graphVersion
  compiler := compilerVersion
  defaultAction := typed.defaultAction
  rulesJson := some (encodeRules (compileTarget target typed.rules))
  steering := steering

/-! ## Which rules load -/

/-- A `match` document the enforcement plane reads: within its bounds and of a
shape its matcher type has. -/
def ReadableDoc {α : Type} (text : RustText) (read : Json → Option α) (document : Json) : Prop :=
  document.fits text.numberInRange vertexNesting = true ∧ (read document).isSome

def enforcedDomains : List String := ["ngfw", "swg", "dns", "ztna", "sdwan", "dlp"]

/-- The parts of a rule that the control plane ships without checking them are
readable. -/
structure GoRule.PartsReadable (text : RustText) (r : GoRule) : Prop where
  suggestion : ∃ suggested, suggestedVerbOf r = some suggested ∧
    (r.verb = "suggest_only" → ∃ verb, suggested = some verb ∧ verb ≠ .suggestOnly)
  subjects : ∀ s ∈ r.subjects, s.kind ∈ validSubjectKinds ∧
    ∀ document ∈ s.matchDoc, ReadableDoc text (SubjectMatch.read text) document
  predicates : ∀ p ∈ r.predicates,
    ∀ document ∈ p.matchDoc, ReadableDoc text (PredicateMatch.read text) document
  extra : ∀ entry ∈ r.extra.entries, entry.2.fits text.numberInRange extraNesting = true

structure GoRule.Loadable (text : RustText) (r : GoRule) : Prop extends r.PartsReadable text where
  domain : r.domain ∈ enforcedDomains
  verb : r.verb ∈ validVerbs

variable (name : String)

theorem isSome_ofName_domain_iff :
    (ofName name).isSome ↔ name ∈ enforcedDomains := by
  unfold ofName
  split <;> simp_all [enforcedDomains]

theorem isSome_ofName_verb_iff : (Verb.ofName name).isSome ↔ name ∈ validVerbs := by
  unfold Verb.ofName
  split <;> simp_all [validVerbs]

theorem isSome_ofName_kind_iff : (SubjectKind.ofName name).isSome ↔ name ∈ validSubjectKinds := by
  unfold SubjectKind.ofName
  split <;> simp_all [validSubjectKinds]

theorem ofName_eq_suggestOnly_iff :
    Verb.ofName name = some .suggestOnly ↔ name = "suggest_only" := by
  unfold Verb.ofName
  split <;> simp_all

theorem parseDefaultVerb_eq_suggestOnly_iff :
    parseDefaultVerb name = .suggestOnly ↔ name = "suggest_only" := by
  unfold parseDefaultVerb
  split <;> simp_all

variable (text : RustText)

theorem isSome_shipSubject_iff (s : GoSubject) :
    (shipSubject text s).isSome ↔ s.kind ∈ validSubjectKinds ∧
      ∀ document ∈ s.matchDoc, (SubjectMatch.read text document).isSome := by
  rw [← isSome_ofName_kind_iff]
  cases kind : SubjectKind.ofName s.kind with
  | none => simp [shipSubject, kind]
  | some found =>
    cases document : s.matchDoc with
    | none => simp [shipSubject, kind, document]
    | some doc =>
      cases read : SubjectMatch.read text doc <;> simp [shipSubject, kind, document, read]

theorem isSome_shipPredicate_iff (p : GoPredicate) : (shipPredicate text p).isSome ↔
    ∀ document ∈ p.matchDoc, (PredicateMatch.read text document).isSome := by
  cases document : p.matchDoc <;> simp [shipPredicate, document]

theorem shipRule_eq_some {text : RustText} {r : GoRule} {rule : Rule}
    (shipped : shipRule text r = some rule) :
    ofName r.domain = some rule.domain ∧
    Verb.ofName r.verb = some rule.verb ∧
    suggestedVerbOf r = some rule.suggestedVerb ∧
    r.subjects.mapM (shipSubject text) = some rule.subjects ∧
    r.predicates.mapM (shipPredicate text) = some rule.predicates ∧
    rule.subjectRefs = r.subjectRefs ∧ rule.predicateRefs = r.predicateRefs := by
  simp only [shipRule, bind_eq_bind, bind_eq_some_iff, Option.some.injEq] at shipped
  obtain ⟨domain, domainRead, verb, verbRead, suggested, suggestedRead, subjects, subjectsRead,
    predicates, predicatesRead, rfl⟩ := shipped
  exact ⟨domainRead, verbRead, suggestedRead, subjectsRead, predicatesRead, rfl, rfl⟩

theorem missesSuggestion_eq_false_iff (rule : Rule) : rule.missesSuggestion = false ↔
    (rule.verb = .suggestOnly → ∃ verb, rule.suggestedVerb = some verb ∧ verb ≠ .suggestOnly) := by
  unfold Rule.missesSuggestion
  by_cases suggests : rule.verb = .suggestOnly
  · cases suggested : rule.suggestedVerb <;> simp [suggests]
  · simp [suggests]

theorem docsFit_iff (r : GoRule) :
    r.docsFit text ↔ (∀ s ∈ r.subjects, ∀ document ∈ s.matchDoc,
        document.fits text.numberInRange vertexNesting) ∧
      (∀ p ∈ r.predicates, ∀ document ∈ p.matchDoc,
        document.fits text.numberInRange vertexNesting) ∧
      (∀ entry ∈ r.extra.entries, entry.2.fits text.numberInRange extraNesting) := by
  simp only [GoRule.docsFit, Bool.and_eq_true, List.all_eq_true, all_eq_true, and_assoc, mem_def]

theorem arrives_iff_loadable (r : GoRule) :
    (∃ rule, r.arrives text = some rule ∧ rule.missesSuggestion = false) ↔ r.Loadable text := by
  constructor
  · rintro ⟨rule, arrived, suggests⟩
    unfold GoRule.arrives at arrived
    split at arrived
    case isFalse => cases arrived
    case isTrue fit =>
      obtain ⟨domain, verb, suggested, subjects, predicates, -, -⟩ := shipRule_eq_some arrived
      obtain ⟨subjectsFit, predicatesFit, extraFit⟩ := (docsFit_iff text r).mp fit
      have subjectsRead := isSome_mapM_iff.mp (isSome_of_mem subjects)
      have predicatesRead := isSome_mapM_iff.mp (isSome_of_mem predicates)
      refine
        { domain := (isSome_ofName_domain_iff _).mp (isSome_of_mem domain)
          verb := (isSome_ofName_verb_iff _).mp (isSome_of_mem verb)
          suggestion := ⟨rule.suggestedVerb, suggested, fun only => ?_⟩
          subjects := fun s member => ?_
          predicates := fun p member document carried => ?_
          extra := extraFit }
      · rw [(ofName_eq_suggestOnly_iff _).mpr only] at verb
        exact (missesSuggestion_eq_false_iff rule).mp suggests (Option.some.inj verb).symm
      · obtain ⟨kind, docs⟩ := (isSome_shipSubject_iff text s).mp (subjectsRead s member)
        exact ⟨kind, fun document carried =>
          ⟨subjectsFit s member document carried, docs document carried⟩⟩
      · exact ⟨predicatesFit p member document carried,
          (isSome_shipPredicate_iff text p).mp (predicatesRead p member) document carried⟩
  · intro loadable
    obtain ⟨domain, domainRead⟩ :=
      isSome_iff_exists.mp ((isSome_ofName_domain_iff _).mpr loadable.domain)
    obtain ⟨verb, verbRead⟩ :=
      isSome_iff_exists.mp ((isSome_ofName_verb_iff _).mpr loadable.verb)
    obtain ⟨suggested, suggestedRead, suggests⟩ := loadable.suggestion
    obtain ⟨subjects, subjectsRead⟩ := isSome_iff_exists.mp
      (isSome_mapM_iff.mpr fun s member => (isSome_shipSubject_iff text s).mpr
        ⟨(loadable.subjects s member).1, fun document carried =>
          ((loadable.subjects s member).2 document carried).2⟩)
    obtain ⟨predicates, predicatesRead⟩ := isSome_iff_exists.mp
      (isSome_mapM_iff.mpr fun p member => (isSome_shipPredicate_iff text p).mpr
        fun document carried => (loadable.predicates p member document carried).2)
    have fit : r.docsFit text := (docsFit_iff text r).mpr
      ⟨fun s member document carried => ((loadable.subjects s member).2 document carried).1,
        fun p member document carried => (loadable.predicates p member document carried).1,
        loadable.extra⟩
    simp only [GoRule.arrives, fit, if_true, shipRule, domainRead, verbRead, suggestedRead,
      subjectsRead, predicatesRead, bind_eq_bind, bind_some, Option.some.injEq,
      exists_eq_left', missesSuggestion_eq_false_iff]
    intro only
    subst only
    exact suggests ((ofName_eq_suggestOnly_iff _).mp verbRead)

theorem fromBody_payload_eq_ok_iff {text : RustText} {target : BundleTarget} {graphId : String}
    {graphVersion : Int} {typed : Graph} {steering : Option Steering.SteeringRuleSet}
    {bundle : LoadedBundle} :
    fromBody text
      (encodeBundlePayloadFor target graphId graphVersion typed steering) target = .ok bundle ↔
      typed.defaultAction ≠ "suggest_only" ∧
      ∃ rules, (compileTarget target typed.rules).mapM (GoRule.arrives text) = some rules ∧
        (∀ rule ∈ rules, rule.missesSuggestion = false) ∧
        bundle = .assemble text
          (encodeBundlePayloadFor target graphId graphVersion typed steering) rules := by
  rw [fromBody_eq_ok_iff]
  simp [encodeBundlePayloadFor, maxSupportedSchemaVersion, readRules_encodeRules,
    parseDefaultVerb_eq_suggestOnly_iff]

theorem exists_fromBody_payload_iff (target : BundleTarget) (graphId : String) (graphVersion : Int)
    (typed : Graph) (steering : Option Steering.SteeringRuleSet) :
    (∃ bundle, fromBody text
      (encodeBundlePayloadFor target graphId graphVersion typed steering) target = .ok bundle) ↔
      typed.defaultAction ≠ "suggest_only" ∧
      ∀ r ∈ typed.rules, r.selectedFor target → r.Loadable text := by
  simp only [fromBody_payload_eq_ok_iff]
  constructor
  · rintro ⟨bundle, notSuggest, rules, arrived, clean, -⟩
    refine ⟨notSuggest, fun r member selected => (arrives_iff_loadable text r).mp ?_⟩
    obtain ⟨rule, listed, read⟩ :=
      exists_output_of_mapM arrived (List.mem_filter.mpr ⟨member, selected⟩)
    exact ⟨rule, read, clean rule listed⟩
  · rintro ⟨notSuggest, loadable⟩
    have each : ∀ r ∈ compileTarget target typed.rules,
        ∃ rule, r.arrives text = some rule ∧ rule.missesSuggestion = false := by
      intro r listed
      obtain ⟨member, selected⟩ := List.mem_filter.mp listed
      exact (arrives_iff_loadable text r).mpr (loadable r member selected)
    obtain ⟨rules, arrived⟩ := isSome_iff_exists.mp <| isSome_mapM_iff.mpr
      fun r listed => isSome_of_mem (each r listed).choose_spec.1
    refine ⟨_, notSuggest, rules, arrived, fun rule listed => ?_, rfl⟩
    obtain ⟨r, source, read⟩ := exists_of_forall₂ (mapM_eq_some_iff.mp arrived).flip listed
    obtain ⟨other, sameRead, clean⟩ := each r source
    rw [read, Option.some.injEq] at sameRead
    rwa [sameRead]

theorem GoRule.Accepted.loadable_iff {g : Graph} {r : GoRule} (accepted : r.Accepted g)
    (text : RustText) : r.Loadable text ↔ r.domain ≠ "inline_casb" ∧ r.PartsReadable text := by
  have domains : r.domain ∈ enforcedDomains ↔ r.domain ≠ "inline_casb" := by
    have valid := accepted.domain
    simp only [validDomains, enforcedDomains, List.mem_cons, List.not_mem_nil, or_false] at valid ⊢
    rcases valid with same | same | same | same | same | same | same <;> simp [same]
  exact ⟨fun loadable => ⟨domains.mp loadable.domain, loadable.toPartsReadable⟩,
    fun parts => ⟨parts.2, domains.mpr parts.1, accepted.verb⟩⟩

/-- **When a published policy loads.** For a graph that `parseGraph` accepts and
the rules `Compile` folds in, the body of a target loads exactly when the
default action is not `suggest_only`, no selected rule of the graph is an
`inline_casb` rule or has unreadable parts, and every selected rule folded in
is loadable. -/
theorem publishable_loads_iff (text : RustText) (goText : GoText) (raw : Option Json) (g : Graph)
    (accepted : parseGraph goText raw = .ok g) (casbRules iocRules : List GoRule)
    (target : BundleTarget) (graphId : String) (graphVersion : Int)
    (steering : Option Steering.SteeringRuleSet) :
    (∃ bundle, fromBody text
      (encodeBundlePayloadFor target graphId graphVersion (g.foldIn casbRules iocRules) steering)
        target = .ok bundle) ↔
      g.defaultAction ≠ "suggest_only" ∧
      (∀ r ∈ g.rules, r.selectedFor target = true →
        r.domain ≠ "inline_casb" ∧ r.PartsReadable text) ∧
      (∀ r ∈ casbRules ++ iocRules, r.selectedFor target = true → r.Loadable text) := by
  have rules := (parseGraph_accepted accepted).rules
  rw [exists_fromBody_payload_iff]
  simp only [Graph.foldIn, List.append_assoc]
  rw [List.forall_mem_append]
  refine and_congr_right fun _ => and_congr_left fun _ => ?_
  refine forall₂_congr fun r member => imp_congr_right fun _ => ?_
  exact (rules r member).loadable_iff text

/-- Readers for plain texts: integers, dotted IPv4 addresses and networks. -/
def plainGoText : GoText where
  parseFloat := fun number => (GoJson.parseInt number).map fun n => (n : ℚ)
  encodedLen := Json.compactLen

@[inherit_doc plainGoText]
def plainRustText : RustText where
  parseNet := IpNet.parseV4
  parseAddr := IpAddr.parseV4
  numberInRange := fun number => (GoJson.parseInt number).isSome

def ruleDoc (id domain verb : String) (more : List (String × Json)) : Json :=
  .obj ([("id", .str id), ("domain", .str domain), ("verb", .str verb)] ++ more)

def casbGraphDoc : Json := .obj [("default_action", .str "deny"),
    ("rules", .arr [ruleDoc "casb-inspect-m365" "inline_casb" "inspect" []])]

/-- The graph is accepted, and its edge bundle does not load: the enforcement
plane has no `inline_casb` domain. -/
theorem inline_casb_graph_does_not_load : ∃ g, parseGraph plainGoText (some casbGraphDoc) = .ok g ∧
    ¬∃ bundle, fromBody plainRustText
      (encodeBundlePayloadFor .edge "graph" 1 (g.foldIn [] []) none) .edge = .ok bundle := by
  refine ⟨_, rfl, ?_⟩
  rintro ⟨bundle, loaded⟩
  cases loaded

def malwareMatch : Json :=
  .obj [("kind", .str "context_equals"), ("key", .str "category"), ("value", .str "malware")]

def dnsGraphDoc : Json := .obj [("rules", .arr [ruleDoc "dns-deny-malware" "dns" "deny"
    [("predicates", .arr [.obj [("match", malwareMatch)]])]])]

def dnsRule : GoRule := { GoRule.zero with
    id := "dns-deny-malware", domain := "dns", verb := "deny"
    predicates := [⟨"", some malwareMatch⟩] }

def dnsGraph : Graph := { Graph.zero with defaultAction := "deny", rules := [dnsRule] }

theorem dns_graph_loads_on_the_edge : parseGraph plainGoText (some dnsGraphDoc) = .ok dnsGraph ∧
    ∃ bundle, fromBody plainRustText
      (encodeBundlePayloadFor .edge "graph" 1 (dnsGraph.foldIn [] []) none) .edge =
        .ok bundle := by
  have accepted : parseGraph plainGoText (some dnsGraphDoc) = .ok dnsGraph := rfl
  refine ⟨accepted, (publishable_loads_iff plainRustText plainGoText (some dnsGraphDoc) dnsGraph
    accepted [] [] .edge "graph" 1 none).mpr ⟨by decide, ?_, by simp⟩⟩
  rintro r member -
  rw [List.mem_singleton.mp member]
  refine ⟨by decide, ⟨⟨none, rfl, by decide⟩, nofun, ?_, nofun⟩⟩
  intro p listed document carried
  rw [List.mem_singleton.mp listed] at carried
  cases carried
  exact ⟨rfl, rfl⟩

end ShieldNet.Policy
