import ShieldNet.Policy.Graph
import ShieldNet.Policy.Matcher
import ShieldNet.Steering.Table

/-!
# Loading a bundle

The decoder of `crates/sng-policy-eval/src/{rule,bundle}.rs`: the typed rule,
its reader, the vertex indices built from the shipped inline vertices, and
`LoadedBundle.fromBody` with the checks it makes after decoding.

The MessagePack envelope and the steering section are written and read through
structs of one shape on both sides; they are carried as values. The rule table
is the JSON document the control plane encodes.
-/

namespace ShieldNet.Policy

open Serde

/-! ## Types -/

inductive Verb where
  | allow
  | deny
  | inspect
  | steer
  | decrypt
  | log
  | suggestOnly
  deriving DecidableEq

def Verb.ofName : String → Option Verb
  | "allow" => some .allow
  | "deny" => some .deny
  | "inspect" => some .inspect
  | "steer" => some .steer
  | "decrypt" => some .decrypt
  | "log" => some .log
  | "suggest_only" => some .suggestOnly
  | _ => none

inductive EnforcementDomain where
  | ngfw
  | swg
  | dns
  | ztna
  | sdwan
  | dlp
  deriving DecidableEq

def EnforcementDomain.ofName : String → Option EnforcementDomain
  | "ngfw" => some .ngfw
  | "swg" => some .swg
  | "dns" => some .dns
  | "ztna" => some .ztna
  | "sdwan" => some .sdwan
  | "dlp" => some .dlp
  | _ => none

inductive SubjectKind where
  | user
  | device
  | app
  | site
  | network
  deriving DecidableEq

def SubjectKind.ofName : String → Option SubjectKind
  | "user" => some .user
  | "device" => some .device
  | "app" => some .app
  | "site" => some .site
  | "network" => some .network
  | _ => none

structure Subject where
  name : String
  kind : SubjectKind
  matcher : SubjectMatch

structure Predicate where
  name : String
  matcher : PredicateMatch

structure Rule where
  id : String
  domain : EnforcementDomain
  verb : Verb
  suggestedVerb : Option Verb
  subjectRefs : List String
  predicateRefs : List String
  subjects : List Subject
  predicates : List Predicate
  targets : List String
  description : String
  extra : StrMap Json

/-! ## Reading a rule -/

section Reading

variable (text : RustText)

def Subject.read : Json → Option Subject
  | .obj members => do
      let name ← defaulted "" string "name" members
      let kind ← required (unitEnum SubjectKind.ofName) "kind" members
      let matcher ← defaulted .any (SubjectMatch.read text) "match" members
      some ⟨name, kind, matcher⟩
  | .arr [name, kind] => do
      some ⟨← string name, ← unitEnum SubjectKind.ofName kind, .any⟩
  | .arr [name, kind, matcher] => do
      some ⟨← string name, ← unitEnum SubjectKind.ofName kind, ← SubjectMatch.read text matcher⟩
  | _ => none

def Predicate.read : Json → Option Predicate
  | .obj members => do
      let name ← defaulted "" string "name" members
      let matcher ← defaulted .always (PredicateMatch.read text) "match" members
      some ⟨name, matcher⟩
  | .arr [] => some ⟨"", .always⟩
  | .arr [name] => (string name).map fun value => ⟨value, .always⟩
  | .arr [name, matcher] => do
      some ⟨← string name, ← PredicateMatch.read text matcher⟩
  | _ => none

/-- The members a derived rule reader consumes itself. -/
def ruleFieldNames : List String := "suggested_verb" :: knownRuleFields

/-- `Rule` from its document. Members the reader does not know are flattened
into `extra`. -/
def Rule.read : Json → Option Rule
  | .obj members => do
      let id ← required string "id" members
      let domain ← required (unitEnum EnforcementDomain.ofName) "domain" members
      let verb ← required (unitEnum Verb.ofName) "verb" members
      let suggestedVerb ← defaulted none (option (unitEnum Verb.ofName))
        "suggested_verb" members
      let subjectRefs ← defaulted [] (vec string) "subject_refs" members
      let predicateRefs ← defaulted [] (vec string) "predicate_refs" members
      let subjects ← defaulted [] (vec (Subject.read text)) "subjects" members
      let predicates ← defaulted [] (vec (Predicate.read text)) "predicates" members
      let targets ← defaulted [] (vec string) "targets" members
      let description ← defaulted "" string "description" members
      some
        { id, domain, verb, suggestedVerb, subjectRefs, predicateRefs, subjects, predicates,
          targets, description
          extra := StrMap.ofMembers
            (members.filter fun member => !ruleFieldNames.contains member.1) }
  | _ => none

/-- The levels of nesting `serde_json` reads: it fails on entering the 128th. -/
def maxNesting : Nat := 127

/-- `serde_json::from_slice::<Vec<Rule>>`. -/
def readRules (document : Json) : Option (List Rule) :=
  if document.fits text.numberInRange maxNesting then vec (Rule.read text) document
  else none

end Reading

/-! ## The bundle -/

/-- `RawBundle`, the envelope after MessagePack decoding. `rulesJson` is `none`
for the empty byte string. -/
structure RawBundle where
  schemaVersion : Nat
  target : BundleTarget
  graphId : String
  graphVersion : Int
  compiler : String
  defaultAction : String
  rulesJson : Option Json
  steering : Option Steering.SteeringRuleSet

inductive PolicyEvalError where
  | schemaVersionTooNew (found supported : Nat)
  | targetMismatch (actual expected : BundleTarget)
  | rulesDecode
  | suggestOnlyMissingSuggestion (ruleId : Option String)

structure LoadedBundle where
  target : BundleTarget
  graphId : String
  graphVersion : Int
  defaultVerb : Verb
  rules : List Rule
  steering : Steering.SteeringTable
  namedSubjects : List (String × Subject)
  namedPredicates : List (String × Predicate)

def maxSupportedSchemaVersion : Nat := 1

/-- Anything it does not know is `deny`. -/
def parseDefaultVerb : String → Verb
  | "allow" => .allow
  | "inspect" => .inspect
  | "steer" => .steer
  | "decrypt" => .decrypt
  | "log" => .log
  | "suggest_only" => .suggestOnly
  | _ => .deny

/-- `build_vertex_indices` over vertices of either kind: named inline vertices,
the first of a name staying. -/
def buildVertexIndex {α : Type} (vertices : Rule → List α) (name : α → String)
    (rules : List Rule) : List (String × α) :=
  rules.foldl (fun index rule =>
    (vertices rule).foldl (fun index vertex =>
      if name vertex ≠ "" then FirstWins.orInsert index (name vertex, vertex) else index) index) []

def Rule.missesSuggestion (rule : Rule) : Bool :=
  rule.verb == .suggestOnly && (rule.suggestedVerb.all (· == .suggestOnly))

/-- The loaded bundle of an envelope and its decoded rules. -/
def LoadedBundle.assemble (text : RustText) (raw : RawBundle) (rules : List Rule) :
    LoadedBundle where
  target := raw.target
  graphId := raw.graphId
  graphVersion := raw.graphVersion
  defaultVerb := parseDefaultVerb raw.defaultAction
  rules := rules
  steering := raw.steering.elim .empty (Steering.SteeringTable.fromRuleSet text.parseNet)
  namedSubjects := buildVertexIndex Rule.subjects Subject.name rules
  namedPredicates := buildVertexIndex Rule.predicates Predicate.name rules

def LoadedBundle.fromBody (text : RustText) (raw : RawBundle) (target : BundleTarget) :
    Except PolicyEvalError LoadedBundle :=
  if raw.schemaVersion > maxSupportedSchemaVersion then
    .error (.schemaVersionTooNew raw.schemaVersion maxSupportedSchemaVersion)
  else if raw.target ≠ target then .error (.targetMismatch raw.target target)
  else
    match raw.rulesJson.elim (some []) (readRules text) with
    | none => .error .rulesDecode
    | some rules =>
      match rules.find? Rule.missesSuggestion with
      | some rule => .error (.suggestOnlyMissingSuggestion (some rule.id))
      | none =>
        if parseDefaultVerb raw.defaultAction = .suggestOnly then
          .error (.suggestOnlyMissingSuggestion none)
        else .ok (.assemble text raw rules)

/-- **When a body loads, and what it loads to.** -/
theorem LoadedBundle.fromBody_eq_ok_iff {text : RustText} {raw : RawBundle}
    {target : BundleTarget} {bundle : LoadedBundle} :
    fromBody text raw target = .ok bundle ↔
      raw.schemaVersion ≤ maxSupportedSchemaVersion ∧ raw.target = target ∧
      parseDefaultVerb raw.defaultAction ≠ .suggestOnly ∧
      ∃ rules, raw.rulesJson.elim (some []) (readRules text) = some rules ∧
        (∀ rule ∈ rules, rule.missesSuggestion = false) ∧
        bundle = .assemble text raw rules := by
  unfold fromBody
  by_cases newer : raw.schemaVersion > maxSupportedSchemaVersion
  · simp only [newer, if_true, reduceCtorEq, false_iff]
    omega
  by_cases other : raw.target = target
  swap
  · simp [newer, other]
  cases decoded : raw.rulesJson.elim (some []) (readRules text) with
  | none => simp [newer, other]
  | some rules =>
    cases misses : rules.find? Rule.missesSuggestion with
    | some rule =>
      have found := List.find?_some misses
      have listed := List.mem_of_find?_eq_some misses
      simp only [newer, if_false, other, ne_eq, not_true_eq_false, misses, reduceCtorEq,
        Option.some.injEq, exists_eq_left', false_iff]
      rintro ⟨-, -, -, none, -⟩
      simp [none rule listed] at found
    | none =>
      have clean : ∀ rule ∈ rules, rule.missesSuggestion = false := by
        simpa using List.find?_eq_none.mp misses
      by_cases suggests : parseDefaultVerb raw.defaultAction = .suggestOnly
      · simp [newer, other, misses, suggests]
      · simp only [newer, if_false, other, ne_eq, not_true_eq_false, misses, suggests,
          Except.ok.injEq, Option.some.injEq, exists_eq_left', not_false_eq_true, true_and]
        exact ⟨fun same => ⟨not_lt.mp newer, clean, same.symm⟩, fun same => same.2.2.symm⟩

end ShieldNet.Policy
