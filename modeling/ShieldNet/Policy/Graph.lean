import ShieldNet.Lib.Fallible
import ShieldNet.Lib.GoJson
import Mathlib.Data.List.Nodup
import Mathlib.Data.Rat.Defs

/-!
# The policy graph of the control plane

The typed graph of `internal/service/policy/graph.go`: decoding
(`Graph.unmarshal`, with `Rule.unmarshalJSON` keeping unknown members in
`extra`), the checks of `Graph.validate` in source order, the entry point
`parseGraph` that `PutGraph` runs, the per-target selection `compileTarget` and
the encoders `encodeRule` and `encodeRules`.

Go strings that name verbs, domains and kinds stay strings here: the source
validates some of them and ships others unchecked. What an accepted graph
guarantees is collected in `Graph.Accepted`, and `parseGraph_accepted` says
that every graph `parseGraph` returns is accepted.
-/

namespace ShieldNet.Policy

open GoJson StrMap List

/-! ## Data -/

/-- `repository.PolicyBundleTarget`: who receives a bundle. -/
inductive BundleTarget where
  | edge
  | endpoint
  | cloud
  | mobile
  deriving DecidableEq

def BundleTarget.asStr : BundleTarget → String
  | .edge => "edge"
  | .endpoint => "endpoint"
  | .cloud => "cloud"
  | .mobile => "mobile"

/-- A named subject vertex. `matchDoc` is the opaque `match` document; `none` is the nil
`RawMessage`, which `omitempty` leaves out. -/
structure GoSubject where
  name : String
  kind : String
  matchDoc : Option Json

open GoSubject

structure GoPredicate where
  name : String
  matchDoc : Option Json

structure RuleFields where
  id : String
  domain : String
  verb : String
  subjectRefs : List String
  predicateRefs : List String
  subjects : List GoSubject
  predicates : List GoPredicate
  targets : List String
  description : String

open RuleFields

def knownRuleFields : List String :=
  ["id", "domain", "verb", "subject_refs", "predicate_refs", "subjects", "predicates",
    "targets", "description"]

/-- One enforcement rule. `extra` holds the members the typed rule does not
know, so none of its keys is a known field. -/
structure GoRule extends RuleFields where
  extra : StrMap Json
  extra_unknown : ∀ key ∈ extra.keys, key ∉ knownRuleFields

structure Sampling where
  classRates : StrMap ℚ

structure Graph where
  version : Int
  defaultAction : String
  subjects : List GoSubject
  predicates : List GoPredicate
  rules : List GoRule
  sampling : Option Sampling

/-- What depends on the text of a document and not only on its value: the
reading of a number as a `float64` (`none` when out of range) and the length of
the encoded document in bytes. -/
structure GoText where
  parseFloat : String → Option ℚ
  encodedLen : Json → Nat

/-! ## Decoding -/

/-- The zero values `json.Unmarshal` starts from. -/
def GoSubject.zero : GoSubject := ⟨"", "", none⟩

@[inherit_doc GoSubject.zero]
def GoPredicate.zero : GoPredicate := ⟨"", none⟩

@[inherit_doc GoSubject.zero]
def RuleFields.zero : RuleFields := ⟨"", "", "", [], [], [], [], [], ""⟩

@[inherit_doc GoSubject.zero]
def GoRule.zero : GoRule := { RuleFields.zero with
    extra := .empty
    extra_unknown := by simp [StrMap.keys, StrMap.empty] }

@[inherit_doc GoSubject.zero]
def Graph.zero : Graph := ⟨0, "", [], [], [], none⟩

def GoSubject.unmarshal : Decoder GoSubject := struct [
    ("name", focus name (fun value s => { s with name := value }) string),
    ("kind", focus kind (fun value s => { s with kind := value }) string),
    ("match", focus matchDoc (fun value s => { s with matchDoc := value }) rawMessage)]

def GoPredicate.unmarshal : Decoder GoPredicate := struct [
    ("name", focus GoPredicate.name (fun value p => { p with name := value }) string),
    ("match", focus GoPredicate.matchDoc (fun value p => { p with matchDoc := value }) rawMessage)]

def RuleFields.unmarshal : Decoder RuleFields := struct [
    ("id", focus id (fun value r => { r with id := value }) string),
    ("domain", focus domain (fun value r => { r with domain := value }) string),
    ("verb", focus verb (fun value r => { r with verb := value }) string),
    ("subject_refs", focus subjectRefs
      (fun value r => { r with subjectRefs := value }) (slice "" string)),
    ("predicate_refs", focus predicateRefs
      (fun value r => { r with predicateRefs := value }) (slice "" string)),
    ("subjects", focus subjects (fun value r => { r with subjects := value })
      (slice GoSubject.zero GoSubject.unmarshal)),
    ("predicates", focus predicates (fun value r => { r with predicates := value })
      (slice GoPredicate.zero GoPredicate.unmarshal)),
    ("targets", focus targets (fun value r => { r with targets := value }) (slice "" string)),
    ("description", focus description (fun value r => { r with description := value }) string)]

/-- The second pass of `Rule.UnmarshalJSON`: the members that are not known
fields, by their exact names. -/
def extraMembers : Json → List (String × Json)
  | .obj members => members.filter fun member => !knownRuleFields.contains member.1
  | _ => []

theorem extraMembers_unknown (document : Json) :
    ∀ key ∈ (ofMembers (extraMembers document)).keys, key ∉ knownRuleFields := by
  intro key member
  obtain ⟨entry, listed, rfl⟩ := mem_map.mp (mem_keys_ofMembers member)
  cases document <;> simp_all [extraMembers]

/-- `Rule.UnmarshalJSON`. It replaces the old value whole. -/
def GoRule.unmarshalJSON : Decoder GoRule := fun document _ =>
  (RuleFields.unmarshal document RuleFields.zero).map fun fields =>
    { fields with
      extra := ofMembers (extraMembers document)
      extra_unknown := extraMembers_unknown document }

variable (texts : GoText)

def GoText.float64 : Decoder ℚ
  | .num text, _ => texts.parseFloat text
  | .null, old => some old
  | _, _ => none

def Sampling.unmarshal : Decoder Sampling := struct [
    ("class_rates", focus Sampling.classRates (fun value s => { s with classRates := value })
      (map 0 texts.float64))]

def Graph.unmarshal : Decoder Graph := struct [
    ("version", focus Graph.version (fun value g => { g with version := value }) int),
    ("default_action", focus Graph.defaultAction
      (fun value g => { g with defaultAction := value }) string),
    ("subjects", focus Graph.subjects (fun value g => { g with subjects := value })
      (slice GoSubject.zero GoSubject.unmarshal)),
    ("predicates", focus Graph.predicates (fun value g => { g with predicates := value })
      (slice GoPredicate.zero GoPredicate.unmarshal)),
    ("rules", focus Graph.rules (fun value g => { g with rules := value })
      (slice GoRule.zero GoRule.unmarshalJSON)),
    ("sampling", focus Graph.sampling (fun value g => { g with sampling := value })
      (pointer ⟨empty⟩ (Sampling.unmarshal texts)))]

/-! ## Encoding -/

/-- A member that `omitempty` leaves out when the list is empty. -/
def omitEmpty (key : String) (values : List Json) : List (String × Json) :=
  if values = [] then [] else [(key, .arr values)]

/-- The `match` member; a nil document is left out. -/
def matchMember : Option Json → List (String × Json)
  | some document => [("match", document)]
  | none => []

def encodeSubject (s : GoSubject) : Json :=
  .obj ([("name", .str s.name), ("kind", .str s.kind)] ++ matchMember s.matchDoc)

def encodePredicate (p : GoPredicate) : Json :=
  .obj ([("name", .str p.name)] ++ matchMember p.matchDoc)

def RuleFields.members (r : RuleFields) : List (String × Json) :=
  [("id", .str r.id), ("domain", .str r.domain), ("verb", .str r.verb)] ++
    omitEmpty "subject_refs" (r.subjectRefs.map .str) ++
    omitEmpty "predicate_refs" (r.predicateRefs.map .str) ++
    omitEmpty "subjects" (r.subjects.map encodeSubject) ++
    omitEmpty "predicates" (r.predicates.map encodePredicate) ++
    omitEmpty "targets" (r.targets.map .str) ++
    (if r.description = "" then [] else [("description", .str r.description)])

/-- The typed members, then the extra members in key order. -/
def encodeRule (r : GoRule) : Json := .obj (r.toRuleFields.members ++ r.extra.entries)

def encodeRules (rules : List GoRule) : Json := .arr (rules.map encodeRule)

/-! ## Validation -/

def validVerbs : List String :=
  ["allow", "decrypt", "deny", "inspect", "log", "steer", "suggest_only"]

def validDomains : List String := ["dlp", "dns", "inline_casb", "ngfw", "sdwan", "swg", "ztna"]

def validSubjectKinds : List String := ["user", "device", "app", "site", "network"]

def validTargets : List String := ["edge", "endpoint", "cloud", "mobile"]

def validTrafficClasses : List String :=
  ["trusted_direct", "trusted_media_bypass", "inspect_lite", "inspect_full", "tunnel_private",
    "block"]

def maxRuleBytes : Nat := 10 * 1024

inductive GraphError where
  | decode
  | defaultAction (value : String)
  | subjectEmptyName (i : Nat)
  | subjectDuplicateName (i : Nat) (name : String)
  | subjectKind (i : Nat) (kind : String)
  | predicateEmptyName (i : Nat)
  | predicateDuplicateName (i : Nat) (name : String)
  | ruleEmptyId (i : Nat)
  | ruleDuplicateId (i : Nat) (id : String)
  | ruleDomain (i : Nat) (domain : String)
  | ruleVerb (i : Nat) (verb : String)
  | ruleSubjectRef (i j : Nat) (ref : String)
  | rulePredicateRef (i j : Nat) (ref : String)
  | ruleTarget (i j : Nat) (target : String)
  | ruleTooLarge (i : Nat) (bytes : Nat)
  | samplingClass (trafficClass : String)
  | samplingRate (trafficClass : String)
  | samplingInspectFull (trafficClass : String)

def GraphError.path : GraphError → String
  | .decode => "decode policy graph"
  | .defaultAction _ => "default_action"
  | .subjectEmptyName i | .subjectDuplicateName i _ => s!"subjects[{i}]"
  | .subjectKind i _ => s!"subjects[{i}].kind"
  | .predicateEmptyName i | .predicateDuplicateName i _ => s!"predicates[{i}]"
  | .ruleEmptyId i | .ruleDuplicateId i _ | .ruleTooLarge i _ => s!"rules[{i}]"
  | .ruleDomain i _ => s!"rules[{i}].domain"
  | .ruleVerb i _ => s!"rules[{i}].verb"
  | .ruleSubjectRef i j _ => s!"rules[{i}].subject_refs[{j}]"
  | .rulePredicateRef i j _ => s!"rules[{i}].predicate_refs[{j}]"
  | .ruleTarget i j _ => s!"rules[{i}].targets[{j}]"
  | .samplingClass c | .samplingRate c | .samplingInspectFull c =>
    s!"sampling.class_rates[{c}]"

def refuseIf (condition : Prop) [Decidable condition] (e : GraphError) : Except GraphError Unit :=
  if condition then .error e else .ok ()

/-- The subject loop. It returns the names seen. -/
def validateSubjects (i : Nat) (seen : List String) :
    List GoSubject → Except GraphError (List String)
  | [] => .ok seen
  | s :: rest =>
    if s.name = "" then .error (.subjectEmptyName i)
    else if s.name ∈ seen then .error (.subjectDuplicateName i s.name)
    else if s.kind ∉ validSubjectKinds then .error (.subjectKind i s.kind)
    else validateSubjects (i + 1) (s.name :: seen) rest

def validatePredicates (i : Nat) (seen : List String) :
    List GoPredicate → Except GraphError (List String)
  | [] => .ok seen
  | p :: rest =>
    if p.name = "" then .error (.predicateEmptyName i)
    else if p.name ∈ seen then .error (.predicateDuplicateName i p.name)
    else validatePredicates (i + 1) (p.name :: seen) rest

/-- Every entry of a list is known; otherwise the error at its index. -/
def checkEntries (known : List String) (error : Nat → String → GraphError) (j : Nat) :
    List String → Except GraphError Unit
  | [] => .ok ()
  | entry :: rest =>
    if entry ∈ known then checkEntries known error (j + 1) rest else .error (error j entry)

/-- The body of the rule loop after the id checks. -/
def validateRule (subjectNames predicateNames : List String) (i : Nat) (r : GoRule)
    : Except GraphError Unit := do
  refuseIf (r.domain ∉ validDomains) (.ruleDomain i r.domain)
  refuseIf (r.verb ∉ validVerbs) (.ruleVerb i r.verb)
  checkEntries subjectNames (.ruleSubjectRef i) 0 r.subjectRefs
  checkEntries predicateNames (.rulePredicateRef i) 0 r.predicateRefs
  checkEntries validTargets (.ruleTarget i) 0 r.targets
  refuseIf (texts.encodedLen (encodeRule r) > maxRuleBytes)
    (.ruleTooLarge i (texts.encodedLen (encodeRule r)))

def validateRules (texts : GoText) (subjectNames predicateNames : List String) (i : Nat)
    (seen : List String) : List GoRule → Except GraphError Unit
  | [] => .ok ()
  | r :: rest =>
    if r.id = "" then .error (.ruleEmptyId i)
    else if r.id ∈ seen then .error (.ruleDuplicateId i r.id)
    else do
      validateRule texts subjectNames predicateNames i r
      validateRules texts subjectNames predicateNames (i + 1) (r.id :: seen) rest

/-- `validateSampling` over the entries of the map. -/
def validateClassRates : List (String × ℚ) → Except GraphError Unit
  | [] => .ok ()
  | (trafficClass, rate) :: rest =>
    if trafficClass ∉ validTrafficClasses then .error (.samplingClass trafficClass)
    else if rate ≤ 0 ∨ rate > 1 then .error (.samplingRate trafficClass)
    else if trafficClass = "inspect_full" ∧ rate < 1 then
      .error (.samplingInspectFull trafficClass)
    else validateClassRates rest

def validateSampling : Option Sampling → Except GraphError Unit
  | none => .ok ()
  | some s => validateClassRates s.classRates.entries

def Graph.validate (g : Graph) : Except GraphError Unit := do
  refuseIf (g.defaultAction ∉ validVerbs) (.defaultAction g.defaultAction)
  let subjectNames ← validateSubjects 0 [] g.subjects
  let predicateNames ← validatePredicates 0 [] g.predicates
  validateRules texts subjectNames predicateNames 0 [] g.rules
  validateSampling g.sampling

/-- `ParseGraph`. `none` is the empty input. -/
def parseGraph : Option Json → Except GraphError Graph
  | none => .ok { Graph.zero with defaultAction := "deny" }
  | some raw =>
    match Graph.unmarshal texts raw Graph.zero with
    | none => .error .decode
    | some decoded =>
      let g := if decoded.defaultAction = "" then { decoded with defaultAction := "deny" }
        else decoded
      match g.validate texts with
      | .error e => .error e
      | .ok () => .ok g

/-! ## What acceptance guarantees -/

structure GoRule.Accepted (g : Graph) (r : GoRule) : Prop where
  domain : r.domain ∈ validDomains
  verb : r.verb ∈ validVerbs
  subjectRefs : ∀ ref ∈ r.subjectRefs, ref ∈ g.subjects.map name
  predicateRefs : ∀ ref ∈ r.predicateRefs, ref ∈ g.predicates.map GoPredicate.name
  targets : ∀ target ∈ r.targets, target ∈ validTargets

structure Graph.Accepted (g : Graph) : Prop where
  defaultAction : g.defaultAction ∈ validVerbs
  subjectNames : (g.subjects.map name).Nodup
  subjectNamed : ∀ s ∈ g.subjects, s.name ≠ ""
  predicateNames : (g.predicates.map GoPredicate.name).Nodup
  predicateNamed : ∀ p ∈ g.predicates, p.name ≠ ""
  rules : ∀ r ∈ g.rules, r.Accepted g

theorem refuseIf_eq_ok {condition : Prop} [Decidable condition] {e : GraphError} {result : Unit}
    (passed : refuseIf condition e = .ok result) : ¬condition := by
  intro holds
  simp [refuseIf, holds] at passed

/-- A loop that refuses an entry without a name or with a name it has seen ends with the
names of all entries, each of them once. -/
theorem names_of_validated {α : Type} {name : α → String}
    {validate : Nat → List String → List α → Except GraphError (List String)}
    (empty : ∀ i seen, validate i seen [] = .ok seen)
    (step : ∀ {i seen entry rest names}, validate i seen (entry :: rest) = .ok names →
      name entry ≠ "" ∧ name entry ∉ seen ∧
        validate (i + 1) (name entry :: seen) rest = .ok names)
    {i : Nat} {seen names : List String} {entries : List α} (distinct : seen.Nodup)
    (valid : validate i seen entries = .ok names) :
    names = (entries.map name).reverse ++ seen ∧ names.Nodup ∧
      ∀ entry ∈ entries, name entry ≠ "" := by
  induction entries generalizing i seen with
  | nil =>
    cases (empty i seen).symm.trans valid
    exact ⟨rfl, distinct, forall_mem_nil _⟩
  | cons entry rest ih =>
    obtain ⟨hasName, fresh, restValid⟩ := step valid
    obtain ⟨shape, nodup, named⟩ := ih (nodup_cons.mpr ⟨fresh, distinct⟩) restValid
    exact ⟨by simp [shape], nodup, forall_mem_cons.mpr ⟨hasName, named⟩⟩

theorem validateSubjects_cons {i : Nat} {seen names : List String} {s : GoSubject}
    {rest : List GoSubject} (valid : validateSubjects i seen (s :: rest) = .ok names) :
    s.name ≠ "" ∧ s.name ∉ seen ∧ validateSubjects (i + 1) (s.name :: seen) rest = .ok names := by
  simp only [validateSubjects] at valid
  grind

theorem validatePredicates_cons {i : Nat} {seen names : List String} {p : GoPredicate}
    {rest : List GoPredicate} (valid : validatePredicates i seen (p :: rest) = .ok names) :
    p.name ≠ "" ∧ p.name ∉ seen ∧
      validatePredicates (i + 1) (p.name :: seen) rest = .ok names := by
  simp only [validatePredicates] at valid
  grind

theorem checkEntries_spec {known : List String} {error : Nat → String → GraphError} {j : Nat}
    {entries : List String} (valid : checkEntries known error j entries = .ok ()) :
    ∀ entry ∈ entries, entry ∈ known := by
  induction entries generalizing j with
  | nil => simp
  | cons entry rest ih =>
    simp only [checkEntries] at valid
    split at valid
    · exact forall_mem_cons.mpr ⟨‹_›, ih valid⟩
    · cases valid

theorem validateRules_spec {texts : GoText} {subjectNames predicateNames : List String} {i : Nat}
    {seen : List String} {rules : List GoRule}
    (valid : validateRules texts subjectNames predicateNames i seen rules = .ok ()) :
    ∀ r ∈ rules, r.domain ∈ validDomains ∧ r.verb ∈ validVerbs ∧
      (∀ ref ∈ r.subjectRefs, ref ∈ subjectNames) ∧
      (∀ ref ∈ r.predicateRefs, ref ∈ predicateNames) ∧
      (∀ target ∈ r.targets, target ∈ validTargets) := by
  induction rules generalizing i seen with
  | nil => simp
  | cons r rest ih =>
    simp only [validateRules] at valid
    split at valid
    · cases valid
    · split at valid
      · cases valid
      · obtain ⟨_, ruleValid, restValid⟩ := bind_eq_ok valid
        refine forall_mem_cons.mpr ⟨?_, ih restValid⟩
        obtain ⟨_, domainValid, afterDomain⟩ := bind_eq_ok ruleValid
        obtain ⟨_, verbValid, afterVerb⟩ := bind_eq_ok afterDomain
        obtain ⟨_, subjectRefs, afterSubjects⟩ := bind_eq_ok afterVerb
        obtain ⟨_, predicateRefs, afterPredicates⟩ := bind_eq_ok afterSubjects
        obtain ⟨_, targets, _⟩ := bind_eq_ok afterPredicates
        exact ⟨not_not.mp (refuseIf_eq_ok domainValid), not_not.mp (refuseIf_eq_ok verbValid),
          checkEntries_spec subjectRefs, checkEntries_spec predicateRefs,
          checkEntries_spec targets⟩

theorem Graph.accepted_of_validate {texts : GoText} {g : Graph}
    (valid : g.validate texts = .ok ()) : g.Accepted := by
  obtain ⟨_, defaultValid, afterDefault⟩ := bind_eq_ok valid
  obtain ⟨subjectNames, subjectsValid, afterSubjects⟩ := bind_eq_ok afterDefault
  obtain ⟨predicateNames, predicatesValid, afterPredicates⟩ := bind_eq_ok afterSubjects
  obtain ⟨_, rulesValid, _⟩ := bind_eq_ok afterPredicates
  obtain ⟨rfl, subjectsNodup, subjectsNamed⟩ :=
    names_of_validated (fun _ _ => rfl) validateSubjects_cons nodup_nil subjectsValid
  obtain ⟨rfl, predicatesNodup, predicatesNamed⟩ :=
    names_of_validated (fun _ _ => rfl) validatePredicates_cons nodup_nil predicatesValid
  rw [append_nil, nodup_reverse] at subjectsNodup predicatesNodup
  refine ⟨not_not.mp (refuseIf_eq_ok defaultValid), subjectsNodup, subjectsNamed,
    predicatesNodup, predicatesNamed, fun r member => ?_⟩
  obtain ⟨domain, verb, subjectRefs, predicateRefs, targets⟩ :=
    validateRules_spec rulesValid r member
  refine ⟨domain, verb, fun ref listed => ?_, fun ref listed => ?_, targets⟩
  · simpa using subjectRefs ref listed
  · simpa using predicateRefs ref listed

/-- **Every graph `parseGraph` returns is accepted.** -/
theorem parseGraph_accepted {texts : GoText} {raw : Option Json} {g : Graph}
    (parsed : parseGraph texts raw = .ok g) : g.Accepted := by
  cases raw with
  | none =>
    cases parsed
    exact ⟨by decide, nodup_nil, nofun, nodup_nil, nofun, nofun⟩
  | some document =>
    simp only [parseGraph] at parsed
    split at parsed
    · cases parsed
    · split at parsed
      · cases parsed
      · cases parsed
        exact Graph.accepted_of_validate ‹_›

/-! ## Selection -/

def domainTargets (domain : String) : List BundleTarget :=
  if domain = "ngfw" then [.edge]
  else if domain = "swg" ∨ domain = "inline_casb" then [.edge, .cloud]
  else if domain = "dns" then [.edge, .cloud, .endpoint]
  else if domain = "ztna" then [.edge, .cloud, .endpoint, .mobile]
  else if domain = "sdwan" then [.edge, .endpoint]
  else if domain = "dlp" then [.edge, .cloud, .endpoint]
  else []

/-- The rule goes into the bundle of `target`: explicit targets win over the
domain routing. -/
def GoRule.selectedFor (target : BundleTarget) (r : GoRule) : Bool :=
  if r.targets ≠ [] then r.targets.contains target.asStr
  else (domainTargets r.domain).contains target

def compileTarget (target : BundleTarget) (rules : List GoRule) : List GoRule :=
  rules.filter (·.selectedFor target)

end ShieldNet.Policy
