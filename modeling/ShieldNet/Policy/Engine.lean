import ShieldNet.Policy.Bundle

/-!
# Evaluating a flow

`PolicyEngine::evaluate` of `crates/sng-policy-eval/src/engine.rs`: rules are
tried in order, a rule fires when every subject and every predicate on it
matches, references are looked up in the bundle's vertex indices, and the
default verb answers when no rule fires. `PolicyEngine::swap` replaces the bundle,
and refuses an older one unless it is forced.
-/

namespace ShieldNet.Policy

/-- `Flow`. Absent fields carry no information. -/
structure Flow where
  enforcementDomain : EnforcementDomain
  user : Option String
  device : Option String
  app : Option String
  site : Option String
  sourceIp : Option IpAddr
  destinationHost : Option Text
  destinationIp : Option IpAddr
  context : List (String × String)

inductive Verdict where
  | allow
  | deny
  | inspect
  | steer (trafficClass : TrafficClass)
  | decrypt
  | log
  | suggestOnly (suggestion : Verb)

def subjectMatchesFlow (subject : Subject) (flow : Flow) : Bool :=
  match subject.kind with
  | .user => flow.user.any subject.matcher.matchesString
  | .device => flow.device.any subject.matcher.matchesString
  | .app => flow.app.any subject.matcher.matchesString
  | .site => flow.site.any subject.matcher.matchesString
  | .network => flow.sourceIp.any subject.matcher.matchesIp

variable (text : RustText)

def predicateMatchesFlow (predicate : Predicate) (flow : Flow) : Bool :=
  predicate.matcher.matchesContext text flow.context

/-- Every reference resolves to a subject that matches, and
every inline subject matches. -/
def subjectsMatch (rule : Rule) (flow : Flow) (bundle : LoadedBundle) : Bool :=
  (rule.subjectRefs.all fun name =>
    (FirstWins.get? bundle.namedSubjects name).any (subjectMatchesFlow · flow)) &&
  rule.subjects.all (subjectMatchesFlow · flow)

def predicatesMatch (rule : Rule) (flow : Flow) (bundle : LoadedBundle) : Bool :=
  (rule.predicateRefs.all fun name =>
    (FirstWins.get? bundle.namedPredicates name).any (predicateMatchesFlow text · flow)) &&
  rule.predicates.all (predicateMatchesFlow text · flow)

def ruleMatches (rule : Rule) (flow : Flow) (bundle : LoadedBundle) : Bool :=
  subjectsMatch rule flow bundle && predicatesMatch text rule flow bundle

def steeringClassForFlow (flow : Flow) (bundle : LoadedBundle) : TrafficClass :=
  ((flow.destinationHost.bind bundle.steering.classForHost).or
    (flow.destinationIp.bind bundle.steering.classForIp)).getD .defaultConservative

def verbToVerdict (verb : Verb) (suggestedVerb : Option Verb) (flow : Flow)
    (bundle : LoadedBundle) : Verdict :=
  match verb with
  | .allow => .allow
  | .deny => .deny
  | .decrypt => .decrypt
  | .log => .log
  | .inspect => .inspect
  | .steer => .steer (steeringClassForFlow flow bundle)
  | .suggestOnly =>
    match suggestedVerb with
    | some .suggestOnly => .allow
    | some suggestion => .suggestOnly suggestion
    | none => .allow

def evaluate (bundle : LoadedBundle) (flow : Flow) : Verdict :=
  match bundle.rules.find? fun rule =>
      rule.domain == flow.enforcementDomain && ruleMatches text rule flow bundle with
  | some rule => verbToVerdict rule.verb rule.suggestedVerb flow bundle
  | none => verbToVerdict bundle.defaultVerb none flow bundle

/-! ## Swapping the bundle -/

/-- `PolicyEvalError`, the errors of `swap`; the bundle id of `Stale` is read off the
graph id. -/
inductive SwapError where
  | envelopeDecode
  | load (error : PolicyEvalError)
  | stale (graphId : String) (found current : Int)

structure PolicyEngine where
  target : BundleTarget
  bundle : LoadedBundle

variable (decode : List UInt8 → Option RawBundle)

/-- `LoadedBundle::from_body` from the bytes; `decode` is the MessagePack decoder. -/
def LoadedBundle.ofBytes (body : List UInt8) (target : BundleTarget)
    : Except SwapError LoadedBundle :=
  match decode body with
  | none => .error .envelopeDecode
  | some raw => (LoadedBundle.fromBody text raw target).mapError .load

def PolicyEngine.swap (engine : PolicyEngine) (body : List UInt8) (force : Bool)
    : Except SwapError PolicyEngine :=
  match LoadedBundle.ofBytes text decode body engine.target with
  | .error e => .error e
  | .ok next =>
    if force then .ok { engine with bundle := next }
    else if next.graphVersion < engine.bundle.graphVersion then
      .error (.stale next.graphId next.graphVersion engine.bundle.graphVersion)
    else .ok { engine with bundle := next }

end ShieldNet.Policy
