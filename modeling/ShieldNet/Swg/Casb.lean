import ShieldNet.Swg.HostLists

/-!
# Inline CASB

A request to a SaaS app is recognised by the suffix of its target and by method
and path (`crates/sng-swg/src/casb.rs`); the first rule for the app and the action
decides (`casb_rules.rs`). The target is the SNI where there is one, and the host
otherwise.

What the inspector says depends on the target through the suffixes of the catalog
alone (`inspect_congr`).
-/

namespace ShieldNet.Swg

open Text (asciiLower)

/-! ## Rules -/

inductive CasbAction where
  | upload
  | download
  | share
  | delete
  | login
  | adminConfigChange
  | apiKeyCreate
  | externalShare
  | bulkExport
  deriving DecidableEq

def CasbAction.asStr : CasbAction → String
  | .upload => "upload"
  | .download => "download"
  | .share => "share"
  | .delete => "delete"
  | .login => "login"
  | .adminConfigChange => "admin_config_change"
  | .apiKeyCreate => "api_key_create"
  | .externalShare => "external_share"
  | .bulkExport => "bulk_export"

inductive CasbVerdict where
  | allow
  | block
  | log

/-- Conditions that are not set hold of every request. -/
structure CasbConditions where
  fileType : Option Text := none
  sizeThreshold : Option Nat := none
  labelMatch : Option Text := none

structure CasbRequestMeta where
  appId : Text
  action : CasbAction
  fileType : Option Text
  sizeBytes : Option Nat
  label : Option Text

/-- A request about which nothing is known never meets a condition on it. -/
def CasbConditions.hold (conditions : CasbConditions) (info : CasbRequestMeta) : Bool :=
  (conditions.fileType.all fun wanted => info.fileType.any fun got => eqIgnoreCase got wanted) &&
  (conditions.sizeThreshold.all fun threshold => info.sizeBytes.any fun size => threshold ≤ size) &&
  conditions.labelMatch.all fun wanted => info.label.any fun got => eqIgnoreCase got wanted

structure CasbRule where
  id : Text
  appId : Text
  action : CasbAction
  verdict : CasbVerdict
  conditions : CasbConditions
  priority : Int

def CasbRule.appliesTo (rule : CasbRule) (info : CasbRequestMeta) : Bool :=
  rule.action = info.action && (rule.appId = "*".toList || eqIgnoreCase rule.appId info.appId) &&
    rule.conditions.hold info

structure CasbDecision where
  verdict : CasbVerdict
  ruleId : Text
  appId : Text
  action : CasbAction

structure CasbRuleSet where
  rules : List CasbRule

namespace CasbRuleSet

/-- Higher priorities first, then by app, action and id. -/
def walksBefore (one two : CasbRule) : Bool :=
  if one.priority ≠ two.priority then two.priority < one.priority
  else if one.appId ≠ two.appId then one.appId < two.appId
  else if one.action ≠ two.action then one.action.asStr.toList < two.action.asStr.toList
  else one.id ≤ two.id

def new (rules : List CasbRule) : CasbRuleSet :=
  ⟨rules.insertionSort fun one two => walksBefore one two⟩

def evaluate (set : CasbRuleSet) (info : CasbRequestMeta) : Option CasbDecision :=
  (set.rules.find? fun rule => rule.appliesTo info).map fun rule =>
    ⟨rule.verdict, rule.id, info.appId, info.action⟩

end CasbRuleSet

/-! ## Recognising an app -/

structure PathRule where
  method : Option Text
  pathGlob : Text
  action : CasbAction
  filenameInPath : Bool

structure AppSignature where
  appId : Text
  hostSuffixes : List Text
  pathRules : List PathRule

structure DetectedApp where
  appId : Text
  action : CasbAction
  filenameInPath : Bool

/-- A star stands for one segment that is not empty. -/
def segmentsMatch : List Text → List Text → Bool
  | [], [] => true
  | glob :: globs, segment :: segments =>
    (if glob = "*".toList then segment ≠ [] else glob = segment) && segmentsMatch globs segments
  | _, _ => false

def pathGlobMatch (glob path : Text) : Bool := segmentsMatch (glob.splitOn '/') (path.splitOn '/')

/-- The slashes at the end do not count. -/
def matchPath (path : Text) : Text :=
  let trimmed := path.rdropWhile (· = '/')
  if trimmed = [] then "/".toList else trimmed

def fileTypeFromPath (path : Text) : Option Text := do
  let last ← (path.splitOn '/').getLast?
  let extension ← if '.' ∈ last then (last.splitOn '.').getLast? else none
  if extension = [] then none else some (asciiLower extension)

namespace AppSignature

variable (signature : AppSignature) (ctx : RequestContext)

/-- By the SNI where there is one. -/
def hostMatches : Bool :=
  signature.hostSuffixes.any fun suffix => sniSuffixMatch suffix (ctx.sni.getD ctx.host)

def classify : Option PathRule := signature.pathRules.find? fun rule =>
    (rule.method.all fun method => eqIgnoreCase ctx.method method) &&
      pathGlobMatch rule.pathGlob (matchPath ctx.path)

/-- The app and the action of a request, where the signature recognises it. -/
def detect : Option DetectedApp :=
  if signature.hostMatches ctx then
    (signature.classify ctx).map fun rule => ⟨signature.appId, rule.action, rule.filenameInPath⟩
  else none

end AppSignature

structure InspectorState where
  catalog : List AppSignature
  rules : CasbRuleSet

def CasbDecision.toVerdict (decision : CasbDecision) : Verdict :=
  let category := "casb.".toList ++ decision.appId ++ '.' :: decision.action.asStr.toList
  match decision.verdict with
  | .block => .denyCategorized category
  | .allow => .allowCategorized category
  | .log => ⟨.allow, "log.".toList ++ category, some category, none, none⟩

namespace InspectorState

def detect (state : InspectorState) (ctx : RequestContext) : Option DetectedApp :=
  state.catalog.findSome? fun signature => signature.detect ctx

def inspect (state : InspectorState) (ctx : RequestContext) (signals : RequestSignals) :
    Option Verdict := do
  let detected ← state.detect ctx
  let fileType := if detected.filenameInPath then fileTypeFromPath (matchPath ctx.path) else none
  let decision ← state.rules.evaluate
    ⟨detected.appId, detected.action, fileType, signals.contentLength, signals.sensitivityLabel⟩
  some decision.toVerdict

/-- **The target of a request counts only through the suffixes of the catalog.** -/
theorem inspect_congr {state : InspectorState} {first second : RequestContext}
    (hosts : ∀ signature ∈ state.catalog,
      signature.hostMatches first = signature.hostMatches second)
    (method : first.method = second.method) (path : first.path = second.path)
    (signals : RequestSignals) : state.inspect first signals = state.inspect second signals := by
  have each : ∀ signature ∈ state.catalog, signature.detect first = signature.detect second := by
    intro signature listed
    rw [AppSignature.detect, AppSignature.detect, hosts signature listed, AppSignature.classify,
      AppSignature.classify, method, path]
  have detected : state.detect first = state.detect second := by
    rw [detect, detect, ← List.head?_filterMap, List.filterMap_congr each, List.head?_filterMap]
  rw [inspect, inspect, detected, path]

/-- What CASB does not deny it allows. -/
theorem action_of_inspect {state : InspectorState} {ctx : RequestContext} {signals : RequestSignals}
    {verdict : Verdict} (found : state.inspect ctx signals = some verdict)
    (kept : verdict.action ≠ .deny) : verdict.action = .allow := by
  obtain ⟨detected, -, found⟩ := Option.bind_eq_some_iff.mp found
  obtain ⟨decision, -, found⟩ := Option.bind_eq_some_iff.mp found
  cases found
  revert kept
  unfold CasbDecision.toVerdict
  cases decision.verdict with
  | block => exact fun kept => absurd rfl kept
  | allow | log => exact fun _ => rfl

end InspectorState

end ShieldNet.Swg
