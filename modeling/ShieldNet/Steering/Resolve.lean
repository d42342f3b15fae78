import ShieldNet.Policy.Graph
import ShieldNet.Steering.Table
import Mathlib.Data.Prod.Lex

/-!
# Traffic classes on the control plane

`internal/service/appdb/service.go`: the resolver that answers for a domain
(`resolveTrafficClass`), and the snapshot and compiler that turn the same data
into the per-class rule set of a bundle (`newSteeringSnapshot`,
`compileForTarget`).

The lower-casing of runes beyond ASCII and the region taxonomy are parameters:
nothing here depends on more than that they are functions.
-/

namespace ShieldNet.Steering

/-! ## Data -/

/-- `repository.AppRegistry`, the fields the resolver and the compiler read.
`regions` is `none` for an app that is not of regional scope. -/
structure AppRegistry where
  id : Nat
  trafficClass : TrafficClass
  regions : Option (List String)
  domains : List Text
  ipRanges : List String

/-- `repository.AppRegistryOverride`. Without an app id it carries domains of
its own. -/
structure AppRegistryOverride where
  appId : Option Nat
  customDomains : List Text
  trafficClassOverride : TrafficClass
  expiresAt : Option Int

/-- What both sides read: the catalog in its stored order, the tenant's
overrides in theirs, the tenant's region group when it is known, the taxonomy,
the rune mapping and the clock. Ids are the primary key of the catalog. -/
structure Inputs where
  apps : List AppRegistry
  ids : (apps.map AppRegistry.id).Nodup
  overrides : List AppRegistryOverride
  group : Option String
  groupFor : String → Option String
  runeLower : Char → Char
  now : Int

namespace Inputs

variable (inputs : Inputs)

/-! ## Text -/

def toLower (text : Text) : Text := text.map inputs.runeLower

variable (domain : Text)

def normaliseDomain : Text :=
  let lowered := inputs.toLower (Text.trimSpace domain)
  (Text.stripSuffix ['.'] lowered).getD lowered

def matchesPattern (domain pattern : Text) : Bool :=
  let lowered := inputs.toLower (Text.trimSpace pattern)
  if lowered = [] then false
  else
    match Text.stripPrefix ['*', '.'] lowered with
    | some base => domain == base || ('.' :: base).isSuffixOf domain
    | none => domain == lowered

def matchAny (patterns : List Text) : Bool := patterns.any (inputs.matchesPattern domain)

/-! ## Regions and overrides -/

def appliesToRegion (app : AppRegistry) : Bool :=
  match app.regions with
  | none => true
  | some regions =>
    match inputs.group with
    | none => false
    | some group => regions.any fun region => inputs.groupFor region == some group

def regionalApps : List AppRegistry := inputs.apps.filter inputs.appliesToRegion

variable (ov : AppRegistryOverride)

def live : Bool := ov.expiresAt.all (inputs.now < ·)

/-- `appsByID[id]`: the last row stored under the id. -/
def appById (id : Nat) : Option AppRegistry := inputs.apps.reverse.find? fun app => app.id == id

/-- The patterns an override speaks for; none when its app is gone. -/
def overridePatterns : List Text :=
  match ov.appId with
  | none => ov.customDomains
  | some id => ((inputs.appById id).map AppRegistry.domains).getD []

/-! ## Resolving -/

def overrideHits : Bool := inputs.live ov && inputs.matchAny domain (inputs.overridePatterns ov)

/-- The score of a catalog pattern: its length in bytes, then whether it is a
literal. Both are taken from the stored text. -/
def score (pattern : Text) : Nat ×ₗ Bool :=
  toLex (SteeringTable.byteLen pattern, !(['*', '.'].isPrefixOf pattern))

/-- The patterns of the regional catalog that match, with their classes, in
catalog order. -/
def catalogHits : List (Text × TrafficClass) := inputs.regionalApps.flatMap fun app =>
    (app.domains.filter (inputs.matchesPattern domain)).map fun pattern =>
      (pattern, app.trafficClass)

/-- `resolveTrafficClass`; `none` is the error on an empty domain. -/
def resolveTrafficClass : Option TrafficClass :=
  let domain := inputs.normaliseDomain domain
  if domain = [] then none
  else
    match inputs.overrides.find? (inputs.overrideHits domain) with
    | some ov => some ov.trafficClassOverride
    | none =>
      match firstMax (fun hit => score hit.1) (inputs.catalogHits domain) with
      | some hit => some hit.2
      | none => some .inspectFull

/-! ## Compiling -/

/-- `overrideByApp[id]`: the last live override of the app. -/
def overrideByApp (id : Nat) : Option AppRegistryOverride :=
  (inputs.overrides.filter fun ov => inputs.live ov && ov.appId == some id).getLast?

def customs : List AppRegistryOverride :=
  inputs.overrides.filter fun ov => inputs.live ov && ov.appId == none

/-- The apps outside the region that an override targets, each id once. -/
def overriddenApps (seen : List Nat) : List AppRegistry → List AppRegistry
  | [] => []
  | app :: rest =>
    if (inputs.overrideByApp app.id).isNone then overriddenApps seen rest
    else if app.id ∈ seen then overriddenApps seen rest
    else app :: overriddenApps (app.id :: seen) rest

def compileApps : List AppRegistry := inputs.regionalApps ++
    inputs.overriddenApps (inputs.regionalApps.map AppRegistry.id) inputs.apps

def effectiveClass (app : AppRegistry) : TrafficClass :=
  ((inputs.overrideByApp app.id).map AppRegistryOverride.trafficClassOverride).getD app.trafficClass

def sortedKeys (keys : List Text) : List Text :=
  keys.dedup.insertionSort fun first second => ¬second < first

/-- The domains of one class before sorting: those of the apps compiled into
it, then those of the custom overrides. -/
def bucketDomains (trafficClass : TrafficClass) : List Text :=
  ((inputs.compileApps.filter fun app => inputs.effectiveClass app == trafficClass).flatMap
    AppRegistry.domains ++
  (inputs.customs.filter fun ov => ov.trafficClassOverride == trafficClass).flatMap
    AppRegistryOverride.customDomains).map inputs.toLower

def bucketRanges (trafficClass : TrafficClass) : List String :=
  (inputs.compileApps.filter fun app => inputs.effectiveClass app == trafficClass).flatMap
    AppRegistry.ipRanges

def targetWantsClass : Policy.BundleTarget → TrafficClass → Bool
  | .edge, _ => true
  | .cloud, trafficClass => trafficClass ∈ [.inspectFull, .tunnelPrivate, .block]
  | .endpoint, _ => true
  | .mobile, trafficClass => trafficClass ∈ [.tunnelPrivate, .block]

def compileForTarget (target : Policy.BundleTarget) : SteeringRuleSet where
  classes := (TrafficClass.all.filter (targetWantsClass target)).map fun trafficClass =>
    { trafficClass
      domains := sortedKeys (inputs.bucketDomains trafficClass)
      ipRanges := (inputs.bucketRanges trafficClass).dedup.insertionSort
        fun first second => ¬second < first }

end Inputs

end ShieldNet.Steering
