import ShieldNet.Edge.Puller
import ShieldNet.Firewall.Engine

/-!
# Publishing bundles on the edge

The publisher of `crates/sng-edge/src/supervisor.rs` swaps a bundle into the policy
engine and hands the rule set compiled from it to the firewall over a watch channel.
The install loop of `crates/sng-edge/src/subsystems/fw.rs` takes the latest rule set
from the channel and installs it.

Older graph versions are refused against replay in three places: by the puller, by
the swap, which the publisher does not force, and by the install. A bundle of an older
version that is served again changes nothing, however often it is published and
whatever the install loop does in between (`older_bundle_refused`).
-/

namespace ShieldNet.Edge

open Policy (BundleTarget LoadedBundle PolicyEngine RawBundle RustText SwapError)
open Firewall (CompiledRuleSet NatTable ZoneTable)

/-- The engines of the edge, and the watch channel between them. -/
structure EdgeState where
  policy : PolicyEngine
  ruleset : Option CompiledRuleSet
  /-- The channel has a rule set that the install loop has not seen. -/
  changed : Bool
  firewall : Option CompiledRuleSet

open EdgeState

inductive PublishError where
  /-- "policy_eval swap rejected bundle". -/
  | swapRejected (error : SwapError)
  /-- "edge bundle publisher rejected non-Edge bundle target". -/
  | wrongTarget (target : BundleTarget)

/-- What the edge has from elsewhere: the text functions and the MessagePack decoder of
its libraries, and the digest of a rendered script. -/
structure EdgeLibraries where
  text : RustText
  decode : List UInt8 → Option RawBundle
  digest : CompiledRuleSet → List UInt8

/-- An event on the edge: a bundle is published, or the install loop takes its turn. -/
inductive EdgeEvent where
  | publish (target : BundleTarget) (body : List UInt8)
  | installTurn (applies : Bool)
  deriving DecidableEq

namespace EdgeState

variable (libraries : EdgeLibraries) (edge : EdgeState)

def publish (target : BundleTarget) (body : List UInt8) : Except PublishError Unit × EdgeState :=
  match target with
  | .edge =>
    match edge.policy.swap libraries.text libraries.decode body false with
    | .error e => (.error (.swapRejected e), edge)
    | .ok policy =>
      match Firewall.compile policy.bundle ZoneTable.default NatTable.default with
      | .ok compiled => (.ok (), { edge with policy, ruleset := some compiled, changed := true })
      -- the data path keeps its rule set
      | .error _ => (.ok (), { edge with policy })
  | .endpoint | .cloud | .mobile => (.error (.wrongTarget target), edge)

/-- A turn of the install loop; the kernel decides whether a script applies. -/
def installTurn (applies : Bool) : EdgeState :=
  if edge.changed then
    match edge.ruleset with
    | none => { edge with changed := false }
    | some compiled =>
      { edge with
        changed := false
        firewall := (Firewall.install libraries.digest applies edge.firewall compiled).2 }
  else edge

def step : EdgeEvent → EdgeState
  | .publish target body => (edge.publish libraries target body).2
  | .installTurn applies => edge.installTurn libraries applies

def run (events : List EdgeEvent) : EdgeState := events.foldl (step libraries) edge

end EdgeState

def EdgeEvent.isInstallTurn : EdgeEvent → Bool
  | .publish .. => false
  | .installTurn _ => true

/-! ## What events do -/

section Events

variable {libraries : EdgeLibraries} {edge published : EdgeState} {body : List UInt8}
  {loaded : LoadedBundle}

section

variable (loads :
  LoadedBundle.ofBytes libraries.text libraries.decode body edge.policy.target = .ok loaded)
include loads

/-- A bundle that the publisher takes is the one that the policy engine evaluates. -/
theorem publish_ok (accepted : edge.publish libraries .edge body = (.ok (), published)) :
    published.policy = { edge.policy with bundle := loaded } := by
  unfold publish PolicyEngine.swap at accepted
  rw [loads] at accepted
  dsimp only at accepted
  rw [if_neg Bool.false_ne_true] at accepted
  split at accepted
  case h_1 => cases accepted
  case h_2 policy swapped =>
    split at swapped
    case isTrue => cases swapped
    cases swapped
    split at accepted
    case h_1 => cases accepted; rfl
    case h_2 => cases accepted; rfl

/-- A bundle older than that of the policy engine is refused, and nothing changes. -/
theorem publish_older (older : loaded.graphVersion < edge.policy.bundle.graphVersion) :
    edge.publish libraries .edge body =
      (.error (.swapRejected (.stale loaded.graphId loaded.graphVersion
        edge.policy.bundle.graphVersion)), edge) := by
  unfold publish PolicyEngine.swap
  rw [loads]
  dsimp only
  rw [if_neg Bool.false_ne_true, if_pos older]

end

theorem policy_installTurn (applies : Bool) :
    (edge.installTurn libraries applies).policy = edge.policy := by
  unfold installTurn
  split
  case isTrue => split <;> rfl
  case isFalse => rfl

end Events

/-- **Older bundles that are served again change nothing**: the policy engine stays where
it is, and the edge ends where the turns of the install loop alone take it. -/
theorem run_older {libraries : EdgeLibraries} {edge : EdgeState} {older : List UInt8}
    {loaded : LoadedBundle}
    (loads : LoadedBundle.ofBytes libraries.text libraries.decode older edge.policy.target =
      .ok loaded)
    (isOlder : loaded.graphVersion < edge.policy.bundle.graphVersion) {events : List EdgeEvent}
    (served : ∀ event ∈ events, event = .publish .edge older ∨ event.isInstallTurn) :
    (edge.run libraries events).policy = edge.policy ∧
      edge.run libraries events = edge.run libraries (events.filter EdgeEvent.isInstallTurn) := by
  induction events generalizing edge with
  | nil => exact ⟨rfl, rfl⟩
  | cons event rest ih =>
    rw [List.forall_mem_cons] at served
    rcases served.1 with rfl | turn
    · have unchanged : edge.step libraries (.publish .edge older) = edge := by
        rw [step, publish_older loads isOlder]
      rw [run, List.foldl_cons, unchanged]
      exact ih loads isOlder served.2
    · cases event with
      | publish => cases turn
      | installTurn applies =>
        have same : (edge.step libraries (.installTurn applies)).policy = edge.policy :=
          policy_installTurn applies
        rw [← same] at loads isOlder
        obtain ⟨policy, turns⟩ := ih loads isOlder served.2
        exact ⟨policy.trans same, turns⟩

/-- **An older bundle is refused**: once the publisher has taken a bundle, a bundle of an
older graph version is refused as stale each time it is served, however the install
loop runs in between. The policy engine goes on with the newer bundle, and the firewall
ends with the rule set it would have had if the older one had not been served. -/
theorem older_bundle_refused (libraries : EdgeLibraries) (edge published : EdgeState)
    (older newer : List UInt8) (first second : LoadedBundle)
    (loadsOlder : LoadedBundle.ofBytes libraries.text libraries.decode older edge.policy.target =
      .ok first)
    (loadsNewer : LoadedBundle.ofBytes libraries.text libraries.decode newer edge.policy.target =
      .ok second) (isOlder : first.graphVersion < second.graphVersion)
    (accepted : edge.publish libraries .edge newer = (.ok (), published)) (events : List EdgeEvent)
    (served : ∀ event ∈ events, event = .publish .edge older ∨ event.isInstallTurn = true) :
    (published.run libraries events).publish libraries .edge older =
        (.error (.swapRejected (.stale first.graphId first.graphVersion second.graphVersion)),
          published.run libraries events) ∧
      (published.run libraries events).policy.bundle = second ∧
      published.run libraries events =
        published.run libraries (events.filter EdgeEvent.isInstallTurn) := by
  have policy := publish_ok loadsNewer accepted
  have bundle : published.policy.bundle = second := by rw [policy]
  have loads : LoadedBundle.ofBytes libraries.text libraries.decode older published.policy.target =
      .ok first := by rw [policy]; exact loadsOlder
  obtain ⟨same, turns⟩ := run_older loads (bundle ▸ isOlder) served
  have reached : (published.run libraries events).policy.bundle = second := by rw [same, bundle]
  refine ⟨?_, reached, turns⟩
  rw [publish_older (same ▸ loads) (reached ▸ isOlder), reached]

def sampleRaw (version : Int) : RawBundle := ⟨1, .edge, "g", version, "c", "deny", none, none⟩

def sampleLibraries : EdgeLibraries where
  text := ⟨fun _ => none, fun _ => none, fun _ => true⟩
  decode
    | [version] => some (sampleRaw version.toNat)
    | _ => none
  digest _ := []

def sampleBundle (version : Int) : LoadedBundle :=
  .assemble sampleLibraries.text (sampleRaw version) []

def sampleEdge : EdgeState := ⟨⟨.edge, sampleBundle 0⟩, none, false, none⟩

def sampleEvents : List EdgeEvent :=
  [.publish .edge [1], .installTurn true, .publish .edge [2], .installTurn true]

theorem first_bundle_refused :
    let events : List EdgeEvent := [.installTurn true, .publish .edge [1], .installTurn true]
    let published := sampleEdge.run sampleLibraries (sampleEvents.take 3)
    (published.run sampleLibraries events).publish sampleLibraries .edge [1] =
        (.error (.swapRejected (.stale "g" 1 2)), published.run sampleLibraries events) ∧
      (published.run sampleLibraries events).policy.bundle = sampleBundle 2 ∧
      published.run sampleLibraries events =
        published.run sampleLibraries (events.filter EdgeEvent.isInstallTurn) :=
  older_bundle_refused sampleLibraries (sampleEdge.run sampleLibraries (sampleEvents.take 2)) _ [1]
    [2] (sampleBundle 1) (sampleBundle 2) rfl rfl (by decide) rfl _ (by decide)

/-- **A rollback does not reach the edge.** The edge has loaded the newer bundle; the
older one, served again, is refused, and both engines are left with the newer. -/
theorem rollback_leaves_newer_bundle : let edge := sampleEdge.run sampleLibraries sampleEvents
    (edge.publish sampleLibraries .edge [1]).1 = .error (.swapRejected (.stale "g" 1 2)) ∧
      (edge.run sampleLibraries [.publish .edge [1], .installTurn true]).policy.bundle.graphVersion
        = 2 ∧
      (edge.run sampleLibraries [.publish .edge [1], .installTurn true]).firewall.map
        (fun installed => installed.sourceGraphVersion) = some 2 :=
  ⟨rfl, rfl, rfl⟩

/-! ## The pull loop with this publisher -/

def edgePull (libraries : EdgeLibraries) (codecs : Codecs) : PullConfig EdgeState PublishError where
  codecs
  target := .edge
  publish edge target body := edge.publish libraries target body

end ShieldNet.Edge
