import Mathlib.Order.Lattice
import ShieldNet.Ha.Failover

/-!
# Two masters

`VrrpInstance::handle` of `crates/sng-ha/src/vrrp.rs`. What a router sends depends on nothing that
`handle` changes, so whatever a network loses, repeats or reorders, each of two routers handles
some list of the same two advertisements. Of an address only the order is used. The start of a
router, releases and the frames are left out.
-/

namespace ShieldNet.Ha

structure VrrpAdvertisement (α : Type) where
  virtualRouterId : UInt8
  priority : UInt8
  advertisementInterval : Nat
  source : α

structure VrrpConfig where
  virtualRouterId : UInt8
  advertisementInterval : Nat
  preemptMode : Bool

inductive MasterDown where
  | leave
  | resetFull
  | resetSkew

structure Transition where
  roleChange : Option RoleChange := none
  sendAdvertisement : Bool := false
  masterDown : MasterDown := .leave

inductive VrrpEvent (α : Type) where
  | advertisementTimer
  | masterDownTimer
  | advertisement (adv : VrrpAdvertisement α)

structure VrrpInstance (α : Type) where
  config : VrrpConfig
  state : VrrpState
  effectivePriority : UInt8
  localAddr : α

variable {α : Type} [LinearOrder α]

/-- The rank of a router: by priority, then by address. -/
def VrrpAdvertisement.Outranks (adv other : VrrpAdvertisement α) : Prop :=
  other.priority < adv.priority ∨ adv.priority = other.priority ∧ other.source < adv.source

theorem VrrpAdvertisement.Outranks.not_symm {adv other : VrrpAdvertisement α}
    (ranked : adv.Outranks other) : ¬ other.Outranks adv := by
  unfold Outranks at *
  grind

namespace VrrpInstance

variable (node : VrrpInstance α)

def advertisement : VrrpAdvertisement α :=
  ⟨node.config.virtualRouterId, node.effectivePriority, node.config.advertisementInterval,
    node.localAddr⟩

def peerOutranks (adv : VrrpAdvertisement α) : Bool := adv.priority > node.effectivePriority ||
    (adv.priority = node.effectivePriority && adv.source > node.localAddr)

def onAdvertisement (adv : VrrpAdvertisement α) : VrrpInstance α × Transition :=
  if adv.virtualRouterId ≠ node.config.virtualRouterId then (node, {})
  else match node.state with
    | .initializing => (node, {})
    | .master =>
      if node.peerOutranks adv then
        ({ node with state := .backup }, { roleChange := some .demoted })
      else if adv.priority = 0 then (node, { sendAdvertisement := true })
      else (node, {})
    | .backup =>
      if adv.priority = 0 then (node, { masterDown := .resetSkew })
      else if node.config.preemptMode && adv.priority < node.effectivePriority then (node, {})
      else (node, { masterDown := .resetFull })

def handle (event : VrrpEvent α) : VrrpInstance α × Transition :=
  match event, node.state with
  | .advertisementTimer, .master => (node, { sendAdvertisement := true })
  | .masterDownTimer, .backup =>
    ({ node with state := .master }, { roleChange := some .promoted, sendAdvertisement := true })
  | .advertisement adv, _ => node.onAdvertisement adv
  | _, _ => (node, {})

variable {node} {adv : VrrpAdvertisement α}

theorem peerOutranks_iff : node.peerOutranks adv ↔ adv.Outranks node.advertisement := by
  simp [peerOutranks, VrrpAdvertisement.Outranks, advertisement]

theorem handle_outranked (router : adv.virtualRouterId = node.config.virtualRouterId)
    (master : node.state = .master) (above : node.peerOutranks adv) :
    (node.handle (.advertisement adv)).1 = { node with state := .backup } := by
  simp [handle, onAdvertisement, router, master, above]

theorem handle_kept (kept : node.state = .master → ¬ adv.Outranks node.advertisement) :
    (node.handle (.advertisement adv)).1 = node := by
  rw [← peerOutranks_iff] at kept
  rw [handle, onAdvertisement]
  (repeat' split) <;> simp_all

theorem handle_timer : (node.handle .advertisementTimer).1 = node := by
  cases state : node.state <;> simp [handle, state]

def after (node : VrrpInstance α) (events : List (VrrpEvent α)) : VrrpInstance α :=
  events.foldl (fun node event => (node.handle event).1) node

/-- What a router handles where two of them send, while no master-down timer fires. -/
def Heard (first second : VrrpInstance α) (event : VrrpEvent α) : Prop :=
  event = .advertisementTimer ∨ event = .advertisement first.advertisement ∨
    event = .advertisement second.advertisement

theorem after_heard {first second : VrrpInstance α} {events : List (VrrpEvent α)}
    (heard : ∀ event ∈ events, Heard first second event)
    (kept : node.state = .master → ¬ first.advertisement.Outranks node.advertisement ∧
      ¬ second.advertisement.Outranks node.advertisement) : node.after events = node := by
  induction events with
  | nil => rfl
  | cons event rest ih =>
    rw [List.forall_mem_cons] at heard
    have same : (node.handle event).1 = node := by
      rcases heard.1 with rfl | rfl | rfl
      · exact handle_timer
      · exact handle_kept fun master => (kept master).1
      · exact handle_kept fun master => (kept master).2
    rw [after, List.foldl_cons, same]
    exact ih heard.2

end VrrpInstance

open VrrpInstance

/-- **Split brain resolves to the better router.** What two masters send changes nothing about the
better one, and makes the worse one a backup once and for all. -/
theorem split_brain_resolves (better worse : VrrpInstance α) (events : List (VrrpEvent α))
    (router : better.config.virtualRouterId = worse.config.virtualRouterId)
    (masters : better.state = .master ∧ worse.state = .master)
    (ranked : better.advertisement.Outranks worse.advertisement)
    (heard : ∀ event ∈ events, Heard better worse event) :
    better.after events = better ∧ (.advertisement better.advertisement ∈ events →
      worse.after events = { worse with state := .backup }) := by
  have itself (node : VrrpInstance α) : ¬ node.advertisement.Outranks node.advertisement :=
    fun above => above.not_symm above
  refine ⟨after_heard heard fun _ => ⟨itself better, ranked.not_symm⟩, fun listed => ?_⟩
  induction events with
  | nil => cases listed
  | cons event rest ih =>
    rw [List.forall_mem_cons] at heard
    rw [after, List.foldl_cons]
    rw [List.mem_cons] at listed
    rcases heard.1 with rfl | rfl | rfl
    · rw [handle_timer]
      exact ih heard.2 (listed.resolve_left nofun)
    · rw [handle_outranked router masters.2 (peerOutranks_iff.mpr ranked)]
      exact after_heard heard.2 nofun
    · rw [handle_kept fun _ => itself worse]
      refine ih heard.2 (listed.resolve_left fun same => ?_)
      exact itself worse (VrrpEvent.advertisement.inj same ▸ ranked)

def defaultMaster (addr : Nat) : VrrpInstance Nat := ⟨⟨1, 1000, true⟩, .master, 100, addr⟩

def announced : List (VrrpEvent Nat) :=
  let adv := .advertisement (defaultMaster 2).advertisement
  [adv, .advertisementTimer, adv]

theorem higher_address_wins : (defaultMaster 2).after announced = defaultMaster 2 ∧
    (defaultMaster 1).after announced = { defaultMaster 1 with state := .backup } :=
  (split_brain_resolves (defaultMaster 2) (defaultMaster 1) announced rfl ⟨rfl, rfl⟩
    (.inr ⟨rfl, by decide⟩) (by simp [announced, Heard])).imp_right
      fun resolved => resolved List.mem_cons_self

end ShieldNet.Ha
