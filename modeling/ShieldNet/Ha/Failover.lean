import ShieldNet.Ha.Receiver

/-!
# Two nodes that fail over

`apply_transition` of `crates/sng-ha/src/lib.rs` with `SyncQueue`, `pump_to_writer` and
`pump_from_reader` of `crates/sng-ha/src/state_sync.rs`, on two nodes. Promotions,
demotions, pushes, flushes and streams are calls on the pair; each access to a gate, a
queue, the stored epoch or a stream is one step. Any write, read, flush or VIP command may
fail. What is on a stream is read in the order it was written, by the other node, and may
never be read at all.

A node that is promoted mints the epoch after the highest its own gate has seen. It learns
of the other node's epochs only from the fences in the other's flushes, and a flush with
nothing to send carries no fence. An epoch is above all that the other node has minted in
the runs where a node that is promoted has heard them (`successor_outranks`).

The election, the advertisements and the counters are left out.
-/

namespace ShieldNet.Ha

/-! ## The queue -/

structure SyncQueue (φ : Type) where
  records : List (SyncRecord φ)
  capacity : Nat
  lagged : Bool

namespace SyncQueue

variable {φ : Type}

def new (capacity : Nat) : SyncQueue φ := ⟨[], max capacity 1, false⟩

variable (queue : SyncQueue φ)

/-- A full queue loses its oldest record. -/
def push (record : SyncRecord φ) : SyncQueue φ :=
  if queue.capacity ≤ queue.records.length then
    { queue with records := queue.records.tail ++ [record], lagged := true }
  else { queue with records := queue.records ++ [record] }

def drainWithLag (batch : Nat) : (Bool × List (SyncRecord φ)) × SyncQueue φ :=
  ((queue.lagged, queue.records.take batch),
    { queue with records := queue.records.drop batch, lagged := false })

def markLagged : SyncQueue φ := { queue with lagged := true }

def resetLagged : SyncQueue φ := { queue with lagged := false }

end SyncQueue

/-! ## The pair -/

inductive Side where
  | a
  | b
  deriving DecidableEq

def Side.other : Side → Side
  | .a => .b
  | .b => .a

/-- `VrrpState` as it is published. -/
inductive VrrpState where
  | initializing
  | backup
  | master

/-- A node: its gate and tables, its queue, and what it publishes. `minted` is bookkeeping
of the model: the epochs it was promoted with, the last one first. -/
structure HaNode (φ : Type) where
  receiver : Receiver φ
  queue : SyncQueue φ
  role : VrrpState
  masterEpoch : UInt64
  minted : List UInt64

def HaNode.new (φ : Type) (capacity : Nat) : HaNode φ :=
  ⟨⟨.new, [], []⟩, .new capacity, .initializing, 0, []⟩

/-- The nodes, and what is under way on the streams that each of them writes. -/
structure HaPair (φ : Type) where
  node : Side → HaNode φ
  wire : Side → Nat → List (SyncRecord φ)

def HaPair.new (φ : Type) (capacity : Nat) : HaPair φ := ⟨fun _ => .new φ capacity, fun _ _ => []⟩

namespace HaPair

variable {φ : Type} (pair : HaPair φ) (side : Side) (node : HaNode φ)

def set : HaPair φ := { pair with node := Function.update pair.node side node }

def setWire (stream : Nat) (frames : List (SyncRecord φ)) : HaPair φ := { pair with
    wire := Function.update pair.wire side (Function.update (pair.wire side) stream frames) }

@[simp] theorem set_node_self : (pair.set side node).node side = node :=
  Function.update_self ..

theorem set_node_of_ne {side other : Side} (differ : other ≠ side)
    : (pair.set side node).node other = pair.node other :=
  Function.update_of_ne differ ..

end HaPair

/-! ## Calls -/

inductive RoleChange where
  | promoted
  | demoted

/-- What happens to the pair: a role change, a record of the data plane, a flush of the
queue to a stream, and the start of a reader for a stream of the peer. -/
inductive HaRequest (φ : Type) where
  | transition (side : Side) (change : RoleChange)
  | push (side : Side) (record : SyncRecord φ)
  | flush (side : Side) (stream batch : Nat)
  | receive (side : Side) (stream : Nat)

inductive HaCall (φ : Type) where
  | setRole (side : Side) (change : RoleChange)
  | mint (side : Side)
  | adopt (side : Side) (epoch : UInt64) (admission : FenceState.Admission)
  | storeEpoch (side : Side) (epoch : UInt64)
  | acquire (side : Side)
  | checkLag (side : Side)
  | resetLag (side : Side)
  | release (side : Side)
  | push (side : Side) (record : SyncRecord φ)
  | loadEpoch (side : Side) (stream batch : Nat)
  | drain (side : Side) (stream batch : Nat) (epoch : UInt64)
  | rearm (side : Side) (result : Except HaError Nat)
  | write (side : Side) (stream : Nat) (frames : List (SyncRecord φ)) (written : Nat)
  | flush (side : Side) (written : Nat)
  | receive (side : Side) (stream : Nat) (reader : Reader φ)
  | returned (result : Except HaError Nat)

/-- What the world decides at a step: whether the call to the outside fails, whether an
empty stream is at its end, and whether the applier fails. -/
structure HaInput where
  fails : Option HaError
  closes : Bool
  applies : Option HaError

namespace HaCall

variable {φ : Type}

def start : HaRequest φ → HaCall φ
  | .transition side change => .setRole side change
  | .push side record => .push side record
  | .flush side stream batch => .loadEpoch side stream batch
  | .receive side stream => .receive side stream .start

def mintEpoch (node : HaNode φ) : UInt64 := saturatingAdd node.receiver.fence.current 1

/-- Where a promotion goes on after a step of `admit`, whose result it does not use. -/
def adopted (side : Side) (epoch : UInt64) : FenceState.Admission ⊕ Bool → HaCall φ
  | .inl next => .adopt side epoch next
  | .inr _ => .storeEpoch side epoch

/-- The frames of a flush: the fence, the marker if records were lost, the records. -/
def batchFrames (epoch : UInt64) (lagged : Bool) (records : List (SyncRecord φ)) :
    List (SyncRecord φ) :=
  .fence epoch :: (if lagged then [.lagged] else []) ++ records

/-- Where a flush goes on with what it has taken from the queue. -/
def drained (side : Side) (stream : Nat) (epoch : UInt64) : Bool × List (SyncRecord φ) → HaCall φ
  | (false, []) => .returned (.ok 0)
  | (true, []) => .rearm side (.ok 0)
  | (lagged, record :: rest) =>
    .write side stream (batchFrames epoch lagged (record :: rest)) (rest.length + 1)

variable (input : HaInput)

/-- What a reader finds on its stream, and what is left there. With nothing on an open stream
it waits. -/
def incoming (frames : List (SyncRecord φ)) :
    Option (Except HaError (Option (SyncRecord φ)) × List (SyncRecord φ)) :=
  match input.fails, frames with
  | some e, frames => some (.error e, frames)
  | none, frame :: rest => some (.ok (some frame), rest)
  | none, [] => if input.closes then some (.ok none, []) else none

def receiveStep (pair : HaPair φ) (side : Side) (stream : Nat) (reader : Reader φ)
    : HaPair φ × HaCall φ :=
  match reader.place with
  | .reading =>
    match incoming input (pair.wire side.other stream) with
    | none => (pair, .receive side stream reader)
    | some (frame, rest) =>
      (pair.setWire side.other stream rest,
        .receive side stream { reader with place := reader.received frame })
  | .admitting .. | .stale _ | .checking _ | .unprimed | .applying _ | .returned _ =>
    let moved := reader.advance ⟨.ok none, input.applies⟩ (pair.node side).receiver
    (pair.set side { pair.node side with receiver := moved.1 }, .receive side stream moved.2)

def advance (pair : HaPair φ) : HaCall φ → HaPair φ × HaCall φ
  | .setRole side .promoted => (pair.set side { pair.node side with role := .master }, .mint side)
  | .setRole side .demoted =>
    (pair.set side { pair.node side with role := .backup }, .release side)
  | .mint side =>
    (pair.set side { pair.node side with
          minted := mintEpoch (pair.node side) :: (pair.node side).minted },
      .adopt side (mintEpoch (pair.node side)) .load)
  | .adopt side epoch admission =>
    let result := (pair.node side).receiver.fence.admitStep epoch admission
    (pair.set side { pair.node side with
          receiver := { (pair.node side).receiver with fence := result.1 } },
      adopted side epoch result.2)
  | .storeEpoch side epoch =>
    (pair.set side { pair.node side with masterEpoch := epoch }, .acquire side)
  | .acquire side =>
    match input.fails with
    | some e => (pair, .returned (.error e))
    | none => (pair, .checkLag side)
  | .checkLag side =>
    if (pair.node side).queue.lagged then (pair, .resetLag side) else (pair, .returned (.ok 0))
  | .resetLag side =>
    (pair.set side { pair.node side with queue := (pair.node side).queue.resetLagged },
      .returned (.ok 0))
  | .release _ =>
    match input.fails with
    | some e => (pair, .returned (.error e))
    | none => (pair, .returned (.ok 0))
  | .push side record =>
    (pair.set side { pair.node side with queue := (pair.node side).queue.push record },
      .returned (.ok 0))
  | .loadEpoch side stream batch =>
    (pair, .drain side stream batch (pair.node side).masterEpoch)
  | .drain side stream batch epoch =>
    (pair.set side
        { pair.node side with queue := ((pair.node side).queue.drainWithLag batch).2 },
      drained side stream epoch ((pair.node side).queue.drainWithLag batch).1)
  | .rearm side result =>
    (pair.set side { pair.node side with queue := (pair.node side).queue.markLagged },
      .returned result)
  | .write side _ [] written => (pair, .flush side written)
  | .write side stream (frame :: rest) written =>
    match input.fails with
    | some e => (pair, .rearm side (.error e))
    | none =>
      (pair.setWire side stream (pair.wire side stream ++ [frame]), .write side stream rest written)
  | .flush side written =>
    match input.fails with
    | some e => (pair, .rearm side (.error e))
    | none => (pair, .returned (.ok written))
  | .receive side stream reader => receiveStep input pair side stream reader
  | .returned result => (pair, .returned result)

end HaCall

def haPair (φ : Type) : Service (HaPair φ) (HaRequest φ) HaInput (HaCall φ) :=
  ⟨HaCall.start, HaCall.advance⟩

/-! ## Epochs -/

namespace HaPair

variable {φ : Type}

def Grows (pair later : HaPair φ) : Prop :=
  ∀ side, (pair.node side).receiver.Grows (later.node side).receiver

theorem grows_refl (pair : HaPair φ) : pair.Grows pair := fun _ => Receiver.grows_refl _

theorem grows_set {pair : HaPair φ} {side : Side} {node : HaNode φ}
    (grows : (pair.node side).receiver.Grows node.receiver) : pair.Grows (pair.set side node) := by
  intro other
  by_cases same : other = side
  · subst same
    rw [set_node_self]
    exact grows
  · rw [pair.set_node_of_ne node same]
    exact Receiver.grows_refl _

/-- The gates are as high as what they have admitted, up to the ceiling. -/
def Heard (pair : HaPair φ) : Prop := ∀ side, ∀ epoch ∈ (pair.node side).receiver.admitted,
    min epoch.toNat (u64Max - 1) ≤ (pair.node side).receiver.fence.current.toNat

theorem Heard.grows {pair later : HaPair φ} (heard : pair.Heard) (grows : pair.Grows later) :
    later.Heard := by
  intro side epoch among
  rcases (grows side).admitted epoch among with before | reached
  · exact Nat.le_trans (heard side epoch before) (grows side).current
  · exact reached

end HaPair

namespace HaCall

variable {φ : Type}

/-- **No step takes a gate back**, and what a gate admits it holds from then on. -/
theorem advance_grows (input : HaInput) (pair : HaPair φ) (call : HaCall φ) :
    pair.Grows (advance input pair call).1 := by
  have untouched {side : Side} {node : HaNode φ}
      (same : node.receiver = (pair.node side).receiver) : pair.Grows (pair.set side node) :=
    HaPair.grows_set (same ▸ Receiver.grows_refl _)
  cases call with
  | setRole side change => cases change <;> exact untouched rfl
  | adopt side epoch admission => exact HaPair.grows_set (Receiver.grows_admitStep ..)
  | acquire | release | checkLag | flush =>
    rw [advance]
    split <;> exact pair.grows_refl
  | loadEpoch | returned => exact pair.grows_refl
  | write side stream frames written =>
    cases frames with
    | nil => exact pair.grows_refl
    | cons frame rest =>
      rw [advance]
      split <;> exact pair.grows_refl
  | receive side stream reader =>
    rw [advance, receiveStep]
    split
    case h_1 => split <;> exact pair.grows_refl
    all_goals exact HaPair.grows_set (Reader.advance_stepped ..).grows
  | _ => exact untouched rfl

/-- A promotion mints an epoch above all that the other node was promoted with. -/
def MintsAbove (pair : HaPair φ) : HaCall φ → Prop
  | .mint side => ∀ earlier ∈ (pair.node side.other).minted, earlier < mintEpoch (pair.node side)
  | .setRole .. | .adopt .. | .storeEpoch .. | .acquire _ | .checkLag _ | .resetLag _ | .release _
  | .push .. | .loadEpoch .. | .drain .. | .rearm .. | .write .. | .flush .. | .receive ..
  | .returned _ => True

/-- A node that is promoted has admitted from a stream every epoch of the other node, or a
higher one, and none of them is the highest there is. -/
def MintsInformed (pair : HaPair φ) : HaCall φ → Prop
  | .mint side => ∀ earlier ∈ (pair.node side.other).minted,
      earlier.toNat < u64Max ∧ ∃ heard ∈ (pair.node side).receiver.admitted, earlier ≤ heard
  | .setRole .. | .adopt .. | .storeEpoch .. | .acquire _ | .checkLag _ | .resetLag _ | .release _
  | .push .. | .loadEpoch .. | .drain .. | .rearm .. | .write .. | .flush .. | .receive ..
  | .returned _ => True

instance (pair : HaPair φ) (call : HaCall φ) : Decidable (MintsAbove pair call) := by
  cases call <;> dsimp only [MintsAbove]
  case mint => exact List.decidableBAll _ _
  all_goals infer_instance

instance (pair : HaPair φ) (call : HaCall φ) : Decidable (MintsInformed pair call) := by
  cases call <;> dsimp only [MintsInformed]
  case mint =>
    exact @List.decidableBAll _ _ (fun _ => @instDecidableAnd _ _ _ (List.decidableBEx _ _)) _
  all_goals infer_instance

end HaCall

open HaCall

/-- **A node that becomes Master outranks every earlier term of the other node, in the runs
where it has heard of these terms when it is promoted.** -/
theorem successor_outranks {φ : Type} {pair : HaPair φ}
    (fresh : ∀ side, (pair.node side).receiver.admitted = [])
    {moves : List (Move (HaRequest φ) HaInput)}
    (informed : AlongRun (haPair φ).step (Service.AtCall fun _ => MintsInformed)
      (Service.idle pair) moves) :
    AlongRun (haPair φ).step (Service.AtCall fun _ => MintsAbove) (Service.idle pair) moves := by
  refine (Service.along_asserts HaPair.Heard (fun _ _ => True) ?_ ?_ ?_ ?_ ?_
    (informed.imp fun _ _ => Service.atMove_store_iff.mpr)).imp
    fun _ _ => Service.atMove_store_iff.mp
  · exact fun _ _ _ => trivial
  · intro input system call asserted _ _
    exact ⟨asserted.store.grows (advance_grows input system.store call), trivial⟩
  · exact fun _ _ _ _ _ _ _ => trivial
  · intro input system call asserted _ informed
    cases call with
    | mint side =>
      intro earlier among
      obtain ⟨below, epoch, heard, upto⟩ := informed earlier among
      have reached := asserted.store side epoch heard
      rw [UInt64.le_iff_toNat_le] at upto
      rw [UInt64.lt_iff_toNat_lt, mintEpoch, toNat_saturatingAdd]
      have one : (1 : UInt64).toNat = 1 := rfl
      omega
    | _ => trivial
  · intro side
    rw [fresh side]
    exact nofun

def haWorks : HaInput := ⟨none, false, none⟩

def quietFailover : List (Move (HaRequest String) HaInput) := List.flatten
    [[.request (.transition .a .promoted)], List.replicate 7 (.resume 0 haWorks),
      [.request (.flush .a 0 8)], List.replicate 2 (.resume 1 haWorks),
      [.request (.transition .b .promoted)], List.replicate 7 (.resume 2 haWorks)]

/-- **A Master that had nothing to sync is succeeded under its own epoch.** -/
theorem quiet_master_not_outranked :
    ¬ AlongRun (haPair String).step (Service.AtCall fun _ => MintsAbove)
      (Service.idle (.new String 8)) quietFailover ∧
    (((haPair String).run (.new String 8) quietFailover).store.node .a).masterEpoch = 1 ∧
    (((haPair String).run (.new String 8) quietFailover).store.node .b).masterEpoch = 1 := by
  refine ⟨by decide +kernel, by decide +kernel, by decide +kernel⟩

/-- The first node is promoted and syncs a record; the second reads the fence before it is
promoted. -/
def syncedFailover : List (Move (HaRequest String) HaInput) := List.flatten
    [[.request (.transition .a .promoted)], List.replicate 7 (.resume 0 haWorks),
      [.request (.push .a (.flow "flow")), .resume 1 haWorks],
      [.request (.flush .a 0 8)], List.replicate 5 (.resume 2 haWorks),
      [.request (.receive .b 0)], List.replicate 3 (.resume 3 haWorks),
      [.request (.transition .b .promoted)], List.replicate 7 (.resume 4 haWorks)]

theorem synced_master_outranked : AlongRun (haPair String).step (Service.AtCall fun _ => MintsAbove)
      (Service.idle (.new String 8)) syncedFailover ∧
    (((haPair String).run (.new String 8) syncedFailover).store.node .b).masterEpoch = 2 :=
  ⟨successor_outranks (fun _ => rfl) (by decide +kernel), by decide +kernel⟩

end ShieldNet.Ha
