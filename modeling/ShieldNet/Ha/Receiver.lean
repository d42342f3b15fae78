import ShieldNet.Ha.Fence
import ShieldNet.Lib.Interleaving

/-!
# Receiving synced state

`pump_from_reader` of `crates/sng-ha/src/state_sync.rs`, run by any number of streams that
share one fencing gate and one applier. Reading a frame, each access to the gate and the
call of the applier are steps of their own. Conntrack flows, ZTNA sessions and path scores
are one kind of record, which the pump does not look into.

The gate belongs to the receiver while an announcement belongs to a stream. A record
passes once the gate is primed, whichever stream has primed it and however high another
stream has raised it since. A record is applied under the highest epoch that was admitted
in the runs where every stream announces itself first and a fence is admitted only when no
other stream is left open that follows an older epoch (`applied_under_highest_epoch`).
-/

namespace ShieldNet.Ha

open Service FenceState

inductive HaError where
  | socket (message : String)
  | encode (message : String)
  | decode (message : String)
  | frameTooLarge (len max : Nat)
  | vip (message : String)
  | fenced (incoming current : UInt64)
  deriving DecidableEq

/-- `SyncRecord`, with one constructor for the three kinds of flow state. -/
inductive SyncRecord (φ : Type) where
  | flow (state : φ)
  | lagged
  | fence (epoch : UInt64)
  deriving DecidableEq

/-- What the streams of a receiver share: the gate and what was applied, the last record
first. `admitted` is bookkeeping of the model: the epochs that fences have announced and
the gate has admitted, the last one first. -/
structure Receiver (φ : Type) where
  fence : FenceState
  applied : List (SyncRecord φ)
  admitted : List UInt64
  deriving DecidableEq

inductive ReaderPlace (φ : Type) where
  | reading
  | admitting (epoch : UInt64) (admission : Admission)
  | stale (epoch : UInt64)
  | checking (record : SyncRecord φ)
  | unprimed
  | applying (record : SyncRecord φ)
  | returned (result : Except HaError Nat)
  deriving DecidableEq

/-- A stream. `announced` is bookkeeping of the model: the epoch it announced last. -/
structure Reader (φ : Type) where
  announced : Option UInt64
  count : Nat
  place : ReaderPlace φ
  deriving DecidableEq

/-- What the world decides: what `read_frame` returns, and whether the applier fails. -/
structure ReaderInput (φ : Type) where
  frame : Except HaError (Option (SyncRecord φ))
  applies : Option HaError

namespace Reader

variable {φ : Type}

def start : Reader φ := ⟨none, 0, .reading⟩

def received (reader : Reader φ) : Except HaError (Option (SyncRecord φ)) → ReaderPlace φ
  | .error e => .returned (.error e)
  | .ok none => .returned (.ok reader.count)
  | .ok (some (.fence epoch)) => .admitting epoch .load
  | .ok (some (.flow state)) => .checking (.flow state)
  | .ok (some .lagged) => .checking .lagged

def admitted (receiver : Receiver φ) (reader : Reader φ) (epoch : UInt64) :
    FenceState × (Admission ⊕ Bool) → Receiver φ × Reader φ
  | (fence, .inl next) => ({ receiver with fence }, { reader with place := .admitting epoch next })
  | (fence, .inr false) => ({ receiver with fence }, { reader with place := .stale epoch })
  | (fence, .inr true) =>
    ({ receiver with fence, admitted := epoch :: receiver.admitted },
      { reader with announced := some epoch, place := .reading })

/-- `Lagged` is not counted. -/
def counted (count : Nat) : SyncRecord φ → Nat
  | .lagged => count
  | .flow _ | .fence _ => count + 1

def advance (input : ReaderInput φ) (receiver : Receiver φ) (reader : Reader φ) :
    Receiver φ × Reader φ :=
  match reader.place with
  | .reading => (receiver, { reader with place := reader.received input.frame })
  | .admitting epoch admission =>
    admitted receiver reader epoch (receiver.fence.admitStep epoch admission)
  | .stale epoch =>
    (receiver, { reader with place := .returned (.error (.fenced epoch receiver.fence.current)) })
  | .checking record =>
    if receiver.fence.isPrimed then (receiver, { reader with place := .applying record })
    else (receiver, { reader with place := .unprimed })
  | .unprimed =>
    (receiver, { reader with place := .returned (.error (.fenced 0 receiver.fence.current)) })
  | .applying record =>
    match input.applies with
    | some e => (receiver, { reader with place := .returned (.error e) })
    | none =>
      ({ receiver with applied := record :: receiver.applied },
        { reader with count := counted reader.count record, place := .reading })
  | .returned _ => (receiver, reader)

end Reader

def receivers (φ : Type) : Service (Receiver φ) Unit (ReaderInput φ) (Reader φ) :=
  ⟨fun _ => .start, Reader.advance⟩

/-! ## What a step does -/

namespace Reader

variable {φ : Type} {input : ReaderInput φ} {receiver stored : Receiver φ}
  {reader moved other : Reader φ}

variable (input receiver reader) in
inductive Stepped : Receiver φ → Reader φ → Prop where
  | read : reader.place = .reading →
      Stepped receiver { reader with place := reader.received input.frame }
  | looped {epoch admission next} : reader.place = .admitting epoch admission → next.Sound epoch →
      Stepped receiver { reader with place := .admitting epoch next }
  | raised {epoch} : reader.place = .admitting epoch (.exchange receiver.fence.state) →
      Stepped { receiver with
          fence := receiver.fence.raised epoch
          admitted := epoch :: receiver.admitted }
        { reader with announced := some epoch, place := .reading }
  | checked {record} : reader.place = .checking record →
      Stepped receiver { reader with place := .applying record }
  | applied {record} : reader.place = .applying record →
      Stepped { receiver with applied := record :: receiver.applied }
        { reader with count := counted reader.count record, place := .reading }
  | ended {place} :
      (∃ epoch, place = .stale epoch) ∨ place = .unprimed ∨ (∃ result, place = .returned result) →
      Stepped receiver { reader with place }

theorem advance_stepped (input : ReaderInput φ) (receiver : Receiver φ) (reader : Reader φ) :
    Stepped input receiver reader (advance input receiver reader).1
      (advance input receiver reader).2 := by
  obtain ⟨announced, count, place⟩ := reader
  cases place with
  | reading => exact .read rfl
  | admitting epoch admission =>
    dsimp only [advance]
    rcases receiver.fence.admitStep_cases epoch admission with
      ⟨next, sound, result⟩ | result | ⟨rfl, result⟩
    · rw [result]
      exact .looped rfl sound
    · rw [result]
      exact .ended (.inl ⟨epoch, rfl⟩)
    · rw [result]
      exact .raised rfl
  | checking record =>
    dsimp only [advance]
    split
    case isTrue => exact .checked rfl
    case isFalse => exact .ended (.inr (.inl rfl))
  | applying record =>
    dsimp only [advance]
    split
    case h_1 => exact .ended (.inr (.inr ⟨_, rfl⟩))
    case h_2 => exact .applied rfl
  | _ => exact .ended (.inr (.inr ⟨_, rfl⟩))

end Reader

/-- A receiver moves on: the gate does not go back, and it is as high as what it has newly
admitted, up to the ceiling. -/
structure Receiver.Grows {φ : Type} (receiver later : Receiver φ) : Prop where
  current : receiver.fence.current.toNat ≤ later.fence.current.toNat
  admitted : ∀ epoch ∈ later.admitted, epoch ∈ receiver.admitted ∨
    min epoch.toNat (u64Max - 1) ≤ later.fence.current.toNat

namespace Receiver

variable {φ : Type} {receiver later : Receiver φ}

theorem grows_refl (receiver : Receiver φ) : receiver.Grows receiver :=
  ⟨Nat.le_refl _, fun _ among => .inl among⟩

theorem grows_admitStep (receiver : Receiver φ) (epoch : UInt64) (admission : Admission) :
    receiver.Grows
      { receiver with fence := (receiver.fence.admitStep epoch admission).1 } := by
  rcases receiver.fence.admitStep_cases epoch admission with
    ⟨next, -, result⟩ | result | ⟨-, result⟩
  · rw [result]
    exact receiver.grows_refl
  · rw [result]
    exact receiver.grows_refl
  · rw [result]
    exact ⟨receiver.fence.current_le_raised epoch, fun _ among => .inl among⟩

end Receiver

namespace Reader

variable {φ : Type} {input : ReaderInput φ} {receiver stored : Receiver φ}
  {reader moved other : Reader φ}

theorem Stepped.grows (stepped : Stepped input receiver reader stored moved) :
    receiver.Grows stored := by
  cases stepped with
  | raised =>
    refine ⟨receiver.fence.current_le_raised _, fun announced among => ?_⟩
    rcases List.mem_cons.mp among with rfl | before
    · right
      rw [toNat_current_raised]
      omega
    · exact .inl before
  | applied => exact ⟨Nat.le_refl _, fun _ among => .inl among⟩
  | _ => exact receiver.grows_refl

/-! ## Records under the highest epoch -/

def Live (reader : Reader φ) : Prop :=
  match reader.place with
  | .reading | .admitting .. | .checking _ | .applying _ => True
  | .stale _ | .unprimed | .returned _ => False

instance (reader : Reader φ) : Decidable reader.Live :=
  match reader with
  | ⟨_, _, .reading⟩ | ⟨_, _, .admitting ..⟩ | ⟨_, _, .checking _⟩ | ⟨_, _, .applying _⟩ =>
    .isTrue trivial
  | ⟨_, _, .stale _⟩ | ⟨_, _, .unprimed⟩ | ⟨_, _, .returned _⟩ => .isFalse id

/-- No epoch was admitted above the one that the stream announced. -/
def Follows (receiver : Receiver φ) (reader : Reader φ) : Prop :=
  ∀ epoch ∈ reader.announced, ∀ admitted ∈ receiver.admitted, admitted ≤ epoch

-- `UInt64` has finitely many values, so the search for these instances has to be told which
-- quantifier to go through
instance (receiver : Receiver φ) (reader : Reader φ) : Decidable (reader.Follows receiver) :=
  haveI (epoch : UInt64) : Decidable (∀ admitted ∈ receiver.admitted, admitted ≤ epoch) :=
    List.decidableBAll _ _
  Option.decidableForallMem _

/-- When a flow record is applied, its stream has announced an epoch, and none above it was
admitted. -/
def AppliesHighest (receiver : Receiver φ) (reader : Reader φ) : Prop :=
  match reader.place with
  | .applying (.flow _) => reader.announced.isSome = true ∧ reader.Follows receiver
  | .applying .lagged | .applying (.fence _) | .reading | .admitting .. | .stale _ | .checking _
  | .unprimed | .returned _ => True

instance (receiver : Receiver φ) (reader : Reader φ) : Decidable (AppliesHighest receiver reader) :=
  match reader with
  | ⟨_, _, .applying (.flow _)⟩ =>
    inferInstanceAs (Decidable (_ = true ∧ Follows receiver _))
  | ⟨_, _, .applying .lagged⟩ | ⟨_, _, .applying (.fence _)⟩ | ⟨_, _, .reading⟩
  | ⟨_, _, .admitting ..⟩ | ⟨_, _, .stale _⟩ | ⟨_, _, .checking _⟩ | ⟨_, _, .unprimed⟩
  | ⟨_, _, .returned _⟩ => .isTrue trivial

/-- A stream announces an epoch, below the ceiling, before its first flow record. -/
def ReadsInOrder (input : ReaderInput φ) (reader : Reader φ) : Prop :=
  match reader.place with
  | .reading =>
    match input.frame with
    | .ok (some (.flow _)) => reader.announced.isSome = true
    | .ok (some (.fence epoch)) => epoch.toNat < u64Max
    | .ok (some .lagged) | .ok none | .error _ => True
  | .admitting .. | .stale _ | .checking _ | .unprimed | .applying _ | .returned _ => True

instance (input : ReaderInput φ) (reader : Reader φ) : Decidable (ReadsInOrder input reader) :=
  match input, reader with
  | ⟨.ok (some (.flow _)), _⟩, ⟨_, _, .reading⟩ => inferInstanceAs (Decidable (_ = true))
  | ⟨.ok (some (.fence _)), _⟩, ⟨_, _, .reading⟩ => inferInstanceAs (Decidable (_ < u64Max))
  | ⟨.ok (some .lagged), _⟩, ⟨_, _, .reading⟩ | ⟨.ok none, _⟩, ⟨_, _, .reading⟩
  | ⟨.error _, _⟩, ⟨_, _, .reading⟩ | _, ⟨_, _, .admitting ..⟩ | _, ⟨_, _, .stale _⟩
  | _, ⟨_, _, .checking _⟩ | _, ⟨_, _, .unprimed⟩ | _, ⟨_, _, .applying _⟩
  | _, ⟨_, _, .returned _⟩ => .isTrue trivial

def raises (receiver : Receiver φ) (reader : Reader φ) : Option UInt64 :=
  match reader.place with
  | .admitting epoch (.exchange cur) => if receiver.fence.state = cur then some epoch else none
  | .admitting _ .load | .reading | .stale _ | .checking _ | .unprimed | .applying _
  | .returned _ => none

/-- The stream is over, has announced nothing, or announced this epoch or a higher one. -/
def KeepsUp (epoch : UInt64) (other : Reader φ) : Prop :=
  other.Live → ∀ announced ∈ other.announced, epoch ≤ announced

instance (epoch : UInt64) (other : Reader φ) : Decidable (other.KeepsUp epoch) :=
  haveI : Decidable (∀ announced ∈ other.announced, epoch ≤ announced) :=
    Option.decidableForallMem _
  inferInstanceAs (Decidable (other.Live → ∀ announced ∈ other.announced, epoch ≤ announced))

/-- Streams announce themselves first, and an epoch is admitted only when no other stream
is left behind. -/
def Orderly (input : ReaderInput φ) (system : Shared (Receiver φ) (Reader φ))
    (reader : Reader φ) : Prop :=
  reader.ReadsInOrder input ∧ ∀ epoch ∈ reader.raises system.store, ∀ other,
    Apart system reader other → other.KeepsUp epoch

instance [DecidableEq φ] (input : ReaderInput φ) (system : Shared (Receiver φ) (Reader φ))
    (reader : Reader φ) : Decidable (Orderly input system reader) :=
  haveI : Decidable (∀ epoch ∈ reader.raises system.store, ∀ other,
      Apart system reader other → other.KeepsUp epoch) :=
    Option.decidableForallMem _
  inferInstanceAs (Decidable (_ ∧ _))

def Introduced (announced : Option UInt64) : SyncRecord φ → Prop
  | .flow _ => announced.isSome = true
  | .lagged | .fence _ => True

def Ready (reader : Reader φ) : Prop :=
  match reader.place with
  | .admitting epoch admission => epoch.toNat < u64Max ∧ admission.Sound epoch
  | .checking record | .applying record => Introduced reader.announced record
  | .reading | .stale _ | .unprimed | .returned _ => True

def Knows (receiver : Receiver φ) (reader : Reader φ) : Prop :=
  reader.Live → reader.Follows receiver ∧ reader.Ready

def Highest (receiver : Receiver φ) : Prop :=
  ∀ epoch ∈ receiver.admitted, epoch ≤ receiver.fence.current

theorem ready_received (input : ReaderInput φ) {reader : Reader φ}
    (reading : reader.place = .reading) (inOrder : reader.ReadsInOrder input) :
    Ready { reader with place := reader.received input.frame } := by
  rw [ReadsInOrder, reading] at inOrder
  rcases frame : input.frame with e | _ | state | _ | epoch
  · trivial
  · trivial
  · rw [frame] at inOrder
    exact inOrder
  · trivial
  · rw [frame] at inOrder
    exact ⟨inOrder, trivial⟩

/-- The exchange that succeeds finds every epoch that was admitted below its own. -/
theorem highest_le {epoch : UInt64} (highest : Highest receiver) (knows : reader.Knows receiver)
    (raises : reader.place = .admitting epoch (.exchange receiver.fence.state)) :
    epoch.toNat < u64Max ∧ ¬ receiver.fence.Refuses epoch ∧
      ∀ admitted ∈ receiver.admitted, admitted ≤ epoch := by
  have live : reader.Live := by rw [Live, raises]; trivial
  have ready := (knows live).2
  rw [Ready, raises] at ready
  refine ⟨ready.1, ready.2, fun admitted among => ?_⟩
  exact UInt64.le_trans (highest admitted among) (current_le_of_not_refuses ready.2)

/-- A step of a stream keeps the gate the highest and leaves the stream what it knows. -/
theorem Stepped.knows (stepped : Stepped input receiver reader stored moved)
    (inOrder : reader.ReadsInOrder input) (highest : Highest receiver)
    (knows : reader.Knows receiver) : Highest stored ∧ moved.Knows stored := by
  cases stepped with
  | read reading =>
    have live : reader.Live := by rw [Live, reading]; trivial
    exact ⟨highest, fun _ => ⟨(knows live).1, ready_received input reading inOrder⟩⟩
  | looped admitting sound =>
    have live : reader.Live := by rw [Live, admitting]; trivial
    have ready := (knows live).2
    rw [Ready, admitting] at ready
    exact ⟨highest, fun _ => ⟨(knows live).1, ready.1, sound⟩⟩
  | @raised epoch raises =>
    obtain ⟨below, admits, upto⟩ := highest_le highest knows raises
    have current := current_raised admits below
    have all : ∀ admitted ∈ epoch :: receiver.admitted, admitted ≤ epoch :=
      List.forall_mem_cons.mpr ⟨UInt64.le_refl epoch, upto⟩
    refine ⟨?_, fun _ => ⟨?_, trivial⟩⟩
    · rw [Highest, current]
      exact all
    · rintro announced ⟨⟩
      exact all
  | checked checking =>
    have live : reader.Live := by rw [Live, checking]; trivial
    obtain ⟨follows, ready⟩ := knows live
    rw [Ready, checking] at ready
    exact ⟨highest, fun _ => ⟨follows, ready⟩⟩
  | applied applying =>
    have live : reader.Live := by rw [Live, applying]; trivial
    exact ⟨highest, fun _ => ⟨(knows live).1, trivial⟩⟩
  | ended finished =>
    refine ⟨highest, fun live => ?_⟩
    rcases finished with ⟨_, rfl⟩ | rfl | ⟨_, rfl⟩ <;> exact live.elim

/-- An admission leaves the streams that keep up what they know. -/
theorem Stepped.knows_stable (stepped : Stepped input receiver reader stored moved)
    (behind : ∀ epoch ∈ reader.raises receiver, other.KeepsUp epoch)
    (knows : other.Knows receiver) : other.Knows stored := by
  cases stepped with
  | @raised epoch raises =>
    have admits : epoch ∈ reader.raises receiver := by
      rw [Reader.raises, raises]
      exact if_pos rfl
    intro live
    refine ⟨fun announced made => ?_, (knows live).2⟩
    exact List.forall_mem_cons.mpr ⟨behind epoch admits live announced made,
      (knows live).1 announced made⟩
  | _ => exact knows

end Reader

open Reader

/-- **A flow record is applied under the highest epoch that was admitted, in the runs where
streams announce themselves first and no stream is left behind.** -/
theorem applied_under_highest_epoch {φ : Type} {receiver : Receiver φ}
    (fresh : receiver.admitted = []) {moves : List (Move Unit (ReaderInput φ))}
    (orderly : AlongRun (receivers φ).step (AtMove Orderly) (idle receiver) moves) :
    AlongRun (receivers φ).step (AtCall fun _ => AppliesHighest) (idle receiver)
      moves := by
  refine (along_asserts Highest (fun receiver reader => reader.Knows receiver)
    ?_ ?_ ?_ ?_ ?_ orderly).imp fun _ _ => atMove_store_iff.mp
  · exact fun _ _ _ _ => ⟨nofun, trivial⟩
  · rintro input system reader asserted underWay ⟨inOrder, -⟩
    exact (advance_stepped input system.store reader).knows inOrder asserted.store
      (asserted.calls reader underWay)
  · rintro input system reader other asserted apart ⟨-, behind⟩
    exact (advance_stepped input system.store reader).knows_stable
      (fun epoch admits => behind epoch admits other apart) (asserted.calls other apart.mem_right)
  · intro input system reader asserted underWay _
    have knows := asserted.calls reader underWay
    obtain ⟨announced, count, place⟩ := reader
    rcases place with _ | _ | _ | _ | _ | (state | _ | epoch) | _
    case applying.flow => exact ⟨(knows trivial).2, (knows trivial).1⟩
    all_goals trivial
  · rw [Highest, fresh]
    exact nofun

def arrives (record : SyncRecord String) : ReaderInput String := ⟨.ok (some record), none⟩

/-- The second stream raises the gate while the first is open. -/
def deposedStream : List (Move Unit (ReaderInput String)) := List.flatten
    [[.request (), .request ()], List.replicate 3 (.resume 0 (arrives (.fence 1))),
      List.replicate 3 (.resume 1 (arrives (.fence 2))),
      List.replicate 3 (.resume 0 (arrives (.flow "old")))]

def silentStream : List (Move Unit (ReaderInput String)) := List.flatten
    [[.request (), .request ()], List.replicate 3 (.resume 0 (arrives (.fence 1))),
      List.replicate 3 (.resume 1 (arrives (.flow "silent")))]

/-- The first stream ends before the second announces itself. -/
def handedOver : List (Move Unit (ReaderInput String)) := List.flatten
    [[.request (), .request ()], List.replicate 3 (.resume 0 (arrives (.fence 1))),
      List.replicate 3 (.resume 0 (arrives (.flow "old"))), [.resume 0 ⟨.ok none, none⟩],
      List.replicate 3 (.resume 1 (arrives (.fence 2))),
      List.replicate 3 (.resume 1 (arrives (.flow "new")))]

/-- **A deposed stream goes on to be applied, and so does one that announces nothing.** -/
theorem deposed_and_silent_streams_applied :
    ¬ AlongRun (receivers String).step (AtCall fun _ => AppliesHighest)
      (idle ⟨.new, [], []⟩) deposedStream ∧
    ((receivers String).run ⟨.new, [], []⟩ deposedStream).store = ⟨⟨3⟩, [.flow "old"], [2, 1]⟩ ∧
    ¬ AlongRun (receivers String).step (AtCall fun _ => AppliesHighest)
      (idle ⟨.new, [], []⟩) silentStream ∧
    ((receivers String).run ⟨.new, [], []⟩ silentStream).store = ⟨⟨2⟩, [.flow "silent"], [1]⟩ := by
  refine ⟨by decide +kernel, by decide +kernel, by decide +kernel, by decide +kernel⟩

theorem handed_over_applied :
    AlongRun (receivers String).step (AtCall fun _ => AppliesHighest)
      (idle ⟨.new, [], []⟩) handedOver ∧
    ((receivers String).run ⟨.new, [], []⟩ handedOver).store.applied = [.flow "new", .flow "old"] :=
  ⟨applied_under_highest_epoch rfl (by decide +kernel), by decide +kernel⟩

end ShieldNet.Ha
