import Mathlib.Tactic.IntervalCases
import ShieldNet.Telemetry.Client

/-!
# What reaches the server

The batches of a `BatchBuilder` hold the envelopes in the order they were pushed, in the limits of
its configuration (`batching_loses_nothing`); the header of a batch is not counted.

A flush whose answer is 2xx drops its batch, and the acknowledgement is compared with the highest
one so far, not with the batch. The batch is covered exactly when the server acknowledges its number
or a higher one, or one that is refused as below the mark (`acknowledged_batch_covered_iff`); an
acknowledgement that repeats the number of an earlier batch is taken for one of this batch
(`stale_ack_drops_batch`).
-/

namespace ShieldNet.Telemetry

open Service List

/-! ## Batching -/

inductive BuilderCall where
  | push (envelope : EncodedEnvelope)
  | pollTimer (now : Int)
  | forceFlush

def BuilderCall.pushed? : BuilderCall → Option EncodedEnvelope
  | .push envelope => some envelope
  | _ => none

structure Batching where
  batches : List Batch
  builder : BatchBuilder

def BatchBuilder.call (builder : BatchBuilder) : BuilderCall → Option Batch × BatchBuilder
  | .push envelope => builder.push envelope
  | .pollTimer now => builder.pollTimer now
  | .forceFlush => builder.forceFlush

def Batching.step (state : Batching) (call : BuilderCall) : Batching :=
  ⟨state.batches ++ (state.builder.call call).1.toList, (state.builder.call call).2⟩

/-- The bytes of the envelopes, counted in a `usize` as the builder does. -/
def Batch.bytes (batch : Batch) : UInt64 :=
  batch.foldl (fun total envelope => saturatingAdd total (.ofNat envelope.encoded.length)) 0

open Batch

structure Batch.Within (config : BatchConfig) (batch : Batch) : Prop where
  nonempty : 1 ≤ batch.length
  events : batch.length ≤ config.maxEvents
  size : batch.length = 1 ∨ batch.bytes ≤ config.maxBytes

namespace BatchBuilder

variable (config : BatchConfig) (builder : BatchBuilder)

/-- The estimate is the size of what is pending; that may be emitted, and has room for one more. -/
structure Sound : Prop where
  same : builder.config = config
  estimate : builder.estimatedBytes = bytes builder.pending
  room : builder.pending.length < config.maxEvents
  within : builder.pending ≠ [] → Within config builder.pending

/-- A call that is given these envelopes emits a batch within the limits and loses nothing. -/
structure Emits (pushed : List EncodedEnvelope) (result : Option Batch × BatchBuilder) : Prop where
  sound : result.2.Sound config
  kept : result.1.toList.flatten ++ result.2.pending = builder.pending ++ pushed
  within : ∀ batch ∈ result.1, batch.Within config

variable {config builder}

theorem emits_take {before : BatchBuilder} {pushed : List EncodedEnvelope}
    (same : builder.config = config) (within : Within config builder.pending)
    (added : builder.pending = before.pending ++ pushed) :
    Emits config before pushed (some builder.take.1, builder.take.2) where
  sound := ⟨same, rfl, within.nonempty.trans within.events, fun some => absurd rfl some⟩
  kept := by simp [take, added]
  within := by
    rintro batch ⟨⟩
    exact within

variable (sound : builder.Sound config)
include sound

theorem emits_push (envelope : EncodedEnvelope) :
    Emits config builder [envelope] (builder.push envelope) := by
  rw [push, sound.same]
  split
  case isTrue full =>
    have within := sound.within full.1
    have room : 1 < config.maxEvents := within.nonempty.trans_lt sound.room
    refine ⟨⟨sound.same, rfl, room, fun _ => ⟨le_rfl, room.le, .inl rfl⟩⟩, by simp [take, add], ?_⟩
    rintro batch ⟨⟩
    exact within
  case isFalse fits =>
    have total : saturatingAdd builder.estimatedBytes (.ofNat envelope.encoded.length) =
        bytes (builder.add envelope).pending := by
      rw [sound.estimate, bytes, bytes, add, foldl_append]
      rfl
    have within : Within config (builder.add envelope).pending := by
      refine ⟨by simp [add], by simpa [add] using Nat.succ_le_of_lt sound.room, ?_⟩
      by_cases empty : builder.pending = []
      · simp [add, empty]
      · refine .inr (UInt64.not_lt.mp fun large => fits ⟨empty, .inr ?_⟩)
        rwa [total]
    have same : (builder.add envelope).config = config := sound.same
    dsimp only
    rw [same]
    split
    case isTrue => exact emits_take same within rfl
    case isFalse below =>
      exact ⟨⟨same, total, Nat.lt_of_not_le (not_or.mp below).1, fun _ => within⟩, rfl, nofun⟩

theorem emits_call (call : BuilderCall) :
    Emits config builder call.pushed?.toList (builder.call call) := by
  have idle : Emits config builder [] (none, builder) := ⟨sound, (append_nil _).symm, nofun⟩
  have flush (some : builder.pending ≠ []) :
      Emits config builder [] (.some builder.take.1, builder.take.2) :=
    emits_take sound.same (sound.within some) (append_nil _).symm
  cases call with
  | push envelope => exact emits_push sound envelope
  | pollTimer now =>
    change Emits config builder [] (builder.pollTimer now)
    rw [pollTimer]
    split
    case h_1 => exact idle
    split
    case isTrue => exact idle
    case isFalse some =>
      split
      case isTrue =>
        exact ⟨⟨sound.same, sound.estimate, sound.room, sound.within⟩, idle.kept, nofun⟩
      split
      case isTrue => exact flush some
      case isFalse => exact idle
  | forceFlush =>
    change Emits config builder [] builder.forceFlush
    rw [forceFlush]
    split
    case isTrue => exact idle
    case isFalse some => exact flush some

end BatchBuilder

def readArray : List UInt8 → Option (Nat × List UInt8)
  | 0xDC :: a :: b :: rest => some (a.toNat * 0x100 + b.toNat, rest)
  | 0xDD :: a :: b :: c :: d :: rest =>
    some (((a.toNat * 0x100 + b.toNat) * 0x100 + c.toNat) * 0x100 + d.toNat, rest)
  | tag :: rest => if tag / 16 = 9 then some (tag.toNat % 16, rest) else none
  | [] => none

theorem readArray_header {len : Nat} (fits : len < 0x100000000) (body : List UInt8) :
    readArray (msgpackArrayHeader len ++ body) = some (len, body) := by
  rw [msgpackArrayHeader]
  split
  case isTrue => interval_cases len <;> rfl
  split
  case isTrue => simp [readArray]; omega
  case isFalse => simp [readArray]; omega

/-- **Batching loses and reorders nothing**: what was emitted and what is pending are the envelopes
in the order they were pushed, each batch keeps to the limits, and what is compressed is the array
of its envelopes. -/
theorem batching_loses_nothing {ε : Type} (client : ClientConfig ε) (config : BatchConfig)
    (calls : List BuilderCall) :
    let state := calls.foldl Batching.step ⟨[], .new config⟩
    state.builder.Sound config.normalize ∧
      state.batches.flatten ++ state.builder.pending = calls.filterMap BuilderCall.pushed? ∧
      ∀ batch ∈ state.batches, batch.Within config.normalize ∧
        ∃ raw, client.encodeBatch batch = client.compress raw ∧ (batch.length < 0x100000000 →
          readArray raw = some (batch.length, batch.flatMap (·.encoded))) := by
  induction calls using reverseRecOn with
  | nil => exact ⟨⟨rfl, rfl, Nat.le_max_right .., fun some => absurd rfl some⟩, rfl, nofun⟩
  | append_singleton early call ih =>
    obtain ⟨sound, kept, within⟩ := ih
    have emits := BatchBuilder.emits_call sound call
    rw [foldl_append, filterMap_append, ← kept]
    refine ⟨emits.sound, ?_, fun batch listed => ?_⟩
    · simp only [foldl_cons, foldl_nil, Batching.step, flatten_append, append_assoc, emits.kept]
      rfl
    · rcases mem_append.mp listed with before | now
      · exact within batch before
      · refine ⟨emits.within batch (Option.mem_toList.mp now), _, rfl, fun fits => ?_⟩
        exact readArray_header fits _

/-- **The header is not counted**: two envelopes of one byte are a batch of three bytes where the
limit is two. -/
theorem header_exceeds_limit : ([.push ⟨0, [1]⟩, .push ⟨0, [2]⟩, .forceFlush].foldl Batching.step
    ⟨[], .new ⟨5, 2, 5⟩⟩).batches.map plainConfig.encodeBatch = [some [0x92, 1, 2]] := by
  decide +kernel

/-! ## Acknowledgements -/

variable {ε : Type} {config : ClientConfig ε}

/-- A batch of this number or a later one has been given its number. -/
def TelemetryClient.Issued (client : TelemetryClient) (seq : UInt64) : Prop :=
  ∃ last ∈ client.tracker.lastEmitted, seq ≤ last

/-- What is spooled has a number that was given out, and the next number follows the last. -/
structure TelemetryClient.SpoolIssued (client : TelemetryClient) : Prop where
  spooled : ∀ batch ∈ client.spool.items, client.Issued batch.seq
  next : ∀ last ∈ client.tracker.lastEmitted, client.tracker.next = saturatingAdd last 1

namespace ClientCall

variable {answer : Answer} {client stored : TelemetryClient} {call moved : ClientCall ε}

/-- The batch that a call carries has a number that was given out. -/
def Carries (client : TelemetryClient) : ClientCall ε → Prop
  | .push entry | .send entry | .respool entry _ | .recordAck entry _ => client.Issued entry.seq
  | .submit _ | .tick _ | .forceSeal | .lockSeal _ | .nextSeq _ | .unlock | .flushOne | .done
  | .refused _ | .flushed _ => True

theorem Apart.carries (apart : call.Apart) : call.Carries client := by
  cases call with
  | push => exact absurd trivial apart.1
  | send | respool | recordAck => exact absurd trivial apart.2
  | _ => trivial

/-- **A number that was given out stays so**, also where the counter has reached its end. -/
theorem Stepped.issued (stepped : Stepped client call stored moved) (spool : client.SpoolIssued)
    {seq : UInt64} (issued : client.Issued seq) : stored.Issued seq := by
  cases stepped with
  | allocated =>
    obtain ⟨last, given, upto⟩ := issued
    refine ⟨client.tracker.next, rfl, UInt64.le_trans upto ?_⟩
    rw [spool.next last given]
    exact le_saturatingAdd last 1
  | _ => exact issued

theorem Stepped.spoolIssued (stepped : Stepped client call stored moved)
    (spool : client.SpoolIssued) (carries : call.Carries client) :
    stored.SpoolIssued ∧ moved.Carries stored := by
  have stays : ∀ batch ∈ client.spool.items, stored.Issued batch.seq :=
    fun batch spooled => stepped.issued spool (spool.spooled batch spooled)
  cases stepped with
  | built _ after => exact ⟨⟨stays, spool.next⟩, after.carries⟩
  | allocated =>
    refine ⟨⟨stays, ?_⟩, client.tracker.next, rfl, UInt64.le_refl _⟩
    rintro last ⟨⟩
    rfl
  | @pushed entry =>
    refine ⟨⟨fun batch spooled => ?_, spool.next⟩, trivial⟩
    rcases mem_append.mp ((client.spool.push_sublist entry).subset spooled) with before | isEntry
    · exact stays batch before
    · rw [mem_singleton.mp isEntry]
      exact carries
  | popped _ items =>
    have listed := forall_mem_cons.mp (items ▸ stays)
    exact ⟨⟨listed.2, spool.next⟩, listed.1⟩
  | failed | taken => exact ⟨spool, carries⟩
  | @respooled entry =>
    refine ⟨⟨fun batch spooled => ?_, spool.next⟩, trivial⟩
    rcases mem_cons.mp ((client.spool.pushFront_sublist entry).subset spooled) with rfl | before
    · exact carries
    · exact stays batch before
  | _ => exact ⟨⟨stays, spool.next⟩, trivial⟩

theorem Carries.stands {other : ClientCall ε} (carries : other.Carries client)
    (stepped : Stepped client call stored moved) (spool : client.SpoolIssued) :
    other.Carries stored := by
  cases other with
  | push | send | respool | recordAck => exact stepped.issued spool carries
  | _ => trivial

end ClientCall

/-- The acknowledgement reaches the batch, or an earlier one was higher. -/
def AckReaches (client : TelemetryClient) (entry : EncodedBatch) (seq : UInt64) : Prop :=
  entry.seq ≤ seq ∨ ∃ mark ∈ client.tracker.ackedHighWater, seq < mark

/-- **What is recorded covers the batch exactly when the acknowledgement reaches it**, for a
batch that has its number. -/
theorem recordAck_covers_iff {answer : Answer} {client : TelemetryClient} {entry : EncodedBatch}
    {seq : UInt64} (issued : client.Issued entry.seq) :
    (∀ acked, (ClientCall.advance config answer client (.recordAck entry seq)).2 =
      .flushed (.ok (.acked acked)) → entry.seq ≤ acked) ↔ AckReaches client entry seq := by
  constructor
  · intro covers
    refine or_iff_not_imp_left.mpr fun below => by_contra fun unmarked => below (covers seq ?_)
    obtain ⟨last, given, upto⟩ := issued
    have ahead : ¬ last < seq :=
      UInt64.not_lt.mpr (UInt64.le_trans (UInt64.le_of_lt (UInt64.not_le.mp below)) upto)
    have fresh : ¬ client.tracker.ackedHighWater.any (seq < ·) := by
      rw [Option.any_eq_true]
      rintro ⟨mark, marked, above⟩
      exact unmarked ⟨mark, marked, of_decide_eq_true above⟩
    rw [ClientCall.advance, SequenceTracker.recordAck, Option.mem_def.mp given]
    simp only [if_neg ahead, if_neg fresh]
  · intro reaches acked flushed
    rw [ClientCall.advance] at flushed
    split at flushed
    case h_1 => cases flushed
    case h_2 recorded =>
      cases flushed
      refine reaches.resolve_right ?_
      rintro ⟨mark, marked, above⟩
      exact absurd ((ClientCall.recordAck_ok recorded).2 mark marked) (UInt64.not_le.mpr above)

/-- **A batch that is dropped as acknowledged is covered exactly when the acknowledgement
reaches it**, at every step of every run. -/
theorem acknowledged_batch_covered_iff (config : ClientConfig ε) (batch : BatchConfig)
    (spoolCapacity : Nat) (stream : String) (startSeq : UInt64)
    (moves : List (Move (ClientRequest ε) Answer)) :
    AlongRun (telemetryService config).step (AtCall fun answer client call =>
        ∀ entry seq, call = .recordAck entry seq →
          ((∀ acked, (call.advance config answer client).2 = .flushed (.ok (.acked acked)) →
            entry.seq ≤ acked) ↔ AckReaches client entry seq))
      (idle (.new batch spoolCapacity stream startSeq)) moves := by
  have free : AlongRun (telemetryService config).step (AtMove fun _ _ _ => True)
      (idle (.new batch spoolCapacity stream startSeq)) moves :=
    alongRun_iff_forall.mpr fun _ _ _ _ => atMove_of_forall (fun _ _ _ => trivial) ..
  have start : (TelemetryClient.new batch spoolCapacity stream startSeq).SpoolIssued :=
    ⟨fun _ spooled => absurd spooled not_mem_nil,
      fun _ given => absurd given (Option.not_mem_none _)⟩
  refine (along_asserts TelemetryClient.SpoolIssued (fun client call => call.Carries client)
    ?_ ?_ ?_ ?_ start free).imp fun _ _ => atMove_store_iff.mp
  · rintro client (_ | _ | _ | _) - <;> trivial
  · intro answer system call asserted underWay _
    exact (ClientCall.advance_stepped config answer system.store call).spoolIssued asserted.store
      (asserted.calls call underWay)
  · intro answer system call other asserted apart _
    exact (asserted.calls other apart.mem_right).stands
      (ClientCall.advance_stepped config answer system.store call) asserted.store
  · rintro answer system _ asserted underWay - entry seq rfl
    exact recordAck_covers_iff (asserted.calls _ underWay)

/-- Two batches are sealed, and the server takes them with these acknowledgements. -/
def ackedBatches (first second : UInt8) : List (Move (ClientRequest String) Answer) :=
  twoBatches ++ flatten
    [[.request .flushOne], replicate 3 (.resume 2 (.response 200 [first])),
      [.request .flushOne], replicate 3 (.resume 3 (.response 200 [second]))]

def afterAcks (first second : UInt8) : TelemetryClient :=
  ((telemetryService plainConfig).run (singleBatches 1) (ackedBatches first second)).store

example : (afterAcks 1 2).acknowledged.map (·.seq) = [2, 1] ∧
    (afterAcks 1 2).tracker.ackedHighWater = some 2 := by
  decide +kernel

/-- **A stale acknowledgement drops a batch**: batch 2 is dropped as acknowledged, and the server
has acknowledged up to 1. -/
theorem stale_ack_drops_batch : (afterAcks 1 1).acknowledged.map (·.seq) = [2, 1] ∧
    (afterAcks 1 1).tracker.ackedHighWater = some 1 := by
  decide +kernel

end ShieldNet.Telemetry
