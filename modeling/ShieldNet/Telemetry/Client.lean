import ShieldNet.Lib.Fallible
import ShieldNet.Lib.Interleaving
import ShieldNet.Lib.Saturating
import ShieldNet.Telemetry.Spool

/-!
# The telemetry client

`TelemetryClient` of `crates/sng-comms/src/telemetry.rs` with the `BatchBuilder` of
`batch.rs` and the `SequenceTracker` of `ack.rs`: any number of `submit`, `tick` and
`force_seal` callers next to one flusher. Each section under a mutex is one step; sealing
holds its own lock over two of them, the allocation of a sequence number and the push onto
the spool.

In every run the spool is in the order of the sequence numbers, the batch in flight comes
before all of it, and each sealed batch is in one place (`batches_accounted`). Three points
of the source show in the statement. A batch that the server took with an acknowledgement
that the client cannot use is dropped, not sent again. A caller that drops the future of
`flush_one` at a deadline, as the mobile agent does, drops the batch in flight with it. And
the counter of the sequence numbers stops at its highest value, from where on batches share
a number.

Enrichment and validation of an envelope, its encoding, compression and the decoders of an
acknowledgement are parameters; the headers of the request are left out.
-/

namespace ShieldNet.Telemetry

open Service BoundedSpool List

/-! ## Batches -/

structure EncodedEnvelope where
  timestamp : Int
  encoded : List UInt8

abbrev Batch := List EncodedEnvelope

/-- `BatchConfig`; times are in nanoseconds. -/
structure BatchConfig where
  maxEvents : Nat
  maxBytes : UInt64
  flushInterval : Int

def BatchConfig.normalize (config : BatchConfig) : BatchConfig :=
  { config with maxEvents := max config.maxEvents 1, maxBytes := max config.maxBytes 1 }

structure BatchBuilder where
  config : BatchConfig
  pending : List EncodedEnvelope
  estimatedBytes : UInt64
  startedAt : Option Int

namespace BatchBuilder

def new (config : BatchConfig) : BatchBuilder := ⟨config.normalize, [], 0, none⟩

variable (builder : BatchBuilder)

def take : Batch × BatchBuilder :=
  (builder.pending, { builder with pending := [], estimatedBytes := 0, startedAt := none })

def add (envelope : EncodedEnvelope) : BatchBuilder := { builder with
    pending := builder.pending ++ [envelope]
    estimatedBytes := saturatingAdd builder.estimatedBytes (UInt64.ofNat envelope.encoded.length)
    startedAt := some (builder.startedAt.getD envelope.timestamp) }

/-- The batch before the envelope, or the one it completes. -/
def push (envelope : EncodedEnvelope) : Option Batch × BatchBuilder :=
  if builder.pending ≠ [] ∧ (builder.config.maxEvents ≤ builder.pending.length ∨
      builder.config.maxBytes <
        saturatingAdd builder.estimatedBytes (UInt64.ofNat envelope.encoded.length)) then
    (some builder.take.1, builder.take.2.add envelope)
  else
    let added := builder.add envelope
    if added.config.maxEvents ≤ added.pending.length ∨
        added.config.maxBytes < added.estimatedBytes then
      (some added.take.1, added.take.2)
    else (none, added)

/-- A clock that has gone back starts the interval anew. -/
def pollTimer (now : Int) : Option Batch × BatchBuilder :=
  match builder.startedAt with
  | none => (none, builder)
  | some started =>
    if builder.pending = [] then (none, builder)
    else if now - started < 0 then (none, { builder with startedAt := some now })
    else if builder.config.flushInterval ≤ now - started then
      (some builder.take.1, builder.take.2)
    else (none, builder)

def forceFlush : Option Batch × BatchBuilder :=
  if builder.pending = [] then (none, builder) else (some builder.take.1, builder.take.2)

end BatchBuilder

def msgpackArrayHeader (len : Nat) : List UInt8 :=
  if len ≤ 0xF then [0x90 ||| UInt8.ofNat len]
  else if len ≤ 0xFFFF then [0xDC, UInt8.ofNat (len / 0x100), UInt8.ofNat len]
  else
    let l := min len 0xFFFFFFFF
    [0xDD, UInt8.ofNat (l / 0x1000000), UInt8.ofNat (l / 0x10000), UInt8.ofNat (l / 0x100),
      UInt8.ofNat l]

/-! ## Sequence numbers -/

structure SequenceTracker where
  stream : String
  next : UInt64
  lastEmitted : Option UInt64
  ackedHighWater : Option UInt64

inductive RegressionKind where
  | aheadOfEmitted
  | belowHighWater

structure SequenceRegression where
  stream : String
  highestEmitted : UInt64
  observed : UInt64
  kind : RegressionKind

namespace SequenceTracker

def new (stream : String) (startSeq : UInt64) : SequenceTracker := ⟨stream, startSeq, none, none⟩

def nextSeq (tracker : SequenceTracker) : UInt64 × SequenceTracker := (tracker.next,
    { tracker with next := saturatingAdd tracker.next 1, lastEmitted := some tracker.next })

def recordAck (tracker : SequenceTracker) (observed : UInt64) :
    Except SequenceRegression SequenceTracker :=
  match tracker.lastEmitted with
  | none => .error ⟨tracker.stream, tracker.next - min tracker.next 1, observed, .aheadOfEmitted⟩
  | some highestEmitted =>
    if highestEmitted < observed then
      .error ⟨tracker.stream, highestEmitted, observed, .aheadOfEmitted⟩
    else if tracker.ackedHighWater.any (observed < ·) then
      .error ⟨tracker.stream, highestEmitted, observed, .belowHighWater⟩
    else .ok { tracker with ackedHighWater := some observed }

end SequenceTracker

/-! ## The client -/

inductive ResponseClass where
  | success
  | notModified
  | unauthorized
  | badRequest
  | notFound
  | rateLimited
  | serverError
  | other
  deriving DecidableEq

open ResponseClass

def ResponseClass.fromStatus (status : Nat) : ResponseClass :=
  if status = 304 then .notModified
  else if 200 ≤ status ∧ status ≤ 299 then .success
  else if status = 401 ∨ status = 403 then .unauthorized
  else if status = 400 ∨ status = 422 then .badRequest
  else if status = 404 then .notFound
  else if status = 429 then .rateLimited
  else if 500 ≤ status ∧ status ≤ 599 then .serverError
  else .other

def ResponseClass.isRetryable : ResponseClass → Bool
  | .rateLimited | .serverError => true
  | .success | .notModified | .unauthorized | .badRequest | .notFound | .other => false

inductive CommsError where
  | connection (message : String)
  | server (responseClass : ResponseClass) (reason : String)
  | encoding (message : String)
  | envelopeInvalid (message : String)
  | sequenceRegression (stream : String) (highest observed : UInt64)

def mapRegression (regression : SequenceRegression) : CommsError :=
  .sequenceRegression regression.stream regression.highestEmitted regression.observed

inductive FlushOutcome where
  | acked (seq : UInt64)
  | empty
  | transient (responseClass : ResponseClass)

structure EncodedBatch where
  seq : UInt64
  body : List UInt8
  deriving DecidableEq

/-- The primitives: enrichment with validation, the encoding of an envelope, compression,
the two decoders of an acknowledgement and the text of a status. -/
structure ClientConfig (ε : Type) where
  prepare : ε → Except String ε
  timestamp : ε → Int
  encode : ε → Option (List UInt8)
  compress : List UInt8 → Option (List UInt8)
  decodeJsonAck : List UInt8 → Except String UInt64
  decodeMsgpackAck : List UInt8 → Except String UInt64
  statusText : Nat → String

namespace ClientConfig

variable {ε : Type}

def encodeBatch (config : ClientConfig ε) (batch : Batch) : Option (List UInt8) :=
  config.compress (msgpackArrayHeader batch.length ++ batch.flatMap (·.encoded))

def parseAck (config : ClientConfig ε) : List UInt8 → Except CommsError UInt64
  | [] => .error (.encoding "empty ack body from control plane")
  | first :: rest =>
    if first = 0x7b then
      (config.decodeJsonAck (first :: rest)).mapError fun e => .encoding ("decode JSON ack: " ++ e)
    else
      (config.decodeMsgpackAck (first :: rest)).mapError fun e =>
        .encoding ("decode msgpack ack: " ++ e)

end ClientConfig

/-- What the callers share. `inFlight` is what the flusher has popped. The lists after it are
bookkeeping of the model, the last entry first: the batches that were sealed, and those
that were acknowledged, taken by the server with an acknowledgement that cannot be used,
rejected for good, dropped with their flush, and evicted. -/
structure TelemetryClient where
  builder : BatchBuilder
  sealLocked : Bool
  spool : BoundedSpool EncodedBatch
  tracker : SequenceTracker
  inFlight : Option EncodedBatch
  sealedBatches : List EncodedBatch
  acknowledged : List EncodedBatch
  unconfirmed : List EncodedBatch
  rejected : List EncodedBatch
  abandoned : List EncodedBatch
  evicted : List EncodedBatch

def TelemetryClient.new (batch : BatchConfig) (spoolCapacity : Nat) (stream : String)
    (startSeq : UInt64) : TelemetryClient where
  builder := .new batch
  sealLocked := false
  spool := .new spoolCapacity
  tracker := .new stream startSeq
  inFlight := none
  sealedBatches := []
  acknowledged := []
  unconfirmed := []
  rejected := []
  abandoned := []
  evicted := []

/-- `submit`, `tick`, `force_seal` and `flush_one`. -/
inductive ClientRequest (ε : Type) where
  | submit (envelope : ε)
  | tick (now : Int)
  | forceSeal
  | flushOne

/-- Where a call stands. From `nextSeq` to `unlock` it holds the seal lock; `send`, `respool`
and `recordAck` are the flusher's, with the batch in flight. -/
inductive ClientCall (ε : Type) where
  | submit (envelope : ε)
  | tick (now : Int)
  | forceSeal
  | lockSeal (batch : Batch)
  | nextSeq (body : List UInt8)
  | push (entry : EncodedBatch)
  | unlock
  | flushOne
  | send (entry : EncodedBatch)
  | respool (entry : EncodedBatch) (result : Except CommsError FlushOutcome)
  | recordAck (entry : EncodedBatch) (seq : UInt64)
  | done
  | refused (error : CommsError)
  | flushed (result : Except CommsError FlushOutcome)

/-- How the wait for the control plane ends: the connection fails, a status comes with a
body, or the caller drops the flush before either. -/
inductive Answer where
  | failed (message : String)
  | response (status : Nat) (body : List UInt8)
  | dropped

namespace ClientCall

variable {ε : Type}

def start : ClientRequest ε → ClientCall ε
  | .submit envelope => .submit envelope
  | .tick now => .tick now
  | .forceSeal => .forceSeal
  | .flushOne => .flushOne

/-- What a section under the builder's mutex leads to. -/
def built (client : TelemetryClient) : Option Batch × BatchBuilder → TelemetryClient × ClientCall ε
  | (none, builder) => ({ client with builder }, .done)
  | (some batch, builder) => ({ client with builder }, .lockSeal batch)

def answered (config : ClientConfig ε) (client : TelemetryClient) (entry : EncodedBatch) :
    Answer → TelemetryClient × ClientCall ε
  | .failed message => (client, .respool entry (.error (.connection message)))
  | .dropped => ({ client with inFlight := none, abandoned := entry :: client.abandoned }, .done)
  | .response status body =>
    if fromStatus status = .success then
      match config.parseAck body with
      | .error e =>
        ({ client with inFlight := none, unconfirmed := entry :: client.unconfirmed },
          .flushed (.error e))
      | .ok seq => (client, .recordAck entry seq)
    else if (fromStatus status).isRetryable then
      (client, .respool entry (.ok (.transient (fromStatus status))))
    else
      ({ client with inFlight := none, rejected := entry :: client.rejected },
        .flushed (.error (.server (fromStatus status)
          ("telemetry batch rejected: HTTP " ++ config.statusText status))))

/-- What a call does next. There is one flusher: a flush begins when the last one is over. -/
def advance (config : ClientConfig ε) (answer : Answer) (client : TelemetryClient) :
    ClientCall ε → TelemetryClient × ClientCall ε
  | .submit envelope =>
    match config.prepare envelope with
    | .error message => (client, .refused (.envelopeInvalid message))
    | .ok prepared =>
      match config.encode prepared with
      | none => (client, .done)
      | some encoded => built client (client.builder.push ⟨config.timestamp prepared, encoded⟩)
  | .tick now => built client (client.builder.pollTimer now)
  | .forceSeal => built client client.builder.forceFlush
  | .lockSeal batch =>
    if client.sealLocked then (client, .lockSeal batch)
    else
      match config.encodeBatch batch with
      | none => (client, .done)
      | some body => ({ client with sealLocked := true }, .nextSeq body)
  | .nextSeq body =>
    ({ client with tracker := client.tracker.nextSeq.2 }, .push ⟨client.tracker.nextSeq.1, body⟩)
  | .push entry =>
    ({ client with
        spool := (client.spool.push entry).1
        sealedBatches := entry :: client.sealedBatches
        evicted := (client.spool.push entry).2 ++ client.evicted },
      .unlock)
  | .unlock => ({ client with sealLocked := false }, .done)
  | .flushOne =>
    match client.inFlight with
    | some _ => (client, .flushOne)
    | none =>
      match client.spool.popFront with
      | (none, _) => (client, .flushed (.ok .empty))
      | (some entry, spool) => ({ client with spool, inFlight := some entry }, .send entry)
  | .send entry => answered config client entry answer
  | .respool entry result =>
    ({ client with
        spool := (client.spool.pushFront entry).1
        inFlight := none
        evicted := (client.spool.pushFront entry).2 ++ client.evicted },
      .flushed result)
  | .recordAck entry seq =>
    match client.tracker.recordAck seq with
    | .error regression =>
      ({ client with inFlight := none, unconfirmed := entry :: client.unconfirmed },
        .flushed (.error (mapRegression regression)))
    | .ok tracker =>
      ({ client with
          tracker
          inFlight := none
          acknowledged := entry :: client.acknowledged },
        .flushed (.ok (.acked seq)))
  | .done => (client, .done)
  | .refused error => (client, .refused error)
  | .flushed result => (client, .flushed result)

end ClientCall

def telemetryService {ε : Type} (config : ClientConfig ε) :
    Service TelemetryClient (ClientRequest ε) Answer (ClientCall ε) :=
  ⟨ClientCall.start, ClientCall.advance config⟩

/-! ## What a step does -/

namespace ClientCall

variable {ε : Type} {config : ClientConfig ε} {answer : Answer} {client stored : TelemetryClient}
  {call moved other : ClientCall ε}

def Seals : ClientCall ε → Prop
  | .nextSeq _ | .push _ | .unlock => True
  | .submit _ | .tick _ | .forceSeal | .lockSeal _ | .flushOne | .send _ | .respool ..
  | .recordAck .. | .done | .refused _ | .flushed _ => False

def Flies : ClientCall ε → Prop
  | .send _ | .respool .. | .recordAck .. => True
  | .submit _ | .tick _ | .forceSeal | .lockSeal _ | .nextSeq _ | .push _ | .unlock | .flushOne
  | .done | .refused _ | .flushed _ => False

def Apart (call : ClientCall ε) : Prop := ¬ call.Seals ∧ ¬ call.Flies

variable (client) in
/-- The steps of a call, with what they do to the batches. -/
inductive Stepped : ClientCall ε → TelemetryClient → ClientCall ε → Prop where
  | built {call moved builder} : call.Apart → moved.Apart →
      Stepped call { client with builder } moved
  | locked {batch body} : client.sealLocked = false →
      Stepped (.lockSeal batch) { client with sealLocked := true } (.nextSeq body)
  | allocated {body} : Stepped (.nextSeq body) { client with tracker := client.tracker.nextSeq.2 }
        (.push ⟨client.tracker.next, body⟩)
  | pushed {entry} : Stepped (.push entry)
        { client with
          spool := (client.spool.push entry).1
          sealedBatches := entry :: client.sealedBatches
          evicted := (client.spool.push entry).2 ++ client.evicted }
        .unlock
  | unlocked : Stepped .unlock { client with sealLocked := false } .done
  | popped {entry rest drained} : client.inFlight = none → client.spool.items = entry :: rest →
      Stepped .flushOne { client with
          spool := { client.spool with items := rest, drained }
          inFlight := some entry }
        (.send entry)
  | failed {entry result} : Stepped (.send entry) client (.respool entry result)
  | taken {entry seq} : Stepped (.send entry) client (.recordAck entry seq)
  | respooled {entry result} : Stepped (.respool entry result)
        { client with
          spool := (client.spool.pushFront entry).1
          inFlight := none
          evicted := (client.spool.pushFront entry).2 ++ client.evicted }
        (.flushed result)
  | acknowledged {entry seq ackedHighWater result} : Stepped (.recordAck entry seq)
        { client with
          tracker := { client.tracker with ackedHighWater }
          inFlight := none
          acknowledged := entry :: client.acknowledged }
        (.flushed result)
  | unconfirmed {call entry result} : call = .send entry ∨ (∃ seq, call = .recordAck entry seq) →
      Stepped call
        { client with inFlight := none, unconfirmed := entry :: client.unconfirmed }
        (.flushed result)
  | rejected {entry result} : Stepped (.send entry)
        { client with inFlight := none, rejected := entry :: client.rejected }
        (.flushed result)
  | abandoned {entry} : Stepped (.send entry)
        { client with inFlight := none, abandoned := entry :: client.abandoned } .done

theorem built_stepped (apart : call.Apart) (result : Option Batch × BatchBuilder) :
    Stepped client call (built client result : TelemetryClient × ClientCall ε).1
      (built client result : TelemetryClient × ClientCall ε).2 := by
  rcases result with ⟨_ | batch, builder⟩
  · exact .built apart ⟨id, id⟩
  · exact .built apart ⟨id, id⟩

theorem stepped_idle (before : call.Apart) (after : moved.Apart) :
    Stepped client call client moved :=
  .built before after

theorem answered_stepped (config : ClientConfig ε) (client : TelemetryClient)
    (entry : EncodedBatch) (answer : Answer) :
    Stepped client (.send entry) (answered config client entry answer).1
      (answered config client entry answer).2 := by
  cases answer with
  | failed => exact .failed
  | dropped => exact .abandoned
  | response status body =>
    rw [answered]
    split
    case isTrue =>
      split
      case h_1 => exact .unconfirmed (.inl rfl)
      case h_2 => exact .taken
    split
    case isTrue => exact .failed
    case isFalse => exact .rejected

theorem recordAck_ok {tracker moved : SequenceTracker} {observed : UInt64}
    (recorded : tracker.recordAck observed = .ok moved) :
    moved = { tracker with ackedHighWater := some observed } ∧
      ∀ mark ∈ tracker.ackedHighWater, mark ≤ observed := by
  rw [SequenceTracker.recordAck] at recorded
  split at recorded
  case h_1 => cases recorded
  obtain ⟨-, recorded⟩ := ite_error_eq_ok recorded
  obtain ⟨notBelow, recorded⟩ := ite_error_eq_ok recorded
  cases recorded
  refine ⟨rfl, fun mark marked => UInt64.not_lt.mp fun below => notBelow ?_⟩
  rw [Option.mem_def.mp marked]
  exact decide_eq_true below

theorem advance_stepped (config : ClientConfig ε) (answer : Answer) (client : TelemetryClient)
    (call : ClientCall ε) :
    Stepped client call (advance config answer client call).1
      (advance config answer client call).2 := by
  cases call with
  | submit envelope =>
    rw [advance]
    split
    case h_1 => exact stepped_idle ⟨id, id⟩ ⟨id, id⟩
    split
    case h_1 => exact stepped_idle ⟨id, id⟩ ⟨id, id⟩
    case h_2 => exact built_stepped ⟨id, id⟩ _
  | tick | forceSeal => exact built_stepped ⟨id, id⟩ _
  | lockSeal batch =>
    rw [advance]
    split
    case isTrue => exact stepped_idle ⟨id, id⟩ ⟨id, id⟩
    case isFalse free =>
      split
      case h_1 => exact stepped_idle ⟨id, id⟩ ⟨id, id⟩
      case h_2 => exact .locked (Bool.eq_false_iff.mpr free)
  | nextSeq => exact .allocated
  | push => exact .pushed
  | unlock => exact .unlocked
  | flushOne =>
    rw [advance]
    split
    case h_1 => exact stepped_idle ⟨id, id⟩ ⟨id, id⟩
    case h_2 free =>
      rw [popFront]
      split
      case h_1 => exact stepped_idle ⟨id, id⟩ ⟨id, id⟩
      case h_2 entry spool popped =>
        split at popped
        case h_1 => cases popped
        case h_2 items =>
          cases popped
          exact .popped free items
  | send entry => exact answered_stepped config client entry answer
  | respool => exact .respooled
  | recordAck entry seq =>
    rw [advance]
    split
    case h_1 => exact .unconfirmed (.inr ⟨seq, rfl⟩)
    case h_2 recorded =>
      obtain ⟨rfl, -⟩ := recordAck_ok recorded
      exact .acknowledged
  | _ => exact stepped_idle ⟨id, id⟩ ⟨id, id⟩

/-! ## Two locks -/

theorem Stepped.sealLock (stepped : Stepped client call stored moved) :
    (¬ call.Seals ∧ moved.Seals ∧ client.sealLocked = false ∧ stored.sealLocked) ∨
      (call.Seals ∧ ¬ moved.Seals) ∨
      ((call.Seals ↔ moved.Seals) ∧ stored.sealLocked = client.sealLocked) := by
  cases stepped with
  | locked free => exact .inl ⟨id, trivial, free, rfl⟩
  | unlocked => exact .inr (.inl ⟨trivial, id⟩)
  | built before after => exact .inr (.inr ⟨iff_of_false before.1 after.1, rfl⟩)
  | unconfirmed before =>
    refine .inr (.inr ⟨iff_of_false ?_ id, rfl⟩)
    rcases before with rfl | ⟨_, rfl⟩ <;> exact id
  | _ =>
    exact .inr (.inr ⟨Iff.rfl, rfl⟩)

theorem Stepped.flightLock (stepped : Stepped client call stored moved) :
    (¬ call.Flies ∧ moved.Flies ∧ client.inFlight.isSome = false ∧ stored.inFlight.isSome) ∨
      (call.Flies ∧ ¬ moved.Flies) ∨
      ((call.Flies ↔ moved.Flies) ∧ stored.inFlight.isSome = client.inFlight.isSome) := by
  cases stepped with
  | popped free => exact .inl ⟨id, trivial, by rw [free]; rfl, rfl⟩
  | respooled | acknowledged | rejected | abandoned => exact .inr (.inl ⟨trivial, id⟩)
  | unconfirmed before =>
    refine .inr (.inl ⟨?_, id⟩)
    rcases before with rfl | ⟨_, rfl⟩ <;> trivial
  | built before after => exact .inr (.inr ⟨iff_of_false before.2 after.2, rfl⟩)
  | _ => exact .inr (.inr ⟨Iff.rfl, rfl⟩)

theorem sealLocking (config : ClientConfig ε) :
    Locking (telemetryService config) TelemetryClient.sealLocked Seals :=
  .of_cases (by rintro (_ | _ | _ | _) <;> exact id)
    fun answer client call => (advance_stepped config answer client call).sealLock

/-- One batch is in flight at a time. -/
theorem flightLocking (config : ClientConfig ε) :
    Locking (telemetryService config) (fun client => client.inFlight.isSome) Flies :=
  .of_cases (by rintro (_ | _ | _ | _) <;> exact id)
    fun answer client call => (advance_stepped config answer client call).flightLock

end ClientCall

/-! ## Where the batches are -/

namespace TelemetryClient

def places (client : TelemetryClient) : List EncodedBatch :=
  client.spool.items ++ (client.inFlight.toList ++ (client.acknowledged ++
    (client.unconfirmed ++ (client.rejected ++ (client.abandoned ++ client.evicted)))))

/-- The batches are in order and accounted for. -/
structure Accounted (client : TelemetryClient) : Prop where
  ordered : client.spool.items.Pairwise fun earlier later => earlier.seq < later.seq
  ahead : ∀ flying ∈ client.inFlight, ∀ batch ∈ client.spool.items, flying.seq < batch.seq
  distinct : client.sealedBatches.Pairwise fun later earlier => earlier.seq < later.seq
  placed : client.sealedBatches.Perm client.places
  counted : client.spool.evicted = UInt64.ofNat client.evicted.length
  within : client.spool.items.length ≤ client.spool.capacity

/-- The sealed batches have numbers that were given out, and the next one follows. -/
structure Emitted (client : TelemetryClient) : Prop where
  upto : ∀ batch ∈ client.sealedBatches, ∃ last ∈ client.tracker.lastEmitted, batch.seq ≤ last
  next : ∀ last ∈ client.tracker.lastEmitted, client.tracker.next = saturatingAdd last 1

variable {client : TelemetryClient} {batch : EncodedBatch}

theorem count_places (client : TelemetryClient) (batch : EncodedBatch) :
    client.places.count batch = client.spool.items.count batch +
      (client.inFlight.toList.count batch + (client.acknowledged.count batch +
        (client.unconfirmed.count batch + (client.rejected.count batch +
          (client.abandoned.count batch + client.evicted.count batch))))) := by
  simp only [places, count_append]

variable {tracker : SequenceTracker}

theorem Accounted.elsewhere (accounted : client.Accounted) {builder : BatchBuilder}
    {sealLocked : Bool} :
    Accounted { client with builder, sealLocked, tracker } :=
  ⟨accounted.ordered, accounted.ahead, accounted.distinct, accounted.placed, accounted.counted,
    accounted.within⟩

variable {entry : EncodedBatch}

variable (accounted : client.Accounted)

include accounted

/-- **A push of the highest number keeps the account.** -/
theorem Accounted.pushed (highest : ∀ batch ∈ client.sealedBatches, batch.seq < entry.seq) :
    Accounted { client with
        spool := (client.spool.push entry).1
        sealedBatches := entry :: client.sealedBatches
        evicted := (client.spool.push entry).2 ++ client.evicted } := by
  have kept := client.spool.push_sublist entry
  constructor
  · refine Pairwise.sublist kept (pairwise_append.mpr ⟨accounted.ordered, ?_, ?_⟩)
    · exact pairwise_singleton ..
    · intro batch spooled last isEntry
      rw [mem_singleton.mp isEntry]
      exact highest batch (accounted.placed.mem_iff.mpr (mem_append_left _ spooled))
  · intro flying inFlight batch spooled
    rcases mem_append.mp (kept.subset spooled) with before | isEntry
    · exact accounted.ahead flying inFlight batch before
    · rw [mem_singleton.mp isEntry]
      exact highest flying (accounted.placed.mem_iff.mpr
        (mem_append_right _ (mem_append_left _ (Option.mem_toList.mpr inFlight))))
  · exact pairwise_cons.mpr ⟨highest, accounted.distinct⟩
  · refine perm_iff_count.mpr fun batch => ?_
    have before := accounted.placed.count_eq batch
    have moved := (client.spool.push_perm entry).count_eq batch
    rw [count_places] at before ⊢
    simp only [count_append, count_cons] at before moved ⊢
    omega
  · rw [length_append, UInt64.ofNat_add, ← accounted.counted, push_evicted]
    exact UInt64.add_comm ..
  · rw [push_capacity]
    exact client.spool.length_push entry accounted.within

theorem Accounted.popped {rest : List EncodedBatch}
    {drained : UInt64} (free : client.inFlight = none)
    (items : client.spool.items = entry :: rest) :
    Accounted { client with
        spool := { client.spool with items := rest, drained }
        inFlight := some entry } := by
  have ordered := accounted.ordered
  have within := accounted.within
  rw [items] at ordered within
  obtain ⟨first, remaining⟩ := pairwise_cons.mp ordered
  constructor
  · exact remaining
  · rintro flying ⟨⟩
    exact first
  · exact accounted.distinct
  · refine perm_iff_count.mpr fun batch => ?_
    have before := accounted.placed.count_eq batch
    rw [count_places] at before ⊢
    rw [free, items] at before
    simp only [Option.toList, count_cons, count_nil] at before ⊢
    omega
  · exact accounted.counted
  · exact Nat.le_of_succ_le within

/-- **Putting the batch in flight back keeps the account.** -/
theorem Accounted.respooled (flying : client.inFlight = some entry) : Accounted
    { client with
      spool := (client.spool.pushFront entry).1
      inFlight := none
      evicted := (client.spool.pushFront entry).2 ++ client.evicted } := by
  constructor
  · refine Pairwise.sublist (client.spool.pushFront_sublist entry) ?_
    exact pairwise_cons.mpr ⟨accounted.ahead entry flying, accounted.ordered⟩
  · exact nofun
  · exact accounted.distinct
  · refine perm_iff_count.mpr fun batch => ?_
    have before := accounted.placed.count_eq batch
    have moved := (client.spool.pushFront_perm entry).count_eq batch
    rw [count_places] at before ⊢
    rw [flying] at before
    simp only [Option.toList, count_append, count_cons, count_nil] at before moved ⊢
    omega
  · rw [length_append, UInt64.ofNat_add, ← accounted.counted, pushFront_evicted]
    exact UInt64.add_comm ..
  · rw [pushFront_capacity]
    exact client.spool.length_pushFront entry accounted.within

theorem Accounted.landed (flying : client.inFlight = some entry)
    {acknowledged unconfirmed rejected abandoned : List EncodedBatch}
    (lands : (acknowledged ++ (unconfirmed ++ (rejected ++ abandoned))).Perm (entry ::
      (client.acknowledged ++ (client.unconfirmed ++ (client.rejected ++ client.abandoned))))) :
    Accounted { client with
        tracker, inFlight := none, acknowledged, unconfirmed, rejected, abandoned } := by
  refine ⟨accounted.ordered, nofun, accounted.distinct, ?_, accounted.counted, accounted.within⟩
  refine perm_iff_count.mpr fun batch => ?_
  have before := accounted.placed.count_eq batch
  have moved := lands.count_eq batch
  rw [count_places] at before ⊢
  rw [flying] at before
  simp only [Option.toList, count_append, count_cons, count_nil] at before moved ⊢
  omega

end TelemetryClient

namespace ClientCall

variable {ε : Type} {config : ClientConfig ε} {answer : Answer} {client stored : TelemetryClient}
  {call moved other : ClientCall ε}

def Knows (client : TelemetryClient) : ClientCall ε → Prop
  | .push entry => client.tracker.lastEmitted = some entry.seq ∧
      ∀ batch ∈ client.sealedBatches, batch.seq < entry.seq
  | .send entry | .respool entry _ | .recordAck entry _ => client.inFlight = some entry
  | .submit _ | .tick _ | .forceSeal | .lockSeal _ | .nextSeq _ | .unlock | .flushOne | .done
  | .refused _ | .flushed _ => True

/-- When a number is given out, the highest one has not been given out yet. -/
def Unexhausted (client : TelemetryClient) : ClientCall ε → Prop
  | .nextSeq _ => ∀ last ∈ client.tracker.lastEmitted, last.toNat < u64Max
  | .submit _ | .tick _ | .forceSeal | .lockSeal _ | .push _ | .unlock | .flushOne | .send _
  | .respool .. | .recordAck .. | .done | .refused _ | .flushed _ => True

instance (client : TelemetryClient) (call : ClientCall ε) :
    Decidable (call.Unexhausted client) := by
  cases call <;> dsimp only [ClientCall.Unexhausted]
  case nextSeq => exact Option.decidableForallMem _
  all_goals infer_instance

theorem Apart.knows (apart : call.Apart) : call.Knows client := by
  cases call with
  | push => exact absurd trivial apart.1
  | send | respool | recordAck => exact absurd trivial apart.2
  | _ => trivial

theorem lt_next (emitted : client.Emitted)
    (unexhausted : ∀ last ∈ client.tracker.lastEmitted, last.toNat < u64Max) {batch : EncodedBatch}
    (among : batch ∈ client.sealedBatches) : batch.seq < client.tracker.next := by
  obtain ⟨last, given, upto⟩ := emitted.upto batch among
  have below := unexhausted last given
  have one : (1 : UInt64).toNat = 1 := rfl
  rw [UInt64.le_iff_toNat_le] at upto
  rw [emitted.next last given, UInt64.lt_iff_toNat_lt, toNat_saturatingAdd, one]
  omega

/-- **A step keeps the account** and what its call knows. -/
theorem Stepped.accounted (stepped : Stepped client call stored moved)
    (accounted : client.Accounted) (emitted : client.Emitted) (knows : call.Knows client)
    (unexhausted : call.Unexhausted client) :
    (stored.Accounted ∧ stored.Emitted) ∧ moved.Knows stored := by
  obtain ⟨upto, next⟩ := emitted
  cases stepped with
  | built _ after => exact ⟨⟨accounted.elsewhere, upto, next⟩, after.knows⟩
  | allocated =>
    have above : ∀ batch ∈ client.sealedBatches, batch.seq < client.tracker.next :=
      fun _ among => lt_next ⟨upto, next⟩ unexhausted among
    refine ⟨⟨accounted.elsewhere, fun batch among => ?_, ?_⟩, rfl, above⟩
    · exact ⟨client.tracker.next, rfl, UInt64.le_of_lt (above batch among)⟩
    · rintro last ⟨⟩
      rfl
  | @pushed entry =>
    obtain ⟨given, highest⟩ := knows
    refine ⟨⟨accounted.pushed highest, fun batch among => ⟨entry.seq, given, ?_⟩, next⟩, trivial⟩
    rcases mem_cons.mp among with rfl | before
    · exact UInt64.le_refl _
    · exact UInt64.le_of_lt (highest batch before)
  | popped free items => exact ⟨⟨accounted.popped free items, upto, next⟩, rfl⟩
  | failed | taken => exact ⟨⟨accounted, upto, next⟩, knows⟩
  | respooled => exact ⟨⟨accounted.respooled knows, upto, next⟩, trivial⟩
  | acknowledged =>
    exact ⟨⟨accounted.landed knows (List.Perm.refl _), upto, next⟩, trivial⟩
  | @unconfirmed _ entry _ before =>
    have flying : client.inFlight = some entry := by
      rcases before with rfl | ⟨_, rfl⟩ <;> exact knows
    exact ⟨⟨accounted.landed flying perm_middle, upto, next⟩, trivial⟩
  | rejected =>
    refine ⟨⟨accounted.landed knows ?_, upto, next⟩, trivial⟩
    exact (perm_middle.append_left _).trans perm_middle
  | abandoned =>
    refine ⟨⟨accounted.landed knows ?_, upto, next⟩, trivial⟩
    exact (((perm_middle.append_left _).trans perm_middle).append_left _).trans perm_middle
  | _ => exact ⟨⟨accounted.elsewhere, upto, next⟩, trivial⟩

/-- What a call knows stands while others move: only a sealer gives out numbers, and only
the flusher touches what is in flight. -/
theorem Stepped.knows_stable (stepped : Stepped client call stored moved)
    (knows : other.Knows client) (seals : call.Seals → ¬ other.Seals)
    (flies : call.Flies → ¬ other.Flies) : other.Knows stored := by
  cases stepped with
  | allocated | pushed =>
    cases other with
    | push => exact absurd trivial (seals trivial)
    | _ => exact knows
  | popped free =>
    cases other with
    | send | respool | recordAck => exact absurd (free.symm.trans knows) nofun
    | _ => exact knows
  | respooled | acknowledged | rejected | abandoned =>
    cases other with
    | send | respool | recordAck => exact absurd trivial (flies trivial)
    | _ => exact knows
  | unconfirmed before =>
    have flying : call.Flies := by rcases before with rfl | ⟨_, rfl⟩ <;> trivial
    cases other with
    | send | respool | recordAck => exact absurd trivial (flies flying)
    | _ => exact knows
  | _ =>
    cases other <;> exact knows

end ClientCall

open ClientCall

/-- **Telemetry batches are in order and accounted for**, in every run that does not go past
the highest sequence number: a sealed batch that was not dropped with its flush is in one of
the other places. -/
theorem batches_accounted {ε : Type} (config : ClientConfig ε) (batch : BatchConfig)
    (spoolCapacity : Nat) (stream : String) (startSeq : UInt64)
    {moves : List (Move (ClientRequest ε) Answer)}
    (unexhausted : AlongRun (telemetryService config).step
      (AtCall fun _ client call => call.Unexhausted client)
      (idle (.new batch spoolCapacity stream startSeq)) moves) :
    let client := ((telemetryService config).run
      (.new batch spoolCapacity stream startSeq) moves).store
    client.Accounted ∧ client.places.Nodup := by
  have alone := alongRun_atMove_and _ (fun _ move => (sealLocking config).step move)
    (alongRun_atMove_and _ (fun _ move => (flightLocking config).step move)
      (unexhausted.imp fun _ _ => atMove_store_iff.mpr) exclusive_idle)
    exclusive_idle
  have asserted := run_asserts (fun client => client.Accounted ∧ client.Emitted)
    (fun client call => call.Knows client) ?_ ?_ ?_
    ⟨⟨.nil, nofun, .nil, .nil, rfl, Nat.zero_le _⟩, nofun, nofun⟩ alone
  · have accounted := asserted.store.1
    refine ⟨accounted, accounted.placed.nodup_iff.mp (accounted.distinct.imp ?_)⟩
    rintro later earlier below rfl
    exact UInt64.lt_irrefl _ below
  · rintro client (_ | _ | _ | _) - <;> trivial
  · rintro answer system call asserted underWay ⟨-, -, unexhausted⟩
    exact (advance_stepped config answer system.store call).accounted asserted.store.1
      asserted.store.2 (asserted.calls call underWay) unexhausted
  · rintro answer system call other asserted apart ⟨seals, flies, -⟩
    exact (advance_stepped config answer system.store call).knows_stable
      (asserted.calls other apart.mem_right) (seals.apart call other apart)
      (flies.apart call other apart)

def plainConfig : ClientConfig String where
  prepare := .ok
  timestamp _ := 0
  encode envelope := some envelope.toUTF8.toList
  compress := some
  decodeJsonAck _ := .error "no JSON"
  decodeMsgpackAck body := .ok (body.getLast?.elim 0 (·.toUInt64))
  statusText := toString

def singleBatches (startSeq : UInt64) : TelemetryClient := .new ⟨1, 100, 5⟩ 2 "telemetry" startSeq

def singleFlush (answer : Answer) : List (Move (ClientRequest String) Answer) := flatten
    [[.request (.submit "event")], replicate 5 (.resume 0 (.failed "down")),
      [.request .flushOne], replicate 2 (.resume 1 answer)]

def afterFlush (answer : Answer) : TelemetryClient :=
  ((telemetryService plainConfig).run (singleBatches 1) (singleFlush answer)).store

/-- The batch is sealed, and not spooled, in flight, acknowledged, rejected or evicted. -/
def TelemetryClient.Lost (client : TelemetryClient) : Prop :=
  client.sealedBatches ≠ [] ∧ client.spool.items = [] ∧ client.inFlight = none ∧
    client.acknowledged = [] ∧ client.rejected = [] ∧ client.evicted = []

instance (client : TelemetryClient) : Decidable client.Lost :=
  inferInstanceAs (Decidable (_ ∧ _))

def twoBatches : List (Move (ClientRequest String) Answer) := flatten
    [[.request (.submit "first"), .request (.submit "second")],
      replicate 5 (.resume 0 (.failed "down")), replicate 5 (.resume 1 (.failed "down"))]

/-- **A batch can end elsewhere, and batches can share a number.** A batch that the server has
taken with an acknowledgement that cannot be read is neither spooled nor in flight nor
acknowledged, rejected or evicted, and neither is one whose flush is dropped; and from the
highest number on the spool is not in strict order. -/
theorem batches_not_accounted :
    (afterFlush (.response 200 [])).Lost ∧ (afterFlush .dropped).Lost ∧
      ((telemetryService plainConfig).run (singleBatches 0xFFFFFFFFFFFFFFFF)
        twoBatches).store.spool.items.map (·.seq) = [0xFFFFFFFFFFFFFFFF, 0xFFFFFFFFFFFFFFFF] := by
  refine ⟨by decide +kernel, by decide +kernel, by decide +kernel⟩

/-- The first of two batches fails in flight while a third is sealed, and goes back to the
head of a full spool, from where the newest is evicted. -/
def respooledBatch : List (Move (ClientRequest String) Answer) := twoBatches ++ flatten
    [[.request .flushOne, .resume 2 (.failed "down"), .request (.submit "third")],
      replicate 5 (.resume 3 (.failed "down")), replicate 2 (.resume 2 (.failed "down"))]

def afterRespool : TelemetryClient :=
  ((telemetryService plainConfig).run (singleBatches 1) respooledBatch).store

theorem respooled_batch_accounted : (afterRespool.Accounted ∧ afterRespool.places.Nodup) ∧
    afterRespool.spool.items.map (·.seq) = [1, 2] :=
  ⟨batches_accounted plainConfig _ _ _ _ (by decide +kernel), by decide +kernel⟩

end ShieldNet.Telemetry
