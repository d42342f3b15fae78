import Mathlib.Data.List.Induction

/-!
# The telemetry consumer

`dispatch` of `internal/service/telemetry/service.go` takes one delivery through
decoding, sampling, the tenant's limiter, the redelivery ring, the row limiter
and the hot write, and settles it. What the sampler, the limiters and the stores
answer is part of the delivery.

The ring knows events by the ids their producers choose, whoever they are. While
an id stands for one event, no delivery is settled before its event is accounted
for (`settled_is_accounted_for`), and while two tenants share no id, neither
keeps the other's events out (`tenant_not_suppressed`). A message that reuses the
id of another tenant's event is acknowledged and never written
(`reused_id_lost`, `reused_id_suppresses`).
-/

namespace ShieldNet.Telemetry

open List

/-! ## The consumer -/

abbrev EventUuid := BitVec 128

/-- An `Envelope`: what the consumer reads of it, and the rest. -/
structure Envelope where
  eventId : EventUuid
  tenantId : EventUuid
  body : List UInt8
  deriving DecidableEq

/-- A delivery of a message: its place in the stream, its envelope unless it does
not decode, its delivery count where there is metadata, and what the sampler, the
limiters and the stores answer on the way. -/
structure Delivery where
  message : Nat
  envelope : Option Envelope
  numDelivered : Option Nat
  sampled : Bool
  admitted : Bool
  rowAllowed : Bool
  hotWritten : Bool
  dlqPublished : Bool

def hotPathMaxDeliver : Nat := 5

namespace Delivery

variable (delivery : Delivery)

def deliveryExhausted : Bool := delivery.numDelivered.any (hotPathMaxDeliver ≤ ·)

def isRedelivery : Bool := delivery.numDelivered.any (1 < ·)

def kept : Bool := delivery.isRedelivery || delivery.sampled

def isOf (tenant : EventUuid) (delivery : Delivery) : Bool :=
  delivery.envelope.any (·.tenantId == tenant)

def Unhindered : Prop :=
  delivery.admitted = true ∧ delivery.rowAllowed = true ∧ delivery.hotWritten = true

end Delivery

/-- The ids it holds, from the newest to the oldest. -/
structure DedupRing where
  cap : Nat
  held : List EventUuid

open DedupRing

def DedupRing.seen (ring : DedupRing) (id : EventUuid) : Bool := ring.held.contains id

def DedupRing.add (ring : DedupRing) (id : EventUuid) : DedupRing :=
  if ring.seen id then ring else { ring with held := (id :: ring.held).take ring.cap }

/-- A worker's ring, with the hot store and the dead-letter queue behind it. -/
structure Consumer where
  ring : DedupRing
  hot : List Envelope
  dlq : List Nat

inductive Settlement where
  | ack
  | term
  | nak
  deriving DecidableEq

namespace Consumer

/-- A consumer that has read nothing; the ring's size has a default. -/
def new (capacity : Nat) : Consumer := ⟨⟨if capacity = 0 then 1024 else capacity, []⟩, [], []⟩

variable (consumer : Consumer) (delivery : Delivery)

def publishToDLQ : Consumer :=
  if delivery.dlqPublished then { consumer with dlq := delivery.message :: consumer.dlq }
  else consumer

def refuse : Settlement × Consumer :=
  if delivery.deliveryExhausted then (.term, consumer.publishToDLQ delivery) else (.nak, consumer)

/-- The hot write, recorded in the ring. -/
def write (envelope : Envelope) : Consumer := { consumer with
    hot := envelope :: consumer.hot, ring := consumer.ring.add envelope.eventId }

def dispatch : Settlement × Consumer :=
  match delivery.envelope with
  | none => (.term, consumer.publishToDLQ delivery)
  | some envelope =>
    if !delivery.kept then (.ack, consumer)
    else if !delivery.admitted then consumer.refuse delivery
    else if consumer.ring.seen envelope.eventId then (.ack, consumer)
    else if !delivery.rowAllowed then consumer.refuse delivery
    else if !delivery.hotWritten then consumer.refuse delivery
    else (.ack, consumer.write envelope)

def run (deliveries : List Delivery) : Consumer :=
  deliveries.foldl (fun consumer delivery => (consumer.dispatch delivery).2) consumer

/-! ## Nothing is lost silently -/

/-- The delivery was sampled out as the message's first, its event is in the hot
store, or its message in the dead-letter queue. -/
def Accounts : Prop := delivery.numDelivered = some 1 ∧ delivery.sampled = false ∨
    (∃ envelope ∈ delivery.envelope, envelope ∈ consumer.hot) ∨ delivery.message ∈ consumer.dlq

/-- What the ring holds was written, and what was written was delivered. -/
structure Recorded (history : List Delivery) (consumer : Consumer) : Prop where
  ring : ∀ id ∈ consumer.ring.held, ∃ envelope ∈ consumer.hot, envelope.eventId = id
  hot : ∀ envelope ∈ consumer.hot, ∃ delivery ∈ history, delivery.envelope = some envelope

theorem mem_add {ring : DedupRing} {id other : EventUuid} (held : other ∈ (ring.add id).held) :
    other = id ∨ other ∈ ring.held := by
  unfold add at held
  split at held
  · exact .inr held
  · exact mem_cons.mp (mem_of_mem_take held)

theorem dispatch_cases :
    (∃ envelope ∈ delivery.envelope, consumer.dispatch delivery = (.ack, consumer.write envelope)) ∨
    (consumer.dispatch delivery).2.ring = consumer.ring ∧
      (consumer.dispatch delivery).2.hot = consumer.hot := by
  have published : (consumer.publishToDLQ delivery).ring = consumer.ring ∧
      (consumer.publishToDLQ delivery).hot = consumer.hot := by
    unfold publishToDLQ
    split <;> exact ⟨rfl, rfl⟩
  have refused : (consumer.refuse delivery).2.ring = consumer.ring ∧
      (consumer.refuse delivery).2.hot = consumer.hot := by
    unfold refuse
    split
    · exact published
    · exact ⟨rfl, rfl⟩
  unfold dispatch
  split
  case h_1 => exact .inr published
  case h_2 envelope decoded =>
    repeat' split
    all_goals first | exact .inr ⟨rfl, rfl⟩ | exact .inr refused |
      exact .inl ⟨envelope, decoded, rfl⟩

theorem Recorded.dispatch {history : List Delivery} {consumer : Consumer}
    (recorded : Recorded history consumer) (delivery : Delivery) :
    Recorded (history ++ [delivery]) (consumer.dispatch delivery).2 := by
  have earlier : ∀ envelope ∈ consumer.hot, ∃ past ∈ history ++ [delivery],
      past.envelope = some envelope := fun envelope stored =>
    (recorded.hot envelope stored).imp fun _ found => ⟨mem_append_left _ found.1, found.2⟩
  rcases consumer.dispatch_cases delivery with ⟨envelope, decoded, written⟩ | ⟨ring, hot⟩
  · rw [written]
    refine ⟨fun id held => ?_, forall_mem_cons.mpr ⟨⟨delivery, by simp, decoded⟩, earlier⟩⟩
    rcases mem_add held with rfl | held
    · exact ⟨envelope, mem_cons_self, rfl⟩
    · exact (recorded.ring id held).imp fun _ found => ⟨mem_cons_of_mem _ found.1, found.2⟩
  · refine ⟨?_, ?_⟩
    · rw [ring, hot]
      exact recorded.ring
    · rw [hot]
      exact earlier

theorem recorded_run (capacity : Nat) (history : List Delivery) :
    Recorded history ((new capacity).run history) := by
  induction history using reverseRecOn with
  | nil =>
    exact ⟨fun _ held => absurd held not_mem_nil, fun _ stored => absurd stored not_mem_nil⟩
  | append_singleton history delivery ih =>
    rw [run, foldl_append]
    exact ih.dispatch delivery

def IdsIdentify (deliveries : List Delivery) : Prop :=
  ∀ one ∈ deliveries, ∀ two ∈ deliveries, ∀ first ∈ one.envelope, ∀ second ∈ two.envelope,
    first.eventId = second.eventId → first = second

/-- **No delivery is settled before its event is accounted for**, over every
history of deliveries and failures; one that is handed back has deliveries
left. -/
theorem settled_is_accounted_for (capacity : Nat) (history : List Delivery) (delivery : Delivery)
    (dlqWorks : delivery.dlqPublished = true) (counted : delivery.numDelivered.any (1 ≤ ·) = true)
    (identify : IdsIdentify (history ++ [delivery])) :
    let settled := ((new capacity).run history).dispatch delivery
    (settled.1 ≠ .nak → settled.2.Accounts delivery) ∧
      (settled.1 = .nak → delivery.deliveryExhausted = false) := by
  have recorded := recorded_run capacity history
  generalize (new capacity).run history = consumer at recorded
  have published : delivery.message ∈ (consumer.publishToDLQ delivery).dlq := by
    rw [publishToDLQ, if_pos dlqWorks]
    exact mem_cons_self
  have refused : ((consumer.refuse delivery).1 ≠ .nak →
      (consumer.refuse delivery).2.Accounts delivery) ∧
      ((consumer.refuse delivery).1 = .nak → delivery.deliveryExhausted = false) := by
    unfold refuse
    split
    case isTrue => exact ⟨fun _ => .inr (.inr published), fun same => by cases same⟩
    case isFalse left => exact ⟨fun moved => absurd rfl moved, fun _ => by simpa using left⟩
  have accounted : ∀ {settlement : Settlement} {after : Consumer}, settlement ≠ .nak →
      after.Accounts delivery → (settlement ≠ .nak → after.Accounts delivery) ∧
        (settlement = .nak → delivery.deliveryExhausted = false) :=
    fun final accounts => ⟨fun _ => accounts, fun same => absurd same final⟩
  unfold dispatch
  split
  case h_1 => exact accounted (by simp) (.inr (.inr published))
  case h_2 envelope decoded =>
    split
    case isTrue dropped =>
      refine accounted (by simp) (.inl ?_)
      cases count : delivery.numDelivered with
      | none => simp [count] at counted
      | some count' =>
        simp only [Delivery.kept, Delivery.isRedelivery, count, Option.any_some, Bool.not_or,
          Bool.and_eq_true, Bool.not_eq_true', decide_eq_false_iff_not, decide_eq_true_eq]
          at dropped counted
        exact ⟨congrArg some (by omega), dropped.2⟩
    split
    case isTrue => exact refused
    split
    case isTrue seen =>
      obtain ⟨stored, inHot, sameId⟩ := recorded.ring _ (contains_iff_mem.mp seen)
      obtain ⟨past, listed, pastEnvelope⟩ := recorded.hot stored inHot
      obtain rfl := identify past (mem_append_left _ listed) delivery
        (mem_append_right _ mem_cons_self) stored pastEnvelope envelope decoded sameId
      exact accounted (by simp) (.inr (.inl ⟨stored, decoded, inHot⟩))
    split
    case isTrue => exact refused
    split
    case isTrue => exact refused
    exact accounted (by simp) (.inr (.inl ⟨envelope, decoded, mem_cons_self⟩))

def delivered (message : Nat) (envelope : Envelope) : Delivery :=
  ⟨message, some envelope, some 1, true, true, true, true, true⟩

theorem redelivery_accounted_for : let failed := { delivered 1 ⟨7, 1, []⟩ with hotWritten := false }
    let again := { delivered 1 ⟨7, 1, []⟩ with numDelivered := some 2 }
    (((new 8).run [failed]).dispatch again).1 = .ack ∧
      (((new 8).run [failed]).dispatch again).2.Accounts again :=
  ⟨by decide, (settled_is_accounted_for 8 _ _ rfl (by decide) (by
    simp [IdsIdentify, delivered])).1 (by decide)⟩

/-- **A reused id is lost**: the second tenant's message is acknowledged, and its
event is neither sampled out nor written nor in the dead-letter queue. -/
theorem reused_id_lost : let second := delivered 2 ⟨7, 2, [1]⟩
    let settled := ((new 8).run [delivered 1 ⟨7, 1, []⟩]).dispatch second
    settled.1 = .ack ∧ second.sampled = true ∧ settled.2.hot = [⟨7, 1, []⟩] ∧
      settled.2.dlq = [] := by
  decide

/-! ## Tenants do not touch each other -/

def hotOf (tenant : EventUuid) (consumer : Consumer) : List Envelope :=
  consumer.hot.filter (·.tenantId == tenant)

/-- The ring has room for so many ids more. -/
def Room (count : Nat) : Prop := consumer.ring.held.length + count ≤ consumer.ring.cap

section Tenants

variable {one two : Consumer} {delivery : Delivery} {envelope : Envelope} {tenant other : EventUuid}
  {count : Nat}

theorem mem_write_iff (room : one.Room (count + 1)) {id : EventUuid} :
    id ∈ (one.write envelope).ring.held ↔ id = envelope.eventId ∨ id ∈ one.ring.held := by
  refine ⟨mem_add, fun present => ?_⟩
  simp only [write, add]
  split
  case isTrue seen =>
    rcases present with rfl | held
    · exact contains_iff_mem.mp seen
    · exact held
  have fits : (envelope.eventId :: one.ring.held).length ≤ one.ring.cap := by
    rw [Room] at room
    rw [length_cons]
    omega
  rw [take_of_length_le fits]
  exact mem_cons.mpr present

theorem Room.dispatch (room : one.Room (count + 1)) (delivery : Delivery) :
    (one.dispatch delivery).2.Room count := by
  rcases one.dispatch_cases delivery with ⟨envelope, -, written⟩ | ⟨ring, -⟩
  · simp only [written, Room, write, add] at room ⊢
    split
    · omega
    · dsimp only
      rw [length_take, length_cons]
      omega
  · rw [Room] at room ⊢
    rw [ring]
    omega

theorem dispatch_touches (room : one.Room (count + 1))
    (decoded : delivery.envelope = some envelope) :
    (envelope.tenantId ≠ tenant → (one.dispatch delivery).2.hotOf tenant = one.hotOf tenant) ∧
    ∀ id, id ≠ envelope.eventId →
      (id ∈ (one.dispatch delivery).2.ring.held ↔ id ∈ one.ring.held) := by
  rcases one.dispatch_cases delivery with ⟨written, same, dispatched⟩ | ⟨ring, hot⟩
  · obtain rfl : written = envelope := Option.some.inj (same.symm.trans decoded)
    rw [dispatched]
    refine ⟨fun differ => ?_, fun id differ => ?_⟩
    · exact filter_cons_of_neg (by simpa using differ)
    · exact (mem_write_iff room).trans (or_iff_right differ)
  · exact ⟨fun _ => by rw [hotOf, hot, hotOf], fun _ _ => by rw [ring]⟩

/-- Without failures a delivery is written if it is kept and its id is new. -/
theorem dispatch_unhindered (unhindered : delivery.Unhindered)
    (decoded : delivery.envelope = some envelope) :
    (one.dispatch delivery).2 =
      if delivery.kept && !one.ring.seen envelope.eventId then one.write envelope else one := by
  obtain ⟨admitted, rowAllowed, hotWritten⟩ := unhindered
  simp only [dispatch, decoded, admitted, rowAllowed, hotWritten]
  cases delivery.kept <;> cases one.ring.seen envelope.eventId <;> rfl

/-- The consumers have the same of a tenant, and hold the same of some ids. -/
def Alike (tenant : EventUuid) (ids : EventUuid → Prop) (one two : Consumer) : Prop :=
  one.hotOf tenant = two.hotOf tenant ∧ ∀ id, ids id → (id ∈ one.ring.held ↔ id ∈ two.ring.held)

variable {ids : EventUuid → Prop}

/-- Both take a delivery, whose id is one of those they hold alike if it is of
the tenant. -/
theorem Alike.dispatch (alike : Alike tenant ids one two) (unhindered : delivery.Unhindered)
    (own : ∀ envelope ∈ delivery.envelope, envelope.tenantId = tenant → ids envelope.eventId)
    (room : one.Room (count + 1)) (room' : two.Room (count + 1)) :
    Alike tenant ids (one.dispatch delivery).2 (two.dispatch delivery).2 := by
  cases decoded : delivery.envelope with
  | none =>
    rcases one.dispatch_cases delivery with ⟨envelope, some, -⟩ | ⟨ring, hot⟩
    · rw [decoded] at some
      cases some
    rcases two.dispatch_cases delivery with ⟨envelope, some, -⟩ | ⟨ring', hot'⟩
    · rw [decoded] at some
      cases some
    rw [Alike, hotOf, hotOf, hot, hot', ring, ring']
    exact alike
  | some envelope =>
    by_cases known : ids envelope.eventId
    · have seen : one.ring.seen envelope.eventId = two.ring.seen envelope.eventId := by
        rw [Bool.eq_iff_iff, seen, seen, contains_iff_mem, contains_iff_mem, alike.2 _ known]
      rw [dispatch_unhindered unhindered decoded, dispatch_unhindered unhindered decoded, seen]
      split
      case isTrue =>
        refine ⟨?_, fun id listed => ?_⟩
        · simp only [hotOf, write, filter_cons]
          rw [show List.filter _ one.hot = _ from alike.1]
          rfl
        · rw [mem_write_iff room, mem_write_iff room', alike.2 id listed]
      case isFalse => exact alike
    · have foreign : envelope.tenantId ≠ tenant := fun same => known (own envelope decoded same)
      obtain ⟨hot, ring⟩ := dispatch_touches room decoded
      obtain ⟨hot', ring'⟩ := dispatch_touches room' decoded
      refine ⟨(hot foreign).trans (alike.1.trans (hot' foreign).symm), fun id listed => ?_⟩
      have differ : id ≠ envelope.eventId := fun same => known (same ▸ listed)
      exact (ring id differ).trans ((alike.2 id listed).trans (ring' id differ).symm)

/-- The induction is on the stream; the consumers hold alike the ids that no
message of the other tenant has. -/
theorem Alike.run {deliveries : List Delivery} (alike : Alike tenant ids one two)
    (unhindered : ∀ delivery ∈ deliveries, delivery.Unhindered)
    (own : ∀ delivery ∈ deliveries, ∀ envelope ∈ delivery.envelope,
      envelope.tenantId = tenant → ids envelope.eventId)
    (others : ∀ delivery ∈ deliveries, ∀ envelope ∈ delivery.envelope,
      envelope.tenantId = other → ¬ids envelope.eventId)
    (room : one.Room deliveries.length) (room' : two.Room deliveries.length) :
    (one.run deliveries).hotOf tenant =
      (two.run (deliveries.filter fun delivery => !delivery.isOf other)).hotOf tenant := by
  induction deliveries generalizing one two with
  | nil => exact alike.1
  | cons delivery rest ih =>
    rw [forall_mem_cons] at unhindered own others
    cases foreign : delivery.isOf other with
    | false =>
      rw [filter_cons_of_pos (by simp [foreign])]
      exact ih (alike.dispatch unhindered.1 own.1 room room') unhindered.2 own.2 others.2
        (room.dispatch delivery) (room'.dispatch delivery)
    | true =>
      rw [filter_cons_of_neg (by simp [foreign])]
      obtain ⟨envelope, decoded, same⟩ := (Option.any_eq_true _ _).mp foreign
      have unlisted := others.1 envelope decoded (beq_iff_eq.mp same)
      obtain ⟨hot, ring⟩ := dispatch_touches room decoded
      have kept : Alike tenant ids (one.dispatch delivery).2 two := by
        refine ⟨(hot fun same => unlisted (own.1 envelope decoded same)).trans alike.1,
          fun id listed => ?_⟩
        exact (ring id fun same => unlisted (same ▸ listed)).trans (alike.2 id listed)
      exact ih kept unhindered.2 own.2 others.2 (room.dispatch delivery) (Nat.le_of_succ_le room')

/-- **Without shared event ids no tenant suppresses another's telemetry**: the
hot store has the same of a tenant with and without the other's messages. -/
theorem tenant_not_suppressed (capacity : Nat) (deliveries : List Delivery)
    (tenant other : EventUuid) (unhindered : ∀ delivery ∈ deliveries, delivery.Unhindered)
    (unbounded : deliveries.length ≤ capacity)
    (apart : ∀ one ∈ deliveries, ∀ two ∈ deliveries, ∀ first ∈ one.envelope,
      ∀ second ∈ two.envelope, first.tenantId = tenant → second.tenantId = other →
        first.eventId ≠ second.eventId) :
    ((new capacity).run deliveries).hotOf tenant =
      ((new capacity).run (deliveries.filter fun delivery => !delivery.isOf other)).hotOf
        tenant := by
  have room : (new capacity).Room deliveries.length := by
    unfold Room new
    split <;> simp <;> omega
  have alike : Alike tenant (fun id => ∀ two ∈ deliveries, ∀ second ∈ two.envelope,
      second.tenantId = other → id ≠ second.eventId) (new capacity) (new capacity) :=
    ⟨rfl, fun _ _ => Iff.rfl⟩
  refine alike.run unhindered ?_ ?_ room room
  · exact fun one listed first decoded own two listed' second decoded' =>
      apart one listed two listed' first decoded second decoded' own
  · exact fun one listed first decoded own free => free one listed first decoded own rfl

/-- With ids of their own both tenants' events are written. -/
theorem separate_ids_written :
    ((new 8).run [delivered 1 ⟨7, 2, []⟩, delivered 2 ⟨8, 1, [1]⟩]).hotOf 1 =
      ((new 8).run [delivered 2 ⟨8, 1, [1]⟩]).hotOf 1 :=
  tenant_not_suppressed 8 [delivered 1 ⟨7, 2, []⟩, delivered 2 ⟨8, 1, [1]⟩] 1 2
    (by simp [Delivery.Unhindered, delivered]) (by decide) (by simp [delivered])

/-- **A reused id suppresses**: with the other tenant's message before it, the
tenant's event is not written. -/
theorem reused_id_suppresses :
    ((new 8).run [delivered 1 ⟨7, 2, []⟩, delivered 2 ⟨7, 1, [1]⟩]).hotOf 1 = [] ∧
      ((new 8).run ([delivered 1 ⟨7, 2, []⟩, delivered 2 ⟨7, 1, [1]⟩].filter fun delivery =>
        !delivery.isOf 2)).hotOf 1 = [⟨7, 1, [1]⟩] := by
  decide

end Tenants

end Consumer

end ShieldNet.Telemetry
