import Mathlib.Data.List.Nodup
import Mathlib.Order.Nat
import ShieldNet.Lib.Runs

/-!
# Leases on work shards

`AcquireShards` and `ReleaseShardsExcept` of the work-shard repositories
(`internal/repository/memory/workshard.go`, `internal/repository/postgres/workshard.go`). A lease
row names the worker that has the shard until it expires. A live lease is renewed by its worker
and skipped for any other; a lease that has lapsed is taken over. The fence token counts the
changes of ownership that the row has seen.

The tokens handed out for a shard rise with every change of ownership, as long as the row stays
(`fence_tokens_increase`). A worker that releases the shard deletes the row, and the count starts
again (`fence_token_restarts`).
-/

namespace ShieldNet.Workshard

open List

/-- `uuid.UUID`, its sixteen bytes as one big-endian number. -/
abbrev Uuid := BitVec 128

structure ShardLease where
  shard : ℕ
  worker : Uuid
  -- `int64`, and `BIGINT` in the table: a count of changes of ownership stays far below its bound
  fenceToken : ℕ
  acquiredAt : Int
  renewedAt : Int
  expiresAt : Int
  deriving DecidableEq

structure Leases where
  row : ℕ → Option ShardLease
  keyed : ∀ shard lease, row shard = some lease → lease.shard = shard

namespace Leases

def empty : Leases := ⟨fun _ => none, nofun⟩

def put (leases : Leases) (lease : ShardLease) : Leases where
  row := Function.update leases.row lease.shard (some lease)
  keyed := by
    intro shard stored found
    rw [Function.update_apply] at found
    split at found
    case isTrue same =>
      cases found
      exact same.symm
    case isFalse => exact leases.keyed shard stored found

theorem row_put {leases : Leases} {lease : ShardLease} {shard : ℕ} :
    (leases.put lease).row shard = if shard = lease.shard then some lease else leases.row shard :=
  Function.update_apply ..

def releaseShardsExcept (leases : Leases) (worker : Uuid) (keep : List ℕ) : Leases where
  row shard := (leases.row shard).filter fun lease => !(lease.worker = worker && shard ∉ keep)
  keyed := by
    intro shard lease found
    exact leases.keyed shard lease (Option.filter_eq_some_iff.mp found).1

end Leases

/-- A lease that `AcquireShards` returns, and whether it was renewed. -/
structure Handout where
  lease : ShardLease
  renewed : Bool

/-- What `AcquireShards` makes of one row: nothing, when another worker has a live lease. -/
def acquireRow (worker : Uuid) (shard : ℕ) (now ttl : Int) : Option ShardLease → Option Handout
  | none => some ⟨⟨shard, worker, 1, now, now, now + ttl⟩, false⟩
  | some cur =>
    let isMine : Bool := cur.worker = worker
    let valid : Bool := now < cur.expiresAt
    if !isMine && valid then none
    else
      let held :=
        if !isMine || !valid then
          { cur with fenceToken := cur.fenceToken + 1, acquiredAt := now }
        else cur
      some ⟨{ held with worker, renewedAt := now, expiresAt := now + ttl }, isMine && valid⟩

def acquireRows (worker : Uuid) (now ttl : Int) : Leases → List ℕ → Leases × List Handout
  | leases, [] => (leases, [])
  | leases, shard :: rest =>
    match acquireRow worker shard now ttl (leases.row shard) with
    | none => acquireRows worker now ttl leases rest
    | some handout =>
      let later := acquireRows worker now ttl (leases.put handout.lease) rest
      (later.1, handout :: later.2)

inductive Backend where
  | memory
  | postgres

/-- `AcquireShards`. One statement of Postgres does not write a row twice. -/
def acquireShards (backend : Backend) (worker : Uuid) (now ttl : Int) (leases : Leases)
    (shards : List ℕ) : Option (Leases × List Handout) :=
  match backend with
  | .memory => some (acquireRows worker now ttl leases shards)
  | .postgres =>
    if shards.Nodup then some (acquireRows worker now ttl leases shards) else none

/-! ## What the calls do to one row -/

variable {worker : Uuid} {shard : ℕ} {now ttl : Int} {leases : Leases} {handout : Handout}

/-- How a row is handed out: it is new, or it is renewed or taken over. -/
inductive Handed (worker : Uuid) (now : Int) (handout : Handout) : Option ShardLease → Prop
  | first (token : handout.lease.fenceToken = 1) (fresh : handout.renewed = false) :
      Handed worker now handout none
  | renewed {cur : ShardLease} (mine : cur.worker = worker) (live : now < cur.expiresAt)
      (token : handout.lease.fenceToken = cur.fenceToken) (renews : handout.renewed = true) :
      Handed worker now handout (some cur)
  | taken {cur : ShardLease} (lapsed : cur.expiresAt ≤ now)
      (token : handout.lease.fenceToken = cur.fenceToken + 1) (fresh : handout.renewed = false) :
      Handed worker now handout (some cur)

/-- What a lease that is handed out says. -/
structure Grants (worker : Uuid) (shard : ℕ) (now ttl : Int) (leases : Leases)
    (handout : Handout) : Prop where
  place : handout.lease.shard = shard
  holder : handout.lease.worker = worker
  lasts : handout.lease.expiresAt = now + ttl
  handed : Handed worker now handout (leases.row shard)

theorem acquireRow_grants
    (acquired : acquireRow worker shard now ttl (leases.row shard) = some handout) :
    Grants worker shard now ttl leases handout := by
  cases found : leases.row shard with
  | none =>
    rw [found, acquireRow] at acquired
    cases acquired
    exact ⟨rfl, rfl, rfl, found ▸ .first rfl rfl⟩
  | some cur =>
    rw [found, acquireRow] at acquired
    by_cases mine : cur.worker = worker
    · by_cases valid : now < cur.expiresAt
      · simp only [mine, valid, decide_true, Bool.not_true, Bool.false_and, Bool.or_self,
          Bool.false_eq_true, if_false, Bool.and_self, Option.some.injEq] at acquired
        subst acquired
        exact ⟨leases.keyed shard cur found, rfl, rfl, found ▸ .renewed mine valid rfl rfl⟩
      · simp only [mine, valid, decide_true, decide_false, Bool.not_true, Bool.not_false,
          Bool.and_false, Bool.or_true, Bool.false_eq_true, if_false, if_true,
          Option.some.injEq] at acquired
        subst acquired
        exact ⟨leases.keyed shard cur found, rfl, rfl, found ▸ .taken (Int.not_lt.mp valid) rfl rfl⟩
    · by_cases valid : now < cur.expiresAt
      · simp [mine, valid] at acquired
      · simp only [mine, valid, decide_false, Bool.not_false, Bool.and_false, Bool.or_self,
          Bool.false_eq_true, if_false, if_true, Option.some.injEq] at acquired
        subst acquired
        exact ⟨leases.keyed shard cur found, rfl, rfl, found ▸ .taken (Int.not_lt.mp valid) rfl rfl⟩

/-- **A rule for the rows, one after another**: what each row that is handed out keeps, with the
leases handed out before it, holds at the end. -/
theorem acquireRows_rule (Holds : Leases → List Handout → Prop) {shards : List ℕ}
    (kept : ∀ leases log, ∀ shard ∈ shards, ∀ handout, Holds leases log →
      Grants worker shard now ttl leases handout →
        Holds (leases.put handout.lease) (log ++ [handout]))
    (log : List Handout) (start : Holds leases log) :
    Holds (acquireRows worker now ttl leases shards).1
      (log ++ (acquireRows worker now ttl leases shards).2) := by
  induction shards generalizing leases log with
  | nil =>
    rw [acquireRows, append_nil]
    exact start
  | cons shard rest ih =>
    have later : ∀ leases log, ∀ shard ∈ rest, ∀ handout, Holds leases log →
        Grants worker shard now ttl leases handout →
          Holds (leases.put handout.lease) (log ++ [handout]) :=
      fun leases log shard member => kept leases log shard (mem_cons_of_mem _ member)
    rw [acquireRows]
    split
    case h_1 => exact ih later log start
    case h_2 handout acquired =>
      have next := kept leases log shard mem_cons_self handout start (acquireRow_grants acquired)
      have done := ih later _ next
      rwa [append_assoc] at done

/-! ## Sequences of calls -/

structure LeaseState where
  now : Int
  leases : Leases

inductive LeaseEvent where
  | acquire (worker : Uuid) (shards : List ℕ) (ttl : Int)
  | release (worker : Uuid) (keep : List ℕ)
  | elapse (duration : ℕ)

namespace LeaseState

variable (backend : Backend)

def step (state : LeaseState) : LeaseEvent → LeaseState
  | .acquire worker shards ttl =>
    match acquireShards backend worker state.now ttl state.leases shards with
    | none => state
    | some (leases, _) => { state with leases }
  | .release worker keep => { state with leases := state.leases.releaseShardsExcept worker keep }
  | .elapse duration => { state with now := state.now + duration }

def handsOut (state : LeaseState) : LeaseEvent → List Handout
  | .acquire worker shards ttl =>
    match acquireShards backend worker state.now ttl state.leases shards with
    | none => []
    | some (_, handouts) => handouts
  | .release _ _ | .elapse _ => []

def handouts : LeaseState → List LeaseEvent → List Handout
  | _, [] => []
  | state, event :: rest => state.handsOut backend event ++ handouts (state.step backend event) rest

def KeepsRow (shard : ℕ) (state : LeaseState) : LeaseEvent → Prop
  | .release worker keep =>
    ∀ lease ∈ state.leases.row shard, lease.worker = worker → shard ∈ keep
  | .acquire .. | .elapse _ => True

end LeaseState

/-- A later lease that is not a renewal has a greater token. -/
def Rises (shard : ℕ) (earlier later : Handout) : Prop :=
  earlier.lease.shard = shard → later.lease.shard = shard → later.renewed = false →
    earlier.lease.fenceToken < later.lease.fenceToken

structure Bounded (shard : ℕ) (leases : Leases) (log : List Handout) : Prop where
  rises : log.Pairwise (Rises shard)
  bounded : ∀ handout ∈ log, handout.lease.shard = shard →
    ∃ lease, leases.row shard = some lease ∧ handout.lease.fenceToken ≤ lease.fenceToken

theorem Grants.token {cur : ShardLease} (grants : Grants worker shard now ttl leases handout)
    (found : leases.row shard = some cur) :
    cur.fenceToken ≤ handout.lease.fenceToken ∧
      (handout.renewed = false → cur.fenceToken < handout.lease.fenceToken) := by
  have handed := grants.handed
  rw [found] at handed
  cases handed with
  | renewed mine live token renews =>
    refine ⟨token.ge, ?_⟩
    intro fresh
    rw [renews] at fresh
    cases fresh
  | taken lapsed token fresh =>
    rw [token]
    exact ⟨Nat.le_succ _, fun _ => Nat.lt_succ_self _⟩

/-- **A lease that is handed out** has a token beyond those before, unless it is renewed. -/
theorem Bounded.grants {log : List Handout} {other : ℕ} (bounded : Bounded shard leases log)
    (grants : Grants worker other now ttl leases handout) :
    Bounded shard (leases.put handout.lease) (log ++ [handout]) := by
  have above : ∀ earlier ∈ log, earlier.lease.shard = shard → handout.lease.shard = shard →
      earlier.lease.fenceToken ≤ handout.lease.fenceToken ∧
        (handout.renewed = false → earlier.lease.fenceToken < handout.lease.fenceToken) := by
    intro earlier member here same
    obtain ⟨cur, found, below⟩ := bounded.bounded earlier member here
    obtain rfl := grants.place.symm.trans same
    have token := grants.token found
    exact ⟨below.trans token.1, fun fresh => below.trans_lt (token.2 fresh)⟩
  constructor
  · rw [pairwise_append]
    refine ⟨bounded.rises, pairwise_singleton _ _, ?_⟩
    intro earlier member later isLast here same fresh
    rw [mem_singleton.mp isLast] at same fresh ⊢
    exact (above earlier member here same).2 fresh
  · intro earlier member here
    rw [Leases.row_put]
    rcases mem_append.mp member with before | isLast
    · split
      case isTrue same => exact ⟨_, rfl, (above earlier before here same.symm).1⟩
      case isFalse => exact bounded.bounded earlier before here
    · rw [mem_singleton.mp isLast] at here ⊢
      rw [if_pos here.symm]
      exact ⟨_, rfl, le_rfl⟩

theorem Leases.row_releaseShardsExcept {keep : List ℕ}
    (kept : ∀ lease ∈ leases.row shard, lease.worker = worker → shard ∈ keep) :
    (leases.releaseShardsExcept worker keep).row shard = leases.row shard := by
  change (leases.row shard).filter _ = _
  cases found : leases.row shard with
  | none => rfl
  | some lease =>
    refine Option.filter_some_pos ?_
    by_cases mine : lease.worker = worker
    · simp [mine, kept lease found mine]
    · simp [mine]

theorem Bounded.step {backend : Backend} {state : LeaseState} {event : LeaseEvent}
    {log : List Handout} (bounded : Bounded shard state.leases log)
    (keeps : state.KeepsRow shard event) :
    Bounded shard (state.step backend event).leases (log ++ state.handsOut backend event) := by
  have acquires : ∀ worker shards ttl,
      Bounded shard (acquireRows worker state.now ttl state.leases shards).1
        (log ++ (acquireRows worker state.now ttl state.leases shards).2) :=
    fun worker shards ttl => acquireRows_rule (Bounded shard)
      (fun _ _ _ _ _ bounded grants => bounded.grants grants) log bounded
  have unchanged : Bounded shard state.leases (log ++ []) := by rwa [append_nil]
  cases event with
  | acquire worker shards ttl =>
    rw [LeaseState.step, LeaseState.handsOut]
    cases backend with
    | memory => exact acquires worker shards ttl
    | postgres =>
      rw [acquireShards]
      by_cases distinct : shards.Nodup
      · rw [if_pos distinct]
        exact acquires worker shards ttl
      · rw [if_neg distinct]
        exact unchanged
  | release worker keep =>
    refine ⟨unchanged.rises, ?_⟩
    intro handout member here
    change ∃ lease, (state.leases.releaseShardsExcept worker keep).row shard = some lease ∧ _
    rw [Leases.row_releaseShardsExcept keeps]
    exact unchanged.bounded handout member here
  | elapse duration => exact unchanged

/-- **Fence tokens never go backwards** for a shard whose lease row is not deleted: over every
sequence of calls by any workers, with any time between them, a lease on the shard that is not a
renewal has a greater token than every lease on it before. -/
theorem fence_tokens_increase {backend : Backend} {state : LeaseState} {events : List LeaseEvent}
    {shard : ℕ}
    (keeps : AlongRun (LeaseState.step backend) (LeaseState.KeepsRow shard) state events) :
    (LeaseState.handouts backend state events).Pairwise (Rises shard) := by
  -- the leases handed out so far are bounded by the row
  suffices along : ∀ log, Bounded shard state.leases log →
      (log ++ LeaseState.handouts backend state events).Pairwise (Rises shard) by
    exact along [] ⟨.nil, fun _ member => absurd member not_mem_nil⟩
  induction events generalizing state with
  | nil =>
    intro log bounded
    rw [LeaseState.handouts, append_nil]
    exact bounded.rises
  | cons event rest ih =>
    intro log bounded
    rw [LeaseState.handouts, ← append_assoc]
    exact ih keeps.2 _ (bounded.step keeps.1)

/-! ## A row that is deleted -/

section Examples

instance (state : LeaseState) (event : LeaseEvent) : Decidable (state.KeepsRow shard event) := by
  cases event <;> dsimp only [LeaseState.KeepsRow] <;> infer_instance

instance (earlier later : Handout) : Decidable (Rises shard earlier later) :=
  inferInstanceAs (Decidable (_ → _ → _ → _))

def unleased : LeaseState := ⟨0, .empty⟩

/-- The lease of the first worker lapses and the second takes it over; then the first has it
again. -/
def takenOver : List LeaseEvent :=
  [.acquire 1 [0] 20, .elapse 30, .acquire 2 [0] 20, .elapse 30, .acquire 1 [0] 20]

/-- The second worker gives the shard up when it has taken it over. -/
def takenOverAndReleased : List LeaseEvent :=
  [.acquire 1 [0] 20, .elapse 30, .acquire 2 [0] 20, .release 2 [], .acquire 1 [0] 20]

/-- **A token that was handed out before is handed out again.** The row is deleted when the second
worker releases the shard, with either repository, and the next owner begins with the first
token. -/
theorem fence_token_restarts : [Backend.memory, Backend.postgres].map (fun backend =>
      (unleased.handouts backend takenOverAndReleased).map
        fun handout => (handout.lease.worker, handout.lease.fenceToken)) =
      [[(1, 1), (2, 2), (1, 1)], [(1, 1), (2, 2), (1, 1)]] ∧
    ¬ (unleased.handouts .memory takenOverAndReleased).Pairwise (Rises 0) ∧
    ¬ (unleased.handouts .postgres takenOverAndReleased).Pairwise (Rises 0) := by
  decide +kernel

theorem fence_tokens_increase_taken_over : (unleased.handouts .postgres takenOver).map
        (fun handout => (handout.lease.fenceToken, handout.renewed)) =
      [(1, false), (2, false), (3, false)] ∧
    (unleased.handouts .postgres takenOver).Pairwise (Rises 0) :=
  ⟨by decide +kernel, fence_tokens_increase (by decide +kernel)⟩

end Examples

end ShieldNet.Workshard
