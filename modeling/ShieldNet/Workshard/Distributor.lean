import Mathlib.Algebra.Group.Nat.Defs
import Mathlib.Data.Prod.Lex
import ShieldNet.Lib.Ranking
import ShieldNet.Lib.Table
import ShieldNet.Workshard.Lease

/-!
# The work-shard distributor

`internal/service/workshard`: every replica runs a `Distributor` that divides the tenants among
the live workers. A tenant hashes to a shard, a shard goes to the worker with the highest
rendezvous score, and a lease in the repository settles who has it. `runCycle` heartbeats, reads
the live workers, acquires the shards it should have, releases the others, and then publishes what
it holds for `Owns` to consult; `releaseAll` gives everything up at shutdown.

Each call of the repository is one step, and so is the publication of the local view. A call may
fail, and one that fails may have taken effect. The distributors share one clock. The registry
keeps what is read of a worker, its id and when its heartbeat expires.
-/

namespace ShieldNet.Workshard

/-! ## Assignment -/

def Uuid.bytes (id : Uuid) : List (BitVec 8) :=
  (List.range 16).map fun place => id.extractLsb' (8 * (15 - place)) 8

def fnv32a (bytes : List (BitVec 8)) : BitVec 32 :=
  bytes.foldl (fun hash byte => (hash ^^^ byte.setWidth 32) * 16777619#32) 2166136261#32

def fnv64a (bytes : List (BitVec 8)) : BitVec 64 :=
  bytes.foldl (fun hash byte => (hash ^^^ byte.setWidth 64) * 1099511628211#64)
    14695981039346656037#64

def shardIndex (tenantId : Uuid) (shardCount : ℕ) : ℕ :=
  if shardCount ≤ 1 then 0
  else (fnv32a (Uuid.bytes tenantId) % BitVec.ofNat 32 shardCount).toNat

/-- The shard is written in four bytes, the most significant first. -/
def hrwScore (shard : ℕ) (worker : Uuid) : BitVec 64 :=
  fnv64a ([24, 16, 8, 0].map (fun place => (BitVec.ofNat 32 shard).extractLsb' place 8) ++
    Uuid.bytes worker)

/-- The worker is preferred to the best so far. The bytes of ids compare as the numbers do. -/
def beats (shard : ℕ) (worker best : Uuid) : Bool := hrwScore shard best < hrwScore shard worker ||
    (hrwScore shard worker = hrwScore shard best && worker < best)

/-- `hrwWinner`; there is none among no workers. -/
def hrwWinner (shard : ℕ) : List Uuid → Option Uuid
  | [] => none
  | first :: rest =>
    some (rest.foldl (fun best worker => if beats shard worker best then worker else best) first)

def ownedShards (shardCount : ℕ) (workers : List Uuid) (me : Uuid) : List ℕ :=
  (List.range shardCount).filter fun shard => hrwWinner shard workers = some me

def ensureContains (ids : List Uuid) (id : Uuid) : List Uuid :=
  if id ∈ ids then ids else ids ++ [id]

/-! ## Who wins a shard -/

section

open List

/-- Workers rank by their score, and among equals by the smaller id. -/
def hrwKey (shard : ℕ) (worker : Uuid) : ℕ ×ₗ ℕᵒᵈ :=
  toLex ((hrwScore shard worker).toNat, .toDual worker.toNat)

variable {shard : ℕ} {workers : List Uuid} {worker best : Uuid}

theorem beats_iff : beats shard worker best ↔ hrwKey shard best < hrwKey shard worker := by
  grind [beats, hrwKey, Prod.Lex.toLex_lt_toLex, BitVec.lt_def, BitVec.toNat_inj,
    OrderDual.toDual_lt_toDual]

theorem hrwWinner_eq_firstMax : hrwWinner shard workers = firstMax (hrwKey shard) workers := by
  cases workers with
  | nil => rfl
  | cons first rest =>
    refine (foldl_hom some fun best worker => ?_).symm
    rw [keepBetter, ← apply_ite some]
    simp only [← beats_iff]

theorem hrwWinner_eq_some_iff : hrwWinner shard workers = some best ↔
    best ∈ workers ∧ ∀ worker ∈ workers, hrwKey shard worker ≤ hrwKey shard best := by
  rw [hrwWinner_eq_firstMax]
  constructor
  · intro won
    exact ⟨(firstMax_isFirstMax won).mem, fun worker => (firstMax_isFirstMax won).le⟩
  · rintro ⟨listed, unbeaten⟩
    cases won : firstMax (hrwKey shard) workers with
    | none => simp [firstMax_eq_none_iff.mp won] at listed
    | some winner =>
      have first := firstMax_isFirstMax won
      have tie := le_antisymm (first.le listed) (unbeaten winner first.mem)
      simp only [hrwKey, EmbeddingLike.apply_eq_iff_eq, Prod.mk.injEq, BitVec.toNat_inj] at tie
      rw [tie.2]

/-- **The live workers divide the shards among them**: each shard has one owner, the order of the
workers does not matter, and when a worker joins or leaves, no shard moves between the others. -/
theorem shards_divided (shardCount : ℕ) (workers : List Uuid) :
    (∀ shard < shardCount, workers ≠ [] →
      ∃! worker, shard ∈ ownedShards shardCount workers worker) ∧
    (∀ listed, (∀ worker, worker ∈ listed ↔ worker ∈ workers) →
      ∀ me, ownedShards shardCount listed me = ownedShards shardCount workers me) ∧
    ∀ joining me, me ≠ joining →
      ownedShards shardCount (joining :: workers) me ⊆ ownedShards shardCount workers me := by
  refine ⟨fun shard inside live => ?_, fun listed same me => ?_, fun joining me apart shard => ?_⟩
  · cases won : hrwWinner shard workers with
    | none => exact absurd (firstMax_eq_none_iff.mp (hrwWinner_eq_firstMax.symm.trans won)) live
    | some winner => exact ⟨winner, by simp [ownedShards, inside, won], by simp [ownedShards, won]⟩
  · simp only [ownedShards, hrwWinner_eq_some_iff, same]
  · simp only [ownedShards, mem_filter, decide_eq_true_eq, hrwWinner_eq_some_iff, mem_cons,
      forall_eq_or_imp]
    rintro ⟨inside, listed, -, unbeaten⟩
    exact ⟨inside, listed.resolve_left apart, unbeaten⟩

end

/-! ## The repository -/

structure WorkshardWorker where
  workerId : Uuid
  expiresAt : Int

structure WorkShardRepository where
  workers : Table WorkshardWorker.workerId
  leases : Leases

namespace WorkShardRepository

variable (repo : WorkShardRepository)

def heartbeat (now : Int) (worker : Uuid) (ttl : Int) : WorkShardRepository :=
  let row : WorkshardWorker := ⟨worker, now + ttl⟩
  { repo with workers := (repo.workers.insert? row).getD (repo.workers.update row) }

def listLiveWorkers (now : Int) : List Uuid :=
  ((repo.workers.rows.filter fun worker => now < worker.expiresAt).map
    WorkshardWorker.workerId).insertionSort (· ≤ ·)

def deleteExpiredWorkers (now grace : Int) : WorkShardRepository :=
  { repo with
    workers := repo.workers.filterMap
      (fun worker => if worker.expiresAt < now - grace then none else some worker)
      (by
        intro worker kept found
        split at found
        case isTrue => cases found
        cases found
        rfl) }

end WorkShardRepository

/-! ## Distributors -/

structure Options where
  shardCount : Int
  leaseTTL : Int
  safetyMargin : Int
  gcEvery : Int
  gcGrace : Int

/-- `DefaultLeaseTTL`, in nanoseconds. -/
def defaultLeaseTTL : Int := 20000000000

/-- The settings of a distributor. The local view lapses before the lease does. -/
structure Settings where
  shardCount : ℕ
  leaseTTL : Int
  safetyMargin : Int
  gcEvery : Int
  gcGrace : Int
  margin_nonneg : 0 ≤ safetyMargin
  margin_lt : safetyMargin < leaseTTL

/-- `New` clamps the options. -/
def Settings.new (options : Options) : Settings :=
  let leaseTTL := if options.leaseTTL ≤ 0 then defaultLeaseTTL else options.leaseTTL
  have positive : 0 < leaseTTL := by
    change 0 < if options.leaseTTL ≤ 0 then defaultLeaseTTL else options.leaseTTL
    split
    case isTrue => decide
    case isFalse positive => exact Int.not_le.mp positive
  { shardCount := if options.shardCount < 1 then 1 else options.shardCount.toNat
    leaseTTL
    safetyMargin :=
      if options.safetyMargin ≤ 0 ∨ leaseTTL ≤ options.safetyMargin then leaseTTL / 2
      else options.safetyMargin
    gcEvery := options.gcEvery
    gcGrace := options.gcGrace
    margin_nonneg := by
      split
      case isTrue => omega
      case isFalse inside => omega
    margin_lt := by
      split
      case isTrue => omega
      case isFalse inside => omega }

/-- How long what a cycle found is taken to hold. -/
def Settings.window (settings : Settings) : Int := settings.leaseTTL - settings.safetyMargin

inductive Phase where
  | idle
  | heartbeat (cycleStart : Int)
  | listWorkers (cycleStart : Int)
  | acquire (cycleStart : Int) (desired : List ℕ)
  | release (cycleStart : Int) (desired : List ℕ) (held : List ShardLease)
  | publish (cycleStart : Int) (held : List ShardLease)
  | sweep
  | releaseAll
  | clear
  | stopped
  deriving DecidableEq

/-- `Distributor`. `owned` gives each shard its fence token. -/
structure Distributor where
  phase : Phase
  owned : List (ℕ × ℕ)
  validUntil : Int
  started : Bool
  cycles : ℕ

/-- The zero `time.Time`, in nanoseconds from the epoch. -/
def zeroTime : Int := -62135596800000000000

def Distributor.new : Distributor := ⟨.idle, [], zeroTime, false, 0⟩

def Distributor.ownershipValid (distributor : Distributor) (now : Int) : Bool :=
  distributor.started && now < distributor.validUntil

def Distributor.owns (distributor : Distributor) (settings : Settings) (now : Int)
    (tenantId : Uuid) : Bool :=
  distributor.ownershipValid now &&
    distributor.owned.any fun entry => entry.1 = shardIndex tenantId settings.shardCount

/-- The next step of `runCycle` or `releaseAll`. A cycle ends at the first call that fails. -/
def Distributor.advance (backend : Backend) (settings : Settings) (me : Uuid) (now : Int)
    (answer : Answer) (repo : WorkShardRepository) (distributor : Distributor) :
    WorkShardRepository × Distributor :=
  match distributor.phase with
  | .idle | .stopped => (repo, distributor)
  | .heartbeat cycleStart =>
    (if answer.applied then repo.heartbeat now me settings.leaseTTL else repo,
      { distributor with phase := if answer.isOk then .listWorkers cycleStart else .idle })
  | .listWorkers cycleStart =>
    let ids := ensureContains (repo.listLiveWorkers now) me
    (repo, { distributor with
      phase :=
        if answer.isOk then .acquire cycleStart (ownedShards settings.shardCount ids me)
        else .idle })
  | .acquire cycleStart desired =>
    match acquireShards backend me now settings.leaseTTL repo.leases desired with
    | none => (repo, { distributor with phase := .idle })
    | some (leases, handouts) =>
      (if answer.applied then { repo with leases } else repo, { distributor with
          phase :=
            if answer.isOk then .release cycleStart desired (handouts.map Handout.lease)
            else .idle })
  | .release cycleStart desired held =>
    (if answer.applied then
        { repo with leases := repo.leases.releaseShardsExcept me desired }
      else repo,
      { distributor with phase := if answer.isOk then .publish cycleStart held else .idle })
  | .publish cycleStart held =>
    let cycles := (distributor.cycles + 1) % 2 ^ 64
    (repo,
      { phase :=
          if 0 < settings.gcEvery ∧ cycles % settings.gcEvery.toNat = 0 then .sweep else .idle
        owned := held.map fun lease => (lease.shard, lease.fenceToken)
        validUntil := cycleStart + settings.window
        started := true
        cycles })
  | .sweep =>
    (if answer.applied then repo.deleteExpiredWorkers now settings.gcGrace else repo,
      { distributor with phase := .idle })
  | .releaseAll =>
    (if answer.applied then { repo with leases := repo.leases.releaseShardsExcept me [] } else repo,
      { distributor with phase := .clear })
  | .clear => (repo, { distributor with phase := .stopped, owned := [], validUntil := zeroTime })

/-! ## A fleet -/

structure Fleet where
  now : Int
  repo : WorkShardRepository
  distributor : Uuid → Distributor

/-- What can happen: time passes, the ticker of a distributor fires, its context is cancelled, or
it takes its next step. -/
inductive FleetEvent where
  | elapse (duration : ℕ)
  | tick (worker : Uuid)
  | cancel (worker : Uuid)
  | step (worker : Uuid) (answer : Answer)

namespace Fleet

def setDistributor (fleet : Fleet) (worker : Uuid) (distributor : Distributor) : Fleet :=
  { fleet with distributor := Function.update fleet.distributor worker distributor }

def turnTo (fleet : Fleet) (worker : Uuid) (phase : Phase) : Fleet :=
  if (fleet.distributor worker).phase = .idle then
    fleet.setDistributor worker { fleet.distributor worker with phase }
  else fleet

def step (backend : Backend) (settings : Uuid → Settings) (fleet : Fleet) : FleetEvent → Fleet
  | .elapse duration => { fleet with now := fleet.now + duration }
  | .tick worker => fleet.turnTo worker (.heartbeat fleet.now)
  | .cancel worker => fleet.turnTo worker .releaseAll
  | .step worker answer =>
    let next := (fleet.distributor worker).advance backend (settings worker) worker fleet.now
      answer fleet.repo
    { fleet with repo := next.1 }.setDistributor worker next.2

def owns (settings : Uuid → Settings) (fleet : Fleet) (worker tenantId : Uuid) : Bool :=
  (fleet.distributor worker).owns (settings worker) fleet.now tenantId

end Fleet

end ShieldNet.Workshard
