import ShieldNet.Workshard.Distributor

/-!
# A tenant is processed by one worker at most

What a distributor believes to own is backed by a lease that outlasts the belief, as long as the
distributor does not itself delete the lease. A cycle releases the shards that have gone to other
workers before it publishes what is left, and a shutdown releases all shards before it clears the
local view; in between the lease is free while the worker still believes to own the shard.

In every interleaving in which no release drops a shard that the worker still believes to own, no
tenant is owned by two workers (`tenant_owned_once`). With a hand-over in between, two workers own
it at the same time (`tenant_owned_twice`).
-/

namespace ShieldNet.Workshard

open Distributor Leases List

/-! ## Leases that back a belief -/

def Covers (leases : Leases) (worker : Uuid) (shard : ℕ) (time : Int) : Prop :=
  ∃ lease, leases.row shard = some lease ∧ lease.worker = worker ∧ time ≤ lease.expiresAt

variable {leases : Leases} {worker other : Uuid} {shard : ℕ} {now ttl time later : Int}
  {handout : Handout} {shards keep : List ℕ}

theorem Covers.mono (covers : Covers leases worker shard later) (sooner : time ≤ later) :
    Covers leases worker shard time := by
  obtain ⟨lease, found, mine, lasts⟩ := covers
  exact ⟨lease, found, mine, sooner.trans lasts⟩

theorem Covers.eq {otherTime : Int} (covers : Covers leases worker shard time)
    (otherCovers : Covers leases other shard otherTime) : worker = other := by
  obtain ⟨lease, found, mine, -⟩ := covers
  obtain ⟨otherLease, otherFound, theirs, -⟩ := otherCovers
  obtain rfl := Option.some.inj (found.symm.trans otherFound)
  exact mine.symm.trans theirs

theorem Grants.covers_other {place : ℕ} (grants : Grants worker place now ttl leases handout)
    (foreign : other ≠ worker) (live : now < time) (covers : Covers leases other shard time) :
    Covers (leases.put handout.lease) other shard time := by
  obtain ⟨lease, found, theirs, lasts⟩ := covers
  refine ⟨lease, ?_, theirs, lasts⟩
  rw [row_put, if_neg, found]
  intro here
  have handed := grants.handed
  rw [← grants.place, ← here, found] at handed
  cases handed with
  | renewed mine => exact foreign (theirs.symm.trans mine)
  | taken lapsed => omega

theorem Grants.covers_own {place : ℕ} (grants : Grants worker place now ttl leases handout)
    (within : time ≤ now + ttl) (covers : Covers leases worker shard time) :
    Covers (leases.put handout.lease) worker shard time := by
  by_cases here : shard = handout.lease.shard
  · refine ⟨handout.lease, ?_, grants.holder, grants.lasts ▸ within⟩
    rw [row_put, if_pos here]
  · obtain ⟨lease, found, mine, lasts⟩ := covers
    refine ⟨lease, ?_, mine, lasts⟩
    rw [row_put, if_neg here, found]

/-- What the call of a worker leaves to the others: their live leases. -/
def SparesOthers (worker : Uuid) (now : Int) (leases later : Leases) : Prop :=
  ∀ other ≠ worker, ∀ shard time, now < time → Covers leases other shard time →
    Covers later other shard time

theorem acquireRows_spares :
    SparesOthers worker now leases (acquireRows worker now ttl leases shards).1 := by
  intro other foreign shard time live covers
  exact acquireRows_rule (fun leases _ => Covers leases other shard time)
    (fun _ _ _ _ _ covers grants => grants.covers_other foreign live covers) [] covers

theorem acquireRows_covers_own (within : time ≤ now + ttl)
    (covers : Covers leases worker shard time) :
    Covers (acquireRows worker now ttl leases shards).1 worker shard time :=
  acquireRows_rule (fun leases _ => Covers leases worker shard time)
    (fun _ _ _ _ _ covers grants => grants.covers_own within covers) [] covers

/-- **The leases that are handed out** are the worker's for the time to live. -/
theorem acquireRows_covers_handouts :
    ∀ handout ∈ (acquireRows worker now ttl leases shards).2, handout.lease.shard ∈ shards ∧
      Covers (acquireRows worker now ttl leases shards).1 worker handout.lease.shard
        (now + ttl) := by
  refine acquireRows_rule (fun leases log => ∀ handout ∈ log, handout.lease.shard ∈ shards ∧
    Covers leases worker handout.lease.shard (now + ttl)) ?_ []
    (fun _ member => absurd member not_mem_nil)
  intro leases log shard inside handout covered grants earlier member
  rcases mem_append.mp member with before | isLast
  · exact ⟨(covered earlier before).1, grants.covers_own le_rfl (covered earlier before).2⟩
  · rw [mem_singleton.mp isLast]
    refine ⟨grants.place ▸ inside, handout.lease, ?_, grants.holder, grants.lasts.ge⟩
    rw [row_put, if_pos rfl]

theorem releaseShardsExcept_spares :
    SparesOthers worker now leases (leases.releaseShardsExcept worker keep) := by
  rintro other foreign shard time - ⟨lease, found, theirs, lasts⟩
  refine ⟨lease, ?_, theirs, lasts⟩
  rw [row_releaseShardsExcept, found]
  intro stored same mine
  obtain rfl := Option.some.inj (found.symm.trans same)
  exact absurd (theirs.symm.trans mine) foreign

theorem releaseShardsExcept_covers (kept : shard ∈ keep)
    (covers : Covers leases worker shard time) :
    Covers (leases.releaseShardsExcept worker keep) worker shard time := by
  obtain ⟨lease, found, mine, lasts⟩ := covers
  refine ⟨lease, ?_, mine, lasts⟩
  rw [row_releaseShardsExcept fun _ _ _ => kept, found]

/-! ## What a distributor believes -/

/-- What a distributor has found out on its way through a cycle. -/
def PhaseSound (settings : Settings) (worker : Uuid) (now : Int) (leases : Leases) : Phase → Prop
  | .idle | .sweep | .releaseAll | .clear | .stopped => True
  | .heartbeat cycleStart | .listWorkers cycleStart | .acquire cycleStart _ => cycleStart ≤ now
  | .release cycleStart desired held => cycleStart ≤ now ∧ ∀ lease ∈ held,
      lease.shard ∈ desired ∧ (now < cycleStart + settings.window →
        Covers leases worker lease.shard (cycleStart + settings.window))
  | .publish cycleStart held => cycleStart ≤ now ∧ ∀ lease ∈ held,
      now < cycleStart + settings.window →
        Covers leases worker lease.shard (cycleStart + settings.window)

/-- **What a distributor believes is backed by leases** that last as long as the belief. -/
structure Backed (settings : Settings) (worker : Uuid) (now : Int) (leases : Leases)
    (distributor : Distributor) : Prop where
  published : ∀ entry ∈ distributor.owned, now < distributor.validUntil →
    Covers leases worker entry.1 distributor.validUntil
  within : distributor.owned ≠ [] → distributor.validUntil ≤ now + settings.window
  phase : PhaseSound settings worker now leases distributor.phase

/-- A release in this phase drops no shard that the worker still believes to own. -/
def Distributor.Spares (distributor : Distributor) (now : Int) : Phase → Prop
  | .release _ desired _ =>
    ∀ entry ∈ distributor.owned, now < distributor.validUntil → entry.1 ∈ desired
  | .releaseAll => ∀ entry ∈ distributor.owned, ¬ now < distributor.validUntil
  | .idle | .heartbeat _ | .listWorkers _ | .acquire .. | .publish .. | .sweep | .clear
  | .stopped => True

/-- No release that takes effect drops a shard that the worker still believes to own. -/
def KeepsOwned (fleet : Fleet) : FleetEvent → Prop
  | .step worker answer => answer.applied = true →
      (fleet.distributor worker).Spares fleet.now (fleet.distributor worker).phase
  | .elapse _ | .tick _ | .cancel _ => True

variable {settings : Settings} {distributor : Distributor}

theorem Settings.window_le (settings : Settings) : settings.window ≤ settings.leaseTTL := by
  have nonneg := settings.margin_nonneg
  rw [Settings.window]
  omega

variable {leases' : Leases} {phase : Phase}

/-- What a phase relies on stays when the leases that back it do. -/
theorem PhaseSound.transfer (sound : PhaseSound settings worker now leases phase)
    (kept : ∀ shard time, now < time → time ≤ now + settings.window →
      Covers leases worker shard time → Covers leases' worker shard time) :
    PhaseSound settings worker now leases' phase := by
  cases phase with
  | heartbeat | listWorkers | acquire => exact sound
  | release cycleStart desired held =>
    obtain ⟨begun, covered⟩ := sound
    refine ⟨begun, fun lease member => ⟨(covered lease member).1, fun live => ?_⟩⟩
    exact kept _ _ live (by omega) ((covered lease member).2 live)
  | publish cycleStart held =>
    obtain ⟨begun, covered⟩ := sound
    exact ⟨begun, fun lease member live => kept _ _ live (by omega) (covered lease member live)⟩
  | _ => trivial

theorem Backed.transfer (backed : Backed settings worker now leases distributor)
    (kept : ∀ shard time, now < time → time ≤ now + settings.window →
      Covers leases worker shard time → Covers leases' worker shard time) :
    Backed settings worker now leases' distributor := by
  refine ⟨?_, backed.within, backed.phase.transfer kept⟩
  intro entry member live
  have some := backed.within (ne_nil_of_mem member)
  exact kept _ _ live some (backed.published entry member live)

theorem Backed.spared (backed : Backed settings other now leases distributor)
    (foreign : other ≠ worker) (spares : SparesOthers worker now leases leases') :
    Backed settings other now leases' distributor :=
  backed.transfer fun shard time live _ => spares other foreign shard time live

theorem Backed.elapse (backed : Backed settings worker now leases distributor) (duration : ℕ) :
    Backed settings worker (now + duration) leases distributor := by
  refine ⟨fun entry member live => backed.published entry member (by omega), ?_, ?_⟩
  · intro some
    have within := backed.within some
    omega
  · have sound := backed.phase
    revert sound
    cases distributor.phase with
    | heartbeat cycleStart | listWorkers cycleStart | acquire cycleStart =>
      intro begun
      change cycleStart ≤ now + duration
      change cycleStart ≤ now at begun
      omega
    | release cycleStart desired held =>
      rintro ⟨begun, covered⟩
      exact ⟨by omega, fun lease member =>
        ⟨(covered lease member).1, fun live => (covered lease member).2 (by omega)⟩⟩
    | publish cycleStart held =>
      rintro ⟨begun, covered⟩
      exact ⟨by omega, fun lease member live => covered lease member (by omega)⟩
    | _ => exact fun _ => trivial

theorem Backed.setPhase (backed : Backed settings worker now leases distributor)
    (sound : PhaseSound settings worker now leases phase) :
    Backed settings worker now leases { distributor with phase } :=
  ⟨backed.published, backed.within, sound⟩

/-! ## One step of a distributor -/

/-- What a step leaves: its own beliefs are backed, and the live leases of the others stay. -/
structure StepSound (settings : Settings) (worker : Uuid) (now : Int) (leases : Leases)
    (next : WorkShardRepository × Distributor) : Prop where
  backed : Backed settings worker now next.1.leases next.2
  spares : SparesOthers worker now leases next.1.leases

theorem sparesOthers_refl : SparesOthers worker now leases leases := fun _ _ _ _ _ covers => covers

theorem acquireShards_cases (backend : Backend) :
    acquireShards backend worker now ttl leases shards = none ∨
      acquireShards backend worker now ttl leases shards =
        some (acquireRows worker now ttl leases shards) := by
  cases backend with
  | memory => exact .inr rfl
  | postgres =>
    rw [acquireShards]
    split
    case isTrue => exact .inr rfl
    case isFalse => exact .inl rfl

variable {repo : WorkShardRepository} {answer : Answer} {backend : Backend}

theorem stepSound_of_leases {stored : WorkShardRepository}
    (backed : Backed settings worker now repo.leases distributor)
    (same : stored.leases = repo.leases)
    (sound : PhaseSound settings worker now repo.leases phase) :
    StepSound settings worker now repo.leases (stored, { distributor with phase }) := by
  refine ⟨?_, ?_⟩
  · rw [same]
    exact backed.setPhase sound
  · rw [same]
    exact sparesOthers_refl

variable {cycleStart : Int}

section

variable (backed : Backed settings worker now repo.leases distributor)
include backed

theorem acquire_sound {desired : List ℕ} (here : distributor.phase = .acquire cycleStart desired) :
    StepSound settings worker now repo.leases
      (distributor.advance backend settings worker now answer repo) := by
  have begun : cycleStart ≤ now := by
    have sound := backed.phase
    rwa [here] at sound
  have window := settings.window_le
  rw [advance, here]
  dsimp only
  rcases @acquireShards_cases repo.leases worker now settings.leaseTTL desired backend with
    acquired | acquired
  · rw [acquired]
    exact stepSound_of_leases backed rfl trivial
  · rw [acquired]
    have taken : Backed settings worker now
        (acquireRows worker now settings.leaseTTL repo.leases desired).1 distributor :=
      backed.transfer fun shard time _ within => acquireRows_covers_own (by omega)
    cases answer with
    | ok =>
      refine ⟨taken.setPhase ⟨begun, ?_⟩, acquireRows_spares⟩
      intro lease member
      obtain ⟨handout, handed, rfl⟩ := mem_map.mp member
      obtain ⟨inside, covers⟩ := acquireRows_covers_handouts handout handed
      exact ⟨inside, fun _ => covers.mono (by omega)⟩
    | failed applied =>
      cases applied with
      | true => exact ⟨taken.setPhase trivial, acquireRows_spares⟩
      | false => exact stepSound_of_leases backed rfl trivial

theorem release_sound {desired : List ℕ} {held : List ShardLease}
    (here : distributor.phase = .release cycleStart desired held)
    (keeps : answer.applied → ∀ entry ∈ distributor.owned, now < distributor.validUntil →
      entry.1 ∈ desired) :
    StepSound settings worker now repo.leases
      (distributor.advance backend settings worker now answer repo) := by
  have sound := backed.phase
  rw [here] at sound
  obtain ⟨begun, covered⟩ := sound
  have released : answer.applied → ∀ phase, PhaseSound settings worker now
      (repo.leases.releaseShardsExcept worker desired) phase → Backed settings worker now
        (repo.leases.releaseShardsExcept worker desired) { distributor with phase } := by
    intro applied phase sound
    refine ⟨?_, backed.within, sound⟩
    intro entry member live
    exact releaseShardsExcept_covers (keeps applied entry member live)
      (backed.published entry member live)
  rw [advance, here]
  cases answer with
  | ok =>
    refine ⟨released rfl _ ⟨begun, ?_⟩, releaseShardsExcept_spares⟩
    intro lease member live
    exact releaseShardsExcept_covers (covered lease member).1 ((covered lease member).2 live)
  | failed applied =>
    cases applied with
    | true => exact ⟨released rfl _ trivial, releaseShardsExcept_spares⟩
    | false => exact stepSound_of_leases backed rfl trivial

theorem publish_sound {held : List ShardLease}
    (here : distributor.phase = .publish cycleStart held) :
    StepSound settings worker now repo.leases
      (distributor.advance backend settings worker now answer repo) := by
  have sound := backed.phase
  rw [here] at sound
  obtain ⟨begun, covered⟩ := sound
  rw [advance, here]
  refine ⟨⟨?_, ?_, ?_⟩, sparesOthers_refl⟩
  · intro entry member live
    obtain ⟨lease, isHeld, rfl⟩ := mem_map.mp member
    exact covered lease isHeld live
  · intro _
    change cycleStart + settings.window ≤ now + settings.window
    omega
  · dsimp only
    split <;> trivial

theorem releaseAll_sound (here : distributor.phase = .releaseAll)
    (keeps : answer.applied → ∀ entry ∈ distributor.owned, ¬ now < distributor.validUntil) :
    StepSound settings worker now repo.leases
      (distributor.advance backend settings worker now answer repo) := by
  rw [advance, here]
  dsimp only
  split
  case isTrue applied =>
    refine ⟨⟨?_, backed.within, trivial⟩, releaseShardsExcept_spares⟩
    intro entry member live
    exact absurd live (keeps applied entry member)
  case isFalse => exact stepSound_of_leases backed rfl trivial

/-- **One step of a distributor.** -/
theorem advance_sound (keeps : answer.applied → distributor.Spares now distributor.phase) :
    StepSound settings worker now repo.leases
      (distributor.advance backend settings worker now answer repo) := by
  have sound := backed.phase
  cases here : distributor.phase with
  | heartbeat cycleStart =>
    rw [here] at sound
    rw [advance, here]
    refine stepSound_of_leases backed (by split <;> rfl) ?_
    split
    case isTrue => exact sound
    case isFalse => trivial
  | listWorkers cycleStart =>
    rw [here] at sound
    rw [advance, here]
    refine stepSound_of_leases backed rfl ?_
    split
    case isTrue => exact sound
    case isFalse => trivial
  | acquire cycleStart desired => exact acquire_sound backed here
  | release cycleStart desired held =>
    rw [here] at keeps
    exact release_sound backed here keeps
  | publish cycleStart held => exact publish_sound backed here
  | sweep =>
    rw [advance, here]
    exact stepSound_of_leases backed (by split <;> rfl) trivial
  | releaseAll =>
    rw [here] at keeps
    exact releaseAll_sound backed here keeps
  | clear =>
    rw [advance, here]
    exact ⟨⟨fun _ member => absurd member not_mem_nil, fun some => absurd rfl some, trivial⟩,
      sparesOthers_refl⟩
  | _ =>
    rw [advance, here]
    exact ⟨backed, sparesOthers_refl⟩

end

/-! ## Every run of a fleet -/

def FleetSound (settings : Uuid → Settings) (fleet : Fleet) : Prop :=
  ∀ worker, Backed (settings worker) worker fleet.now fleet.repo.leases (fleet.distributor worker)

section Fleet

variable {settings : Uuid → Settings} {fleet : Fleet} {event : FleetEvent}

theorem fleetSound_setDistributor
    (others : ∀ other ≠ worker, Backed (settings other) other fleet.now fleet.repo.leases
      (fleet.distributor other))
    (own : Backed (settings worker) worker fleet.now fleet.repo.leases distributor) :
    FleetSound settings (fleet.setDistributor worker distributor) := by
  intro each
  change Backed _ _ _ _ (Function.update fleet.distributor worker distributor each)
  by_cases same : each = worker
  · subst same
    rw [Function.update_self]
    exact own
  · rw [Function.update_of_ne same]
    exact others each same

theorem FleetSound.turnTo {phase : Phase} (sound : FleetSound settings fleet)
    (phaseSound : PhaseSound (settings worker) worker fleet.now fleet.repo.leases phase) :
    FleetSound settings (fleet.turnTo worker phase) := by
  rw [Fleet.turnTo]
  split
  case isTrue =>
    exact fleetSound_setDistributor (fun other _ => sound other)
      ((sound worker).setPhase phaseSound)
  case isFalse => exact sound

/-- **Each event keeps the beliefs backed.** -/
theorem FleetSound.step (sound : FleetSound settings fleet) (keeps : KeepsOwned fleet event) :
    FleetSound settings (fleet.step backend settings event) := by
  cases event with
  | elapse duration => exact fun worker => (sound worker).elapse duration
  | tick worker => exact sound.turnTo (le_refl fleet.now)
  | cancel worker => exact sound.turnTo trivial
  | step worker answer =>
    have next := @advance_sound worker fleet.now (settings worker) (fleet.distributor worker)
      fleet.repo answer backend (sound worker) keeps
    exact fleetSound_setDistributor
      (fun other foreign => (sound other).spared foreign next.spares) next.backed

theorem backed_new (settings : Settings) : Backed settings worker now leases .new :=
  ⟨fun _ member => absurd member not_mem_nil, fun some => absurd rfl some, trivial⟩

theorem Backed.covers {settings : Settings} {tenantId : Uuid}
    (backed : Backed settings worker now leases distributor)
    (owns : distributor.owns settings now tenantId) :
    Covers leases worker (shardIndex tenantId settings.shardCount) distributor.validUntil := by
  rw [Distributor.owns, Bool.and_eq_true, any_eq_true] at owns
  obtain ⟨valid, entry, member, isShard⟩ := owns
  rw [ownershipValid, Bool.and_eq_true, decide_eq_true_iff] at valid
  rw [← of_decide_eq_true isShard]
  exact backed.published entry member valid.2

/-- **No tenant is owned by two workers**, for any number of distributors with the same shard
count on one clock, over any leases left from before and in any interleaving, with any call of the
repository failing; provided that no release drops a shard that its worker still believes to
own. -/
theorem tenant_owned_once {options : Uuid → Options} {backend : Backend} {start : Fleet}
    {events : List FleetEvent} {tenantId first second : Uuid}
    (sameCount : ∀ worker other, (Settings.new (options worker)).shardCount =
      (Settings.new (options other)).shardCount)
    (unstarted : ∀ worker, start.distributor worker = .new)
    (keeps : AlongRun (Fleet.step backend fun worker => .new (options worker))
      KeepsOwned start events)
    (distinct : first ≠ second) :
    ¬ ((events.foldl (Fleet.step backend fun worker => .new (options worker)) start).owns
        (fun worker => .new (options worker)) first tenantId = true ∧
      (events.foldl (Fleet.step backend fun worker => .new (options worker)) start).owns
        (fun worker => .new (options worker)) second tenantId = true) := by
  rintro ⟨firstOwns, secondOwns⟩
  have sound : FleetSound (fun worker => .new (options worker)) start := by
    intro worker
    rw [unstarted worker]
    exact backed_new _
  have reached := keeps.invariant (FleetSound fun worker => .new (options worker))
    (fun _ _ sound keeps => sound.step keeps) sound
  have covers := (reached first).covers firstOwns
  rw [sameCount first second] at covers
  exact distinct (covers.eq ((reached second).covers secondOwns))

end Fleet

/-! ## A hand-over -/

section Examples

instance (distributor : Distributor) (now : Int) (phase : Phase) :
    Decidable (distributor.Spares now phase) := by
  cases phase <;> dsimp only [Spares] <;> infer_instance

instance (fleet : Fleet) (event : FleetEvent) : Decidable (KeepsOwned fleet event) := by
  cases event <;> dsimp only [KeepsOwned] <;> infer_instance

def oneShard : Uuid → Options := fun _ => ⟨1, 20, 7, 12, 60⟩

def newFleet : Fleet := ⟨0, ⟨.empty, .empty⟩, fun _ => .new⟩

def cycle (worker : Uuid) (steps : ℕ) : List FleetEvent :=
  .tick worker :: replicate steps (.step worker .ok)

/-- Worker 2 has the shard when worker 1 joins and becomes the preferred one. -/
def joins : List FleetEvent := cycle 2 5 ++ cycle 1 5

/-- Worker 2 has released the shard and not yet published that; worker 1 goes through a cycle. -/
def handsOver : List FleetEvent := flatten [joins, cycle 2 4, cycle 1 5]

def afterEvents (events : List FleetEvent) : Fleet :=
  events.foldl (Fleet.step .memory fun worker => .new (oneShard worker)) newFleet

/-- **Two workers own a tenant during a hand-over.** -/
theorem tenant_owned_twice :
    (afterEvents handsOver).owns (fun worker => .new (oneShard worker)) 1 7 = true ∧
      (afterEvents handsOver).owns (fun worker => .new (oneShard worker)) 2 7 = true := by
  decide +kernel

theorem tenant_owned_once_joins :
    (afterEvents joins).owns (fun worker => .new (oneShard worker)) 2 7 = true ∧
      ¬ ((afterEvents joins).owns (fun worker => .new (oneShard worker)) 1 7 = true ∧
        (afterEvents joins).owns (fun worker => .new (oneShard worker)) 2 7 = true) :=
  ⟨by decide +kernel, tenant_owned_once (fun _ _ => rfl) (fun _ => rfl) (by decide +kernel)
    (by decide)⟩

end Examples

end ShieldNet.Workshard
