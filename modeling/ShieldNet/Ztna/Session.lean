import Mathlib.Data.List.Sort
import ShieldNet.Lib.Multimap

/-!
# The session tracker

`SessionTracker` of `crates/sng-ztna/src/session.rs`: the grants of the open sessions in
shards, each a map from session ids to grants with an index from devices to session ids.
A session lives in the shard that its hash picks.

The index of a shard lists exactly the grants of the shard, and each operation keeps it so
(`Shard.Indexed`, `SessionTracker.Coherent`). The hash function is a parameter. A walk over
a hash map comes in an order of the map's own, which a ranking of the session ids gives.
-/

namespace ShieldNet.Ztna

open Assoc Multimap List

/-! ## Grants -/

inductive NetworkType where
  | corporate
  | vpn
  | publicNetwork
  | unknown
  deriving DecidableEq

structure AccessRequest where
  appId : String
  deviceId : String
  userId : String
  nowMs : UInt64
  sourceIp : Option String
  sourceCountry : Option String
  networkType : Option NetworkType
  deriving DecidableEq

inductive ZtnaDecisionReason where
  | allow
  | unknownApp
  | deviceNotEnrolled
  | devicePostureStale
  | devicePostureInsufficient
  | identityNotFound
  | identityAbsent
  | mfaStale
  | notEntitled
  | tenantMismatch
  | revoked
  | geoBlocked
  | networkTypeBlocked
  | outsideAllowedHours
  | tagMismatch
  deriving DecidableEq

structure AccessGrant where
  sessionId : String
  tenantId : String
  request : AccessRequest
  grantedAtMs : UInt64
  lastEvalMs : UInt64
  lastReason : ZtnaDecisionReason
  deriving DecidableEq

namespace AccessGrant

def new (sessionId tenantId : String) (request : AccessRequest) (grantedAtMs : UInt64) :
    AccessGrant where
  sessionId
  tenantId
  request
  grantedAtMs
  lastEvalMs := grantedAtMs
  lastReason := .allow

variable (grant : AccessGrant)

def deviceId : String := grant.request.deviceId

def reevalRequest (nowMs : UInt64) : AccessRequest := { grant.request with nowMs }

def stamped (nowMs : UInt64) (reason : ZtnaDecisionReason) : AccessGrant :=
  { grant with lastEvalMs := nowMs, lastReason := reason }

/-- Two grants that differ in their evaluation metadata at most. -/
def SameRecord (grant other : AccessGrant) : Prop :=
  grant.stamped other.lastEvalMs other.lastReason = other

@[simp] theorem deviceId_stamped (nowMs : UInt64) (reason : ZtnaDecisionReason)
    : (grant.stamped nowMs reason).deviceId = grant.deviceId := rfl

theorem SameRecord.refl : grant.SameRecord grant := rfl

theorem SameRecord.stamped {grant other : AccessGrant} (same : grant.SameRecord other)
    (nowMs : UInt64) (reason : ZtnaDecisionReason) :
    (grant.stamped nowMs reason).SameRecord other := same

end AccessGrant

/-! ## A shard -/

structure Shard where
  grants : Assoc String AccessGrant
  byDevice : Multimap String String

open Shard

inductive GuardedRemoval where
  | removed (grant : AccessGrant)
  | superseded
  | absent

namespace Shard

def empty : Shard := ⟨.empty, .empty⟩

variable (shard : Shard)

def deindex (deviceId sessionId : String) : Shard :=
  { shard with byDevice := shard.byDevice.drop deviceId sessionId }

def insert (grant : AccessGrant) : Shard :=
  let replaced : Shard := { shard with grants := shard.grants.set grant.sessionId grant }
  let moved : Shard :=
    match shard.grants.get? grant.sessionId with
    | some prev =>
      if prev.deviceId ≠ grant.deviceId then replaced.deindex prev.deviceId grant.sessionId
      else replaced
    | none => replaced
  { moved with byDevice := moved.byDevice.add grant.deviceId grant.sessionId }

variable (sessionId : String)

def remove : Option AccessGrant × Shard :=
  match shard.grants.get? sessionId with
  | none => (none, shard)
  | some grant =>
    (some grant,
      deindex { shard with grants := shard.grants.erase sessionId } grant.deviceId sessionId)

def removeIfUnchanged (expectedGrantedAtMs : UInt64) : GuardedRemoval × Shard :=
  match shard.grants.get? sessionId with
  | none => (.absent, shard)
  | some current =>
    if current.grantedAtMs ≠ expectedGrantedAtMs then (.superseded, shard)
    else
      match shard.remove sessionId with
      | (some grant, rest) => (.removed grant, rest)
      | (none, rest) => (.absent, rest)

/-- The section of `SessionTracker::mark_evaluated` under the lock. -/
def markEvaluated (nowMs : UInt64) (reason : ZtnaDecisionReason) : Bool × Shard :=
  match shard.grants.get? sessionId with
  | some grant =>
    (true, { shard with grants := shard.grants.set sessionId (grant.stamped nowMs reason) })
  | none => (false, shard)

def values (order : String → ℕ) : List AccessGrant :=
  (shard.grants.entries.map Prod.snd).insertionSort
    fun first second => order first.sessionId ≤ order second.sessionId

def onDevice (order : String → ℕ) (deviceId : String) : List AccessGrant :=
  ((shard.byDevice.members deviceId).insertionSort
    fun first second => order first ≤ order second).filterMap shard.grants.get?

/-- Each grant is stored under its session, and the index lists exactly the sessions that are
stored. -/
structure Indexed (shard : Shard) : Prop where
  keyed : ∀ session grant, shard.grants.get? session = some grant → grant.sessionId = session
  listed : ∀ device session, session ∈ shard.byDevice.members device ↔
    ∃ grant, shard.grants.get? session = some grant ∧ grant.deviceId = device

variable {shard : Shard} {grant : AccessGrant} {sessionId session : String}

theorem indexed_empty : empty.Indexed := by
  constructor
  · intro session grant found
    cases found
  · intro device session
    constructor
    · intro listed
      cases listed
    · rintro ⟨grant, found, -⟩
      cases found

theorem grants_insert : (shard.insert grant).grants = shard.grants.set grant.sessionId grant := by
  rw [insert]
  split
  case h_1 => split <;> rfl
  case h_2 => rfl

theorem get?_remove : (shard.remove sessionId).2.grants.get? session =
    if session = sessionId then none else shard.grants.get? session := by
  rw [remove]
  split
  case h_1 absent =>
    split
    case isTrue same => rw [same, absent]
    case isFalse => rfl
  case h_2 => exact get?_erase

section

variable (indexed : shard.Indexed)
include indexed

theorem mem_byDevice_insert {device : String} :
    session ∈ (shard.insert grant).byDevice.members device ↔
      (device = grant.deviceId ∧ session = grant.sessionId) ∨
        (session ∈ shard.byDevice.members device ∧ session ≠ grant.sessionId) := by
  have stays : session = grant.sessionId → session ∈ shard.byDevice.members device →
      ∀ prev, shard.grants.get? grant.sessionId = some prev → device = prev.deviceId := by
    rintro rfl listed prev found
    obtain ⟨stored, isThere, there⟩ := (indexed.listed device _).mp listed
    rw [found] at isThere
    cases isThere
    exact there.symm
  rw [insert]
  split
  case h_1 prev found =>
    split
    case isTrue =>
      simp only [mem_members_add, deindex, mem_members_drop]
      grind
    simp only [mem_members_add]
    grind
  case h_2 absent =>
    have fresh : session = grant.sessionId → session ∉ shard.byDevice.members device := by
      rintro rfl listed
      obtain ⟨stored, isThere, -⟩ := (indexed.listed device _).mp listed
      rw [absent] at isThere
      cases isThere
    simp only [mem_members_add]
    grind

theorem Indexed.insert (grant : AccessGrant) : (shard.insert grant).Indexed := by
  constructor
  · intro session stored found
    rw [grants_insert, get?_set] at found
    split at found
    case isTrue same =>
      cases found
      exact same.symm
    case isFalse => exact indexed.keyed session stored found
  · intro device session
    rw [mem_byDevice_insert indexed, grants_insert, get?_set, indexed.listed]
    split
    case isTrue same => simp [same, eq_comm]
    case isFalse differs => simp [differs]

theorem Indexed.remove (sessionId : String) : (shard.remove sessionId).2.Indexed := by
  constructor
  · intro session stored found
    rw [get?_remove] at found
    split at found
    case isTrue => cases found
    case isFalse => exact indexed.keyed session stored found
  · intro device session
    rw [get?_remove, Shard.remove]
    split
    case h_1 absent =>
      rw [indexed.listed]
      split
      case isTrue same => rw [same, absent]
      case isFalse => exact Iff.rfl
    case h_2 grant found =>
      rw [deindex, mem_members_drop, indexed.listed]
      split
      case isTrue same =>
        rw [same, found]
        simp [eq_comm]
      case isFalse differs => simp [differs]

theorem Indexed.removeIfUnchanged (sessionId : String) (expected : UInt64)
    : (shard.removeIfUnchanged sessionId expected).2.Indexed := by
  have removed := indexed.remove sessionId
  rw [Shard.removeIfUnchanged]
  split
  case h_1 => exact indexed
  split
  case isTrue => exact indexed
  split
  case h_1 taken | h_2 taken => exact (congrArg Prod.snd taken) ▸ removed

theorem Indexed.markEvaluated (sessionId : String) (nowMs : UInt64) (reason : ZtnaDecisionReason)
    : (shard.markEvaluated sessionId nowMs reason).2.Indexed := by
  rw [Shard.markEvaluated]
  split
  case h_1 grant found =>
    constructor
    · intro session stored isThere
      rw [get?_set] at isThere
      split at isThere
      case isTrue same =>
        cases isThere
        rw [same]
        exact indexed.keyed sessionId grant found
      case isFalse => exact indexed.keyed session stored isThere
    · intro device session
      rw [indexed.listed, get?_set]
      split
      case isTrue same => simp [same, found]
      case isFalse => exact Iff.rfl
  case h_2 => exact indexed

end

theorem get?_removeIfUnchanged {expected : UInt64} :
    (shard.removeIfUnchanged sessionId expected).2.grants.get? session = if session = sessionId then
        (shard.grants.get? sessionId).filter fun current => current.grantedAtMs ≠ expected
      else shard.grants.get? session := by
  rw [removeIfUnchanged]
  split
  case h_1 absent =>
    split
    case isTrue same => rw [same, absent, Option.filter_none]
    case isFalse => rfl
  case h_2 current found =>
    split
    case isTrue newer =>
      split
      case isTrue same => rw [same, found, Option.filter_some, if_pos (decide_eq_true newer)]
      case isFalse => rfl
    case isFalse unchanged =>
      have gone := @get?_remove shard sessionId session
      have matched :
          (some current).filter (fun current => current.grantedAtMs ≠ expected) = none := by
        simpa using unchanged
      rw [found, matched]
      split
      case h_1 taken | h_2 taken => rwa [taken] at gone

theorem get?_markEvaluated {nowMs : UInt64} {reason : ZtnaDecisionReason} :
    (shard.markEvaluated sessionId nowMs reason).2.grants.get? session = if session = sessionId then
        (shard.grants.get? sessionId).map fun grant => grant.stamped nowMs reason
      else shard.grants.get? session := by
  rw [markEvaluated]
  split
  case h_1 grant found => rw [get?_set, found, Option.map_some]
  case h_2 absent =>
    split
    case isTrue same => rw [same, absent, Option.map_none]
    case isFalse => rfl

theorem Indexed.get?_of_mem_values (indexed : shard.Indexed) {order : String → ℕ}
    (yielded : grant ∈ shard.values order) : shard.grants.get? grant.sessionId = some grant := by
  rw [values, mem_insertionSort, mem_map] at yielded
  obtain ⟨⟨session, _⟩, entry, rfl⟩ := yielded
  have found := mem_entries_iff.mp entry
  rwa [indexed.keyed session _ found]

end Shard

/-! ## The tracker -/

structure SessionTracker where
  shards : List Shard
  mask : ℕ
  sized : shards.length = mask + 1

namespace SessionTracker

def withShards (requested : ℕ) : SessionTracker where
  shards := replicate (max requested 1).nextPowerOfTwo .empty
  mask := (max requested 1).nextPowerOfTwo - 1
  sized := by
    have positive := Nat.pos_of_isPowerOfTwo (Nat.isPowerOfTwo_nextPowerOfTwo (max requested 1))
    rw [length_replicate]
    omega

variable (hash : String → UInt64) (tracker : SessionTracker) (sessionId : String)

def shardIndex : ℕ :=
  (hash sessionId).toNat &&& tracker.mask

theorem shardIndex_lt : tracker.shardIndex hash sessionId < tracker.shards.length := by
  rw [tracker.sized]
  exact Nat.lt_succ_of_le Nat.and_le_right

def shardOf : Shard :=
  tracker.shards.get ⟨_, tracker.shardIndex_lt hash sessionId⟩

variable {α : Type}

def locked (tracker : SessionTracker) (sessionId : String) (work : Shard → α × Shard)
    : α × SessionTracker :=
  ((work (tracker.shardOf hash sessionId)).1, { tracker with
      shards := tracker.shards.modify (tracker.shardIndex hash sessionId) fun shard =>
        (work shard).2
      sized := by rw [length_modify, tracker.sized] })

def get : Option AccessGrant :=
  (tracker.shardOf hash sessionId).grants.get? sessionId

def record (grant : AccessGrant) : SessionTracker :=
  (tracker.locked hash grant.sessionId fun shard => ((), shard.insert grant)).2

def remove : Option AccessGrant × SessionTracker :=
  tracker.locked hash sessionId fun shard => shard.remove sessionId

def removeIfUnchanged (expectedGrantedAtMs : UInt64) : GuardedRemoval × SessionTracker :=
  tracker.locked hash sessionId fun shard => shard.removeIfUnchanged sessionId expectedGrantedAtMs

def markEvaluated (nowMs : UInt64) (reason : ZtnaDecisionReason) : Bool × SessionTracker :=
  tracker.locked hash sessionId fun shard => shard.markEvaluated sessionId nowMs reason

def shardGrants (order : String → ℕ) (idx : ℕ) : List AccessGrant :=
  match tracker.shards[idx]? with
  | some shard => shard.values order
  | none => []

/-- The sessions that the indexes of the shards list for a device. -/
def listed (deviceId : String) : List String :=
  tracker.shards.flatMap fun shard => shard.byDevice.members deviceId

variable {hash} {tracker : SessionTracker} {grant : AccessGrant} {sessionId session : String}

/-! ### What the operations store -/

theorem getElem?_shardIndex : tracker.shards[tracker.shardIndex hash session]? =
    some (tracker.shardOf hash session) :=
  getElem?_eq_getElem _

variable {work : Shard → α × Shard}

theorem shardOf_locked : (tracker.locked hash sessionId work).2.shardOf hash session =
    if tracker.shardIndex hash sessionId = tracker.shardIndex hash session then
      (work (tracker.shardOf hash session)).2
    else tracker.shardOf hash session := by
  have found := @getElem?_shardIndex hash (tracker.locked hash sessionId work).2 session
  change (tracker.shards.modify _ _)[tracker.shardIndex hash session]? = _ at found
  rw [getElem?_modify, getElem?_shardIndex, Option.map_eq_map, Option.map_some,
    Option.some.injEq] at found
  rw [← found]

theorem get_locked (change : Option AccessGrant → Option AccessGrant)
    (does : ∀ shard session, (work shard).2.grants.get? session =
      if session = sessionId then change (shard.grants.get? sessionId)
      else shard.grants.get? session) :
    (tracker.locked hash sessionId work).2.get hash session =
      if session = sessionId then change (tracker.get hash sessionId)
      else tracker.get hash session := by
  rw [get, shardOf_locked]
  split
  case isTrue =>
    rw [does]
    split
    case isTrue same => rw [same, get]
    case isFalse => rfl
  case isFalse elsewhere =>
    have differs : session ≠ sessionId := by
      rintro rfl
      exact elsewhere rfl
    rw [if_neg differs, get]

theorem get_record : (tracker.record hash grant).get hash session =
    if session = grant.sessionId then some grant else tracker.get hash session :=
  get_locked (fun _ => some grant) fun shard session => by
    rw [grants_insert, get?_set]

theorem get_remove : (tracker.remove hash sessionId).2.get hash session =
    if session = sessionId then none else tracker.get hash session :=
  get_locked (fun _ => none) fun _ _ => get?_remove

theorem get_removeIfUnchanged {expected : UInt64} :
    (tracker.removeIfUnchanged hash sessionId expected).2.get hash session =
      if session = sessionId then
        (tracker.get hash sessionId).filter fun current => current.grantedAtMs ≠ expected
      else tracker.get hash session :=
  get_locked (Option.filter fun current => current.grantedAtMs ≠ expected) fun _ _ =>
    get?_removeIfUnchanged

theorem get_markEvaluated {nowMs : UInt64} {reason : ZtnaDecisionReason} :
    (tracker.markEvaluated hash sessionId nowMs reason).2.get hash session =
      if session = sessionId then
        (tracker.get hash sessionId).map fun grant => grant.stamped nowMs reason
      else tracker.get hash session :=
  get_locked (Option.map fun grant => grant.stamped nowMs reason) fun _ _ =>
    get?_markEvaluated

/-! ### The index -/

/-- Every shard is indexed, and every session is in the shard of its hash. -/
structure Coherent (hash : String → UInt64) (tracker : SessionTracker) : Prop where
  indexed : ∀ shard ∈ tracker.shards, shard.Indexed
  placed : ∀ idx shard, tracker.shards[idx]? = some shard → ∀ session grant,
    shard.grants.get? session = some grant → tracker.shardIndex hash session = idx

theorem coherent_withShards (requested : ℕ) : (withShards requested).Coherent hash := by
  have fresh : ∀ shard ∈ (withShards requested).shards, shard = .empty := fun shard member =>
    eq_of_mem_replicate member
  constructor
  · intro shard member
    rw [fresh shard member]
    exact indexed_empty
  · intro idx shard found session grant stored
    rw [fresh shard (mem_of_getElem? found)] at stored
    cases stored

section

variable (coherent : tracker.Coherent hash)
include coherent

theorem Coherent.locked (keeps : ∀ shard, shard.Indexed → (work shard).2.Indexed)
    (stores : ∀ shard session, session ≠ sessionId → (work shard).2.grants.get? session =
      shard.grants.get? session) :
    (tracker.locked hash sessionId work).2.Coherent hash := by
  have shards : ∀ idx shard, (tracker.locked hash sessionId work).2.shards[idx]? = some shard →
      ∃ old, tracker.shards[idx]? = some old ∧
        ((tracker.shardIndex hash sessionId = idx ∧ shard = (work old).2) ∨ shard = old) := by
    intro idx shard found
    change (tracker.shards.modify _ _)[idx]? = _ at found
    rw [getElem?_modify, Option.map_eq_map, Option.map_eq_some_iff] at found
    obtain ⟨old, isThere, rfl⟩ := found
    refine ⟨old, isThere, ?_⟩
    split
    case isTrue here => exact .inl ⟨here, rfl⟩
    case isFalse => exact .inr rfl
  constructor
  · intro shard member
    obtain ⟨idx, found⟩ := mem_iff_getElem?.mp member
    obtain ⟨old, isThere, ⟨-, rfl⟩ | rfl⟩ := shards idx shard found
    · exact keeps old (coherent.indexed old (mem_of_getElem? isThere))
    · exact coherent.indexed _ (mem_of_getElem? isThere)
  · intro idx shard found session grant stored
    obtain ⟨old, isThere, ⟨here, rfl⟩ | rfl⟩ := shards idx shard found
    · by_cases own : session = sessionId
      · rw [own]
        exact here
      · rw [stores old session own] at stored
        exact coherent.placed idx old isThere session grant stored
    · exact coherent.placed idx _ isThere session grant stored

theorem Coherent.record (grant : AccessGrant) : (tracker.record hash grant).Coherent hash := by
  refine coherent.locked (fun _ indexed => indexed.insert grant) fun shard session differs => ?_
  rw [grants_insert, get?_set, if_neg differs]

theorem Coherent.remove (sessionId : String) : (tracker.remove hash sessionId).2.Coherent hash := by
  refine coherent.locked (fun _ indexed => indexed.remove sessionId) fun shard session differs => ?_
  rw [get?_remove, if_neg differs]

theorem Coherent.removeIfUnchanged (sessionId : String) (expected : UInt64)
    : (tracker.removeIfUnchanged hash sessionId expected).2.Coherent hash := by
  refine coherent.locked (fun _ indexed => indexed.removeIfUnchanged sessionId expected)
    fun shard session differs => ?_
  rw [get?_removeIfUnchanged, if_neg differs]

theorem Coherent.markEvaluated (sessionId : String) (nowMs : UInt64) (reason : ZtnaDecisionReason) :
    (tracker.markEvaluated hash sessionId nowMs reason).2.Coherent hash := by
  refine coherent.locked (fun _ indexed => indexed.markEvaluated sessionId nowMs reason)
    fun shard session differs => ?_
  rw [get?_markEvaluated, if_neg differs]

theorem Coherent.get_eq {idx : ℕ} {shard : Shard} (isThere : tracker.shards[idx]? = some shard)
    (stored : shard.grants.get? session = some grant) : tracker.get hash session = some grant := by
  have here := coherent.placed idx shard isThere session grant stored
  rw [← here, getElem?_shardIndex, Option.some.injEq] at isThere
  rwa [get, isThere]

theorem Coherent.get_of_mem_shardGrants {order : String → ℕ} {idx : ℕ}
    (yielded : grant ∈ tracker.shardGrants order idx) :
    tracker.get hash grant.sessionId = some grant := by
  rw [shardGrants] at yielded
  split at yielded
  case h_1 shard isThere =>
    exact coherent.get_eq isThere
      ((coherent.indexed shard (mem_of_getElem? isThere)).get?_of_mem_values yielded)
  case h_2 => cases yielded

/-- **The index lists exactly the grants that are present.** -/
theorem Coherent.mem_listed {deviceId : String} : session ∈ tracker.listed deviceId ↔
    ∃ grant, tracker.get hash session = some grant ∧ grant.deviceId = deviceId := by
  rw [listed, mem_flatMap]
  constructor
  · rintro ⟨shard, member, isListed⟩
    obtain ⟨grant, stored, device⟩ := ((coherent.indexed shard member).listed _ _).mp isListed
    obtain ⟨idx, isThere⟩ := mem_iff_getElem?.mp member
    exact ⟨grant, coherent.get_eq isThere stored, device⟩
  · rintro ⟨grant, stored, device⟩
    have member : tracker.shardOf hash session ∈ tracker.shards := get_mem _ _
    exact ⟨_, member, ((coherent.indexed _ member).listed _ _).mpr ⟨grant, stored, device⟩⟩

theorem Coherent.nodup_listed (deviceId : String) : (tracker.listed deviceId).Nodup := by
  rw [listed, nodup_flatMap]
  refine ⟨fun shard _ => shard.byDevice.nodup_members deviceId, ?_⟩
  rw [pairwise_iff_getElem]
  intro first second firstLt secondLt before session inFirst inSecond
  have shardIs : ∀ idx (bound : idx < tracker.shards.length),
      session ∈ tracker.shards[idx].byDevice.members deviceId →
      tracker.shardIndex hash session = idx := by
    intro idx bound isListed
    obtain ⟨grant, stored, -⟩ :=
      ((coherent.indexed _ (getElem_mem bound)).listed _ _).mp isListed
    exact coherent.placed idx _ (getElem?_eq_getElem bound) session grant stored
  have same := (shardIs first firstLt inFirst).symm.trans (shardIs second secondLt inSecond)
  omega

end

end SessionTracker
end ShieldNet.Ztna
