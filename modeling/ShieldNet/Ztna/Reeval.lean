import ShieldNet.Lib.Interleaving
import ShieldNet.Ztna.Session

/-!
# Continuous re-evaluation

`ReevalLoop` of `crates/sng-ztna/src/reeval.rs` over the session tracker: any number of
`sweep` and `reevaluate_device` calls next to producers that `record` and `remove` grants.
A walk clones the grants of a shard under its lock, evaluates each without a lock, and then
stamps or removes it under the lock again.

In every run the index of the tracker lists exactly the grants that are present, and each
grant that a walk has examined is in one bucket of its tally. A walk that removes a grant
compares the time at which it was granted, in milliseconds. Where no producer records a
session anew with the time of a grant that a walk still holds, a grant goes only if that
very grant was evaluated to deny (`revokes_only_judged`). Where one does, the walk takes
the new grant for the one it has judged (`rerecorded_session_revoked`).

The evaluator is an input of each evaluation: policy, catalog, devices and identities may
change at any time. Whether the channel of the revocation events is full is an input too.
-/

namespace ShieldNet.Ztna

open SessionTracker Service List Option

/-! ## Verdicts -/

inductive PostureResult where
  | pass
  | fail
  | notEvaluated

structure ZtnaDecision where
  allow : Bool
  reason : ZtnaDecisionReason
  postureResult : PostureResult

inductive ZtnaError where
  | unknownApp (appId : String)
  | deviceNotEnrolled (deviceId : String)
  | identityNotFound (userId : String)
  | bundleDecode (message : String)
  | invalidPolicy (message : String)
  | providerFailure (provider reason : String)
  | telemetry (message : String)
  | tokenRejected (reason : String)
  | idpConfigNotFound (tenantId : String)

def ZtnaError.asDecisionReason : ZtnaError → ZtnaDecisionReason
  | .unknownApp _ => .unknownApp
  | .deviceNotEnrolled _ => .deviceNotEnrolled
  | .identityNotFound _ => .identityNotFound
  | .bundleDecode _ | .invalidPolicy _ | .providerFailure _ _ | .telemetry _ | .tokenRejected _
  | .idpConfigNotFound _ => .revoked

abbrev Outcome := Except ZtnaError ZtnaDecision

/-- `ReevalLoop::verdict`, of what the evaluator has answered. -/
def verdict : Outcome → Option ZtnaDecisionReason
  | .ok decision => if decision.allow then none else some decision.reason
  | .error error => some error.asDecisionReason

/-! ## The tally -/

structure SweepStats where
  retained : ℕ
  revoked : ℕ
  revocationEmitDropped : ℕ
  vanished : ℕ
  superseded : ℕ

inductive Bucket where
  | retained
  | revoked
  | vanished
  | superseded
  deriving DecidableEq

namespace SweepStats

def default : SweepStats := ⟨0, 0, 0, 0, 0⟩

variable (stats : SweepStats)

def examined : ℕ := stats.retained + stats.revoked + stats.vanished + stats.superseded

def count : Bucket → SweepStats
  | .retained => { stats with retained := stats.retained + 1 }
  | .revoked => { stats with revoked := stats.revoked + 1 }
  | .vanished => { stats with vanished := stats.vanished + 1 }
  | .superseded => { stats with superseded := stats.superseded + 1 }

def inBucket : Bucket → ℕ
  | .retained => stats.retained
  | .revoked => stats.revoked
  | .vanished => stats.vanished
  | .superseded => stats.superseded

/-- The tally counts one bucket for each grant in a list. -/
def Tallies (buckets : List Bucket) : Prop := ∀ bucket, stats.inBucket bucket = buckets.count bucket

theorem tallies_default : default.Tallies [] := by
  intro bucket
  cases bucket <;> rfl

variable {buckets : List Bucket}

theorem Tallies.count {stats : SweepStats} (tallies : stats.Tallies buckets) (counted : Bucket)
    : (stats.count counted).Tallies (buckets ++ [counted]) := by
  intro bucket
  have before := tallies bucket
  rw [count_append, ← before, count_singleton]
  cases counted <;> cases bucket <;> rfl

theorem length_eq_count (buckets : List Bucket) : buckets.length =
    buckets.count .retained + buckets.count .revoked + buckets.count .vanished +
      buckets.count .superseded := by
  induction buckets with
  | nil => rfl
  | cons bucket rest ih =>
    cases bucket <;> simp <;> omega

/-- **A tally adds up to the grants it counts.** -/
theorem Tallies.examined {stats : SweepStats} (tallies : stats.Tallies buckets)
    : stats.examined = buckets.length := by
  rw [length_eq_count, ← tallies, ← tallies, ← tallies, ← tallies]
  rfl

end SweepStats

/-! ## Walks -/

structure SessionRevoked where
  sessionId : String
  tenantId : String
  appId : String
  deviceId : String
  userId : String
  reason : ZtnaDecisionReason
  revokedAtMs : UInt64

/-- A grant that a walk has cloned, with the recording of its session that it came from. -/
structure Clone where
  grant : AccessGrant
  recording : ℕ

structure Evaluation where
  clone : Clone
  nowMs : UInt64
  outcome : Outcome

/-- The tracker and the channel of the revocation events. `recordings` counts how often each
session has been recorded and `evaluations` lists what has been evaluated; they are kept for
the statements alone. -/
structure Sessions where
  tracker : SessionTracker
  revokedTx : List SessionRevoked
  recordings : String → ℕ
  evaluations : List Evaluation

def Sessions.new (requested : ℕ) : Sessions := ⟨.withShards requested, [], fun _ => 0, []⟩

def Sessions.clones (sessions : Sessions) (grants : List AccessGrant) : List Clone :=
  grants.map fun grant => ⟨grant, sessions.recordings grant.sessionId⟩

/-- A walk under way: the clones that it has still to process and its tally. `cloned` and
`examined`, all that it has cloned and the bucket of each that it has examined, are kept for
the statements alone. -/
structure Walk where
  nowMs : UInt64
  pending : List Clone
  stats : SweepStats
  cloned : List Clone
  examined : List (Clone × Bucket)

namespace Walk

def start (nowMs : UInt64) : Walk := ⟨nowMs, [], .default, [], []⟩

def clone (walk : Walk) (clones : List Clone) : Walk :=
  { walk with pending := walk.pending ++ clones, cloned := walk.cloned ++ clones }

def counted (walk : Walk) (clone : Clone) (bucket : Bucket) : Walk := { walk with
    stats := walk.stats.count bucket
    examined := walk.examined ++ [(clone, bucket)] }

/-- Everything cloned is examined or left, and the tally counts what is examined. -/
structure Tallied (walk : Walk) (left : List Clone) : Prop where
  account : walk.cloned = walk.examined.map Prod.fst ++ left
  tallies : walk.stats.Tallies (walk.examined.map Prod.snd)

variable {walk : Walk} {left : List Clone}

theorem tallied_start (nowMs : UInt64) : (start nowMs).Tallied [] :=
  ⟨rfl, SweepStats.tallies_default⟩

theorem Tallied.clone (tallied : walk.Tallied left) (clones : List Clone) :
    (walk.clone clones).Tallied (left ++ clones) := by
  refine ⟨?_, tallied.tallies⟩
  change walk.cloned ++ clones = walk.examined.map Prod.fst ++ (left ++ clones)
  rw [tallied.account, append_assoc]

theorem Tallied.counted {clone : Clone} (tallied : walk.Tallied (clone :: left)) (bucket : Bucket) :
    (walk.counted clone bucket).Tallied left := by
  constructor
  · change walk.cloned = (walk.examined ++ [(clone, bucket)]).map Prod.fst ++ left
    rw [tallied.account, map_append, append_assoc]
    rfl
  · change (walk.stats.count bucket).Tallies ((walk.examined ++ [(clone, bucket)]).map Prod.snd)
    rw [map_append]
    exact tallied.tallies.count bucket

end Walk

/-! ## The calls -/

/-- `record`, `remove`, `sweep` and `reevaluate_device`. -/
inductive ReevalRequest where
  | record (grant : AccessGrant)
  | remove (sessionId : String)
  | sweep (nowMs : UInt64)
  | reevaluateDevice (deviceId : String) (nowMs : UInt64)

/-- What the world decides: the order in which a hash map yields its sessions, the evaluator
as policy and providers stand, and whether the channel is full. -/
structure ReevalInput where
  order : String → ℕ
  evaluate : AccessRequest → Outcome
  channelFull : Bool

/-- Where a call stands. A sweep clones one shard after another (`cloneShard`) and processes
its grants in between; a re-evaluation of a device first collects from all shards
(`collect`). `next` is the shard that a sweep goes on with. -/
inductive ReevalCall where
  | record (grant : AccessGrant)
  | remove (sessionId : String)
  | cloneShard (idx : ℕ) (walk : Walk)
  | collect (deviceId : String) (idx : ℕ) (walk : Walk)
  | process (next : Option ℕ) (walk : Walk)
  | act (next : Option ℕ) (walk : Walk) (clone : Clone) (outcome : Outcome)
  | emit (next : Option ℕ) (walk : Walk) (clone : Clone) (reason : ZtnaDecisionReason)
  | recorded
  | removed (grant : Option AccessGrant)
  | swept (walk : Walk)

open ReevalCall

namespace ReevalCall

def start : ReevalRequest → ReevalCall
  | .record grant => .record grant
  | .remove sessionId => .remove sessionId
  | .sweep nowMs => .cloneShard 0 (.start nowMs)
  | .reevaluateDevice deviceId nowMs => .collect deviceId 0 (.start nowMs)

def revokedEvent (walk : Walk) (clone : Clone) (reason : ZtnaDecisionReason) : SessionRevoked where
  sessionId := clone.grant.sessionId
  tenantId := clone.grant.tenantId
  appId := clone.grant.request.appId
  deviceId := clone.grant.request.deviceId
  userId := clone.grant.request.userId
  reason
  revokedAtMs := walk.nowMs

/-- `ReevalLoop::process_grant` from the verdict on. -/
def acted (hash : String → UInt64) (sessions : Sessions) (next : Option ℕ) (walk : Walk)
    (clone : Clone) : Option ZtnaDecisionReason → Sessions × ReevalCall
  | none =>
    match sessions.tracker.markEvaluated hash clone.grant.sessionId walk.nowMs .allow with
    | (true, tracker) => ({ sessions with tracker }, .process next (walk.counted clone .retained))
    | (false, tracker) => ({ sessions with tracker }, .process next (walk.counted clone .vanished))
  | some reason =>
    match sessions.tracker.removeIfUnchanged hash clone.grant.sessionId clone.grant.grantedAtMs with
    | (.removed _, tracker) =>
      ({ sessions with tracker }, .emit next (walk.counted clone .revoked) clone reason)
    | (.superseded, tracker) =>
      ({ sessions with tracker }, .process next (walk.counted clone .superseded))
    | (.absent, tracker) =>
      ({ sessions with tracker }, .process next (walk.counted clone .vanished))

def advance (hash : String → UInt64) (input : ReevalInput) (sessions : Sessions) :
    ReevalCall → Sessions × ReevalCall
  | .record grant =>
    ({ sessions with
        tracker := sessions.tracker.record hash grant
        recordings := fun session =>
          if session = grant.sessionId then sessions.recordings session + 1
          else sessions.recordings session },
      .recorded)
  | .remove sessionId =>
    ({ sessions with tracker := (sessions.tracker.remove hash sessionId).2 },
      .removed (sessions.tracker.remove hash sessionId).1)
  | .cloneShard idx walk =>
    if idx < sessions.tracker.shards.length then
      (sessions, .process (some (idx + 1))
        (walk.clone (sessions.clones (sessions.tracker.shardGrants input.order idx))))
    else (sessions, .swept walk)
  | .collect deviceId idx walk =>
    match sessions.tracker.shards[idx]? with
    | none => (sessions, .process none walk)
    | some shard =>
      (sessions, .collect deviceId (idx + 1)
        (walk.clone (sessions.clones (shard.onDevice input.order deviceId))))
  | .process next walk =>
    match walk.pending with
    | [] =>
      match next with
      | some idx => (sessions, .cloneShard idx walk)
      | none => (sessions, .swept walk)
    | clone :: rest =>
      let outcome := input.evaluate (clone.grant.reevalRequest walk.nowMs)
      ({ sessions with evaluations := ⟨clone, walk.nowMs, outcome⟩ :: sessions.evaluations },
        .act next { walk with pending := rest } clone outcome)
  | .act next walk clone outcome => acted hash sessions next walk clone (verdict outcome)
  | .emit next walk clone reason =>
    if input.channelFull then
      (sessions, .process next { walk with
          stats := { walk.stats with
            revocationEmitDropped := walk.stats.revocationEmitDropped + 1 } })
    else
      ({ sessions with revokedTx := revokedEvent walk clone reason :: sessions.revokedTx },
        .process next walk)
  | .recorded => (sessions, .recorded)
  | .removed grant => (sessions, .removed grant)
  | .swept walk => (sessions, .swept walk)

end ReevalCall

def reevalService (hash : String → UInt64) :
    Service Sessions ReevalRequest ReevalInput ReevalCall :=
  ⟨start, advance hash⟩

/-! ## What a step does -/

namespace ReevalCall

/-- The clones are of grants that are present, as they were last recorded. -/
def Present (hash : String → UInt64) (sessions : Sessions) (clones : List Clone) : Prop :=
  ∀ clone ∈ clones, sessions.tracker.get hash clone.grant.sessionId = some clone.grant ∧
    clone.recording = sessions.recordings clone.grant.sessionId

inductive Stepped (hash : String → UInt64) (sessions : Sessions) :
    ReevalCall → Sessions → ReevalCall → Prop where
  | recorded {grant} : Stepped hash sessions (.record grant)
        { sessions with
          tracker := sessions.tracker.record hash grant
          recordings := fun session =>
            if session = grant.sessionId then sessions.recordings session + 1
            else sessions.recordings session }
        .recorded
  | removed {sessionId grant} : Stepped hash sessions (.remove sessionId)
        { sessions with tracker := (sessions.tracker.remove hash sessionId).2 } (.removed grant)
  | cloned {idx walk clones} : Present hash sessions clones →
      Stepped hash sessions (.cloneShard idx walk) sessions
        (.process (some (idx + 1)) (walk.clone clones))
  | ended {idx walk} : Stepped hash sessions (.cloneShard idx walk) sessions (.swept walk)
  | collected {deviceId idx walk clones} : Present hash sessions clones →
      Stepped hash sessions (.collect deviceId idx walk) sessions
        (.collect deviceId (idx + 1) (walk.clone clones))
  | gathered {deviceId idx walk} :
      Stepped hash sessions (.collect deviceId idx walk) sessions (.process none walk)
  | processed {next walk moved} : walk.pending = [] →
      moved ∈ [.swept walk, .cloneShard (next.getD 0) walk] →
      Stepped hash sessions (.process next walk) sessions moved
  | evaluated {next walk clone rest outcome} : walk.pending = clone :: rest →
      Stepped hash sessions (.process next walk)
        { sessions with evaluations := ⟨clone, walk.nowMs, outcome⟩ :: sessions.evaluations }
        (.act next { walk with pending := rest } clone outcome)
  | marked {next walk clone outcome bucket} : Stepped hash sessions (.act next walk clone outcome)
        { sessions with
          tracker :=
            (sessions.tracker.markEvaluated hash clone.grant.sessionId walk.nowMs .allow).2 }
        (.process next (walk.counted clone bucket))
  | denied {next walk clone outcome bucket reason moved} : verdict outcome = some reason →
      moved ∈ [.emit next (walk.counted clone bucket) clone reason,
        .process next (walk.counted clone bucket)] →
      Stepped hash sessions (.act next walk clone outcome) { sessions with
          tracker := (sessions.tracker.removeIfUnchanged hash clone.grant.sessionId
            clone.grant.grantedAtMs).2 }
        moved
  | emitted {next walk clone reason dropped revokedTx} :
      Stepped hash sessions (.emit next walk clone reason) { sessions with revokedTx }
        (.process next
          { walk with stats := { walk.stats with revocationEmitDropped := dropped } })
  | returned {call} : Stepped hash sessions call sessions call

variable {hash : String → UInt64} {sessions stored : Sessions} {call moved : ReevalCall}

theorem present_clones {grants : List AccessGrant}
    (stored : ∀ grant ∈ grants, sessions.tracker.get hash grant.sessionId = some grant) :
    Present hash sessions (sessions.clones grants) := by
  intro clone member
  obtain ⟨grant, yielded, rfl⟩ := mem_map.mp member
  exact ⟨stored grant yielded, rfl⟩

theorem acted_stepped (hash : String → UInt64) (sessions : Sessions) (next : Option ℕ) (walk : Walk)
    (clone : Clone) (outcome : Outcome) :
    Stepped hash sessions (.act next walk clone outcome)
      (acted hash sessions next walk clone (verdict outcome)).1
      (acted hash sessions next walk clone (verdict outcome)).2 := by
  cases reached : verdict outcome with
  | none =>
    rw [acted]
    split
    case h_1 tracker marked | h_2 tracker marked =>
      cases congrArg Prod.snd marked
      exact .marked
  | some reason =>
    rw [acted]
    split
    case h_1 removed tracker taken =>
      cases congrArg Prod.snd taken
      exact .denied reached mem_cons_self
    case h_2 tracker taken | h_3 tracker taken =>
      cases congrArg Prod.snd taken
      exact .denied reached (mem_cons_of_mem _ mem_cons_self)

theorem advance_stepped (input : ReevalInput) (coherent : sessions.tracker.Coherent hash)
    (call : ReevalCall) :
    Stepped hash sessions call (advance hash input sessions call).1
      (advance hash input sessions call).2 := by
  cases call with
  | record => exact .recorded
  | remove => exact .removed
  | cloneShard idx walk =>
    rw [advance]
    split
    case isTrue =>
      exact .cloned (present_clones fun _ yielded => coherent.get_of_mem_shardGrants yielded)
    case isFalse => exact .ended
  | collect deviceId idx walk =>
    rw [advance]
    split
    case h_1 => exact .gathered
    case h_2 shard isThere =>
      have indexed := coherent.indexed shard (mem_of_getElem? isThere)
      refine .collected (present_clones fun grant yielded => coherent.get_eq isThere ?_)
      obtain ⟨session, -, found⟩ := mem_filterMap.mp yielded
      rwa [indexed.keyed session grant found]
  | process next walk =>
    dsimp only [advance]
    split
    case h_1 none_left =>
      cases next with
      | none => exact .processed none_left mem_cons_self
      | some idx => exact .processed none_left (mem_cons_of_mem _ mem_cons_self)
    case h_2 clone rest left => exact .evaluated left
  | act next walk clone outcome => exact acted_stepped hash sessions next walk clone outcome
  | emit next walk clone reason =>
    rw [advance]
    split <;> exact .emitted
  | _ => exact .returned

/-! ## The index and the tally -/

theorem Stepped.coherent (stepped : Stepped hash sessions call stored moved)
    (coherent : sessions.tracker.Coherent hash) : stored.tracker.Coherent hash := by
  cases stepped with
  | recorded => exact coherent.record _
  | removed => exact coherent.remove _
  | marked => exact coherent.markEvaluated _ _ _
  | denied => exact coherent.removeIfUnchanged _ _
  | _ =>
    exact coherent

def Tallied : ReevalCall → Prop
  | .record _ | .remove _ | .recorded | .removed _ => True
  | .cloneShard _ walk | .swept walk => walk.pending = [] ∧ walk.Tallied []
  | .collect _ _ walk | .process _ walk | .emit _ walk _ _ => walk.Tallied walk.pending
  | .act _ walk clone _ => walk.Tallied (clone :: walk.pending)

theorem tallied_start (request : ReevalRequest) : (start request).Tallied := by
  cases request with
  | sweep nowMs => exact ⟨rfl, Walk.tallied_start nowMs⟩
  | reevaluateDevice deviceId nowMs => exact Walk.tallied_start nowMs
  | _ => trivial

theorem Stepped.tallied (stepped : Stepped hash sessions call stored moved)
    (tallied : call.Tallied) : moved.Tallied := by
  cases stepped with
  | @cloned idx walk clones =>
    have more := tallied.2.clone clones
    rw [← tallied.1] at more
    exact more
  | ended => exact tallied
  | @collected _ _ walk clones => exact Walk.Tallied.clone tallied clones
  | gathered => exact tallied
  | @processed next walk _ noneLeft reached =>
    have whole : walk.Tallied [] := noneLeft ▸ tallied
    rcases mem_pair.mp reached with rfl | rfl
    · exact ⟨noneLeft, whole⟩
    · exact ⟨noneLeft, whole⟩
  | @evaluated next walk clone rest outcome left =>
    have whole : walk.Tallied (clone :: rest) := left ▸ tallied
    exact ⟨whole.account, whole.tallies⟩
  | marked => exact Walk.Tallied.counted tallied _
  | denied _ reached =>
    rcases mem_pair.mp reached with rfl | rfl
    · exact Walk.Tallied.counted tallied _
    · exact Walk.Tallied.counted tallied _
  | emitted =>
    refine ⟨tallied.account, fun bucket => ?_⟩
    have before := tallied.tallies bucket
    cases bucket <;> exact before
  | returned => exact tallied
  | _ => trivial

/-! ## What a walk may still take for judged -/

/-- The clones that a walk may yet act on. -/
def holds : ReevalCall → List Clone
  | .record _ | .remove _ | .recorded | .removed _ | .swept _ => []
  | .cloneShard _ walk | .collect _ _ walk | .process _ walk | .emit _ walk _ _ => walk.pending
  | .act _ walk clone _ => clone :: walk.pending

/-- A producer records a session with another time than that of a grant of the session that a
walk holds. -/
def Restamped (_ : ReevalInput) (system : Shared Sessions ReevalCall) : ReevalCall → Prop
  | .record grant => ∀ other ∈ system.calls, ∀ clone ∈ other.holds,
      clone.grant.sessionId = grant.sessionId → clone.grant.grantedAtMs ≠ grant.grantedAtMs
  | .remove _ | .cloneShard .. | .collect .. | .process .. | .act .. | .emit .. | .recorded
  | .removed _ | .swept _ => True

instance (input : ReevalInput) (system : Shared Sessions ReevalCall) (call : ReevalCall) :
    Decidable (Restamped input system call) := by
  cases call <;> dsimp only [Restamped] <;> infer_instance

/-- A grant that is present goes only when the producer removes it, or when that very
recording of it has been evaluated to deny. -/
def RevokesJudged (hash : String → UInt64) (input : ReevalInput)
    (system : Shared Sessions ReevalCall) (call : ReevalCall) : Prop :=
  ∀ session grant, system.store.tracker.get hash session = some grant →
    (advance hash input system.store call).1.tracker.get hash session = none →
      call = .remove session ∨ ∃ evaluation ∈ system.store.evaluations,
          evaluation.clone.recording = system.store.recordings session ∧
            grant.SameRecord evaluation.clone.grant ∧ (verdict evaluation.outcome).isSome

/-- A stored grant with the time of the clone is the one that was cloned. -/
def Fresh (hash : String → UInt64) (sessions : Sessions) (clone : Clone) : Prop :=
  ∀ grant, sessions.tracker.get hash clone.grant.sessionId = some grant →
    grant.grantedAtMs = clone.grant.grantedAtMs →
      clone.recording = sessions.recordings clone.grant.sessionId ∧ grant.SameRecord clone.grant

/-- What a call relies on: its clones are fresh, and what it acts on has been evaluated. -/
structure Relies (hash : String → UInt64) (sessions : Sessions) (call : ReevalCall) : Prop where
  fresh : ∀ clone ∈ call.holds, Fresh hash sessions clone
  evaluated : ∀ next walk clone outcome, call = .act next walk clone outcome →
    ⟨clone, walk.nowMs, outcome⟩ ∈ sessions.evaluations

theorem Present.fresh {clones : List Clone} (present : Present hash sessions clones) :
    ∀ clone ∈ clones, Fresh hash sessions clone := by
  intro clone member grant stored _
  obtain ⟨isThere, recording⟩ := present clone member
  rw [isThere] at stored
  cases stored
  exact ⟨recording, .refl _⟩

/-- A step leaves what is stored for a session, but for its evaluation metadata, or takes it
away; unless it records the session. -/
theorem Stepped.get (stepped : Stepped hash sessions call stored moved) (session : String) :
    (∃ grant, call = .record grant ∧ grant.sessionId = session ∧
        stored.tracker.get hash session = some grant) ∨
      stored.recordings session = sessions.recordings session ∧
        ∀ grant, stored.tracker.get hash session = some grant →
          ∃ earlier, sessions.tracker.get hash session = some earlier ∧
            ∃ nowMs reason, grant = earlier.stamped nowMs reason := by
  have unchanged : ∀ grant, sessions.tracker.get hash session = some grant →
      ∃ earlier, sessions.tracker.get hash session = some earlier ∧
        ∃ nowMs reason, grant = earlier.stamped nowMs reason := fun grant isThere =>
    ⟨grant, isThere, grant.lastEvalMs, grant.lastReason, rfl⟩
  cases stepped with
  | @recorded grant =>
    dsimp only
    rw [get_record]
    by_cases own : session = grant.sessionId
    · exact .inl ⟨grant, rfl, own.symm, if_pos own⟩
    · rw [if_neg own, if_neg own]
      exact .inr ⟨rfl, unchanged⟩
  | @removed sessionId =>
    refine .inr ⟨rfl, ?_⟩
    intro grant isThere
    rw [get_remove] at isThere
    split at isThere
    case isTrue => cases isThere
    case isFalse => exact unchanged grant isThere
  | @marked _ walk clone =>
    refine .inr ⟨rfl, ?_⟩
    intro grant isThere
    rw [get_markEvaluated] at isThere
    split at isThere
    case isTrue same =>
      obtain ⟨earlier, isStored, rfl⟩ := map_eq_some_iff.mp isThere
      exact ⟨earlier, same ▸ isStored, walk.nowMs, .allow, rfl⟩
    case isFalse => exact unchanged grant isThere
  | @denied _ _ clone =>
    refine .inr ⟨rfl, ?_⟩
    intro grant isThere
    rw [get_removeIfUnchanged] at isThere
    split at isThere
    case isTrue same =>
      exact unchanged grant (same ▸ (filter_eq_some_iff.mp isThere).1)
    case isFalse => exact unchanged grant isThere
  | _ =>
    exact .inr ⟨rfl, unchanged⟩

theorem Fresh.stepped {clone : Clone} (fresh : Fresh hash sessions clone)
    (stepped : Stepped hash sessions call stored moved)
    (restamped : ∀ grant, call = .record grant → clone.grant.sessionId = grant.sessionId →
      clone.grant.grantedAtMs ≠ grant.grantedAtMs) : Fresh hash stored clone := by
  intro grant isThere sameTime
  rcases stepped.get clone.grant.sessionId with ⟨recorded, isRecord, session, stores⟩ |
    ⟨recordings, earlier⟩
  · rw [isThere] at stores
    cases stores
    exact absurd sameTime.symm (restamped grant isRecord session.symm)
  · obtain ⟨before, wasThere, nowMs, reason, rfl⟩ := earlier grant isThere
    obtain ⟨recording, same⟩ := fresh before wasThere sameTime
    exact ⟨recording.trans recordings.symm, same.stamped nowMs reason⟩

theorem Stepped.holds (stepped : Stepped hash sessions call stored moved) :
    ∀ clone ∈ moved.holds, clone ∈ call.holds ∨ Fresh hash stored clone := by
  intro clone held
  cases stepped with
  | cloned present | collected present =>
    rcases mem_append.mp held with before | new
    · exact .inl before
    · exact .inr (present.fresh clone new)
  | processed _ reached =>
    rcases mem_pair.mp reached with rfl | rfl
    · cases held
    · exact .inl held
  | @evaluated _ walk _ _ _ left =>
    refine .inl ?_
    change clone ∈ walk.pending
    rw [left]
    exact held
  | denied _ reached =>
    rcases mem_pair.mp reached with rfl | rfl
    · exact .inl (mem_cons_of_mem _ held)
    · exact .inl (mem_cons_of_mem _ held)
  | marked => exact .inl (mem_cons_of_mem _ held)
  | recorded | removed | ended => cases held
  | _ => exact .inl held

theorem Stepped.relies (stepped : Stepped hash sessions call stored moved)
    (relies : Relies hash sessions call) : Relies hash stored moved := by
  constructor
  · intro clone held
    rcases stepped.holds clone held with before | fresh
    · refine (relies.fresh clone before).stepped stepped ?_
      rintro grant rfl
      cases before
    · exact fresh
  · rintro next walk clone outcome rfl
    cases stepped with
    | evaluated => exact mem_cons_self
    | processed _ reached | denied _ reached =>
      rcases mem_pair.mp reached with same | same <;> cases same
    | returned => exact relies.evaluated next walk clone outcome rfl

theorem Relies.stepped {other : ReevalCall} (relies : Relies hash sessions other)
    (stepped : Stepped hash sessions call stored moved)
    (restamped : ∀ grant, call = .record grant → ∀ clone ∈ other.holds,
      clone.grant.sessionId = grant.sessionId → clone.grant.grantedAtMs ≠ grant.grantedAtMs) :
    Relies hash stored other := by
  constructor
  · intro clone held
    exact (relies.fresh clone held).stepped stepped fun grant isRecord =>
      restamped grant isRecord clone held
  · intro next walk clone outcome isAct
    have before := relies.evaluated next walk clone outcome isAct
    cases stepped with
    | evaluated => exact mem_cons_of_mem _ before
    | _ => exact before

/-- A grant goes when the producer removes its session, or when a walk acts on a denial of a
clone with its time. -/
theorem Stepped.gone (stepped : Stepped hash sessions call stored moved) {session : String}
    {grant : AccessGrant} (isThere : sessions.tracker.get hash session = some grant)
    (gone : stored.tracker.get hash session = none) :
    call = .remove session ∨ ∃ next walk clone outcome, call = .act next walk clone outcome ∧
      session = clone.grant.sessionId ∧ grant.grantedAtMs = clone.grant.grantedAtMs ∧
        (verdict outcome).isSome := by
  have present : sessions.tracker.get hash session ≠ none :=
    ne_none_iff_exists'.mpr ⟨grant, isThere⟩
  cases stepped with
  | recorded =>
    rw [get_record] at gone
    split at gone
    case isTrue => cases gone
    case isFalse => exact absurd gone present
  | removed =>
    rw [get_remove] at gone
    split at gone
    case isTrue same => exact .inl (congrArg _ same.symm)
    case isFalse => exact absurd gone present
  | marked =>
    rw [get_markEvaluated] at gone
    split at gone
    case isTrue same => exact absurd (same ▸ map_eq_none_iff.mp gone) present
    case isFalse => exact absurd gone present
  | @denied next walk clone outcome _ reason _ reached =>
    rw [get_removeIfUnchanged] at gone
    split at gone
    case isTrue same =>
      rw [← same, isThere, filter_eq_none_iff] at gone
      have sameTime : grant.grantedAtMs = clone.grant.grantedAtMs := by
        simpa using gone grant rfl
      exact .inr ⟨next, walk, clone, outcome, rfl, same, sameTime, by rw [reached]; rfl⟩
    case isFalse => exact absurd gone present
  | _ =>
    exact absurd gone present

theorem Relies.revokesJudged {system : Shared Sessions ReevalCall} {input : ReevalInput}
    (relies : Relies hash system.store call) (coherent : system.store.tracker.Coherent hash) :
    RevokesJudged hash input system call := by
  intro session grant isThere gone
  rcases (advance_stepped input coherent call).gone isThere gone with
    removed | ⟨next, walk, clone, outcome, rfl, rfl, sameTime, denies⟩
  · exact .inl removed
  · obtain ⟨recording, sameRecord⟩ := relies.fresh clone mem_cons_self grant isThere sameTime
    exact .inr ⟨_, relies.evaluated next walk clone outcome rfl, recording, sameRecord, denies⟩

end ReevalCall

/-! ## Every run -/

section Runs

variable {hash : String → UInt64} {requested : ℕ} {moves : List (Move ReevalRequest ReevalInput)}

/-- The tracker is coherent and every walk accounts for what it has cloned. -/
abbrev Sound (hash : String → UInt64) : Shared Sessions ReevalCall → Prop :=
  Asserts (fun sessions => sessions.tracker.Coherent hash) (fun _ call => call.Tallied)

def reevaluated (hash : String → UInt64) (requested : ℕ)
    (moves : List (Move ReevalRequest ReevalInput)) : Shared Sessions ReevalCall :=
  (reevalService hash).run (.new requested) moves

theorem reevaluated_sound (hash : String → UInt64) (requested : ℕ)
    (moves : List (Move ReevalRequest ReevalInput)) :
    Sound hash (reevaluated hash requested moves) := by
  refine every_run_asserts _ _ ?_ ?_ ?_ ?_ moves
  · intro _ request _
    exact tallied_start request
  · intro input system call sound underWay
    have stepped := advance_stepped input sound.store call
    exact ⟨stepped.coherent sound.store, stepped.tallied (sound.calls call underWay)⟩
  · intro _ _ _ other sound apart
    exact sound.calls other apart.mem_right
  · exact coherent_withShards requested

/-- A walk revokes what it has judged, in a run in which no session is recorded anew with the
time of a grant that a walk holds. -/
theorem along_revokesJudged
    (restamped : AlongRun (reevalService hash).step (AtMove Restamped)
      (idle (.new requested)) moves) :
    AlongRun (reevalService hash).step (AtMove (RevokesJudged hash))
      (idle (.new requested)) moves := by
  refine along_asserts (fun sessions => sessions.tracker.Coherent hash)
    (Relies hash) ?_ ?_ ?_ ?_ (coherent_withShards requested) restamped
  · intro sessions request _
    constructor
    · intro clone held
      cases request <;> cases held
    · intro next walk clone outcome isAct
      cases request <;> cases isAct
  · intro input system call asserts underWay _
    have stepped := advance_stepped input asserts.store call
    exact ⟨stepped.coherent asserts.store, stepped.relies (asserts.calls call underWay)⟩
  · intro input system call other asserts apart allowed
    have stepped := advance_stepped input asserts.store call
    refine (asserts.calls other apart.mem_right).stepped stepped ?_
    rintro grant rfl
    exact allowed other apart.mem_right
  · intro input system call asserts underWay _
    exact (asserts.calls call underWay).revokesJudged asserts.store

/-- The index lists the sessions of a device that are present, each once. -/
def SessionTracker.IndexExact (hash : String → UInt64) (tracker : SessionTracker) : Prop :=
  ∀ deviceId, (tracker.listed deviceId).Nodup ∧ ∀ session, session ∈ tracker.listed deviceId ↔
      ∃ grant, tracker.get hash session = some grant ∧ grant.deviceId = deviceId

/-- The tally of a walk that has returned: each grant that it has cloned is in one bucket. -/
def Walk.Reconciles (walk : Walk) : Prop := walk.examined.map Prod.fst = walk.cloned ∧
    (∀ bucket, walk.stats.inBucket bucket = (walk.examined.map Prod.snd).count bucket) ∧
    walk.stats.examined = walk.cloned.length

theorem ReevalCall.Tallied.reconciles {walk : Walk} (tallied : (swept walk).Tallied) :
    walk.Reconciles := by
  have account := tallied.2.account
  rw [append_nil] at account
  refine ⟨account.symm, tallied.2.tallies, ?_⟩
  rw [tallied.2.tallies.examined, account, length_map, length_map]

/-- **Re-evaluation revokes only what it judged.** In every run the index of the tracker lists
exactly the grants that are present, each walk under way accounts for all that it has cloned,
and one that has returned has counted each in one bucket. And a grant goes only when the
producer removes it or when that very recording of it was evaluated to deny, provided that no
session is recorded anew with the time of a grant of it that a walk has cloned and not yet
acted on. -/
theorem revokes_only_judged : (reevaluated hash requested moves).store.tracker.IndexExact hash ∧
    (∀ call ∈ (reevaluated hash requested moves).calls, call.Tallied) ∧
    (∀ walk, .swept walk ∈ (reevaluated hash requested moves).calls → walk.Reconciles) ∧
    (AlongRun (reevalService hash).step (AtMove Restamped)
        (idle (.new requested)) moves →
      AlongRun (reevalService hash).step (AtMove (RevokesJudged hash))
        (idle (.new requested)) moves) := by
  have sound := reevaluated_sound hash requested moves
  refine ⟨?_, sound.calls, ?_, along_revokesJudged⟩
  · exact fun deviceId => ⟨sound.store.nodup_listed deviceId, fun _ => sound.store.mem_listed⟩
  · exact fun walk returned => (sound.calls _ returned).reconciles

end Runs

/-! ## A session recorded anew -/

section Reauthentication

def sampleGrant (network : NetworkType) (grantedAtMs : UInt64) : AccessGrant :=
  .new "s1" "t1" ⟨"wiki", "dev-1", "alice", grantedAtMs, none, none, some network⟩ grantedAtMs

def corporateOnly : ReevalInput where
  order := fun _ => 0
  evaluate := fun request =>
    if request.networkType = some .corporate then .ok ⟨true, .allow, .pass⟩
    else .ok ⟨false, .networkTypeBlocked, .notEvaluated⟩
  channelFull := false

/-- A session is recorded, a sweep clones and denies it, and before the sweep acts the session
is recorded anew from the corporate network. -/
def reauthenticated (grantedAtMs : UInt64) : List (Move ReevalRequest ReevalInput) :=
  [.request (.record (sampleGrant .publicNetwork 1000)), .resume 0 corporateOnly,
    .request (.sweep 1000), .resume 1 corporateOnly, .resume 1 corporateOnly,
    .request (.record (sampleGrant .corporate grantedAtMs)), .resume 2 corporateOnly,
    .resume 1 corporateOnly]

/-- The sweep is about to act on its verdict, and the session has been recorded anew in the
same millisecond. -/
def sameMillisecond : Shared Sessions ReevalCall :=
  reevaluated (fun _ => 0) 1 ((reauthenticated 1000).take 7)

/-- **A session recorded anew is revoked on the verdict over the old grant**, when it is
recorded within the same millisecond. The evaluator would allow the new grant, and nothing has
asked it. -/
theorem rerecorded_session_revoked :
    verdict (corporateOnly.evaluate ((sampleGrant .corporate 1000).reevalRequest 1000)) = none ∧
      ¬ AlongRun (reevalService fun _ => 0).step
        (AtMove (RevokesJudged fun _ => 0)) (idle (.new 1))
        (reauthenticated 1000) := by
  refine ⟨by decide, ?_⟩
  intro along
  have last := alongRun_iff_forall.mp along ((reauthenticated 1000).take 7) _ [] rfl
  have present : sameMillisecond.store.tracker.get (fun _ => 0) "s1" =
      some (sampleGrant .corporate 1000) := by decide +kernel
  have unjudged : ∀ evaluation ∈ sameMillisecond.store.evaluations,
      evaluation.clone.recording ≠ sameMillisecond.store.recordings "s1" := by decide +kernel
  have gone : ∀ call ∈ sameMillisecond.calls[1]?, call.holds ≠ [] ∧
      (advance (fun _ => 0) corporateOnly sameMillisecond.store call).1.tracker.get
        (fun _ => 0) "s1" = none := by decide +kernel
  obtain ⟨call, isThere⟩ : ∃ call, sameMillisecond.calls[1]? = some call :=
    isSome_iff_exists.mp (by decide +kernel)
  obtain ⟨holding, removed⟩ := gone call isThere
  rcases last call isThere "s1" _ present removed with rfl | ⟨evaluation, listed, recording, -⟩
  · exact holding rfl
  · exact unjudged evaluation listed recording

/-- With another time, the session that was recorded anew stays. -/
theorem restamped_session_kept : AlongRun (reevalService fun _ => 0).step
      (AtMove (RevokesJudged fun _ => 0)) (idle (.new 1))
      (reauthenticated 1001) ∧
    (reevaluated (fun _ => 0) 1 (reauthenticated 1001)).store.tracker.get (fun _ => 0) "s1" =
      some (sampleGrant .corporate 1001) :=
  ⟨revokes_only_judged.2.2.2 (by decide +kernel), by decide +kernel⟩

end Reauthentication
end ShieldNet.Ztna
