import Mathlib.Data.List.Induction

/-!
# Violations of a service level

`SlaMonitor::tick_with_throughput` and `record_evaluation` of `crates/sng-sdwan/src/sla.rs`, over
any sequence of ticks. What `SlaPolicy::evaluate` makes of an observation is up to the policy;
telemetry is left out.

Breaches in a row are counted by path, and the count starts over with each violation. A path that is
watched once is reported once in a run of breaches that is shorter than two thresholds
(`violation_once`), and again at the next multiple; the watches of one path add up.
-/

namespace ShieldNet.Sdwan

open List

inductive SlaClass where
  | businessCritical
  | realTime
  | bestEffort

inductive SlaMetric where
  | latency
  | loss
  | jitter
  | throughput
  deriving DecidableEq

structure SlaPolicy (α : Type) where
  evaluate : α → List SlaMetric
  consecutiveBreaches : UInt32

structure SlaWatch where
  pathId : String
  slaClass : SlaClass

structure SlaViolation where
  pathId : String
  slaClass : SlaClass
  breached : List SlaMetric
  consecutive : UInt32
  observedAtMs : UInt64

structure SlaMonitor (α : Type) where
  policies : SlaClass → Option (SlaPolicy α)
  watches : List SlaWatch

/-- A tick: its time, and the probes there are with the throughput of their paths. -/
structure Tick (α : Type) where
  nowMs : UInt64
  probes : String → Option α

/-- The breaches in a row of each path; a path without an entry has none. -/
abbrev Counters := String → Nat

variable {α : Type}

def recordEvaluation (watch : SlaWatch) (policy : SlaPolicy α) (breaches : List SlaMetric)
    (nowMs : UInt64) (counters : Counters) : Option SlaViolation × Counters :=
  if breaches = [] then (none, Function.update counters watch.pathId 0)
  else
    let count := min (counters watch.pathId + 1) 0xFFFFFFFF
    if policy.consecutiveBreaches.toNat ≤ count then
      (some ⟨watch.pathId, watch.slaClass, breaches, policy.consecutiveBreaches, nowMs⟩,
        Function.update counters watch.pathId 0)
    else (none, Function.update counters watch.pathId count)

namespace SlaMonitor

variable (monitor : SlaMonitor α) (tick : Tick α) (watch : SlaWatch)

/-- The policy of a watch and what it finds breached, if there is a probe. -/
def evaluation : Option (SlaPolicy α × List SlaMetric) :=
  (monitor.policies watch.slaClass).bind fun policy =>
    (tick.probes watch.pathId).map fun probe => (policy, policy.evaluate probe)

def evaluateWatch (state : List SlaViolation × Counters) : List SlaViolation × Counters :=
  match monitor.evaluation tick watch with
  | none => state
  | some (policy, breaches) =>
    let recorded := recordEvaluation watch policy breaches tick.nowMs state.2
    (state.1 ++ recorded.1.toList, recorded.2)

def tickWithThroughput (counters : Counters) : List SlaViolation × Counters :=
  monitor.watches.foldl (fun state watch => monitor.evaluateWatch tick watch state) ([], counters)

def after (ticks : List (Tick α)) : Counters :=
  ticks.foldl (fun counters tick => (monitor.tickWithThroughput tick counters).2) fun _ => 0

/-- The breaching evaluations of a watch in a row, after one more tick. -/
def counted (count : Nat) : Nat :=
  match monitor.evaluation tick watch with
  | none => count
  | some (_, breaches) => if breaches = [] then 0 else count + 1

def streak (ticks : List (Tick α)) : Nat :=
  ticks.foldl (fun count tick => monitor.counted tick watch count) 0

def Breaches : Prop :=
  ∃ policy metric rest, monitor.evaluation tick watch = some (policy, metric :: rest)

def reports (path : String) (emitted : List SlaViolation) : Bool :=
  emitted.any fun violation => violation.pathId = path

variable {watch} {path : String}

theorem evaluateWatch_other (apart : watch.pathId ≠ path) (state : List SlaViolation × Counters) :
    (monitor.evaluateWatch tick watch state).2 path = state.2 path ∧
      reports path (monitor.evaluateWatch tick watch state).1 = reports path state.1 := by
  simp only [evaluateWatch, recordEvaluation]
  (repeat' split) <;> simp [reports, Function.update_of_ne apart.symm, apart]

theorem foldl_other {others : List SlaWatch} (apart : ∀ other ∈ others, other.pathId ≠ path)
    (state : List SlaViolation × Counters) :
    let after := others.foldl (fun state watch => monitor.evaluateWatch tick watch state) state
    after.2 path = state.2 path ∧ reports path after.1 = reports path state.1 := by
  induction others generalizing state with
  | nil => exact ⟨rfl, rfl⟩
  | cons other rest ih =>
    rw [forall_mem_cons] at apart
    obtain ⟨count, emitted⟩ := monitor.evaluateWatch_other tick apart.1 state
    rw [← count, ← emitted]
    exact ih apart.2 _

theorem succ_mod {count threshold : Nat} (positive : 0 < threshold) : (count + 1) % threshold =
    if threshold ≤ count % threshold + 1 then 0 else count % threshold + 1 := by
  have below := Nat.mod_lt count positive
  rw [← Nat.mod_add_mod]
  split
  case isTrue full => rw [show count % threshold + 1 = threshold by omega, Nat.mod_self]
  case isFalse room => exact Nat.mod_eq_of_lt (by omega)

/-- The path of a watch is counted up to a threshold, and reported when the count gets there. -/
def Counts (watch : SlaWatch) (threshold count : Nat)
    (result : List SlaViolation × Counters) : Prop :=
  result.2 watch.pathId = monitor.counted tick watch count % threshold ∧
    (reports watch.pathId result.1 = true ↔
      monitor.Breaches tick watch ∧ monitor.counted tick watch count % threshold = 0)

section Alone

variable {monitor tick} {policy : SlaPolicy α} {count : Nat}
  (assigned : monitor.policies watch.slaClass = some policy)
  (positive : 0 < policy.consecutiveBreaches.toNat)

include assigned positive

theorem counts_own {state : List SlaViolation × Counters}
    (known : state.2 watch.pathId = count % policy.consecutiveBreaches.toNat)
    (silent : reports watch.pathId state.1 = false) :
    monitor.Counts tick watch policy.consecutiveBreaches.toNat count
      (monitor.evaluateWatch tick watch state) := by
  rw [Counts, evaluateWatch, Breaches, counted, evaluation, assigned, Option.bind_some]
  cases tick.probes watch.pathId with
  | none => simp [known, silent]
  | some probe =>
    rw [Option.map_some]
    cases policy.evaluate probe with
    | nil => simpa [recordEvaluation, reports] using silent
    | cons metric rest =>
      have below := Nat.mod_lt count positive
      have small := policy.consecutiveBreaches.toNat_lt
      have fits : min (state.2 watch.pathId + 1) 0xFFFFFFFF =
          count % policy.consecutiveBreaches.toNat + 1 := by
        omega
      simp only [recordEvaluation, reduceCtorEq, if_false, fits, succ_mod positive]
      split
      case isTrue => simp [reports]
      case isFalse => simpa [reports] using silent

variable {before later : List SlaWatch}
  (watched : monitor.watches = before ++ watch :: later)
  (alone : ∀ other ∈ before ++ later, other.pathId ≠ watch.pathId)

include watched alone

theorem counts_tick {counters : Counters}
    (known : counters watch.pathId = count % policy.consecutiveBreaches.toNat) :
    monitor.Counts tick watch policy.consecutiveBreaches.toNat count
      (monitor.tickWithThroughput tick counters) := by
  obtain ⟨apartBefore, apartLater⟩ := forall_mem_append.mp alone
  obtain ⟨held, silent⟩ := monitor.foldl_other tick apartBefore ([], counters)
  rw [Counts, tickWithThroughput, watched, foldl_append, foldl_cons]
  obtain ⟨last, emitted⟩ := monitor.foldl_other tick apartLater _
  rw [last, emitted]
  exact counts_own assigned positive (held.trans known) silent

/-- **One violation for a run of breaches** of a path that is watched once, in a run shorter than
two thresholds. -/
theorem violation_once (ticks : List (Tick α)) (tick : Tick α)
    (short : monitor.streak watch (ticks ++ [tick]) < 2 * policy.consecutiveBreaches.toNat) :
    reports watch.pathId (monitor.tickWithThroughput tick (monitor.after ticks)).1 = true ↔
      monitor.Breaches tick watch ∧
        monitor.streak watch (ticks ++ [tick]) = policy.consecutiveBreaches.toNat := by
  have known : monitor.after ticks watch.pathId =
      monitor.streak watch ticks % policy.consecutiveBreaches.toNat := by
    clear short
    induction ticks using reverseRecOn with
    | nil => exact (Nat.zero_mod _).symm
    | append_singleton early last ih =>
      rw [after, streak, foldl_append, foldl_append]
      exact (counts_tick assigned positive watched alone ih).1
  have next : monitor.counted tick watch (monitor.streak watch ticks) =
      monitor.streak watch (ticks ++ [tick]) := by
    rw [streak, streak, foldl_append]
    rfl
  rw [(counts_tick assigned positive watched alone known).2, next]
  refine and_congr_right fun ⟨_, _, _, breaches⟩ => ⟨fun multiple => ?_, fun same => ?_⟩
  · refine Nat.eq_of_dvd_of_lt_two_mul ?_ (Nat.dvd_of_mod_eq_zero multiple) short
    rw [← next, counted, breaches]
    exact Nat.succ_ne_zero _
  · rw [same, Nat.mod_self]

end Alone

/-- A monitor of a path by these classes, with a threshold of two. -/
def watching (classes : List SlaClass) : SlaMonitor Unit :=
  ⟨fun _ => some ⟨fun _ => [.latency], 2⟩, classes.map (⟨"wan1", ·⟩)⟩

def badTick : Tick Unit := ⟨0, fun _ => some ()⟩

theorem second_breach_reported : reports "wan1" ((watching [.realTime]).tickWithThroughput badTick
    ((watching [.realTime]).after [badTick])).1 = true :=
  (@violation_once Unit (watching [.realTime]) ⟨"wan1", .realTime⟩ ⟨fun _ => [.latency], 2⟩ rfl
    (by decide) [] [] rfl nofun [badTick] badTick (by decide)).mpr ⟨⟨_, _, _, rfl⟩, rfl⟩

/-- **A violation comes again, and too early**: at the fourth breach of one run, and at the first
where two classes watch the path. -/
theorem violation_repeated : reports "wan1" ((watching [.realTime]).tickWithThroughput badTick
      ((watching [.realTime]).after [badTick, badTick, badTick])).1 = true ∧
    reports "wan1" ((watching [.realTime, .bestEffort]).tickWithThroughput badTick
      fun _ => 0).1 = true := by
  decide

end SlaMonitor

end ShieldNet.Sdwan
