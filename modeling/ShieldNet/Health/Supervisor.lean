import ShieldNet.Lib.Runs

/-!
# Restarts with the last good configuration

The supervisors of Envoy (`crates/sng-swg/src/envoy_supervisor.rs`) and of
Suricata (`crates/sng-ips/src/health.rs`) watch a process and restart it with
the last configuration it was healthy under. They differ in how they judge an
observation, which is the parameter of the machine below.

On a healthy observation a supervisor records its active configuration as the
good one. That is what the process runs only if nothing has come between: a
restart that rolled back runs the good configuration and leaves the active one
as it was, so that the next healthy observation records a configuration that
has only failed (`recovery_records_failing_config`). While every healthy
observation is made of the active configuration, the recorded one is good, and
it is what a restart starts (`last_known_good_proved`).
-/

namespace ShieldNet.Health

inductive HealthState where
  | healthy
  | degraded
  | failed
  deriving DecidableEq

/-- How a supervisor judges its observations: its state, what it makes of an
observation of a process that is alive or not, and what a recovery resets. -/
structure Monitor where
  State : Type
  Observation : Type
  start : State
  observe : State → Bool → Observation → HealthState × State
  recovered : State → State

abbrev ConfigPath := String

inductive Phase where
  | watching
  | backingOff
  | starting (path : ConfigPath)
  | exhausted
  deriving DecidableEq

/-- A supervisor and its process: what the process runs, if it is alive, and
what it has been seen healthy under. -/
structure Supervisor (monitor : Monitor) where
  active : ConfigPath
  lastKnownGood : Option ConfigPath
  judge : monitor.State
  attempts : Nat
  phase : Phase
  running : Option ConfigPath
  seenHealthy : List ConfigPath

open Supervisor

inductive StartResult where
  | alive
  | notAlive
  | error (previousRuns : Bool)

inductive Event (monitor : Monitor) where
  | setActiveConfig (path : ConfigPath)
  | launched (path : ConfigPath)
  | exited
  | observe (observation : monitor.Observation)
  | attempt
  | outcome (result : StartResult)

namespace Supervisor

variable {monitor : Monitor} (maxAttempts : Option Nat)

def new (monitor : Monitor) (active : ConfigPath) : Supervisor monitor :=
  ⟨active, none, monitor.start, 0, .watching, none, []⟩

variable (supervisor : Supervisor monitor) (observation : monitor.Observation)

def judgement : HealthState × monitor.State :=
  monitor.observe supervisor.judge supervisor.running.isSome observation

def observe : Supervisor monitor :=
  let judged := { supervisor with judge := (supervisor.judgement observation).2 }
  match (supervisor.judgement observation).1 with
  | .healthy =>
    { judged with
      lastKnownGood := some supervisor.active
      attempts := 0
      seenHealthy := supervisor.running.toList ++ supervisor.seenHealthy }
  | .degraded => judged
  | .failed => { judged with phase := .backingOff }

def restartPath : ConfigPath := supervisor.lastKnownGood.getD supervisor.active

def failedOrExhausted (attempts : Nat) : Phase :=
  if maxAttempts.any (· ≤ attempts) then .exhausted else .watching

/-- The process once it was started, and what `run` makes of the outcome. -/
def settle (path : ConfigPath) (result : StartResult) : Supervisor monitor :=
  match result with
  | .alive =>
    { supervisor with
      running := some path, attempts := 0, phase := .watching
      judge := monitor.recovered supervisor.judge }
  | .notAlive =>
    { supervisor with
      running := none, phase := failedOrExhausted maxAttempts supervisor.attempts }
  | .error previousRuns =>
    { supervisor with
      running := if previousRuns then supervisor.running else none
      phase := failedOrExhausted maxAttempts supervisor.attempts }

/-- One event. The manager launches the process and sets the active
configuration, at any time; the loop waits out its backoff between a failed
observation and the attempt, and for the outcome of the attempt. -/
def step : Event monitor → Supervisor monitor
  | .setActiveConfig path => { supervisor with active := path }
  | .launched path => { supervisor with running := some path }
  | .exited => { supervisor with running := none }
  | .observe observation =>
    if supervisor.phase = .watching then supervisor.observe observation else supervisor
  | .attempt =>
    if supervisor.phase = .backingOff then
      { supervisor with
        attempts := supervisor.attempts + 1, phase := .starting supervisor.restartPath }
    else supervisor
  | .outcome result =>
    match supervisor.phase with
    | .starting path => supervisor.settle maxAttempts path result
    | _ => supervisor

/-- A healthy observation is one of the active configuration. -/
def ObservesActive : Event monitor → Prop
  | .observe observation => supervisor.phase = .watching →
      (supervisor.judgement observation).1 = .healthy → supervisor.running = some supervisor.active
  | _ => True

/-- The good configuration was seen healthy, there is one once a configuration
was, and a restart under way starts it. -/
structure Proved (supervisor : Supervisor monitor) : Prop where
  good : ∀ path ∈ supervisor.lastKnownGood, path ∈ supervisor.seenHealthy
  known : supervisor.lastKnownGood = none → supervisor.seenHealthy = []
  starts : ∀ path, supervisor.phase = .starting path →
    supervisor.seenHealthy = [] ∨ path ∈ supervisor.seenHealthy

theorem Proved.restartPath {supervisor : Supervisor monitor} (proved : supervisor.Proved) :
    supervisor.seenHealthy = [] ∨ supervisor.restartPath ∈ supervisor.seenHealthy := by
  cases recorded : supervisor.lastKnownGood with
  | none => exact .inl (proved.known recorded)
  | some path =>
    rw [Supervisor.restartPath, recorded]
    exact .inr (proved.good path recorded)

theorem failedOrExhausted_ne_starting (attempts : Nat) (path : ConfigPath) :
    failedOrExhausted maxAttempts attempts ≠ .starting path := by
  unfold failedOrExhausted
  split <;> simp

theorem Proved.observe {supervisor : Supervisor monitor} (proved : supervisor.Proved)
    {observation : monitor.Observation}
    (faithful : (supervisor.judgement observation).1 = .healthy →
      supervisor.running = some supervisor.active)
    (watching : supervisor.phase = .watching) : (supervisor.observe observation).Proved := by
  unfold Supervisor.observe
  cases judged : (supervisor.judgement observation).1 with
  | healthy =>
    refine ⟨fun path recorded => ?_, fun none => (by cases none), fun path starting => ?_⟩
    · cases recorded
      rw [faithful judged]
      exact List.mem_cons_self
    · rw [watching] at starting
      cases starting
  | degraded => exact ⟨proved.good, proved.known, proved.starts⟩
  | failed => exact ⟨proved.good, proved.known, fun _ starting => by cases starting⟩

/-- Each event keeps the good configuration good. -/
theorem Proved.step {supervisor : Supervisor monitor} (proved : supervisor.Proved)
    {event : Event monitor} (faithful : supervisor.ObservesActive event) :
    (supervisor.step maxAttempts event).Proved := by
  cases event with
  | observe observation =>
    simp only [Supervisor.step]
    split
    case isTrue watching => exact proved.observe (faithful watching) watching
    case isFalse => exact proved
  | attempt =>
    simp only [Supervisor.step]
    split
    case isTrue =>
      refine ⟨proved.good, proved.known, fun path starting => ?_⟩
      cases starting
      exact proved.restartPath
    case isFalse => exact proved
  | outcome result =>
    simp only [Supervisor.step]
    split
    case h_1 path _ =>
      have settled := failedOrExhausted_ne_starting maxAttempts supervisor.attempts
      cases result with
      | alive => exact ⟨proved.good, proved.known, fun _ starting => by cases starting⟩
      | _ =>
        exact ⟨proved.good, proved.known, fun path starting => absurd starting (settled path)⟩
    case h_2 => exact proved
  | _ => exact ⟨proved.good, proved.known, proved.starts⟩

end Supervisor

/-! ## The two supervisors -/

/-- Envoy's: the observations are whether the admin port answers, and failing
ones are counted (`failed_consecutive_required`). -/
def envoy (failedConsecutiveRequired : Nat) : Monitor where
  State := Nat
  Observation := Bool
  start := 0
  observe unhealthy alive ready :=
    if alive && ready then (.healthy, 0)
    else if unhealthy + 1 < failedConsecutiveRequired then (.degraded, unhealthy + 1)
    else (.failed, unhealthy + 1)
  recovered _ := 0

structure HealthMonitor where
  state : HealthState
  consecutiveDead : Nat

/-- Suricata's: the observations are whether the stats socket answers and, if it
does, what the drop ratio since the last answer comes to against the
thresholds. -/
def suricata (failedConsecutiveRequired : Nat) : Monitor where
  State := HealthMonitor
  Observation := Option HealthState
  start := ⟨.healthy, 0⟩
  observe monitor alive stats :=
    match alive, stats with
    | true, some quality => (quality, ⟨quality, 0⟩)
    | _, _ =>
      let dead := monitor.consecutiveDead + 1
      let next := if failedConsecutiveRequired ≤ dead ∨ monitor.state = .failed then
        HealthState.failed else .degraded
      (next, ⟨next, dead⟩)
  recovered monitor := monitor

/-- **What a supervisor takes for good was seen healthy**, and once something
was, a restart starts what was: over every interleaving in which healthy
observations are of the active configuration. -/
theorem last_known_good_proved (monitor : Monitor) (maxAttempts : Option Nat) (active : ConfigPath)
    (events : List (Event monitor))
    (faithful : AlongRun (step maxAttempts) ObservesActive
      (.new monitor active) events) :
    let supervisor := events.foldl (step maxAttempts) (.new monitor active)
    (∀ path ∈ supervisor.lastKnownGood, path ∈ supervisor.seenHealthy) ∧
    ∀ path, supervisor.phase = .starting path →
      supervisor.seenHealthy = [] ∨ path ∈ supervisor.seenHealthy := by
  have proved := faithful.invariant Proved (fun _ _ proved kept => proved.step maxAttempts kept)
    ⟨nofun, fun _ => rfl, nofun⟩
  exact ⟨proved.good, proved.starts⟩

variable {monitor : Monitor} (good bad : monitor.Observation)

def crash : List (Event monitor) :=
  [.launched "a.yaml", .observe good, .exited, .observe bad, .attempt]

/-- Both supervisors start it again, as they have seen it healthy. -/
theorem healthy_config_restarted : ((crash true false : List (Event (envoy 1))).foldl (step none)
      (.new _ "a.yaml")).phase = .starting "a.yaml" ∧
    (∀ path ∈ ((crash true false : List (Event (envoy 1))).foldl (step none)
      (.new _ "a.yaml")).lastKnownGood, path ∈ ["a.yaml"]) ∧
    ∀ path ∈ ((crash (some .healthy) none : List (Event (suricata 1))).foldl
      (step none) (.new _ "a.yaml")).lastKnownGood, path ∈ ["a.yaml"] :=
  ⟨by decide, (last_known_good_proved (envoy 1) none "a.yaml" (crash true false)
      ⟨trivial, fun _ _ => rfl, trivial, fun _ judged => (by cases judged), trivial, trivial⟩).1,
    (last_known_good_proved (suricata 1) none "a.yaml" (crash (some .healthy) none)
      ⟨trivial, fun _ _ => rfl, trivial, fun _ judged => (by cases judged), trivial, trivial⟩).1⟩

/-- `a.yaml` is healthy, `b.yaml` is applied and fails three times, the restart
rolls back to `a.yaml` and recovers, and the process fails again. -/
def rollback : List (Event monitor) :=
  [.launched "a.yaml", .observe good, .launched "b.yaml", .setActiveConfig "b.yaml", .observe bad,
    .observe bad, .observe bad, .attempt, .outcome .alive, .observe good, .observe bad,
    .observe bad, .observe bad, .attempt]

/-- The supervisor takes for good, and starts, what it has only seen failing. -/
def StartsFailing (supervisor : Supervisor monitor) : Prop :=
  supervisor.lastKnownGood = some "b.yaml" ∧ supervisor.phase = .starting "b.yaml" ∧
    supervisor.seenHealthy = ["a.yaml", "a.yaml"]

/-- **A recovery records the configuration that failed**: with both supervisors
the next restart starts `b.yaml`. -/
theorem recovery_records_failing_config :
    StartsFailing ((rollback true false : List (Event (envoy 3))).foldl (step none)
      (.new _ "a.yaml")) ∧
    StartsFailing ((rollback (some .healthy) none : List (Event (suricata 3))).foldl
      (step none) (.new _ "a.yaml")) := by
  unfold StartsFailing
  decide

end ShieldNet.Health
