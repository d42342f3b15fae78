import Mathlib.Algebra.Group.Int.Defs
import ShieldNet.Lib.Interleaving

/-!
# Staged enablement of a capability

A capability of a tenant is off, monitored or enforced. Operators move it with `Transition`, a
flush of its metrics may roll it back with `EvaluateAutoRollback`, and the autopilot enrols it
and promotes it in its sweeps. All of them read the row of the tenant and the capability, decide,
and then write it.

The row is the only one modelled. A call is at one of the places where it waits for the
repository, for the metrics source or for its turn to read the clock, so that a run can
interleave the calls at each of them.
-/

namespace ShieldNet.Capability

/-! ## The state machine -/

inductive State where
  | off
  | monitor
  | enforce
  | other (text : String)
  deriving DecidableEq

def State.valid : State → Bool
  | .off | .monitor | .enforce => true
  | .other _ => false

def State.rank : State → Int
  | .off => 0
  | .monitor => 1
  | .enforce => 2
  | .other _ => -1

theorem State.of_valid {state : State} (valid : state.valid) :
    (state = .off ∨ state = .monitor) ∨ state = .enforce := by
  cases state with
  | off => exact .inl (.inl rfl)
  | monitor => exact .inl (.inr rfl)
  | enforce => exact .inr rfl
  | other => cases valid

inductive Error where
  | invalidState
  | noOpTransition
  | skipNotAllowed
  | noActor
  /-- The repository refuses the record. -/
  | invalidArgument
  /-- The repository or the metrics source could not answer. -/
  | unavailable
  deriving DecidableEq

def Error.text : Error → String
  | .invalidState => "repository: invalid argument: invalid rollout state"
  | .noOpTransition => "repository: invalid argument: target state equals current state"
  | .skipNotAllowed => "repository: invalid argument: advancing off->enforce skips the required "
      ++ "monitor phase; pass allow_skip to override"
  | .noActor => "rollout: repository: invalid argument: a transition requires an actor"
  | .invalidArgument => "repository: invalid argument"
  | .unavailable => ""

def validateTransition (fromState toState : State) (allowSkip : Bool) : Except Error Unit :=
  if !fromState.valid || !toState.valid then .error .invalidState
  else if fromState = toState then .error .noOpTransition
  else if toState.rank < fromState.rank then .ok ()
  else if toState.rank - fromState.rank = 1 then .ok ()
  else if allowSkip then .ok ()
  else .error .skipNotAllowed

/-- Every change to off or to monitor is a rollback or a single step. -/
theorem validateTransition_of_ne {before after : State} (valid : before.valid)
    (low : after = .off ∨ after = .monitor) (differ : before ≠ after) :
    validateTransition before after false = .ok () := by
  rcases low with rfl | rfl <;> cases before <;>
    first | rfl | exact absurd rfl differ | cases valid

/-- Without the override only a monitored capability is enforced. -/
theorem eq_monitor_of_validateTransition {before : State}
    (legal : validateTransition before .enforce false = .ok ()) : before = .monitor := by
  cases before <;> first | rfl | cases legal

/-! ## Metrics -/

/-- What the Go runtime computes with `float64` rates, and how it prints them and durations. -/
structure Runtime (Rate : Type) where
  zero : Rate
  /-- `float64(a) / float64(b)` -/
  ratio : Int → Int → Rate
  lt : Rate → Rate → Bool
  le : Rate → Rate → Bool
  /-- `%.nf` -/
  fixed : Nat → Rate → String
  /-- `Duration.String` -/
  duration : Int → String

structure Threshold (Rate : Type) where
  maxErrorRate : Rate
  maxDenyRate : Rate
  minSamples : Int

structure MonitorMetrics where
  samples : Int
  errors : Int
  denies : Int
  deriving DecidableEq

variable {Rate : Type} (runtime : Runtime Rate)

namespace MonitorMetrics

variable (m : MonitorMetrics)

def errorRate : Rate := if m.samples ≤ 0 then runtime.zero else runtime.ratio m.errors m.samples

def denyRate : Rate := if m.samples ≤ 0 then runtime.zero else runtime.ratio m.denies m.samples

/-- The reason that `Breach` words for the rate it found too high. -/
def exceeded (m : MonitorMetrics) (name : String) (rate limit : Rate) : String :=
  name ++ " " ++ runtime.fixed 3 rate ++ " exceeded threshold " ++ runtime.fixed 3 limit ++
    " over " ++ toString m.samples ++ " samples"

def breach (t : Threshold Rate) : Option String :=
  if runtime.le t.maxErrorRate runtime.zero && runtime.le t.maxDenyRate runtime.zero then none
  else if m.samples < max t.minSamples 1 then none
  else if runtime.lt runtime.zero t.maxErrorRate &&
      runtime.lt t.maxErrorRate (m.errorRate runtime) then
    some (m.exceeded runtime "error_rate" (m.errorRate runtime) t.maxErrorRate)
  else if runtime.lt runtime.zero t.maxDenyRate &&
      runtime.lt t.maxDenyRate (m.denyRate runtime) then
    some (m.exceeded runtime "deny_rate" (m.denyRate runtime) t.maxDenyRate)
  else none

end MonitorMetrics

/-! ## The repository -/

/-- `Record`, of the one tenant and capability. Times are nanoseconds since the zero time. -/
structure Record where
  state : State
  reason : String
  updatedBy : String
  createdAt : Int
  updatedAt : Int
  deriving DecidableEq

def defaultRecord : Record := ⟨.off, "", "", 0, 0⟩

/-- The row and the clock that dates it, with the moment the stored state last changed to
monitor. The table checks the state, and a monitored row was written in its monitor period. -/
structure Rows where
  clock : Int
  row : Option Record
  monitorSince : Int
  begun : monitorSince ≤ clock
  valid : ∀ rec ∈ row, rec.state.valid = true
  dated : ∀ rec ∈ row, rec.state = .monitor → monitorSince ≤ rec.updatedAt

namespace Rows

variable (rows : Rows)

def tick (elapsed : ℕ) : Rows := { rows with
    clock := rows.clock + elapsed
    begun := Int.le_trans rows.begun (Int.le_add_of_nonneg_right (Int.natCast_nonneg elapsed)) }

/-- `Service.Get`, where a missing row reads as the default record. -/
def get : Record := rows.row.getD defaultRecord

def state : State := rows.get.state

def stored (rec : Record) : Record := { rec with
    createdAt := (rows.row.map Record.createdAt).getD rows.clock
    updatedAt := rows.clock }

def put (rec : Record) (valid : rec.state.valid = true) : Rows where
  clock := rows.clock
  row := some (rows.stored rec)
  monitorSince :=
    if rec.state = .monitor ∧ rows.state ≠ .monitor then rows.clock else rows.monitorSince
  begun := by
    split
    · exact Int.le_refl _
    · exact rows.begun
  valid := by
    rintro _ ⟨⟩
    exact valid
  dated := by
    rintro _ ⟨⟩ -
    split
    · exact Int.le_refl _
    · exact rows.begun

def upsert (rec : Record) : Except Error (Rows × Record) :=
  if valid : rec.state.valid = true then .ok (rows.put rec valid, rows.stored rec)
  else .error .invalidArgument

theorem valid_state : rows.state.valid := by
  rw [state, get]
  cases found : rows.row with
  | none => rfl
  | some rec => exact rows.valid rec found

theorem monitorSince_le (monitored : rows.state = .monitor) :
    rows.monitorSince ≤ rows.get.updatedAt := by
  rw [state, get] at monitored
  rw [get]
  cases found : rows.row with
  | none =>
    rw [found] at monitored
    cases monitored
  | some rec =>
    rw [found] at monitored
    exact rows.dated rec found monitored

end Rows

/-! ## Calls -/

structure TransitionInput where
  target : State
  allowSkip : Bool
  reason : String
  actor : String
  deriving DecidableEq

/-- `AutopilotPolicy`, for the one tenant and capability. -/
structure AutopilotPolicy (Rate : Type) where
  /-- Whether `Exclusions` leave the tenant and the capability alone. -/
  excludes : Bool
  autoEnrol : Bool
  dwellWindow : Int
  minSamples : Int
  promotionGuardrail : Threshold Rate

/-- What the requests share: the threshold of the service and the policy of the autopilot. -/
structure Rollout (Rate : Type) where
  runtime : Runtime Rate
  threshold : Threshold Rate
  policy : AutopilotPolicy Rate

inductive Request where
  | transition (input : TransitionInput)
  | evaluateAutoRollback (metrics : MonitorMetrics)
  /-- The turn of the tenant and the capability in a sweep. -/
  | reconcile

/-- What the repository, the metrics source and the clock do at a step. -/
structure Input where
  elapsed : ℕ
  reply : Answer
  /-- The snapshot and when it was recorded, unless the source fails. -/
  metrics : Option (MonitorMetrics × Int)

inductive Observation where
  | enrolled
  | promoted
  | demoted
  | blockDwell
  | blockSamples
  | blockGuardrail
  | blockStaleMetrics
  deriving DecidableEq

inductive Result where
  | transitioned (result : Except Error Record)
  | evaluated (result : Except Error (Record × Bool))
  | reconciled (error : Option Error) (observed : Option Observation)
  deriving DecidableEq

/-- Who called `Transition`; the autopilot with the record its turn began with. -/
inductive Caller where
  | operator
  | enrol (cur : Record)
  | promote (cur : Record)
  deriving DecidableEq

/-- Who called `EvaluateAutoRollback`; the autopilot with the record its turn began with. -/
inductive Evaluator where
  | flush
  | sweep (cur : Record)
  deriving DecidableEq

inductive Call where
  /-- `Transition`, at its `Get`. -/
  | transition (caller : Caller) (input : TransitionInput)
  /-- `persist`, for the transition of a record that was read. -/
  | persist (caller : Caller) (current : Record) (input : TransitionInput)
  /-- `EvaluateAutoRollback`, at its `Get`. -/
  | evaluate (evaluator : Evaluator) (metrics : MonitorMetrics)
  /-- `persist`, for a rollback. -/
  | rollBack (evaluator : Evaluator) (metrics : MonitorMetrics) (reason : String)
  /-- `reconcile`, at its `Get`. -/
  | reconcile
  /-- `maybePromote`, at the metrics source. -/
  | maybePromote (cur : Record)
  /-- `maybePromote`, where it reads the clock. -/
  | decide (cur : Record) (metrics : MonitorMetrics) (fresh : Bool)
  | returned (result : Result)
  deriving DecidableEq

namespace Call

/-- What follows when the autopilot's `Transition` has returned. -/
def observe (observation : Observation) (result : Except Error Record) : Result :=
  match result with
  | .ok _ => .reconciled none (some observation)
  | .error error => .reconciled (some error) none

def transitioned (result : Except Error Record) : Caller → Call
  | .operator => .returned (.transitioned result)
  | .enrol _ => .returned (observe .enrolled result)
  | .promote _ => .returned (observe .promoted result)

def ofTransition (caller : Caller) (input : TransitionInput) : Call :=
  if !input.target.valid then transitioned (.error .invalidState) caller
  else if input.actor = "" then transitioned (.error .noActor) caller
  else .transition caller input

def save (reply : Answer) (rows : Rows) (target : State) (reason actor : String) :
    Rows × Except Error Record :=
  match rows.upsert ⟨target, reason, actor, 0, 0⟩ with
  | .error error => (rows, .error error)
  | .ok (after, saved) =>
    (if reply.applied then after else rows, if reply.isOk then .ok saved else .error .unavailable)

def enrolInput : TransitionInput :=
  ⟨.monitor, false, "autopilot: auto-enrolled off->monitor (dry-run; no enforcement)", "autopilot"⟩

def promoteInput (dwellWindow : Int) (m : MonitorMetrics) : TransitionInput := ⟨.enforce, false,
    "autopilot: promoted monitor->enforce after " ++ runtime.duration dwellWindow ++
      " dwell; guardrails held (samples=" ++ toString m.samples ++
      " error_rate=" ++ runtime.fixed 4 (m.errorRate runtime) ++
      " deny_rate=" ++ runtime.fixed 4 (m.denyRate runtime) ++ ")", "autopilot"⟩

/-- `Time.Sub`, which stops at the bounds of a `Duration`. -/
def sub (later earlier : Int) : Int := max (-2 ^ 63) (min (later - earlier) (2 ^ 63 - 1))

variable (rollout : Rollout Rate)

/-- `maybePromote`, from where it reads the clock. -/
def promotion (now : Int) (cur : Record) (m : MonitorMetrics) (fresh : Bool) : Call :=
  let policy := rollout.policy
  if policy.dwellWindow ≤ 0 then .returned (.reconciled none none)
  else if !fresh then .returned (.reconciled none (some .blockStaleMetrics))
  else if sub now cur.updatedAt < policy.dwellWindow then
    .returned (.reconciled none (some .blockDwell))
  else if m.samples < max policy.minSamples 1 then
    .returned (.reconciled none (some .blockSamples))
  else if (m.breach rollout.runtime policy.promotionGuardrail).isSome then
    .returned (.reconciled none (some .blockGuardrail))
  else ofTransition (.promote cur) (promoteInput rollout.runtime policy.dwellWindow m)

def evaluated (m : MonitorMetrics) (result : Except Error (Record × Bool)) : Evaluator → Call
  | .flush => .returned (.evaluated result)
  | .sweep cur =>
    match result with
    | .error error => .returned (.reconciled (some error) none)
    | .ok (_, true) => .returned (.reconciled none (some .demoted))
    | .ok (_, false) => .decide cur m true

def evaluation (evaluator : Evaluator) (current : Record) (m : MonitorMetrics) : Call :=
  if current.state ≠ .monitor then evaluated m (.ok (current, false)) evaluator
  else
    match m.breach rollout.runtime rollout.threshold with
    | none => evaluated m (.ok (current, false)) evaluator
    | some reason => .rollBack evaluator m ("auto-rollback: " ++ reason)

def reconciliation (cur : Record) : Call :=
  match cur.state with
  | .off =>
    if !rollout.policy.autoEnrol then .returned (.reconciled none none)
    else ofTransition (.enrol cur) enrolInput
  | .monitor => .maybePromote cur
  | .enforce | .other _ => .returned (.reconciled none none)

def observation (cur : Record) : Option (MonitorMetrics × Int) → Call
  | none => .returned (.reconciled (some .unavailable) (some .blockStaleMetrics))
  | some (m, observedAt) =>
    -- the zero time stands for a capability with no recorded observation
    if observedAt ≠ 0 ∧ cur.updatedAt ≤ observedAt then .evaluate (.sweep cur) m
    else .decide cur m false

def next (input : Input) (rows : Rows) : Call → Rows × Call
  | .transition caller request =>
    if input.reply.isOk then
      match validateTransition rows.get.state request.target request.allowSkip with
      | .error error => (rows, transitioned (.error error) caller)
      | .ok () => (rows, .persist caller rows.get request)
    else (rows, transitioned (.error .unavailable) caller)
  | .persist caller _ request =>
    let (after, result) := save input.reply rows request.target request.reason request.actor
    (after, transitioned result caller)
  | .evaluate evaluator metrics =>
    if input.reply.isOk then (rows, evaluation rollout evaluator rows.get metrics)
    else (rows, evaluated metrics (.error .unavailable) evaluator)
  | .rollBack evaluator metrics reason =>
    let (after, result) := save input.reply rows .off reason "system"
    (after, evaluated metrics (result.map fun saved => (saved, true)) evaluator)
  | .reconcile =>
    if input.reply.isOk then (rows, reconciliation rollout rows.get)
    else (rows, .returned (.reconciled (some .unavailable) none))
  | .maybePromote cur => (rows, observation cur input.metrics)
  | .decide cur metrics fresh => (rows, promotion rollout rows.clock cur metrics fresh)
  | .returned result => (rows, .returned result)

end Call

def Request.start (rollout : Rollout Rate) : Request → Call
  | .transition input => Call.ofTransition .operator input
  | .evaluateAutoRollback metrics => .evaluate .flush metrics
  | .reconcile =>
    if rollout.policy.excludes then .returned (.reconciled none none) else .reconcile

def service (rollout : Rollout Rate) : Service Rows Request Input Call where
  start := Request.start rollout
  advance input rows call := call.next rollout input (rows.tick input.elapsed)

end ShieldNet.Capability
