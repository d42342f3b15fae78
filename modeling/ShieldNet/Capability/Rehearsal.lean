import Mathlib.Data.Rat.Floor
import ShieldNet.Capability.Rollout

/-!
# Enforcement is rehearsed

A capability is enforced only out of a monitor period, and by the autopilot only when that period
has lasted for the dwell window. The checks are made on the record a call has read, and the write
that follows replaces whatever the row has become.

They carry over to the stored row under any interleaving of the calls, as long as a write to
enforce finds the record its call first read (`enforcement_rehearsed`). Otherwise an operator's
write to enforce may land on a capability that has been rolled back in between, and a promotion
may land in a monitor period that has just begun (`enforcement_unrehearsed`).
-/

namespace ShieldNet.Capability

open Call Service

variable {Rate : Type} (rollout : Rollout Rate)

def Caller.read (current : Record) : Caller → Record
  | .operator => current
  | .enrol cur | .promote cur => cur

def Caller.isAutopilot : Caller → Bool
  | .operator => false
  | .enrol _ | .promote _ => true

def Call.byAutopilot : Call → Bool
  | .persist caller _ _ => caller.isAutopilot
  | .rollBack (.sweep _) _ _ => true
  | .rollBack .flush _ _ | .transition .. | .evaluate .. | .reconcile | .maybePromote _
  | .decide .. | .returned _ => false

/-- A write to enforce that takes effect finds the record its call first read. -/
def FindsRead (input : Input) (rows : Rows) : Call → Prop
  | .persist caller current request => request.target = .enforce → input.reply.applied = true →
      rows.get = caller.read current
  | .transition .. | .evaluate .. | .rollBack .. | .reconcile | .maybePromote _ | .decide ..
  | .returned _ => True

instance (input : Input) (rows : Rows) (call : Call) : Decidable (FindsRead input rows call) := by
  cases call <;> dsimp only [FindsRead] <;> infer_instance

/-- The step leaves the stored state, or moves it by a legal single step; and where it is the
autopilot's step to enforce, the monitor period that it ends has lasted for the dwell window. -/
def Rehearsed (input : Input) (rows : Rows) (call : Call) : Prop :=
  ((service rollout).advance input rows call).1.state ≠ rows.state →
    validateTransition rows.state ((service rollout).advance input rows call).1.state false =
        .ok () ∧
      (call.byAutopilot = true → ((service rollout).advance input rows call).1.state = .enforce →
          rows.monitorSince + rollout.policy.dwellWindow ≤
            ((service rollout).advance input rows call).1.clock)

instance (input : Input) (rows : Rows) (call : Call) :
    Decidable (Rehearsed rollout input rows call) :=
  inferInstanceAs (Decidable (_ → _ ∧ (_ → _ → _)))

/-- The call asks for no step past monitor. -/
def Call.WithoutSkip : Call → Prop
  | .transition _ request | .persist _ _ request => request.allowSkip = false
  | .evaluate .. | .rollBack .. | .reconcile | .maybePromote _ | .decide .. | .returned _ => True

def Request.WithoutSkip : Request → Prop
  | .transition input => input.allowSkip = false
  | .evaluateAutoRollback _ | .reconcile => True

/-! ## What a step writes -/

variable {rollout} {input : Input} {rows afterwards : Rows} {call : Call} {caller : Caller}
  {evaluator : Evaluator} {request : TransitionInput} {metrics : MonitorMetrics} {cur : Record}

def Call.target? : Call → Option State
  | .persist _ _ request => some request.target
  | .rollBack .. => some .off
  | .transition .. | .evaluate .. | .reconcile | .maybePromote _ | .decide .. | .returned _ => none

theorem save_cases {reply : Answer} {target : State} {reason actor : String} :
    (save reply rows target reason actor).1 = rows ∨ (reply.applied ∧ ∃ valid,
        (save reply rows target reason actor).1 =
          rows.put ⟨target, reason, actor, 0, 0⟩ valid) := by
  by_cases valid : target.valid
  · have accepted : rows.upsert ⟨target, reason, actor, 0, 0⟩ =
        .ok (rows.put _ valid, rows.stored _) := dif_pos valid
    rw [save, accepted]
    by_cases applied : reply.applied
    · exact .inr ⟨applied, valid, if_pos applied⟩
    · exact .inl (if_neg applied)
  · have refused : rows.upsert ⟨target, reason, actor, 0, 0⟩ = .error .invalidArgument :=
      dif_neg valid
    rw [save, refused]
    exact .inl rfl

/-- A step leaves the row, or writes what its call is about to write. -/
theorem next_cases (call : Call) : (call.next rollout input rows).1 = rows ∨
    (input.reply.applied ∧ ∃ rec valid, call.target? = some rec.state ∧
      (call.next rollout input rows).1 = rows.put rec valid) := by
  cases call with
  | persist =>
    rcases save_cases with same | ⟨applied, valid, written⟩
    · exact .inl same
    · exact .inr ⟨applied, _, valid, rfl, written⟩
  | rollBack evaluator metrics reason =>
    rcases @save_cases rows input.reply .off reason "system" with same | ⟨applied, valid, written⟩
    · exact .inl same
    · exact .inr ⟨applied, _, valid, rfl, written⟩
  | transition =>
    rw [next]
    split
    case isTrue => split <;> exact .inl rfl
    case isFalse => exact .inl rfl
  | evaluate | reconcile =>
    rw [next]
    split <;> exact .inl rfl
  | _ => exact .inl rfl

theorem clock_next (call : Call) : (call.next rollout input rows).1.clock = rows.clock := by
  rcases next_cases call with same | ⟨-, rec, valid, -, written⟩
  · rw [same]
  · rw [written]
    rfl

theorem clock_le_advance (call : Call) :
    rows.clock ≤ ((service rollout).advance input rows call).1.clock := by
  change _ ≤ (call.next rollout input (rows.tick input.elapsed)).1.clock
  rw [clock_next]
  exact Int.le_add_of_nonneg_right (Int.natCast_nonneg _)

/-! ## Where a step leads -/

variable (rollout) (rows) in
/-- Where a call can go on from a place. -/
inductive Goes : Call → Call → Prop where
  | returns (call : Call) (result : Result) : Goes call (.returned result)
  | persist (caller : Caller) (request : TransitionInput)
      (legal : validateTransition rows.state request.target request.allowSkip = .ok ()) :
      Goes (.transition caller request) (.persist caller rows.get request)
  | rollBack (evaluator : Evaluator) (metrics : MonitorMetrics) (reason : String) :
      Goes (.evaluate evaluator metrics) (.rollBack evaluator metrics reason)
  | enrol : Goes .reconcile (.transition (.enrol rows.get) enrolInput)
  | maybePromote (monitored : rows.state = .monitor) : Goes .reconcile (.maybePromote rows.get)
  | evaluate (cur : Record) (metrics : MonitorMetrics) :
      Goes (.maybePromote cur) (.evaluate (.sweep cur) metrics)
  | stale (cur : Record) (metrics : MonitorMetrics) :
      Goes (.maybePromote cur) (.decide cur metrics false)
  | held (cur : Record) (metrics : MonitorMetrics) :
      Goes (.evaluate (.sweep cur) metrics) (.decide cur metrics true)
  | promote (cur : Record) (metrics : MonitorMetrics) (fresh : Bool)
      (dwelt : cur.updatedAt + rollout.policy.dwellWindow ≤ rows.clock) :
      Goes (.decide cur metrics fresh) (.transition (.promote cur)
        (promoteInput rollout.runtime rollout.policy.dwellWindow metrics))

theorem goes_transitioned (result : Except Error Record) (caller : Caller) :
    Goes rollout rows call (transitioned result caller) := by
  cases caller <;> exact .returns call _

theorem goes_ofTransition (caller : Caller)
    (goes : Goes rollout rows call (.transition caller request)) :
    Goes rollout rows call (ofTransition caller request) := by
  rw [ofTransition]
  split
  case isTrue => exact goes_transitioned _ caller
  split
  case isTrue => exact goes_transitioned _ caller
  case isFalse => exact goes

theorem goes_held (rec : Record) (evaluator : Evaluator) :
    Goes rollout rows (.evaluate evaluator metrics)
      (evaluated metrics (.ok (rec, false)) evaluator) := by
  cases evaluator with
  | flush => exact .returns _ _
  | sweep cur => exact .held cur metrics

theorem goes_rolledBack (result : Except Error Record) (evaluator : Evaluator) :
    Goes rollout rows call
      (evaluated metrics (result.map fun saved => (saved, true)) evaluator) := by
  cases result <;> cases evaluator <;> exact .returns call _

theorem le_of_le_sub {dwell now since : Int} (positive : 0 < dwell)
    (dwelt : dwell ≤ sub now since) : since + dwell ≤ now := by
  rw [sub] at dwelt
  omega

theorem goes_promotion (fresh : Bool) : Goes rollout rows (.decide cur metrics fresh)
    (promotion rollout rows.clock cur metrics fresh) := by
  rw [promotion]
  split
  case isTrue => exact .returns _ _
  case isFalse enabled =>
    split
    case isTrue => exact .returns _ _
    split
    case isTrue => exact .returns _ _
    case isFalse dwelt =>
      have window := le_of_le_sub (Int.not_le.mp enabled) (Int.not_lt.mp dwelt)
      split
      case isTrue => exact .returns _ _
      split
      case isTrue => exact .returns _ _
      case isFalse => exact goes_ofTransition _ (.promote cur metrics fresh window)

/-- **Every step goes one of these ways.** -/
theorem next_goes (call : Call) : Goes rollout rows call (call.next rollout input rows).2 := by
  cases call with
  | transition caller request =>
    rw [next]
    split
    case isTrue =>
      split
      case h_1 => exact goes_transitioned _ caller
      case h_2 legal => exact .persist caller request legal
    case isFalse => exact goes_transitioned _ caller
  | persist caller => exact goes_transitioned _ caller
  | evaluate evaluator metrics =>
    rw [next]
    split
    case isTrue =>
      rw [evaluation]
      split
      case isTrue => exact goes_held _ evaluator
      split
      case h_1 => exact goes_held _ evaluator
      case h_2 => exact .rollBack evaluator metrics _
    case isFalse => cases evaluator <;> exact .returns _ _
  | rollBack evaluator => exact goes_rolledBack _ evaluator
  | reconcile =>
    rw [next]
    split
    case isTrue =>
      rw [reconciliation]
      split
      case h_1 =>
        split
        case isTrue => exact .returns _ _
        case isFalse => exact goes_ofTransition _ .enrol
      case h_2 monitored => exact .maybePromote monitored
      case h_3 | h_4 => exact .returns _ _
    case isFalse => exact .returns _ _
  | maybePromote cur =>
    rw [next]
    rcases input.metrics with _ | ⟨metrics, observedAt⟩
    · exact .returns _ _
    · rw [observation]
      split
      case isTrue => exact .evaluate cur metrics
      case isFalse => exact .stale cur metrics
  | decide cur metrics fresh => exact goes_promotion fresh
  | returned => exact .returns _ _

theorem Goes.withoutSkip {next : Call} (goes : Goes rollout rows call next)
    (without : call.WithoutSkip) : next.WithoutSkip := by
  cases goes with
  | persist => exact without
  | enrol | promote => exact rfl
  | _ => trivial

theorem withoutSkip_start (request : Request) (without : request.WithoutSkip) :
    ((service rollout).start request).WithoutSkip := by
  cases request with
  | transition input =>
    change (ofTransition .operator input).WithoutSkip
    rw [ofTransition]
    split
    case isTrue => trivial
    split
    case isTrue => trivial
    case isFalse => exact without
  | evaluateAutoRollback => trivial
  | reconcile =>
    change (if rollout.policy.excludes then _ else _ : Call).WithoutSkip
    split <;> trivial

/-! ## What a call has checked -/

variable (rollout) (rows) in
def Entitled (target : State) : Caller → Prop
  | .operator => True
  | .enrol _ => target ≠ .enforce
  | .promote cur => cur.state = .monitor ∧ cur.updatedAt + rollout.policy.dwellWindow ≤ rows.clock

def Evaluator.Monitored : Evaluator → Prop
  | .flush => True
  | .sweep cur => cur.state = .monitor

variable (rollout) (rows) in
def Checked : Call → Prop
  | .transition caller request => Entitled rollout rows request.target caller
  | .persist caller current request =>
    validateTransition current.state request.target false = .ok () ∧
      Entitled rollout rows request.target caller
  | .evaluate evaluator _ | .rollBack evaluator _ _ => evaluator.Monitored
  | .maybePromote cur | .decide cur _ _ => cur.state = .monitor
  | .reconcile | .returned _ => True

theorem Entitled.mono {target : State} (entitled : Entitled rollout rows target caller)
    (passed : rows.clock ≤ afterwards.clock) : Entitled rollout afterwards target caller := by
  cases caller with
  | operator => trivial
  | enrol => exact entitled
  | promote cur => exact ⟨entitled.1, Int.le_trans entitled.2 passed⟩

theorem Checked.mono (checked : Checked rollout rows call)
    (passed : rows.clock ≤ afterwards.clock) :
    Checked rollout afterwards call := by
  cases call with
  | transition => exact Entitled.mono checked passed
  | persist => exact ⟨checked.1, Entitled.mono checked.2 passed⟩
  | _ => exact checked

theorem checked_start (rows : Rows) (request : Request) :
    Checked rollout rows ((service rollout).start request) := by
  cases request with
  | transition input =>
    change Checked rollout rows (ofTransition .operator input)
    rw [ofTransition]
    split
    case isTrue => trivial
    case isFalse => split <;> trivial
  | evaluateAutoRollback => trivial
  | reconcile =>
    change Checked rollout rows (if rollout.policy.excludes then _ else _ : Call)
    split <;> trivial

/-- A step checks what the next place asks for. -/
theorem Goes.checked {next : Call} (goes : Goes rollout rows call next) (without : call.WithoutSkip)
    (checked : Checked rollout rows call) : Checked rollout rows next := by
  cases goes with
  | returns => trivial
  | persist caller request legal =>
    have noSkip : request.allowSkip = false := without
    rw [noSkip] at legal
    exact ⟨legal, checked⟩
  | enrol => exact State.noConfusion
  | maybePromote monitored => exact monitored
  | promote cur metrics fresh dwelt => exact ⟨checked, dwelt⟩
  | _ => exact checked

theorem checked_advance (call : Call) (without : call.WithoutSkip)
    (checked : Checked rollout rows call) :
    Checked rollout ((service rollout).advance input rows call).1
      ((service rollout).advance input rows call).2 := by
  have goes : Goes rollout (rows.tick input.elapsed) call
      ((service rollout).advance input rows call).2 := next_goes call
  have before : Checked rollout (rows.tick input.elapsed) call :=
    checked.mono (Int.le_add_of_nonneg_right (Int.natCast_nonneg _))
  exact (goes.checked without before).mono (Int.le_of_eq (clock_next call).symm)

/-! ## Every change -/

theorem checked_enforce {current : Record}
    (checked : Checked rollout rows (.persist caller current request))
    (enforces : request.target = .enforce) (found : rows.get = caller.read current) :
    rows.state = .monitor ∧ (caller.isAutopilot →
      rows.monitorSince + rollout.policy.dwellWindow ≤ rows.clock) := by
  obtain ⟨legal, entitled⟩ := checked
  rw [enforces] at legal entitled
  cases caller with
  | operator =>
    refine ⟨?_, nofun⟩
    rw [Rows.state, found]
    exact eq_monitor_of_validateTransition legal
  | enrol => exact absurd rfl entitled
  | promote cur =>
    have monitored : rows.state = .monitor := by
      rw [Rows.state, found]
      exact entitled.1
    refine ⟨monitored, fun _ => ?_⟩
    have begun := rows.monitorSince_le monitored
    rw [found] at begun
    exact Int.le_trans (Int.add_le_add_right begun _) entitled.2

/-- **A step is rehearsed** when its call has made its checks and, where it writes to enforce,
finds the record it first read. -/
theorem rehearsed_of_checked (checked : Checked rollout rows call)
    (finds : FindsRead input rows call) : Rehearsed rollout input rows call := by
  have clock : rows.clock ≤ ((service rollout).advance input rows call).1.clock :=
    clock_le_advance call
  have moves : ((service rollout).advance input rows call).1 = rows.tick input.elapsed ∨
      (input.reply.applied ∧ ∃ rec valid, call.target? = some rec.state ∧
        ((service rollout).advance input rows call).1 =
          (rows.tick input.elapsed).put rec valid) := next_cases call
  intro changed
  rcases moves with same | ⟨applied, rec, valid, target, written⟩
  · rw [same] at changed
    exact absurd rfl changed
  · have state : ((service rollout).advance input rows call).1.state = rec.state := by
      rw [written]
      rfl
    rw [state] at changed ⊢
    -- only a write to enforce depends on what the call has read
    rcases State.of_valid valid with low | enforces
    · refine ⟨validateTransition_of_ne rows.valid_state low changed.symm, ?_⟩
      rintro - enforces
      rcases low with low | low <;> cases enforces.symm.trans low
    · cases call with
      | persist caller current request =>
        have isTarget : request.target = .enforce := (Option.some.inj target).trans enforces
        have ready := checked_enforce checked isTarget (finds isTarget applied)
        rw [enforces, ready.1]
        exact ⟨rfl, fun autopilot _ => Int.le_trans (ready.2 autopilot) clock⟩
      | rollBack =>
        rw [← Option.some.inj target] at enforces
        cases enforces
      | _ => cases target

/-- **Enforcement is rehearsed**: with no request that skips monitor, and with every write to
enforce finding the record its call first read, each change of the stored state is a legal
single step, and the autopilot enforces only a capability that has been monitored for the dwell
window. -/
theorem enforcement_rehearsed (rollout : Rollout Rate) (start : Rows)
    (moves : List (Move Request Input))
    (withoutSkip : ∀ request, Move.request request ∈ moves → request.WithoutSkip)
    (finds : AlongRun (service rollout).step (AtCall FindsRead) (idle start) moves) :
    AlongRun (service rollout).step (AtCall (Rehearsed rollout)) (idle start)
      moves := by
  have calls : AlongRun (service rollout).step (AtCall fun _ _ call => call.WithoutSkip)
      (idle start) moves :=
    alongRun_calls (fun _ _ call without => (next_goes call).withoutSkip without)
      (fun request member => withoutSkip_start request (withoutSkip request member))
      (fun _ member => absurd member List.not_mem_nil)
  have both : AlongRun (service rollout).step (AtMove fun input system call =>
        call.WithoutSkip ∧ FindsRead input system.store call) (idle start) moves := by
    refine (alongRun_and.mpr ⟨calls, finds⟩).imp ?_
    rintro system (request | ⟨index, input⟩) ⟨without, found⟩
    · exact trivial
    · exact fun call member => ⟨without call member, found call member⟩
  have rehearsed : AlongRun (service rollout).step
      (AtMove fun input system call => Rehearsed rollout input system.store call)
      (idle start) moves := by
    refine along_asserts (fun _ => True) (Checked rollout)
      (fun rows request _ => checked_start rows request) ?_ ?_ ?_ trivial both
    · intro input system call holds underWay condition
      exact ⟨trivial, checked_advance call condition.1 (holds.calls call underWay)⟩
    · intro input system call other holds apart _
      exact (holds.calls other apart.mem_right).mono (clock_le_advance call)
    · intro input system call holds underWay condition
      exact rehearsed_of_checked (holds.calls call underWay) condition.2
  exact rehearsed.imp fun _ _ => atMove_store_iff.mp

/-! ## Three runs -/

/-- A fraction with a fixed number of decimals. -/
def decimal (digits : ℕ) (rate : ℚ) : String :=
  let scaled := (|rate| * 10 ^ digits + 1 / 2).floor.toNat
  let fraction := toString (scaled % 10 ^ digits)
  (if rate < 0 then "-" else "") ++ toString (scaled / 10 ^ digits) ++ "." ++
    "".pushn '0' (digits - fraction.length) ++ fraction

/-- Rates as exact fractions, and durations below a microsecond. -/
def exactRuntime : Runtime ℚ where
  zero := 0
  ratio errors samples := (errors : ℚ) / samples
  lt a b := decide (a < b)
  le a b := decide (a ≤ b)
  fixed := decimal
  duration window := toString window ++ "ns"

def sampleRollout : Rollout ℚ where
  runtime := exactRuntime
  threshold := ⟨1 / 2, 0, 1⟩
  policy := ⟨false, true, 10, 1, ⟨1 / 4, 0, 1⟩⟩

def sampleRows : Rows where
  clock := 100
  row := none
  monitorSince := 0
  begun := by decide
  valid := nofun
  dated := nofun

def answered (index : ℕ) : Move Request Input := .resume index ⟨1, .ok, none⟩

def moveTo (target : State) : Move Request Input :=
  .request (.transition ⟨target, false, "", "operator"⟩)

/-- An operator starts the monitor period, and a sweep ends it when it is old enough. -/
def promotedInTime : List (Move Request Input) :=
  [moveTo .monitor, answered 0, answered 0, .request .reconcile, answered 1,
    .resume 1 ⟨20, .ok, some (⟨10, 0, 0⟩, 115)⟩, answered 1, answered 1, answered 1, answered 1]

theorem enforcement_rehearsed_in_time :
    ((service sampleRollout).run sampleRows promotedInTime).store.state = .enforce ∧
    AlongRun (service sampleRollout).step (AtCall (Rehearsed sampleRollout))
      (idle sampleRows) promotedInTime := by
  refine ⟨by decide +kernel, enforcement_rehearsed sampleRollout sampleRows promotedInTime ?_
    (by decide +kernel)⟩
  intro request member
  simp only [promotedInTime, moveTo, answered, List.mem_cons, Move.request.injEq, reduceCtorEq,
    List.not_mem_nil, or_false, false_or] at member
  rcases member with rfl | rfl
  · exact rfl
  · trivial

/-- The first operator starts the monitor period; the second reads it and is about to enforce
when the metrics roll the capability back. -/
def rolledBackMeanwhile : List (Move Request Input) :=
  [moveTo .monitor, answered 0, answered 0, moveTo .enforce, answered 1,
    .request (.evaluateAutoRollback ⟨10, 9, 0⟩), answered 2, answered 2, answered 1]

/-- A sweep is about to promote when an operator ends the monitor period and starts another. -/
def monitoredAfresh : List (Move Request Input) :=
  [moveTo .monitor, answered 0, answered 0, .request .reconcile, answered 1,
    .resume 1 ⟨20, .ok, some (⟨10, 0, 0⟩, 115)⟩, answered 1, answered 1, answered 1,
    moveTo .off, answered 2, answered 2, moveTo .monitor, answered 3, answered 3, answered 1]

/-- **Enforcement need not be rehearsed** when a write lands on another record: an operator's
write takes a capability from off to enforce, and a promotion ends a monitor period that has
just begun. -/
theorem enforcement_unrehearsed :
    ((service sampleRollout).run sampleRows rolledBackMeanwhile).store.state = .enforce ∧
    ¬ AlongRun (service sampleRollout).step (AtCall (Rehearsed sampleRollout))
      (idle sampleRows) rolledBackMeanwhile ∧
    ((service sampleRollout).run sampleRows monitoredAfresh).store.state = .enforce ∧
    ¬ AlongRun (service sampleRollout).step (AtCall (Rehearsed sampleRollout))
      (idle sampleRows) monitoredAfresh := by
  decide +kernel

end ShieldNet.Capability
