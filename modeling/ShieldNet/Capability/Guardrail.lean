import ShieldNet.Capability.Rehearsal
import ShieldNet.Lib.Fallible

/-!
# The guardrail of a promotion

`NewAutopilot` relates the ceilings of the guardrail and the samples of the policy to the demote
threshold. It relates neither to the samples of the guardrail, below which `Breach` finds
nothing. Its checks of nil arguments and of capability names are left out.
-/

namespace ShieldNet.Capability

variable {Rate : Type} (runtime : Runtime Rate)

def checkCeiling (name : String) (promo demote : Rate) : Except String Unit :=
  if runtime.lt runtime.zero demote &&
      (runtime.le promo runtime.zero || runtime.lt demote promo) then
    .error ("promotion " ++ name ++ " " ++ runtime.fixed 4 promo ++
      " must be set and <= demote " ++ name ++ " " ++ runtime.fixed 4 demote)
  else .ok ()

def promotionGuardrailAtLeastAsStrict (promo demote : Threshold Rate) : Except String Unit := do
  checkCeiling runtime "MaxErrorRate" promo.maxErrorRate demote.maxErrorRate
  checkCeiling runtime "MaxDenyRate" promo.maxDenyRate demote.maxDenyRate
  if runtime.le promo.maxErrorRate runtime.zero && runtime.le promo.maxDenyRate runtime.zero then
    .error "promotion guardrail is unconfigured (no error-rate or deny-rate ceiling)"
  else .ok ()

/-- `NewAutopilot`; the errors are those that `ErrAutopilotConfig` wraps. -/
def newAutopilot (demote : Threshold Rate) (policy : AutopilotPolicy Rate) : Except String Unit :=
  if policy.dwellWindow ≤ 0 then .ok ()
  else if runtime.le demote.maxErrorRate runtime.zero &&
      runtime.le demote.maxDenyRate runtime.zero then
    .error ("promotion is enabled but the service auto-demote threshold is disabled; " ++
      "promotion must never run without a demotion safety net")
  else do
    promotionGuardrailAtLeastAsStrict runtime policy.promotionGuardrail demote
    if policy.minSamples < demote.minSamples then
      .error ("promotion MinSamples " ++ toString policy.minSamples ++
        " must be >= demote MinSamples " ++ toString demote.minSamples ++
        " so demotion never needs more evidence than promotion")
    else .ok ()

/-- The rates of a reading are at most the ceilings that a threshold sets for them. -/
def MonitorMetrics.Within (m : MonitorMetrics) (t : Threshold ℚ) : Prop :=
  (0 < t.maxErrorRate → m.errorRate exactRuntime ≤ t.maxErrorRate) ∧
    (0 < t.maxDenyRate → m.denyRate exactRuntime ≤ t.maxDenyRate)

instance (m : MonitorMetrics) (t : Threshold ℚ) : Decidable (m.Within t) :=
  inferInstanceAs (Decidable (_ ∧ _))

variable {m : MonitorMetrics}

theorem within_of_breach_eq_none {t : Threshold ℚ}
    (enough : max t.minSamples 1 ≤ m.samples) (quiet : m.breach exactRuntime t = none) :
    m.Within t := by
  rw [MonitorMetrics.breach] at quiet
  split at quiet
  case isTrue unset =>
    simp only [exactRuntime, Bool.and_eq_true, decide_eq_true_eq] at unset
    exact ⟨fun set => absurd set (not_lt.mpr unset.1), fun set => absurd set (not_lt.mpr unset.2)⟩
  rw [if_neg (not_lt.mpr enough)] at quiet
  obtain ⟨errors, quiet⟩ := ite_eq_of_ne quiet (by rintro ⟨⟩)
  obtain ⟨denies, -⟩ := ite_eq_of_ne quiet (by rintro ⟨⟩)
  simp only [exactRuntime, Bool.and_eq_true, decide_eq_true_eq, not_and, not_lt] at errors denies
  exact ⟨errors, denies⟩

theorem checkCeiling_eq_ok {name : String} {promo demote : ℚ}
    (checked : checkCeiling exactRuntime name promo demote = .ok ()) (configured : 0 < demote) :
    0 < promo ∧ promo ≤ demote := by
  obtain ⟨strict, -⟩ := ite_error_eq_ok checked
  simpa [exactRuntime, configured] using strict

/-- Ceilings that pass the check are met where those of the guardrail are. -/
theorem MonitorMetrics.Within.of_strict {promo demote : Threshold ℚ} (within : m.Within promo)
    (checked : promotionGuardrailAtLeastAsStrict exactRuntime promo demote = .ok ()) :
    m.Within demote := by
  obtain ⟨⟨⟩, errors, checked⟩ := bind_eq_ok checked
  obtain ⟨⟨⟩, denies, -⟩ := bind_eq_ok checked
  constructor
  · intro configured
    obtain ⟨set, le⟩ := checkCeiling_eq_ok errors configured
    exact (within.1 set).trans le
  · intro configured
    obtain ⟨set, le⟩ := checkCeiling_eq_ok denies configured
    exact (within.2 set).trans le

theorem breach_eq_none_of_few {t : Threshold Rate} (few : m.samples < t.minSamples) :
    m.breach runtime t = none := by
  rw [MonitorMetrics.breach, if_pos (few.trans_le (le_max_left _ _))]
  exact ite_self _

/-- Nothing but its guardrail holds the promotion back. -/
structure Due (policy : AutopilotPolicy Rate) (now : Int) (cur : Record) (m : MonitorMetrics)
    (fresh : Bool) : Prop where
  dwells : 0 < policy.dwellWindow
  current : fresh = true
  elapsed : policy.dwellWindow ≤ Call.sub now cur.updatedAt
  enough : max policy.minSamples 1 ≤ m.samples

/-- **`maybePromote` promotes exactly what is due and breaches no guardrail.** -/
theorem exists_promotion_iff {rollout : Rollout Rate} {now : Int} {cur : Record} {fresh : Bool} :
    (∃ input, Call.promotion rollout now cur m fresh = .transition (.promote cur) input) ↔
      Due rollout.policy now cur m fresh ∧
        m.breach rollout.runtime rollout.policy.promotionGuardrail = none := by
  constructor
  · rintro ⟨input, promotes⟩
    obtain ⟨dwells, promotes⟩ := ite_eq_of_ne promotes (by rintro ⟨⟩)
    obtain ⟨current, promotes⟩ := ite_eq_of_ne promotes (by rintro ⟨⟩)
    obtain ⟨elapsed, promotes⟩ := ite_eq_of_ne promotes (by rintro ⟨⟩)
    obtain ⟨enough, promotes⟩ := ite_eq_of_ne promotes (by rintro ⟨⟩)
    obtain ⟨quiet, -⟩ := ite_eq_of_ne promotes (by rintro ⟨⟩)
    exact ⟨⟨not_le.mp dwells, by simpa using current, not_lt.mp elapsed, not_lt.mp enough⟩,
      by simpa using quiet⟩
  · rintro ⟨due, quiet⟩
    refine ⟨Call.promoteInput rollout.runtime rollout.policy.dwellWindow m, ?_⟩
    rw [Call.promotion, if_neg (not_le.mpr due.dwells), due.current, if_neg (by decide),
      if_neg (not_lt.mpr due.elapsed), if_neg (not_lt.mpr due.enough), quiet, if_neg (by decide)]
    rfl

/-- **No promotion past a breached guardrail exactly when a reading that is due and too small for
the guardrail is within its ceilings.** -/
theorem promotion_within_ceilings_iff (demote : Threshold ℚ) (policy : AutopilotPolicy ℚ)
    (accepted : newAutopilot exactRuntime demote policy = .ok ()) (input : Input) (rows : Rows)
    (cur : Record) (m : MonitorMetrics) (fresh : Bool) :
    (∀ request, ((service ⟨exactRuntime, demote, policy⟩).advance input rows
        (.decide cur m fresh)).2 = .transition (.promote cur) request →
      m.Within policy.promotionGuardrail ∧ m.Within demote) ↔
    (Due policy (rows.tick input.elapsed).clock cur m fresh →
      m.samples < policy.promotionGuardrail.minSamples → m.Within policy.promotionGuardrail) := by
  constructor
  · intro each due few
    obtain ⟨request, promotes⟩ := exists_promotion_iff.mpr
      (⟨due, breach_eq_none_of_few exactRuntime few⟩ :
        Due (Rollout.mk exactRuntime demote policy).policy _ _ _ _ ∧ _)
    exact (each request promotes).1
  · intro small request promotes
    obtain ⟨due, quiet⟩ := exists_promotion_iff.mp ⟨request, promotes⟩
    have within : m.Within policy.promotionGuardrail := by
      by_cases few : m.samples < policy.promotionGuardrail.minSamples
      · exact small due few
      · refine within_of_breach_eq_none (max_le (not_lt.mp few) ?_) quiet
        exact (le_max_right _ _).trans due.enough
    rw [newAutopilot, if_neg (not_le_of_gt due.dwells)] at accepted
    obtain ⟨-, accepted⟩ := ite_error_eq_ok accepted
    obtain ⟨⟨⟩, strict, -⟩ := bind_eq_ok accepted
    exact ⟨within, within.of_strict strict⟩

def patientRollout : Rollout ℚ := { sampleRollout with
    policy := { sampleRollout.policy with promotionGuardrail := ⟨1 / 4, 0, 100⟩ } }

/-- A reading that is large enough for the guardrail is promoted within its ceilings. -/
theorem large_reading_within_ceilings :
    MonitorMetrics.Within ⟨1000, 2, 0⟩ patientRollout.policy.promotionGuardrail ∧
      MonitorMetrics.Within ⟨1000, 2, 0⟩ patientRollout.threshold :=
  (promotion_within_ceilings_iff patientRollout.threshold patientRollout.policy (by decide +kernel)
    ⟨20, .ok, none⟩ sampleRows ⟨.monitor, "", "", 100, 100⟩ ⟨1000, 2, 0⟩ true).mpr
    (fun _ few => absurd few (by decide)) (Call.promoteInput exactRuntime 10 ⟨1000, 2, 0⟩)
    (by decide +kernel)

/-- An operator starts the monitor period; three of ten observations have failed when a sweep
ends it. -/
def promotedPast : List (Move Request Input) :=
  [moveTo .monitor, answered 0, answered 0, .request .reconcile, answered 1,
    .resume 1 ⟨20, .ok, some (⟨10, 3, 0⟩, 115)⟩, answered 1, answered 1, answered 1, answered 1]

/-- **A promotion past the guardrail**: the reading is enough for the policy and too small for
the guardrail, whose ceiling it exceeds. -/
theorem promotion_past_guardrail :
    newAutopilot exactRuntime patientRollout.threshold patientRollout.policy = .ok () ∧
    ((service patientRollout).run sampleRows promotedPast).store.state = .enforce ∧
    ¬ MonitorMetrics.Within ⟨10, 3, 0⟩ patientRollout.policy.promotionGuardrail := by
  decide +kernel

end ShieldNet.Capability
