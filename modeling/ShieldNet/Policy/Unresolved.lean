import ShieldNet.Lib.FirstMatch
import ShieldNet.Policy.References

/-!
# Matchers that do not resolve

A rule with a matcher of unknown kind, or with a reference that does not resolve, is passed
over. Next to `evaluate` stands the verdict that would be given if such matchers of some of the
rules had matched; it is not stricter exactly when what decides in place of a rule that is passed
over is no looser than the rule (`unresolved_fails_closed_iff`).
-/

namespace ShieldNet.Policy

open FirstWins

section Vertices

variable {α : Type} (unknown holds : α → Bool) (named : List (String × α)) (refs : List String)
  (inline : List α)

/-- One of the vertices is of unknown kind, or a reference to none. -/
def unresolved : Bool :=
  (refs.any fun name => (get? named name).all unknown) || inline.any unknown

/-- All vertices hold that are not unresolved. -/
def grants : Bool := (refs.all fun name => (get? named name).all fun vertex =>
    unknown vertex || holds vertex) && inline.all fun vertex => unknown vertex || holds vertex

def matched : Bool :=
  (refs.all fun name => (get? named name).any holds) && inline.all holds

variable {unknown holds named refs inline}

theorem matched_of_grants (resolved : unresolved unknown named refs inline = false)
    (granted : grants unknown holds named refs inline) :
    matched holds named refs inline := by
  simp only [unresolved, Bool.or_eq_false_iff, List.any_eq_false] at resolved
  simp only [grants, matched, Bool.and_eq_true, List.all_eq_true] at granted ⊢
  constructor
  · intro name listed
    have known := resolved.1 name listed
    have holds := granted.1 name listed
    cases found : get? named name with
    | none => simp [found] at known
    | some vertex => simpa [found, Bool.eq_false_iff.mpr (by simpa [found] using known)] using holds
  · intro vertex listed
    simpa [Bool.eq_false_iff.mpr (resolved.2 vertex listed)] using granted.2 vertex listed

end Vertices

variable (text : RustText)

def Rule.unresolved (rule : Rule) (bundle : LoadedBundle) : Bool :=
  Policy.unresolved (·.matcher == .unknown) bundle.namedSubjects rule.subjectRefs rule.subjects ||
  Policy.unresolved (·.matcher == .unknown) bundle.namedPredicates rule.predicateRefs
    rule.predicates

def Rule.grants (rule : Rule) (flow : Flow) (bundle : LoadedBundle) : Bool :=
  Policy.grants (·.matcher == .unknown) (subjectMatchesFlow · flow) bundle.namedSubjects
    rule.subjectRefs rule.subjects &&
  Policy.grants (·.matcher == .unknown) (predicateMatchesFlow text · flow) bundle.namedPredicates
    rule.predicateRefs rule.predicates

section Evaluate

variable (bundle : LoadedBundle) (flow : Flow) (chosen : Rule → Bool)

def Rule.applies (rule : Rule) : Bool :=
  rule.domain == flow.enforcementDomain && ruleMatches text rule flow bundle

/-- The rule applies, or would if its unresolved matchers had matched and it is chosen. -/
def Rule.appliesGranting (rule : Rule) : Bool :=
  rule.domain == flow.enforcementDomain &&
    (ruleMatches text rule flow bundle || chosen rule && rule.grants text flow bundle)

def Rule.verdict (rule : Rule) : Verdict := verbToVerdict rule.verb rule.suggestedVerb flow bundle

/-- The verdict if the unresolved matchers of the chosen rules had matched. -/
def evaluateGranting : Verdict :=
  firstMatch (Rule.appliesGranting text bundle flow chosen) (Rule.verdict bundle flow)
    (verbToVerdict bundle.defaultVerb none flow bundle) bundle.rules

/-- If the first rule that would decide is passed over for an unresolved matcher, the first rule
after it that applies is no looser, and where none does the default is not. -/
def ReplacedNoLooser (noLooser : Verdict → Verdict → Prop) : Prop :=
  ∀ before rule after, bundle.rules = before ++ rule :: after →
    (∀ earlier ∈ before, earlier.appliesGranting text bundle flow chosen = false) →
    rule.appliesGranting text bundle flow chosen = true →
    rule.applies text bundle flow = false → rule.unresolved bundle = true →
    (∀ later, FirstAccepted (Rule.applies text bundle flow) after later →
      noLooser (later.verdict bundle flow) (rule.verdict bundle flow)) ∧
    ((∀ later ∈ after, later.applies text bundle flow = false) →
      noLooser (verbToVerdict bundle.defaultVerb none flow bundle) (rule.verdict bundle flow))

variable {text bundle flow chosen}

theorem evaluate_eq_firstMatch : evaluate text bundle flow = firstMatch
    (Rule.applies text bundle flow) (Rule.verdict bundle flow)
    (verbToVerdict bundle.defaultVerb none flow bundle) bundle.rules := by
  rw [evaluate, firstMatch_eq_elim]
  unfold Rule.applies
  cases bundle.rules.find? _ <;> rfl

/-- What applies only with unresolved matchers granted has one. -/
theorem Rule.unresolved_of_appliesGranting {rule : Rule}
    (granted : rule.appliesGranting text bundle flow chosen = true)
    (passed : rule.applies text bundle flow = false) : rule.unresolved bundle = true := by
  by_contra resolved
  simp only [appliesGranting, Bool.and_eq_true, Bool.or_eq_true, Rule.grants] at granted
  rw [Bool.not_eq_true, Rule.unresolved, Bool.or_eq_false_iff] at resolved
  obtain ⟨same, matched | ⟨-, subjects, predicates⟩⟩ := granted
  · simp [Rule.applies, same, matched] at passed
  · have matched : ruleMatches text rule flow bundle = true :=
      Bool.and_eq_true_iff.mpr ⟨matched_of_grants resolved.1 subjects,
        matched_of_grants resolved.2 predicates⟩
    simp [Rule.applies, same, matched] at passed

end Evaluate

/-- **Unresolved matchers fail closed exactly when what decides instead of a rule that is passed
over for one is no looser**, for any notion of a verdict no looser than another and any set of
rules whose unresolved matchers are taken to match. -/
theorem unresolved_fails_closed_iff (noLooser : Verdict → Verdict → Prop)
    (refl : ∀ verdict, noLooser verdict verdict) (bundle : LoadedBundle) (flow : Flow)
    (chosen : Rule → Bool) :
    noLooser (evaluate text bundle flow) (evaluateGranting text bundle flow chosen) ↔
      ReplacedNoLooser text bundle flow chosen noLooser := by
  have widens : ∀ rule ∈ bundle.rules, rule.applies text bundle flow →
      rule.appliesGranting text bundle flow chosen := by
    intro rule _ applies
    obtain ⟨same, matched⟩ := Bool.and_eq_true_iff.mp applies
    simp [Rule.appliesGranting, same, matched]
  rw [evaluate_eq_firstMatch, evaluateGranting, firstMatch_wider_iff refl widens]
  refine forall_congr' fun before => forall_congr' fun rule => forall_congr' fun after => ?_
  refine imp_congr_right fun _ => imp_congr_right fun _ => imp_congr_right fun granted =>
    imp_congr_right fun passed => ?_
  refine (firstMatch_iff_forall (noLooser · (rule.verdict bundle flow)) after).trans ?_
  exact ⟨fun both _ => both, fun each => each (Rule.unresolved_of_appliesGranting granted passed)⟩

/-! ## A deny rule of an unknown dialect -/

def geoRule (subjects : List Json) : Json := ruleDoc "deny-geo" "ngfw" "deny"
  [("subjects", .arr subjects),
    ("predicates", .arr [.obj [("match", .obj [("kind", .str "geo")])]])]

def geoRaw (subjects : List Json) : RawBundle :=
  ⟨1, .edge, "graph", 1, "compiler", "allow", some (.arr [geoRule subjects]), none⟩

def aliceDoc : Json := .obj [("name", .str "alice"), ("kind", .str "user"),
  ("match", .obj [("kind", .str "literal"), ("value", .str "alice")])]

/-- A deny rule for Alice with a predicate of unknown kind is no looser on the flow of a guest. -/
theorem unresolved_fails_closed_guest :
    ∃ bundle, LoadedBundle.fromBody plainRustText (geoRaw [aliceDoc]) .edge = .ok bundle ∧
      (evaluateGranting plainRustText bundle guestFlow (fun _ => true) = .deny →
        evaluate plainRustText bundle guestFlow = .deny) := by
  obtain ⟨bundle, loaded, passed⟩ : ∃ bundle,
      LoadedBundle.fromBody plainRustText (geoRaw [aliceDoc]) .edge = .ok bundle ∧
      ∀ rule ∈ bundle.rules,
        rule.appliesGranting plainRustText bundle guestFlow (fun _ => true) = false :=
    ⟨_, rfl, by decide⟩
  refine ⟨bundle, loaded, (unresolved_fails_closed_iff plainRustText
    (fun verdict granted => granted = .deny → verdict = .deny) (fun _ => id) bundle guestFlow
    fun _ => true).mpr ?_⟩
  intro before rule after split _ granted
  exact absurd (granted.symm.trans (passed rule (by simp [split]))) (by decide)

/-- **A deny rule fails open**: its predicate is of unknown kind, and the default allows. -/
theorem unknown_predicate_fails_open :
    ∃ bundle, LoadedBundle.fromBody plainRustText (geoRaw []) .edge = .ok bundle ∧
      evaluate plainRustText bundle guestFlow = .allow ∧
      evaluateGranting plainRustText bundle guestFlow (fun _ => true) = .deny :=
  ⟨_, rfl, rfl, rfl⟩

end ShieldNet.Policy
