import ShieldNet.Swg.Handler

/-!
# AI governance as documented

What the comments on `AiGovernanceRule` and `AiGovernancePolicy` promise, beside the rules that
`ai_governance.rs` compiles. A rule for neither an app nor a category is documented as a catch-all
and never looked at, and a redirect needs a proxy to go to. A policy does what it says exactly when
no catch-all would change the action and a redirect has its proxy (`governed_as_documented_iff`).
-/

namespace ShieldNet.Swg

open AiGovernance ExtAuthzHandler
open Text (asciiLower)

namespace AiGovernanceRule

variable (rule : AiGovernanceRule)

def names (app : String) : Bool := rule.app.map asciiLower = some (asciiLower app.toList)

def namesCategory (category : AiAppCategory) : Bool :=
  rule.app.isNone && rule.category.bind AiAppCategory.ofName = some category

def catchesAll : Bool := rule.app.isNone && rule.category.isNone

end AiGovernanceRule

/-- The rule for an app of the catalog, by the comments. -/
def AiGovernancePolicy.documentedRule (policy : AiGovernancePolicy) (app : KnownAiApp) :
    Option AiGovernanceRule :=
  (policy.rules.find? (·.names app.app)).or ((policy.rules.find? (·.namesCategory app.category)).or
      (policy.rules.find? AiGovernanceRule.catchesAll))

def AiGovernancePolicy.documentedAction (policy : AiGovernancePolicy) (app : KnownAiApp) :
    AiGovernanceAction :=
  ((policy.documentedRule app).map AiGovernanceRule.action).getD policy.defaultAction

variable {policy : AiGovernancePolicy}

theorem action_decide (compiled : CompiledPolicy) {destination : AiAppDestination}
    (sure : destination.kind = .known) : (compiled.decide destination).1 =
      (((compiled.appRule destination).or (compiled.categoryRule destination)).map
        CompiledRule.action).getD compiled.defaultAction := by
  rw [CompiledPolicy.decide, sure]
  split <;> simp_all

theorem action_of_known {host : Text} {app : KnownAiApp}
    (known : knownAiApp (asciiLower host) = some app) (path : Text) :
    ((compile policy).evaluate host path).map AiGovernanceVerdict.action =
      some ((((policy.rules.find? (·.names app.app)).or
        (policy.rules.find? (·.namesCategory app.category))).map
          AiGovernanceRule.action).getD policy.defaultAction) := by
  have found : classifyDestination host path =
      ⟨.known, some app.app, some app.category, asciiLower host⟩ := by
    rw [classifyDestination, known]
  rw [CompiledPolicy.evaluate, found]
  simp [action_decide, CompiledPolicy.appRule, CompiledPolicy.categoryRule, compile, List.find?_map,
    Function.comp_def, AiGovernanceRule.names, AiGovernanceRule.namesCategory, Option.map_or]

/-- No catch-all is needed for the app, or the first one does what the default does. -/
def AiGovernancePolicy.CatchAllIdle (policy : AiGovernancePolicy) (app : KnownAiApp) : Prop :=
  (∃ rule ∈ policy.rules, rule.names app.app ∨ rule.namesCategory app.category) ∨
    ∀ rule ∈ policy.rules.find? AiGovernanceRule.catchesAll, rule.action = policy.defaultAction

/-- **The action is the documented one exactly when no catch-all would change it.** -/
theorem action_documented_iff {host : Text} {app : KnownAiApp}
    (known : knownAiApp (asciiLower host) = some app) (path : Text) :
    ((compile policy).evaluate host path).map AiGovernanceVerdict.action =
      some (policy.documentedAction app) ↔ policy.CatchAllIdle app := by
  rw [action_of_known known, AiGovernancePolicy.documentedAction, AiGovernancePolicy.documentedRule,
    ← Option.or_assoc, AiGovernancePolicy.CatchAllIdle]
  have named : (∃ rule ∈ policy.rules, rule.names app.app ∨ rule.namesCategory app.category) ↔
      ((policy.rules.find? (·.names app.app)).or
        (policy.rules.find? (·.namesCategory app.category))).isSome := by
    simp only [Option.isSome_or, Bool.or_eq_true, List.find?_isSome, and_or_left, exists_or]
  rw [named]
  cases (policy.rules.find? (·.names app.app)).or
      (policy.rules.find? (·.namesCategory app.category)) with
  | some rule => simp
  | none =>
    cases policy.rules.find? AiGovernanceRule.catchesAll with
    | none => simp
    | some rule => simp [eq_comm]

/-- A governance verdict that redirects goes to the proxy, if there is one. -/
theorem redirectUrl_toVerdict {verdict : AiGovernanceVerdict}
    (redirects : verdict.action = .redirect)
    {proxy : Option Text} (configured : proxy ≠ some []) :
    (∃ base ∈ proxy, ∃ url, (verdict.toVerdict proxy).redirectUrl = some url ∧ url ≠ [] ∧
      base <+: url) ↔ proxy.isSome := by
  constructor
  · rintro ⟨base, found, -⟩
    exact Option.isSome_of_mem found
  · intro some
    obtain ⟨base, rfl⟩ := Option.isSome_iff_exists.mp some
    have target : base <+: pendingSessionUrl base verdict.destination.host :=
      ⟨_, (List.append_assoc _ _ _).symm⟩
    refine ⟨base, rfl, pendingSessionUrl base verdict.destination.host, ?_, fun empty => ?_, target⟩
    · rw [AiGovernanceVerdict.toVerdict, redirects]
      rfl
    · rw [empty] at target
      exact configured (congrArg _ (List.prefix_nil.mp target))

theorem proxyBaseUrl_ne_empty (handler : ExtAuthzHandler) :
    handler.rbiEngine.bind RbiPolicyEngine.proxyBaseUrl ≠ some [] := by
  intro empty
  obtain ⟨engine, -, base⟩ := Option.bind_eq_some_iff.mp empty
  rw [RbiPolicyEngine.proxyBaseUrl] at base
  split at base
  case isTrue => cases base
  case isFalse configured => exact configured (Option.some.inj base)

/-- **AI apps are governed as documented exactly when no catch-all would change the action and a
redirect has a proxy to go to.** -/
theorem governed_as_documented_iff (handler : ExtAuthzHandler) (ctx : RequestContext)
    (policy : AiGovernancePolicy) (app : KnownAiApp)
    (governs : handler.aiGovernanceEngine = some (compile policy))
    (known : knownAiApp (asciiLower ctx.host) = some app) :
    (((compile policy).evaluate ctx.host ctx.path).map AiGovernanceVerdict.action =
        some (policy.documentedAction app) ∧
      ∀ verdict, handler.aiGovernanceStage ctx = .error verdict → verdict.action = .redirect →
        ∃ base ∈ handler.rbiEngine.bind RbiPolicyEngine.proxyBaseUrl,
          ∃ url, verdict.redirectUrl = some url ∧ url ≠ [] ∧ base <+: url) ↔
    policy.CatchAllIdle app ∧ (policy.documentedAction app = .redirect →
      (handler.rbiEngine.bind RbiPolicyEngine.proxyBaseUrl).isSome) := by
  rw [← action_documented_iff known ctx.path]
  refine and_congr_right fun documented => ?_
  obtain ⟨verdict, evaluated, acts⟩ := Option.map_eq_some_iff.mp documented
  unfold aiGovernanceStage
  simp only [governs, Option.bind_some, evaluated]
  have configured := proxyBaseUrl_ne_empty handler
  constructor
  · intro goes redirects
    have redirects := acts.trans redirects
    refine (redirectUrl_toVerdict redirects configured).mp (goes _ (if_pos (.inr redirects)) ?_)
    rw [AiGovernanceVerdict.toVerdict, redirects]
    rfl
  · intro proxied found stopped redirects
    split at stopped
    case isFalse => cases stopped
    case isTrue =>
      cases stopped
      have redirect : verdict.action = .redirect := by
        cases acting : verdict.action <;>
          simp only [AiGovernanceVerdict.toVerdict, acting] at redirects
        case redirect => rfl
        all_goals cases redirects
      exact (redirectUrl_toVerdict redirect configured).mpr (proxied (acts.symm.trans redirect))

def chatgpt : KnownAiApp := ⟨"chatgpt.com", "chatgpt", .chatbot⟩

def governedBy (rule : AiGovernanceRule) : AiGovernancePolicy := { rules := [rule] }

def redirected : AiGovernancePolicy := governedBy ⟨some "ChatGPT".toList, none, .redirect⟩

theorem chatgpt_known : knownAiApp (asciiLower "chatgpt.com".toList) = some chatgpt := by
  decide +kernel

/-- ChatGPT is blocked as documented, with a rule for it before a catch-all. -/
theorem chatgpt_blocked :
    let policy : AiGovernancePolicy :=
      { rules := [⟨some "chatgpt".toList, none, .block⟩, ⟨none, none, .monitor⟩] }
    ((compile policy).evaluate "chatgpt.com".toList "/".toList).map AiGovernanceVerdict.action =
      some (policy.documentedAction chatgpt) :=
  ((governed_as_documented_iff { shopsIsolated with aiGovernanceEngine := some (compile _) }
    (frontPageContext "chatgpt.com" "chatgpt.com") _ chatgpt rfl chatgpt_known).mpr
      ⟨.inl ⟨_, List.mem_cons_self, .inl (by decide)⟩, fun _ => by decide⟩).1

/-- **A catch-all is not looked at**, and without a proxy a redirect leads nowhere. -/
theorem catchAll_ignored :
    ((compile (governedBy ⟨none, none, .block⟩)).evaluate "chatgpt.com".toList []).map
      AiGovernanceVerdict.action = some .monitor ∧
    (governedBy ⟨none, none, .block⟩).documentedAction chatgpt = .block ∧
    (((compile redirected).evaluate "chatgpt.com".toList []).bind fun verdict =>
      (verdict.toVerdict
        (gamblingDenied.rbiEngine.bind RbiPolicyEngine.proxyBaseUrl)).redirectUrl) =
        some [] := by
  decide +kernel

end ShieldNet.Swg
