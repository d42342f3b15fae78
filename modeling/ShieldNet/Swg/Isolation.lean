import ShieldNet.Lib.Ranking
import ShieldNet.Swg.HostLists

/-!
# Isolation and AI governance

Two policies send a request away from its destination: the one for remote browser
isolation (`crates/sng-swg/src/rbi.rs`) and the one for AI apps
(`ai_governance.rs`), which recognises the apps of a catalog by their domain and
others by what their host and path look like.

The first takes one dot off either end of a host before it looks at it, so a dot
at the end of a host that has none makes no difference (`normalizeHost_append_dot`).
To the second it makes one for the apps of the catalog alone: what a host looks
like is told by its labels (`heuristicAiApp_append_dot`).
-/

namespace ShieldNet.Swg

open Text List Option

open Text (asciiLower byteLength)

def escapeByte (byte : UInt8) : Text :=
  let c := Char.ofNat byte.toNat
  if c.isAlphanum ∨ c ∈ ['-', '_', '.', '~'] then [c]
  else '%' :: [byte.toNat / 16, byte.toNat % 16].map fun digit => (Nat.digitChar digit).toUpper

def urlEscape (text : Text) : Text := (utf8 text).flatMap escapeByte

/-- The address of a session that has yet to be made. -/
def pendingSessionUrl (base host : Text) : Text :=
  base ++ "/rbi/session/".toList ++ urlEscape ("pending:".toList ++ host)

/-! ## Browser isolation -/

inductive RbiTriggerReason where
  | categoryMatch
  | riskScore
  | uncategorised
  | explicitPolicy

def RbiTriggerReason.asStr : RbiTriggerReason → String
  | .categoryMatch => "category_match"
  | .riskScore => "risk_score"
  | .uncategorised => "uncategorised"
  | .explicitPolicy => "explicit_policy"

structure RbiPolicyDef where
  categories : List Text := []
  riskScoreThreshold : Nat := 0
  isolateUncategorised : Bool := false
  explicitIsolate : List Text := []
  explicitBypass : List Text := []

namespace Rbi

/-- Lowered, without one dot at either end. -/
def normalizeHost (host : Text) : Text :=
  let lowered := asciiLower host
  let front := (stripPrefix ['.'] lowered).getD lowered
  (stripSuffix ['.'] front).getD front

def compile (policy : RbiPolicyDef) : RbiPolicyDef := { policy with
    categories := policy.categories.map asciiLower
    explicitIsolate := policy.explicitIsolate.map normalizeHost
    explicitBypass := policy.explicitBypass.map normalizeHost }

def hostMatches (patterns : List Text) (host : Text) : Bool :=
  host ≠ [] && patterns.any fun pattern =>
    pattern ≠ [] && (host = pattern || ('.' :: pattern).isSuffixOf host)

def isUncategorised (category : Text) : Bool := asciiLower category ∈
    [[], "uncategorised".toList, "uncategorized".toList, "unknown".toList]

end Rbi

structure RbiPolicyEngine where
  policy : RbiPolicyDef
  baseUrl : Text

namespace RbiPolicyEngine

variable (engine : RbiPolicyEngine)

def proxyBaseUrl : Option Text := if engine.baseUrl = [] then none else some engine.baseUrl

def trigger (host : Text) (category : Option Text) (riskScore : Nat) : Option RbiTriggerReason :=
  let policy := engine.policy
  if Rbi.hostMatches policy.explicitIsolate host then some .explicitPolicy
  else if Rbi.hostMatches policy.explicitBypass host then none
  else if policy.isolateUncategorised ∧ (category.all Rbi.isUncategorised) then some .uncategorised
  else if 0 < policy.riskScoreThreshold ∧ policy.riskScoreThreshold ≤ riskScore then some .riskScore
  else if category.any fun name => asciiLower name ∈ policy.categories then some .categoryMatch
  else none

def evaluate (host : Text) (category : Option Text) (riskScore : Nat) :
    Option (RbiTriggerReason × Text) :=
  if engine.baseUrl = [] then none
  else
    let host := Rbi.normalizeHost host
    (engine.trigger host category riskScore).map fun reason =>
      (reason, pendingSessionUrl engine.baseUrl host)

end RbiPolicyEngine

/-! ## AI apps -/

inductive AiAppKind where
  | known
  | suspected
  | notAiApp
  deriving DecidableEq

inductive AiAppCategory where
  | chatbot
  | codeAssistant
  | writingAssistant
  | imageGenerator
  | searchAssistant
  | modelPlatform
  | meetingAssistant
  | other
  deriving DecidableEq

def AiAppCategory.ofName : String → Option AiAppCategory
  | "chatbot" => some .chatbot
  | "code_assistant" => some .codeAssistant
  | "writing_assistant" => some .writingAssistant
  | "image_generator" => some .imageGenerator
  | "search_assistant" => some .searchAssistant
  | "model_platform" => some .modelPlatform
  | "meeting_assistant" => some .meetingAssistant
  | "other" => some .other
  | _ => none

structure KnownAiApp where
  domain : String
  app : String
  category : AiAppCategory
  deriving DecidableEq

def knownAiApps : List KnownAiApp :=
  [⟨"openai.com", "chatgpt", .chatbot⟩, ⟨"chatgpt.com", "chatgpt", .chatbot⟩,
    ⟨"claude.ai", "claude", .chatbot⟩, ⟨"anthropic.com", "claude", .chatbot⟩,
    ⟨"gemini.google.com", "gemini", .chatbot⟩, ⟨"bard.google.com", "gemini", .chatbot⟩,
    ⟨"copilot.microsoft.com", "copilot", .chatbot⟩, ⟨"poe.com", "poe", .chatbot⟩,
    ⟨"pi.ai", "pi", .chatbot⟩, ⟨"chat.mistral.ai", "le_chat", .chatbot⟩,
    ⟨"mistral.ai", "mistral", .chatbot⟩, ⟨"chat.deepseek.com", "deepseek", .chatbot⟩,
    ⟨"deepseek.com", "deepseek", .chatbot⟩, ⟨"x.ai", "grok", .chatbot⟩,
    ⟨"grok.com", "grok", .chatbot⟩, ⟨"character.ai", "character_ai", .chatbot⟩,
    ⟨"chatglm.cn", "chatglm", .chatbot⟩, ⟨"moonshot.cn", "kimi", .chatbot⟩,
    ⟨"tongyi.aliyun.com", "tongyi", .chatbot⟩, ⟨"doubao.com", "doubao", .chatbot⟩,
    ⟨"github.com", "github_copilot", .codeAssistant⟩,
    ⟨"githubcopilot.com", "github_copilot", .codeAssistant⟩,
    ⟨"cursor.com", "cursor", .codeAssistant⟩, ⟨"cursor.sh", "cursor", .codeAssistant⟩,
    ⟨"codeium.com", "codeium", .codeAssistant⟩, ⟨"tabnine.com", "tabnine", .codeAssistant⟩,
    ⟨"phind.com", "phind", .codeAssistant⟩, ⟨"codium.ai", "qodo", .codeAssistant⟩,
    ⟨"sourcegraph.com", "cody", .codeAssistant⟩, ⟨"replit.com", "replit_ai", .codeAssistant⟩,
    ⟨"jasper.ai", "jasper", .writingAssistant⟩,
    ⟨"writesonic.com", "writesonic", .writingAssistant⟩,
    ⟨"copy.ai", "copy_ai", .writingAssistant⟩, ⟨"rytr.me", "rytr", .writingAssistant⟩,
    ⟨"quillbot.com", "quillbot", .writingAssistant⟩,
    ⟨"grammarly.com", "grammarly", .writingAssistant⟩,
    ⟨"notion.so", "notion_ai", .writingAssistant⟩,
    ⟨"midjourney.com", "midjourney", .imageGenerator⟩,
    ⟨"leonardo.ai", "leonardo", .imageGenerator⟩, ⟨"stability.ai", "stability", .imageGenerator⟩,
    ⟨"runwayml.com", "runway", .imageGenerator⟩, ⟨"elevenlabs.io", "elevenlabs", .imageGenerator⟩,
    ⟨"perplexity.ai", "perplexity", .searchAssistant⟩, ⟨"you.com", "you", .searchAssistant⟩,
    ⟨"api.openai.com", "openai_api", .modelPlatform⟩,
    ⟨"api.anthropic.com", "anthropic_api", .modelPlatform⟩,
    ⟨"huggingface.co", "huggingface", .modelPlatform⟩,
    ⟨"replicate.com", "replicate", .modelPlatform⟩, ⟨"cohere.com", "cohere", .modelPlatform⟩,
    ⟨"cohere.ai", "cohere", .modelPlatform⟩, ⟨"together.ai", "together", .modelPlatform⟩,
    ⟨"fireworks.ai", "fireworks", .modelPlatform⟩, ⟨"groq.com", "groq", .modelPlatform⟩,
    ⟨"openrouter.ai", "openrouter", .modelPlatform⟩, ⟨"anyscale.com", "anyscale", .modelPlatform⟩,
    ⟨"azure.com", "azure_openai", .modelPlatform⟩, ⟨"otter.ai", "otter", .meetingAssistant⟩,
    ⟨"fireflies.ai", "fireflies", .meetingAssistant⟩,
    ⟨"fathom.video", "fathom", .meetingAssistant⟩, ⟨"tldv.io", "tldv", .meetingAssistant⟩]

def aiHostTokens : List String :=
  ["chatgpt", "gpt", "claude", "gemini", "copilot", "perplexity", "llm", "genai", "chatbot",
    "deepseek", "mistral", "huggingface", "assistant"]

def aiPathTokens : List String :=
  ["/v1/chat/completions", "/v1/completions", "/v1/messages", "/v1/embeddings", "/api/generate",
    "/api/chat", "/chat/completions"]

def aiFalsePositives : List String :=
  ["mail", "trail", "rail", "nail", "sail", "snail", "detail", "retain", "certain", "bail", "fail",
    "jail", "kail", "wail", "avail", "entail", "portrayal"]

structure AiAppDestination where
  kind : AiAppKind
  app : Option String
  category : Option AiAppCategory
  host : Text

def hostMatchesDomain (host domain : Text) : Bool :=
  host = domain || ('.' :: domain).isSuffixOf host

/-- The longest domain, and of equally long ones the last. -/
def knownAiApp (host : Text) : Option KnownAiApp :=
  firstMax (fun app => byteLength app.domain.toList)
    (knownAiApps.filter fun app => hostMatchesDomain host app.domain.toList).reverse

def labelLooksAi (label : Text) : Bool :=
  let tokens := label.splitOn '-'
  label = "ai".toList || tokens.contains "ai".toList ||
    aiHostTokens.any (fun token => hasInfix label token.toList) ||
    !(aiFalsePositives.any fun word => label = word.toList || tokens.contains word.toList) &&
      hasInfix label "ai".toList &&
      ("ai".toList.isPrefixOf label && 2 < byteLength label && !"air".toList.isPrefixOf label)

def heuristicAiApp (host path : Text) : Bool := host ≠ [] && ((host.splitOn '.').any labelLooksAi ||
    aiPathTokens.any fun token => hasInfix path token.toList)

def classifyDestination (host path : Text) : AiAppDestination :=
  let lowered := asciiLower host
  match knownAiApp lowered with
  | some app => ⟨.known, some app.app, some app.category, lowered⟩
  | none =>
    if heuristicAiApp lowered (asciiLower path) then ⟨.suspected, none, some .other, lowered⟩
    else ⟨.notAiApp, none, none, lowered⟩

inductive AiGovernanceAction where
  | allow
  | monitor
  | block
  | redirect
  deriving DecidableEq

structure AiGovernanceRule where
  app : Option Text
  category : Option String
  action : AiGovernanceAction

structure AiGovernancePolicy where
  rules : List AiGovernanceRule := []
  defaultAction : AiGovernanceAction := .monitor
  suspectedAction : AiGovernanceAction := .allow

inductive AiGovernanceReason where
  | appRule
  | categoryRule
  | default
  | suspected

def AiGovernanceReason.asStr : AiGovernanceReason → String
  | .appRule => "ai_governance.app_rule"
  | .categoryRule => "ai_governance.category_rule"
  | .default => "ai_governance.default"
  | .suspected => "ai_governance.suspected"

structure AiGovernanceVerdict where
  action : AiGovernanceAction
  reason : AiGovernanceReason
  destination : AiAppDestination

namespace AiGovernance

structure CompiledRule where
  app : Option Text
  category : Option AiAppCategory
  action : AiGovernanceAction

structure CompiledPolicy where
  rules : List CompiledRule
  defaultAction : AiGovernanceAction
  suspectedAction : AiGovernanceAction

/-- An unknown category is no category. -/
def compile (policy : AiGovernancePolicy) : CompiledPolicy where
  rules := policy.rules.map fun rule =>
    ⟨rule.app.map asciiLower, rule.category.bind AiAppCategory.ofName, rule.action⟩
  defaultAction := policy.defaultAction
  suspectedAction := policy.suspectedAction

namespace CompiledPolicy

variable (policy : CompiledPolicy) (destination : AiAppDestination)

def appRule : Option CompiledRule := do
  let app ← destination.app
  policy.rules.find? fun rule => rule.app = some (asciiLower app.toList)

def categoryRule : Option CompiledRule := do
  let category ← destination.category
  policy.rules.find? fun rule => rule.app.isNone && rule.category = some category

def decide : AiGovernanceAction × AiGovernanceReason :=
  match policy.appRule destination, policy.categoryRule destination with
  | some rule, _ => (rule.action, .appRule)
  | none, some rule => (rule.action, .categoryRule)
  | none, none =>
    if destination.kind = .suspected then (policy.suspectedAction, .suspected)
    else (policy.defaultAction, .default)

def evaluate (host path : Text) : Option AiGovernanceVerdict :=
  let destination := classifyDestination host path
  if destination.kind = .notAiApp then none
  else some ⟨(policy.decide destination).1, (policy.decide destination).2, destination⟩

end CompiledPolicy

end AiGovernance

def AiGovernanceVerdict.toVerdict (verdict : AiGovernanceVerdict) (proxyUrl : Option Text) :
    Verdict :=
  let app := (verdict.destination.app.getD "suspected").toList
  match verdict.action with
  | .allow | .monitor => .allow verdict.reason.asStr.toList
  | .block => .deny (verdict.reason.asStr.toList ++ ".blocked.".toList ++ app)
  | .redirect =>
    .redirect (verdict.reason.asStr.toList ++ ".redirect.".toList ++ app)
      ((proxyUrl.map fun base => pendingSessionUrl base verdict.destination.host).getD [])

/-! ## A dot at the end -/

theorem stripSuffix_of_plain {text : Text} (plain : ¬ EndsInDot text) :
    stripSuffix ['.'] text = none := by
  refine if_neg fun ends => plain ?_
  exact (endsInDot_of_suffix (isSuffixOf_iff_suffix.mp ends) (cons_ne_nil _ _)).mp rfl

/-- **A dot at the end of a host that has none makes no difference to isolation.** -/
theorem Rbi.normalizeHost_append_dot {host : Text} (plain : ¬ EndsInDot host) :
    normalizeHost (host ++ ['.']) = normalizeHost host := by
  rw [← endsInDot_asciiLower] at plain
  rw [normalizeHost, normalizeHost, asciiLower_append_dot]
  generalize asciiLower host = name at plain
  cases name with
  | nil => rfl
  | cons c rest =>
    by_cases dot : c = '.'
    · -- The dot in front goes, and the rest still ends as the name does.
      subst dot
      have plainRest : ¬ EndsInDot rest := by
        intro ends
        refine plain ((endsInDot_of_suffix (suffix_cons _ _) ?_).mp ends)
        rintro rfl
        cases ends
      have front : ∀ text : Text, stripPrefix ['.'] ('.' :: text) = some text := fun text => rfl
      simp only [cons_append, front, getD_some, stripSuffix_append,
        stripSuffix_of_plain plainRest, getD_none]
    · have front : ∀ text : Text, stripPrefix ['.'] (c :: text) = none := by
        intro text
        exact if_neg (by simpa [isPrefixOf] using Ne.symm dot)
      have concat : c :: (rest ++ ['.']) = (c :: rest) ++ ['.'] := rfl
      simp only [cons_append, front, getD_none]
      rw [concat, stripSuffix_append, stripSuffix_of_plain plain]
      rfl

/-- The host of a request counts only through its normal form. -/
theorem RbiPolicyEngine.evaluate_congr (engine : RbiPolicyEngine) {host other : Text}
    (same : Rbi.normalizeHost host = Rbi.normalizeHost other) (category : Option Text)
    (riskScore : Nat) : engine.evaluate host category riskScore =
      engine.evaluate other category riskScore := by
  rw [evaluate, evaluate, same]

theorem labelLooksAi_nil : labelLooksAi [] = false := by decide

/-- What a host looks like is told by its labels, and a dot at its end adds an empty one. -/
theorem heuristicAiApp_append_dot {host : Text} (nonempty : host ≠ []) (path : Text) :
    heuristicAiApp (host ++ ['.']) path = heuristicAiApp host path := by
  have labels : (host ++ ['.']).splitOn '.' = host.splitOn '.' ++ [[]] :=
    splitOn_append_cons_self host []
  rw [heuristicAiApp, heuristicAiApp, labels, any_append, any_cons, any_nil, labelLooksAi_nil]
  simp [nonempty]

/-- The host of a request counts only through the domains of the catalog and what it looks like. -/
theorem AiGovernance.CompiledPolicy.evaluate_congr (policy : CompiledPolicy)
    {host other path : Text}
    (known : ∀ app ∈ knownAiApps, hostMatchesDomain (asciiLower host) app.domain.toList =
      hostMatchesDomain (asciiLower other) app.domain.toList)
    (looks : heuristicAiApp (asciiLower host) (asciiLower path) =
      heuristicAiApp (asciiLower other) (asciiLower path)) :
    (policy.evaluate host path).map AiGovernanceVerdict.action =
      (policy.evaluate other path).map AiGovernanceVerdict.action := by
  have app : knownAiApp (asciiLower host) = knownAiApp (asciiLower other) := by
    rw [knownAiApp, knownAiApp, filter_congr known]
  have destination : classifyDestination other path =
      { classifyDestination host path with host := asciiLower other } := by
    simp only [classifyDestination, app, looks]
    split
    case h_1 => rfl
    case h_2 => split <;> rfl
  have decided : policy.decide (classifyDestination other path) =
      policy.decide (classifyDestination host path) := by
    rw [destination]
    rfl
  have kind : (classifyDestination other path).kind = (classifyDestination host path).kind := by
    rw [destination]
  simp only [evaluate, decided, kind]
  split <;> rfl

end ShieldNet.Swg
