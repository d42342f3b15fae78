import ShieldNet.Swg.Casb
import ShieldNet.Swg.Isolation
import ShieldNet.Swg.RateLimit

/-!
# The verdict on a request

The handler (`crates/sng-swg/src/auth.rs`) asks one stage after another: names
that are passed by, the rate limit, CASB, inline DLP, the category of the host,
isolation, AI governance, the denied categories, and the scans for malware. The
first stage that has a verdict decides; where none has, the request is allowed.

The action follows from which stages have a verdict (`evaluate_action_eq`). So two
requests for one destination get the same action exactly when the stages pass by,
deny and send away both alike (`same_action_iff_decidedAlike`), as they do where no
entry of the lists tells the two spellings apart. With a dot at its end a name is
another one to the lists, so a host whose category is denied is allowed, and a
name that is passed by is not (`root_dot_changes_action`).
-/

namespace ShieldNet.Swg

open CategoryIndex Option

open Text (asciiLower)

/-! ## Scanners -/

inductive MalwareVerdict where
  | clean
  | malicious
  | suspicious
  | unknown

inductive YaraSeverity where
  | suspicious
  | malicious

structure YaraMatch where
  rule : Text
  severity : YaraSeverity
  family : Option Text

inductive ContentScanVerdict where
  | clean
  | malicious (signature : Text)
  | skipped

inductive DlpInlineAction where
  | log
  | redact
  | block

def DlpInlineAction.toSwgVerdict (action : DlpInlineAction) (destination : Text) : Verdict :=
  match action with
  | .block => .deny ("dlp.inline.block.".toList ++ destination)
  | .redact | .log => .allow ("dlp.inline.log.".toList ++ destination)

/-! ## The handler -/

/-- The handler with what is installed in it. What the scanners say depends on what they are
given alone. -/
structure ExtAuthzHandler where
  categorizer : CategoryIndex
  malware : Text → MalwareVerdict
  bypass : BypassList
  rateLimiter : RateLimiter
  denyPolicy : CategoryDenyPolicy
  elevatedRiskMode : Bool
  casb : Option InspectorState
  /-- `YaraEngine::worst_match` -/
  yara : Option (List UInt8 → Option YaraMatch)
  contentScanner : Option (List UInt8 → ContentScanVerdict)
  /-- `DlpInlineEngine::classify`, by the action. -/
  dlpEngine : Option (List UInt8 → RequestSignals → Option DlpInlineAction)
  rbiEngine : Option RbiPolicyEngine
  aiGovernanceEngine : Option AiGovernance.CompiledPolicy

namespace ExtAuthzHandler

variable (handler : ExtAuthzHandler) (ctx : RequestContext) (signals : RequestSignals)
  (body : Option (List UInt8))

/-- A name that is passed by is looked at no further. -/
def bypassStage : Except Verdict Unit :=
  match ctx.sni with
  | none => .ok ()
  | some sni =>
    let decision := handler.bypass.evaluate (some sni)
    if decision.bypass then .error (.bypass decision.reason.toTelemetryString) else .ok ()

def rateStage (rate : RateLimitDecision) : Except Verdict Unit :=
  if rate.permitted then .ok ()
  else .error { Verdict.rateLimit ("rate_limit.".toList ++ rate.bucketKey) rate.retryAfterSecs with
    category := some "rate_limit.bucket".toList }

/-- A block stops here; other verdicts are kept for later. -/
def casbStage : Except Verdict (Option Verdict) :=
  let verdict := handler.casb.bind fun state => state.inspect ctx signals
  match verdict with
  | some found => if found.action = .deny then .error found else .ok verdict
  | none => .ok none

def dlpStage : Except Verdict (Option DlpInlineAction) :=
  let verdict := do (← handler.dlpEngine) (← body) signals
  match verdict with
  | some .block => .error (DlpInlineAction.block.toSwgVerdict ctx.host)
  | other => .ok other

def category : Option Text := (handler.categorizer.categorizeSync ctx.host ctx.path).map asciiLower

/-- No risk score is known yet. -/
def rbiStage (category : Option Text) : Except Verdict Unit :=
  match handler.rbiEngine.bind fun engine => engine.evaluate ctx.host category 0 with
  | some (reason, url) => .error (.redirect ("rbi.".toList ++ reason.asStr.toList) url)
  | none => .ok ()

def aiGovernanceStage : Except Verdict Unit :=
  match handler.aiGovernanceEngine.bind fun policy => policy.evaluate ctx.host ctx.path with
  | some verdict =>
    if verdict.action = .block ∨ verdict.action = .redirect then
      .error (verdict.toVerdict (handler.rbiEngine.bind RbiPolicyEngine.proxyBaseUrl))
    else .ok ()
  | none => .ok ()

def denyStage (category : Option Text) : Except Verdict Unit :=
  match category with
  | some name => if handler.denyPolicy.isDenied name then .error (.denyCategorized name) else .ok ()
  | none => .ok ()

def malwareStage : Except Verdict Unit :=
  match ctx.fileHash.map handler.malware with
  | some .malicious => .error (.denyCategorized "malware.detected".toList)
  | some .suspicious =>
    if handler.elevatedRiskMode then .error (.denyCategorized "malware.suspicious".toList)
    else .ok ()
  | _ => .ok ()

def yaraStage : Except Verdict Unit :=
  match (do (← handler.yara) (← body) : Option YaraMatch) with
  | none => .ok ()
  | some found =>
    let family := found.family.getD found.rule
    match found.severity with
    | .malicious => .error (.denyCategorized ("malware.yara.".toList ++ family))
    | .suspicious =>
      if handler.elevatedRiskMode then
        .error (.denyCategorized ("malware.yara.suspicious.".toList ++ family))
      else .ok ()

def contentStage : Except Verdict Unit :=
  match (do some ((← handler.contentScanner) (← body)) : Option ContentScanVerdict) with
  | some (.malicious signature) =>
    .error (.denyCategorized ("malware.content.".toList ++ signature))
  | _ => .ok ()

/-- What is reported where every stage lets the request through. -/
def allowVerdict (casb : Option Verdict) (dlp : Option DlpInlineAction) (category : Option Text) :
    Verdict :=
  match dlp, casb, category with
  | some action, _, _ => action.toSwgVerdict ctx.host
  | none, some verdict, _ => verdict
  | none, none, some name => .allowCategorized name
  | none, none, none => .allowUncategorized

def stages (rate : RateLimitDecision) : Except Verdict Verdict := do
  rateStage rate
  let casb ← handler.casbStage ctx signals
  let dlp ← handler.dlpStage ctx signals body
  handler.rbiStage ctx (handler.category ctx)
  handler.aiGovernanceStage ctx
  handler.denyStage (handler.category ctx)
  handler.malwareStage ctx
  handler.yaraStage body
  handler.contentStage body
  .ok (allowVerdict ctx casb dlp (handler.category ctx))

def decided : Except Verdict Verdict → Verdict
  | .error verdict | .ok verdict => verdict

/-- `evaluate`, with the buckets of the rate limiter. -/
def evaluate (buckets : Assoc Text Bucket) (now : Nat) : Verdict × Assoc Text Bucket :=
  match handler.bypassStage ctx with
  | .error verdict => (verdict, buckets)
  | .ok () =>
    let (rate, buckets) := handler.rateLimiter.acquire buckets now ctx.tenantId ctx.principalId
    (decided (handler.stages ctx signals body rate), buckets)

/-! ## What decides a request -/

/-- The stage has a verdict. -/
def stops {α : Type} (stage : Except Verdict α) : Bool := !stage.isOk

def isPassedBy : Bool :=
  handler.bypass.entries.any fun entry => ctx.sni.any (sniSuffixMatch entry.suffix)

/-- CASB or inline DLP denies it. -/
def isBlocked : Bool :=
  ((handler.casb.bind fun state => state.inspect ctx signals).any fun found =>
    found.action = .deny) || stops (handler.dlpStage ctx signals body)

def governance : Option AiGovernanceAction :=
  (handler.aiGovernanceEngine.bind fun policy => policy.evaluate ctx.host ctx.path).map
    AiGovernanceVerdict.action

/-- Isolation takes it, or AI governance redirects it. -/
def isSentAway : Bool :=
  (handler.rbiEngine.bind fun engine => engine.evaluate ctx.host (handler.category ctx) 0).isSome ||
    handler.governance ctx = some .redirect

/-- AI governance blocks it, its category is denied or a scan finds malware. -/
def isRefused : Bool :=
  handler.governance ctx = some .block || (handler.category ctx).any handler.denyPolicy.isDenied ||
    stops (handler.malwareStage ctx) || stops (handler.yaraStage body) ||
    stops (handler.contentStage body)

/-- By CASB or inline DLP, or later by a stage that isolation leaves it to. -/
def isDenied : Bool :=
  handler.isBlocked ctx signals body || !handler.isSentAway ctx && handler.isRefused ctx body

def isRedirected : Bool := !handler.isBlocked ctx signals body && handler.isSentAway ctx

variable {handler ctx signals body}

theorem decided_rbiStage {category : Option Text} {next : Unit → Except Verdict Verdict} :
    (decided (handler.rbiStage ctx category >>= next)).action =
      if (handler.rbiEngine.bind fun engine => engine.evaluate ctx.host category 0).isSome then
        .redirect else (decided (next ())).action := by
  unfold rbiStage
  cases handler.rbiEngine.bind fun engine => engine.evaluate ctx.host category 0 <;> rfl

theorem decided_aiGovernanceStage {next : Unit → Except Verdict Verdict} :
    (decided (handler.aiGovernanceStage ctx >>= next)).action =
      if handler.governance ctx = some .redirect then .redirect
      else if handler.governance ctx = some .block then .deny
      else (decided (next ())).action := by
  unfold aiGovernanceStage governance
  cases handler.aiGovernanceEngine.bind fun policy => policy.evaluate ctx.host ctx.path with
  | none => rfl
  | some verdict =>
    rw [map_some]
    simp only [AiGovernanceVerdict.toVerdict]
    cases verdict.action <;> rfl

theorem decided_of_denies {stage : Except Verdict Unit} {next : Unit → Except Verdict Verdict}
    (denies : ∀ verdict, stage = .error verdict → verdict.action = .deny) :
    (decided (stage >>= next)).action =
      if stops stage then .deny else (decided (next ())).action := by
  cases stage with
  | error verdict => exact denies verdict rfl
  | ok => rfl

theorem denyStage_denies {category : Option Text} {verdict : Verdict}
    (stopped : handler.denyStage category = .error verdict) : verdict.action = .deny := by
  unfold denyStage at stopped
  repeat' split at stopped
  all_goals cases stopped
  rfl

theorem stops_denyStage {category : Option Text} :
    stops (handler.denyStage category) = category.any handler.denyPolicy.isDenied := by
  cases category with
  | none => rfl
  | some name =>
    rw [denyStage, any_some]
    cases handler.denyPolicy.isDenied name <;> rfl

theorem malwareStage_denies {verdict : Verdict}
    (stopped : handler.malwareStage ctx = .error verdict) : verdict.action = .deny := by
  unfold malwareStage at stopped
  repeat' split at stopped
  all_goals cases stopped
  all_goals rfl

theorem yaraStage_denies {verdict : Verdict}
    (stopped : handler.yaraStage body = .error verdict) : verdict.action = .deny := by
  unfold yaraStage at stopped
  repeat' split at stopped
  all_goals cases stopped
  all_goals rfl

theorem contentStage_denies {verdict : Verdict}
    (stopped : handler.contentStage body = .error verdict) : verdict.action = .deny := by
  unfold contentStage at stopped
  repeat' split at stopped
  all_goals cases stopped
  rfl

theorem decided_casbStage {next : Option Verdict → Except Verdict Verdict} :
    (decided (handler.casbStage ctx signals >>= next)).action =
      if (handler.casb.bind fun state => state.inspect ctx signals).any
          fun found => found.action = .deny then .deny
      else (decided (next (handler.casb.bind fun state => state.inspect ctx signals))).action := by
  unfold casbStage
  cases handler.casb.bind fun state => state.inspect ctx signals with
  | none => rfl
  | some found =>
    simp only [any_some, decide_eq_true_eq]
    split
    case isTrue denied => exact denied
    case isFalse => rfl

theorem decided_dlpStage {next : Option DlpInlineAction → Except Verdict Verdict} (rest : Action)
    (goes : ∀ dlp, handler.dlpStage ctx signals body = .ok dlp →
      (decided (next dlp)).action = rest) :
    (decided (handler.dlpStage ctx signals body >>= next)).action =
      if stops (handler.dlpStage ctx signals body) then .deny else rest := by
  cases stage : handler.dlpStage ctx signals body with
  | error verdict =>
    unfold dlpStage at stage
    dsimp only at stage
    split at stage
    case h_1 =>
      cases stage
      rfl
    case h_2 => cases stage
  | ok dlp => exact goes dlp stage

theorem dlpStage_ok {dlp : Option DlpInlineAction}
    (logged : handler.dlpStage ctx signals body = .ok dlp) : ∀ action ∈ dlp, action ≠ .block := by
  unfold dlpStage at logged
  dsimp only at logged
  split at logged
  case h_1 => cases logged
  case h_2 other =>
    cases logged
    rintro _ found rfl
    exact other found

theorem allowVerdict_action {casb : Option Verdict} {dlp : Option DlpInlineAction}
    {category : Option Text} (allowed : ∀ verdict ∈ casb, verdict.action = .allow)
    (logged : ∀ action ∈ dlp, action ≠ .block) :
    (allowVerdict ctx casb dlp category).action = .allow := by
  cases dlp with
  | some action =>
    cases action with
    | block => exact absurd rfl (logged .block rfl)
    | log | redact => rfl
  | none =>
    cases casb with
    | some verdict => exact allowed verdict rfl
    | none => cases category <;> rfl

theorem stages_action (rate : RateLimitDecision) (permitted : rate.permitted = true) :
    (decided (handler.stages ctx signals body rate)).action =
      if handler.isDenied ctx signals body then .deny
      else if handler.isRedirected ctx signals body then .redirect
      else .allow := by
  unfold stages
  rw [rateStage, if_pos permitted]
  change (decided (handler.casbStage ctx signals >>= _)).action = _
  rw [decided_casbStage]
  by_cases denied : (handler.casb.bind fun state => state.inspect ctx signals).any
      fun found => found.action = .deny
  · simp [denied, isDenied, isBlocked]
  rw [if_neg denied]
  have allowed : ∀ verdict ∈ handler.casb.bind fun state => state.inspect ctx signals,
      verdict.action = .allow := by
    intro verdict found
    obtain ⟨state, -, inspected⟩ := Option.bind_eq_some_iff.mp found
    refine InspectorState.action_of_inspect inspected fun deny => denied ?_
    rw [Option.any_eq_true]
    exact ⟨verdict, found, decide_eq_true deny⟩
  refine (decided_dlpStage (if handler.isSentAway ctx then .redirect
    else if handler.isRefused ctx body then .deny else .allow) fun dlp logged => ?_).trans ?_
  · rw [decided_rbiStage, decided_aiGovernanceStage, decided_of_denies fun _ => denyStage_denies,
      decided_of_denies fun _ => malwareStage_denies, decided_of_denies fun _ => yaraStage_denies,
      decided_of_denies fun _ => contentStage_denies, stops_denyStage]
    have last : (allowVerdict ctx (handler.casb.bind fun state => state.inspect ctx signals) dlp
        (handler.category ctx)).action = .allow := allowVerdict_action allowed (dlpStage_ok logged)
    unfold isSentAway isRefused decided
    grind
  · unfold isDenied isRedirected isBlocked
    grind

theorem bypassStage_eq (handler : ExtAuthzHandler) (ctx : RequestContext) :
    handler.bypassStage ctx =
      match handler.bypass.entries.find? fun entry => ctx.sni.any (sniSuffixMatch entry.suffix) with
      | some entry => .error (.bypass (BypassReason.matched entry).toTelemetryString)
      | none => .ok () := by
  unfold bypassStage
  cases ctx.sni with
  | none =>
    have unmatched : handler.bypass.entries.find? (fun _ => false) = none :=
      List.find?_eq_none.mpr fun _ _ matched => Bool.false_ne_true matched
    simp only [any_none, unmatched]
  | some sni =>
    simp only [any_some]
    cases found : handler.bypass.entries.find? (fun entry => sniSuffixMatch entry.suffix sni) with
    | none =>
      have decision : handler.bypass.evaluate (some sni) = ⟨false, .noMatch⟩ := by
        simp only [BypassList.evaluate, found]
      simp only [decision, Bool.false_eq_true, if_false]
    | some entry =>
      have decision : handler.bypass.evaluate (some sni) = ⟨true, .matched entry⟩ := by
        simp only [BypassList.evaluate, found]
      simp only [decision, if_true]

/-- **The stages that have a verdict decide the action.** -/
theorem evaluate_action_eq (handler : ExtAuthzHandler) (ctx : RequestContext)
    (signals : RequestSignals) (body : Option (List UInt8)) (now : Nat) :
    (handler.evaluate ctx signals body .empty now).1.action =
      if handler.isPassedBy ctx then .bypass
      else if handler.rateLimiter.capacity < 1 then .rateLimit
      else if handler.isDenied ctx signals body then .deny
      else if handler.isRedirected ctx signals body then .redirect
      else .allow := by
  unfold evaluate
  rw [bypassStage_eq]
  cases found : handler.bypass.entries.find?
      fun entry => ctx.sni.any (sniSuffixMatch entry.suffix) with
  | some entry =>
    have matched : ctx.sni.any (sniSuffixMatch entry.suffix) := by simpa using List.find?_some found
    have passed : handler.isPassedBy ctx :=
      List.any_eq_true.mpr ⟨entry, List.mem_of_find?_eq_some found, matched⟩
    rw [if_pos passed]
    rfl
  | none =>
    have looked : ¬ handler.isPassedBy ctx := by
      rw [isPassedBy, List.any_eq_true]
      rintro ⟨entry, listed, matched⟩
      exact List.find?_eq_none.mp found entry listed matched
    rw [if_neg looked]
    dsimp only
    rw [RateLimiter.acquire_empty]
    by_cases full : 1 ≤ handler.rateLimiter.capacity
    · rw [if_pos full, if_neg (not_lt.mpr full), stages_action _ rfl]
    · rw [if_neg full, if_pos (not_le.mp full)]
      rfl

/-! ## Two requests for one destination -/

variable {first second : RequestContext}

/-- No entry that the stages look up tells the two spellings apart. -/
structure Undistinguished (handler : ExtAuthzHandler) (first second : RequestContext) : Prop where
  bypass : ∀ entry ∈ handler.bypass.entries,
    first.sni.any (sniSuffixMatch entry.suffix) = second.sni.any (sniSuffixMatch entry.suffix)
  casb : ∀ state ∈ handler.casb, ∀ signature ∈ state.catalog,
    signature.hostMatches first = signature.hostMatches second
  categories : ∀ entry ∈ handler.categorizer.entries, hostMatches entry.host first.host =
      hostMatches entry.host second.host
  /-- Isolation takes one dot off, not two. -/
  rbi : handler.rbiEngine.isSome → first.host ≠ second.host →
    ¬ (EndsInDot first.host ∧ EndsInDot second.host)
  apps : handler.aiGovernanceEngine.isSome → ∀ app ∈ knownAiApps,
    hostMatchesDomain (asciiLower first.host) app.domain.toList =
      hostMatchesDomain (asciiLower second.host) app.domain.toList

variable (common : SameContext SameName first second)

include common in
/-- The hosts are equal, or one has a dot more. -/
theorem host_cases : first.host = second.host ∨ first.host ++ ['.'] = second.host ∨
      first.host = second.host ++ ['.'] := by
  rcases common.host with equal | ⟨value, other, spelt, here, there⟩
  · exact .inl equal
  · rw [here, there]
    exact spelt

/-- The host is told in the reason alone. -/
theorem stops_dlpStage_congr (handler : ExtAuthzHandler) (first second : RequestContext)
    (signals : RequestSignals) (body : Option (List UInt8)) :
    stops (handler.dlpStage first signals body) = stops (handler.dlpStage second signals body) := by
  unfold dlpStage
  dsimp only
  split <;> rfl

section

variable (common : SameContext SameName first second)
include common

theorem category_congr (undistinguished : handler.Undistinguished first second) :
    handler.category first = handler.category second := by
  have walked : ∀ entry ∈ handler.categorizer.entries, (hostMatches entry.host first.host &&
        entry.pathPrefix.all fun start => start.isPrefixOf first.path) =
      (hostMatches entry.host second.host &&
        entry.pathPrefix.all fun start => start.isPrefixOf second.path) := by
    intro entry listed
    rw [undistinguished.categories entry listed, common.path]
  rw [category, category, categorizeSync, categorizeSync,
    ← List.head?_filter, List.filter_congr walked, List.head?_filter]

/-- A dot at the end of one of the two hosts is not seen by isolation. -/
theorem normalizeHost_congr
    (plain : first.host ≠ second.host → ¬ (EndsInDot first.host ∧ EndsInDot second.host)) :
    Rbi.normalizeHost first.host = Rbi.normalizeHost second.host := by
  by_cases equal : first.host = second.host
  · rw [equal]
  · have apart := plain equal
    rcases host_cases common with same | longer | longer
    · exact absurd same equal
    · rw [← longer] at apart ⊢
      exact (Rbi.normalizeHost_append_dot fun ends =>
        apart ⟨ends, endsInDot_append_dot _⟩).symm
    · rw [longer] at apart ⊢
      exact Rbi.normalizeHost_append_dot fun ends => apart ⟨endsInDot_append_dot _, ends⟩

/-- What a host looks like does not depend on a dot at its end. -/
theorem heuristicAiApp_congr (path : Text) :
    heuristicAiApp (asciiLower first.host) path = heuristicAiApp (asciiLower second.host) path := by
  have longer : ∀ host : Text, host ≠ [] →
      heuristicAiApp (asciiLower (host ++ ['.'])) path = heuristicAiApp (asciiLower host) path := by
    intro host nonempty
    have nonempty' : asciiLower host ≠ [] := mt List.map_eq_nil_iff.mp nonempty
    rw [asciiLower_append_dot, heuristicAiApp_append_dot nonempty']
  rcases host_cases common with equal | dotted | dotted
  · rw [equal]
  · rw [← dotted, longer _ common.nonempty]
  · rw [dotted, longer _ common.nonemptyToo]

variable (undistinguished : handler.Undistinguished first second)
include undistinguished

theorem governance_congr : handler.governance first = handler.governance second := by
  unfold governance
  cases installed : handler.aiGovernanceEngine with
  | none => rfl
  | some policy =>
    rw [bind_some, bind_some, ← common.path]
    exact policy.evaluate_congr (undistinguished.apps (by rw [installed]; rfl))
      (heuristicAiApp_congr common (asciiLower first.path))

theorem isBlocked_congr (signals : RequestSignals) (body : Option (List UInt8)) :
    handler.isBlocked first signals body = handler.isBlocked second signals body := by
  unfold isBlocked
  rw [stops_dlpStage_congr handler first second]
  cases installed : handler.casb with
  | none => rfl
  | some state =>
    rw [bind_some, bind_some, InspectorState.inspect_congr
      (undistinguished.casb state installed) common.method common.path signals]

theorem isSentAway_congr : handler.isSentAway first = handler.isSentAway second := by
  unfold isSentAway
  rw [governance_congr common undistinguished, category_congr common undistinguished]
  cases installed : handler.rbiEngine with
  | none => rfl
  | some engine =>
    have hosts := normalizeHost_congr common (undistinguished.rbi (by rw [installed]; rfl))
    rw [bind_some, bind_some, engine.evaluate_congr hosts]

theorem isRefused_congr (body : Option (List UInt8)) :
    handler.isRefused first body = handler.isRefused second body := by
  unfold isRefused
  rw [governance_congr common undistinguished, category_congr common undistinguished,
    malwareStage, malwareStage, common.fileHash]

end

/-- The two requests are both passed by or neither is, and of those that are looked at and not
throttled both are denied or neither is, and both are sent away or neither is. -/
structure DecidedAlike (handler : ExtAuthzHandler) (signals : RequestSignals)
    (body : Option (List UInt8)) (first second : RequestContext) : Prop where
  passedBy : handler.isPassedBy first = handler.isPassedBy second
  denied : handler.isPassedBy first = false → 1 ≤ handler.rateLimiter.capacity →
    handler.isDenied first signals body = handler.isDenied second signals body
  redirected : handler.isPassedBy first = false → 1 ≤ handler.rateLimiter.capacity →
    handler.isRedirected first signals body = handler.isRedirected second signals body

/-- Contexts that no entry tells apart are decided alike. -/
theorem Undistinguished.decidedAlike (undistinguished : handler.Undistinguished first second)
    (common : SameContext SameName first second) (signals : RequestSignals)
    (body : Option (List UInt8)) : handler.DecidedAlike signals body first second := by
  have blocked := isBlocked_congr common undistinguished signals body
  have sentAway := isSentAway_congr common undistinguished
  refine ⟨?_, fun _ _ => ?_, fun _ _ => ?_⟩
  · refine Bool.eq_iff_iff.mpr ?_
    simp only [isPassedBy, List.any_eq_true]
    refine exists_congr fun entry => and_congr_right fun listed => ?_
    rw [undistinguished.bypass entry listed]
  · rw [isDenied, isDenied, blocked, sentAway, isRefused_congr common undistinguished]
  · rw [isRedirected, isRedirected, blocked, sentAway]

theorem evaluate_action_iff (handler : ExtAuthzHandler) (first second : RequestContext)
    (signals : RequestSignals) (body : Option (List UInt8)) (now later : Nat) :
    (handler.evaluate first signals body .empty now).1.action =
        (handler.evaluate second signals body .empty later).1.action ↔
      handler.DecidedAlike signals body first second := by
  have apart (ctx : RequestContext) : handler.isDenied ctx signals body = true →
      handler.isRedirected ctx signals body = false := by
    unfold isDenied isRedirected
    grind
  have apartFirst := apart first
  have apartSecond := apart second
  rw [evaluate_action_eq, evaluate_action_eq]
  constructor
  · intro same
    constructor <;> grind
  · rintro ⟨passedBy, denied, redirected⟩
    grind

def frontPage (host sni : String) : ExtAuthzRequest where
  headers := [(":method".toList, "GET".toList), (":scheme".toList, "https".toList),
    (":path".toList, "/".toList), ("host".toList, host.toList),
    ("x-sng-tenant".toList, "acme".toList), ("x-sng-principal".toList, "ada".toList),
    ("x-sng-sni".toList, sni.toList)]
  bodySha256 := none
  bodyB64 := none

def gamblingDenied : ExtAuthzHandler where
  categorizer := .install [⟨"evil.example".toList, none, "gambling".toList⟩]
  malware := fun _ => .unknown
  bypass := .new [⟨"bank.example".toList, "finance".toList⟩]
  rateLimiter := ⟨10, 1, by decide, by decide⟩
  denyPolicy := CategoryDenyPolicy.addExact {} ["gambling".toList]
  elevatedRiskMode := false
  casb := none
  yara := none
  contentScanner := none
  dlpEngine := none
  rbiEngine := none
  aiGovernanceEngine := none

def actionOn (handler : ExtAuthzHandler) (request : ExtAuthzRequest) : Option Action :=
  request.intoContext.toOption.map fun ctx =>
    (handler.evaluate ctx request.signals none .empty 0).1.action

theorem frontPage_same {host sni other otherSni : String}
    (hosts : SameName host.toList other.toList)
    (names : SameName sni.toList otherSni.toList) :
    SameRequest SameName (frontPage host sni) (frontPage other otherSni) where
  headers := by
    refine .cons ⟨rfl, .inl rfl⟩ (.cons ⟨rfl, .inl rfl⟩ (.cons ⟨rfl, .inl rfl⟩
      (.cons ⟨rfl, .inr ⟨.inl rfl, hosts⟩⟩ (.cons ⟨rfl, .inl rfl⟩ (.cons ⟨rfl, .inl rfl⟩
        (.cons ⟨rfl, .inr ⟨.inr rfl, names⟩⟩ .nil))))))
  bodySha256 := rfl
  bodyB64 := rfl

def shopsIsolated : ExtAuthzHandler := { gamblingDenied with
    rbiEngine := some ⟨Rbi.compile { explicitIsolate := ["shop.example".toList] },
      "https://rbi.example".toList⟩
    aiGovernanceEngine := some (AiGovernance.compile ⟨[], .block, .block⟩) }

def frontPageContext (host sni : String) : RequestContext :=
  ⟨"acme".toList, "ada".toList, "get".toList, "https".toList, host.toList, "/".toList,
    some sni.toList, none⟩

end ExtAuthzHandler

end ShieldNet.Swg
