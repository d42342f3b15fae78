import Mathlib.Tactic.NormNum
import ShieldNet.Dlp.Control

/-!
# One endpoint bundle for all rules

The agents of a tenant load one document with all the rules of its policies, and
compile them together. What the control plane lets through has to be what the
agent takes: the ids are distinct (`nodup_endpointRules_ids`), the document reads
back as the rules that were projected (`fromBundleJson_policy`), and fingerprints
and entity classes are checked as the agent checks them.

Expressions and dictionaries are not checked. The bundle is enforced exactly when
each of them compiles and all of them together can be built
(`endpoint_bundle_enforced_iff`); a dictionary of blanks fails the bundle with
every other rule in it (`blank_dictionary_disables_bundle`).
-/

namespace ShieldNet.Dlp

open Serde Dlp.DlpPolicy Json List
namespace Control

open Text (byteLength)
open Edge (hexEncode hexEncode_forall)
open RuleTables (Compiles expressionsOf wordsOf)

/-! ## Ids -/

theorem takeWhile_append_mark {mark : Char} {text : Text} (plain : mark ∉ text) (rest : Text) :
    (text ++ rest).takeWhile (· ≠ mark) = text ++ rest.takeWhile (· ≠ mark) := by
  refine takeWhile_append_of_pos fun c listed => decide_eq_true ?_
  rintro rfl
  exact plain listed

/-- A text splits at the first place of a mark in one way. -/
theorem split_at_mark {mark : Char} {one two rest others : Text} (first : mark ∉ one)
    (second : mark ∉ two) (same : one ++ mark :: rest = two ++ mark :: others) :
    one = two ∧ rest = others := by
  have cut := congrArg (takeWhile (· ≠ mark)) same
  rw [takeWhile_append_mark first, takeWhile_append_mark second] at cut
  obtain rfl : one = two := by simpa using cut
  exact ⟨rfl, (List.cons.inj (append_cancel_left same)).2⟩

theorem hexEncode_injective : Function.Injective hexEncode := by
  have digit : ∀ m < 16, ∀ n < 16, Nat.digitChar m = Nat.digitChar n → m = n := by decide
  intro one
  induction one with
  | nil =>
    intro two same
    cases two with
    | nil => rfl
    | cons => cases same
  | cons byte one ih =>
    intro two same
    cases two with
    | nil => cases same
    | cons other two =>
      have bound := byte.toNat_lt
      have otherBound := other.toNat_lt
      obtain ⟨high, same⟩ := List.cons.inj same
      obtain ⟨low, same⟩ := List.cons.inj same
      have highs := digit _ (by omega) _ (by omega) high
      have lows := digit _ (by omega) _ (by omega) low
      have bytes : byte = other := UInt8.toNat_inj.mp (by omega)
      rw [bytes, ih same]

/-- The digits of an id are what is left without the dashes. -/
theorem Uuid.filter_text (id : Uuid) : id.text.filter (· ≠ '-') = hexEncode id.bytes := by
  have plain : ∀ c ∈ hexEncode id.bytes, decide (c ≠ '-') :=
    fun c listed => hexEncode_forall (fun c => decide (c ≠ '-')) (by decide) listed
  have part : ∀ piece : Text, (∀ c ∈ piece, c ∈ hexEncode id.bytes) →
      piece.filter (· ≠ '-') = piece :=
    fun piece inside => filter_eq_self.mpr fun c listed => plain c (inside c listed)
  have dash : ∀ rest : Text, ('-' :: rest).filter (· ≠ '-') = rest.filter (· ≠ '-') := fun _ => rfl
  rw [Uuid.text]
  simp only [filter_append, dash]
  rw [part _ fun c listed => mem_of_mem_take listed,
    part _ fun c listed => mem_of_mem_drop (mem_of_mem_take listed),
    part _ fun c listed => mem_of_mem_drop (mem_of_mem_take listed),
    part _ fun c listed => mem_of_mem_drop (mem_of_mem_take listed),
    part _ fun c listed => mem_of_mem_drop listed]
  have join : ∀ (digits : Text) (skip size : Nat),
      (digits.drop skip).take size ++ digits.drop (skip + size) = digits.drop skip := by
    intro digits skip size
    rw [← drop_drop, take_append_drop]
  rw [join _ 16 4, join _ 12 4, join _ 8 4, take_append_drop]

theorem Uuid.text_injective : Function.Injective Uuid.text := by
  intro one two same
  have bytes : hexEncode one.bytes = hexEncode two.bytes := by
    rw [← one.filter_text, ← two.filter_text, same]
  obtain ⟨first, size⟩ := one
  obtain ⟨second, size⟩ := two
  obtain rfl : first = second := hexEncode_injective bytes
  rfl

theorem Uuid.dash_mem_text (id : Uuid) : '-' ∈ id.text := by simp [Uuid.text]

theorem Uuid.colon_not_mem_text (id : Uuid) : ':' ∉ id.text := by
  intro listed
  have kept : ':' ∈ id.text.filter (· ≠ '-') := mem_filter.mpr ⟨listed, rfl⟩
  rw [id.filter_text] at kept
  exact hexEncode_forall (fun c => c ≠ ':') (by decide) kept rfl

theorem colon_not_mem_toDigits (n : Nat) : ':' ∉ Nat.toDigits 10 n := by
  intro listed
  have digit := Nat.isDigit_of_mem_toDigits (by decide) (by decide) listed
  exact absurd digit (by decide)

theorem toDigits_injective : Function.Injective (Nat.toDigits 10) := by
  intro one two same
  rw [← Nat.ofDigitChars_ten_toDigits (n := one), same, Nat.ofDigitChars_ten_toDigits]

/-- A suffix of an id is empty or set off by a colon. -/
def SetOff (suffix : Text) : Prop := suffix = [] ∨ ∃ rest, suffix = ':' :: rest

theorem takeWhile_setOff {digits suffix : Text} (plain : ':' ∉ digits) (setOff : SetOff suffix) :
    (digits ++ suffix).takeWhile (· ≠ ':') = digits := by
  rw [takeWhile_append_mark plain]
  rcases setOff with rfl | ⟨rest, rfl⟩
  · simp
  · simp

/-- An id of a policy's rule names the policy, the place and the path. -/
theorem ruleId_inj {one two : Uuid} {place other : Nat} {suffix ending : Text}
    (setOff : SetOff suffix) (endingOff : SetOff ending)
    (same : one.text ++ ':' :: (Nat.toDigits 10 place ++ suffix) =
      two.text ++ ':' :: (Nat.toDigits 10 other ++ ending)) :
    one = two ∧ place = other ∧ suffix = ending := by
  obtain ⟨texts, rests⟩ := split_at_mark one.colon_not_mem_text two.colon_not_mem_text same
  have digits : Nat.toDigits 10 place = Nat.toDigits 10 other := by
    rw [← takeWhile_setOff (colon_not_mem_toDigits place) setOff, rests,
      takeWhile_setOff (colon_not_mem_toDigits other) endingOff]
  rw [digits] at rests
  exact ⟨Uuid.text_injective texts, toDigits_injective digits, append_cancel_left rests⟩

variable {path : EndpointMatch}

theorem setOff_of_mem {rule : DlpRule} (listed : path ∈ endpointMatchPaths rule) :
    SetOff path.idSuffix := by
  rw [endpointMatchPaths] at listed
  split at listed
  · rcases mem_cons.mp listed with rfl | listed
    · exact .inr ⟨_, rfl⟩
    · rw [mem_singleton.mp listed]
      exact .inr ⟨_, rfl⟩
  · split at listed
    · rw [mem_singleton.mp listed]
      exact .inl rfl
    · rw [mem_singleton.mp listed]
      exact .inl rfl

variable {rule : EndpointDlpRule} {policy : DlpPolicy} {entry : DlpRule × Nat}

theorem mem_endpointRulesOf : rule ∈ endpointRulesOf policy entry ↔
    ∃ path ∈ endpointMatchPaths entry.1, endpointRule policy entry.1 entry.2 path = some rule :=
  mem_filterMap

theorem endpointRule_eq_some {source : DlpRule} {place : Nat}
    (projected : endpointRule policy source place path = some rule) :
    rule.id = policy.id.text ++ ':' :: (Nat.toDigits 10 place ++ path.idSuffix) ∧
      rule.patternType = source.type ∧ rule.patternData = path.patternData ∧
      validEndpointPatternData source.type path.patternData := by
  rw [endpointRule] at projected
  split at projected
  case isTrue valid =>
    cases projected
    exact ⟨rfl, rfl, rfl, valid⟩
  case isFalse => cases projected

theorem pairwise_suffixes (rule : DlpRule) :
    (endpointMatchPaths rule).Pairwise fun one two => one.idSuffix ≠ two.idSuffix := by
  rw [endpointMatchPaths]
  split
  · simp
  · split <;> simp

theorem nodup_endpointRulesOf_ids (policy : DlpPolicy) (entry : DlpRule × Nat) :
    ((endpointRulesOf policy entry).map EndpointDlpRule.id).Nodup := by
  rw [Nodup, pairwise_map, endpointRulesOf, pairwise_filterMap]
  refine (pairwise_suffixes entry.1).imp fun different rule projected other second same => ?_
  rw [(endpointRule_eq_some projected).1, (endpointRule_eq_some second).1] at same
  have rests := (List.cons.inj (append_cancel_left same)).2
  exact different (append_cancel_left rests)

theorem id_of_mem_endpointRulesOf {id : Text}
    (listed : id ∈ (endpointRulesOf policy entry).map EndpointDlpRule.id) :
    ∃ suffix, SetOff suffix ∧
      id = policy.id.text ++ ':' :: (Nat.toDigits 10 entry.2 ++ suffix) := by
  obtain ⟨rule, projected, rfl⟩ := mem_map.mp listed
  obtain ⟨path, paths, projected⟩ := mem_endpointRulesOf.mp projected
  exact ⟨path.idSuffix, setOff_of_mem paths, (endpointRule_eq_some projected).1⟩

theorem id_of_mem_policyRules {id : Text}
    (listed : id ∈ (policyRules policy).map EndpointDlpRule.id) :
    ∃ place suffix, SetOff suffix ∧
      id = policy.id.text ++ ':' :: (Nat.toDigits 10 place ++ suffix) := by
  rw [policyRules, map_flatMap, mem_flatMap] at listed
  obtain ⟨entry, -, listed⟩ := listed
  exact ⟨entry.2, id_of_mem_endpointRulesOf listed⟩

theorem nodup_policyRules_ids (policy : DlpPolicy) :
    ((policyRules policy).map EndpointDlpRule.id).Nodup := by
  have places : policy.rules.zipIdx.Pairwise fun one two => one.2 ≠ two.2 := by
    rw [← pairwise_map, zipIdx_map_snd]
    exact nodup_range'
  rw [policyRules, map_flatMap, nodup_flatMap]
  refine ⟨fun entry _ => nodup_endpointRulesOf_ids policy entry, places.imp fun different => ?_⟩
  intro id one two
  obtain ⟨suffix, setOff, rfl⟩ := id_of_mem_endpointRulesOf one
  obtain ⟨ending, endingOff, same⟩ := id_of_mem_endpointRulesOf two
  exact different (ruleId_inj setOff endingOff same).2.1

theorem nodup_compileEndpointRules_ids {policies : List DlpPolicy}
    (distinct : (policies.map DlpPolicy.id).Nodup) :
    ((compileEndpointRules policies).map EndpointDlpRule.id).Nodup := by
  have apart : (policies.filter DlpPolicy.enabled).Pairwise fun one two => one.id ≠ two.id := by
    rw [← pairwise_map]
    exact (filter_sublist.map _).nodup distinct
  rw [compileEndpointRules, map_flatMap, nodup_flatMap]
  refine ⟨fun policy _ => nodup_policyRules_ids policy, apart.imp fun different => ?_⟩
  intro id one two
  obtain ⟨place, suffix, setOff, rfl⟩ := id_of_mem_policyRules one
  obtain ⟨other, ending, endingOff, same⟩ := id_of_mem_policyRules two
  exact different (ruleId_inj setOff endingOff same).1

theorem newFingerprintRules_sublist (seen : List Text) (fingerprints : List DlpFingerprint) :
    (newFingerprintRules seen fingerprints).Sublist (fingerprints.map fingerprintRule) := by
  induction fingerprints generalizing seen with
  | nil => exact .slnil
  | cons fingerprint rest ih =>
    rw [newFingerprintRules, map_cons]
    split
    · exact (ih seen).cons _
    · split
      · exact (ih seen).cons _
      · exact (ih _).cons_cons _

theorem nodup_fingerprintRules_ids (fingerprints : Option (Table DlpFingerprint.id))
    (existing : List EndpointDlpRule) :
    ((fingerprintRules fingerprints existing).map EndpointDlpRule.id).Nodup := by
  cases fingerprints with
  | none => exact nodup_nil
  | some fingerprints =>
    refine ((newFingerprintRules_sublist _ _).map _).nodup ?_
    rw [map_map]
    have distinct : ((listAll fingerprints).map DlpFingerprint.id).Nodup :=
      ((perm_insertionSort _ _).map _).nodup_iff.mpr fingerprints.distinct
    have ids : EndpointDlpRule.id ∘ fingerprintRule =
        (fun id : Uuid => "fingerprint:".toList ++ id.text) ∘ DlpFingerprint.id := rfl
    rw [ids, ← map_map]
    exact distinct.map fun one two same => Uuid.text_injective (append_cancel_left same)

variable {seen : List Text}

theorem mem_newFingerprintRules {fingerprints : List DlpFingerprint}
    (listed : rule ∈ newFingerprintRules seen fingerprints) :
    ∃ fingerprint, rule = fingerprintRule fingerprint ∧ fingerprint.hash.length = 8 := by
  induction fingerprints generalizing seen with
  | nil => cases listed
  | cons fingerprint rest ih =>
    rw [newFingerprintRules] at listed
    split at listed
    case isTrue => exact ih listed
    case isFalse sized =>
      split at listed
      case isTrue => exact ih listed
      rcases mem_cons.mp listed with rfl | later
      · exact ⟨fingerprint, rfl, not_not.mp sized⟩
      · exact ih later

theorem mem_fingerprintRules {fingerprints : Option (Table DlpFingerprint.id)}
    {existing : List EndpointDlpRule} (listed : rule ∈ fingerprintRules fingerprints existing) :
    ∃ fingerprint, rule = fingerprintRule fingerprint ∧ fingerprint.hash.length = 8 := by
  cases fingerprints with
  | none => cases listed
  | some => exact mem_newFingerprintRules listed

/-- **The ids of a bundle's rules are distinct.** -/
theorem nodup_endpointRules_ids (service : Service) :
    (service.endpointRules.map EndpointDlpRule.id).Nodup := by
  have enabled : (service.policies.listEnabled.map DlpPolicy.id).Nodup :=
    ((perm_insertionSort _ _).map _).nodup_iff.mpr
      ((filter_sublist.map _).nodup service.policies.table.distinct)
  rw [Service.endpointRules, map_append, nodup_append']
  refine ⟨nodup_compileEndpointRules_ids enabled, nodup_fingerprintRules_ids _ _, ?_⟩
  intro id projected registered
  rw [compileEndpointRules, map_flatMap, mem_flatMap] at projected
  obtain ⟨policy, -, projected⟩ := projected
  obtain ⟨place, suffix, -, rfl⟩ := id_of_mem_policyRules projected
  obtain ⟨rule, listed, same⟩ := mem_map.mp registered
  obtain ⟨fingerprint, rfl, -⟩ := mem_fingerprintRules listed
  have marked : "fingerprint".toList ++ ':' :: fingerprint.id.text =
      policy.id.text ++ ':' :: (Nat.toDigits 10 place ++ suffix) := same
  have texts := (split_at_mark (by decide) policy.id.colon_not_mem_text marked).1
  exact absurd (texts ▸ policy.id.dash_mem_text) (by decide)

/-- What the service has checked about every rule of a bundle. -/
structure EndpointDlpRule.Checked (rule : EndpointDlpRule) : Prop where
  named : rule.id ≠ []
  type : validRuleType rule.patternType = true
  data : validEndpointPatternData rule.patternType rule.patternData = true

theorem length_hexEncode (bytes : List UInt8) : (hexEncode bytes).length = 2 * bytes.length := by
  induction bytes with
  | nil => rfl
  | cons byte rest ih =>
    change (hexEncode rest).length + 1 + 1 = _
    rw [ih, length_cons]
    omega

theorem byteLength_of_ascii {text : Text} (ascii : ∀ c ∈ text, c.utf8Size = 1) :
    byteLength text = text.length := by
  rw [byteLength, map_congr_left ascii]
  simp

theorem isHex16_hexEncode {hash : List UInt8} (size : hash.length = 8) :
    isHex16 (hexEncode hash) := by
  have digits : ∀ c ∈ hexEncode hash, isHexDigit c ∧ c.utf8Size = 1 := fun c listed =>
    hexEncode_forall (fun c => isHexDigit c ∧ c.utf8Size = 1) (by decide) listed
  rw [isHex16, isHexLen, byteLength_of_ascii fun c listed => (digits c listed).2, length_hexEncode,
    size, all_eq_true.mpr fun c listed => (digits c listed).1]
  rfl

variable {service : Service}

theorem checked_of_mem (listed : rule ∈ service.endpointRules) : rule.Checked := by
  rcases mem_append.mp listed with projected | registered
  · obtain ⟨policy, enabled, projected⟩ := mem_flatMap.mp projected
    obtain ⟨⟨source, place⟩, stored, projected⟩ := mem_flatMap.mp projected
    obtain ⟨path, -, projected⟩ := mem_endpointRulesOf.mp projected
    obtain ⟨id, type, data, valid⟩ := endpointRule_eq_some projected
    have row : policy ∈ service.policies.table.rows := by
      have listed := (mem_filter.mp enabled).1
      rw [PolicyTable.listEnabled, mem_insertionSort, mem_filter] at listed
      exact listed.1
    have accepted := service.policies.accepted policy row
    rw [DlpPolicy.accepted, Bool.and_eq_true, all_eq_true] at accepted
    have member : source ∈ policy.rules := fst_mem_of_mem_zipIdx stored
    refine ⟨?_, ?_, ?_⟩
    · rw [id]
      simp
    · rw [type]
      exact accepted.2 source member
    · rw [type, data]
      exact valid
  · obtain ⟨fingerprint, rfl, size⟩ := mem_fingerprintRules registered
    refine ⟨fun empty => absurd (append_eq_nil_iff.mp empty).1 (by decide), rfl, ?_⟩
    have digits := isHex16_hexEncode size
    have some : hexEncode fingerprint.hash ≠ [] := by
      rw [← length_pos_iff, length_hexEncode, size]
      decide
    change (if hexEncode fingerprint.hash = [] then false
      else isHex16 (hexEncode fingerprint.hash)) =
      true
    rw [if_neg some, digits]

/-! ## The document is read back -/

/-- The type of a rule, for the agent. The types that are not known are not let through. -/
def agentType : DlpRuleType → PatternType
  | .regex => .regex
  | .mipLabel => .mipLabel
  | .fingerprint => .fingerprint
  | .keyword => .keyword
  | .mlNer => .mlNer
  | .other _ => .regex

def agentRule (rule : EndpointDlpRule) : Dlp.DlpRule where
  id := rule.id
  name := rule.name
  patternType := agentType rule.patternType
  patternData := rule.patternData
  severity := rule.severity
  action := rule.action
  channels := rule.channels

theorem ofName_asStr_type {type : DlpRuleType} (valid : validRuleType type) :
    PatternType.ofName type.asStr = some (agentType type) := by
  cases type with
  | other => cases valid
  | _ => rfl

@[simp] theorem readText_writeText (text : Text) : readText (writeText text) = some text := by
  simp [readText, writeText, string]

theorem mapM_read_map {α : Type} {read : Json → Option α} {write : α → Json} {values : List α}
    (each : ∀ value ∈ values, read (write value) = some value) :
    (values.map write).mapM read = some values := by
  rw [mapM_eq_some_iff, forall₂_map_left_iff, forall₂_same]
  exact each

theorem read_rule (checked : rule.Checked) : DlpRule.read rule.toJson = some (agentRule rule) := by
  have channels : (rule.channels.map fun channel => str channel.asStr).mapM
      (unitEnum DlpChannel.ofName) = some rule.channels :=
    mapM_read_map fun channel _ => DlpChannel.ofName_asStr channel
  simp [DlpRule.read, EndpointDlpRule.toJson, required, defaulted, valuesAt,
    unitEnum, vec, ofName_asStr_type checked.type, channels, agentRule]

theorem read_channelConfig (config : ChannelConfig) :
    ChannelConfig.read (channelConfigToJson config) = some config := by
  obtain ⟨enabled, _ | action⟩ := config
  · simp [ChannelConfig.read, channelConfigToJson, required, defaulted, valuesAt,
      Serde.bool]
  · simp [ChannelConfig.read, channelConfigToJson, required, defaulted, valuesAt,
      Serde.bool, Serde.option, unitEnum]

theorem exists_readChannels (channels : Assoc DlpChannel ChannelConfig) :
    ∃ stored, readChannels (channelsToJson channels) = some stored := by
  rw [channelsToJson, readChannels]
  have members : ∀ member ∈ (channels.entries.map fun entry =>
      (entry.1.asStr, channelConfigToJson entry.2)).insertionSort fun one two => one.1 ≤ two.1,
      ∃ (channel : DlpChannel) (config : ChannelConfig),
        member = (channel.asStr, channelConfigToJson config) := by
    intro member listed
    rw [mem_insertionSort] at listed
    obtain ⟨entry, -, rfl⟩ := mem_map.mp listed
    exact ⟨entry.1, entry.2, rfl⟩
  generalize ((channels.entries.map fun entry =>
    (entry.1.asStr, channelConfigToJson entry.2)).insertionSort fun one two => one.1 ≤ two.1) =
      written at members
  generalize (Assoc.empty : Assoc DlpChannel ChannelConfig) = start
  induction written generalizing start with
  | nil => exact ⟨start, rfl⟩
  | cons member rest ih =>
    obtain ⟨channel, config, rfl⟩ := members member mem_cons_self
    rw [foldlM_cons]
    simp only [DlpChannel.ofName_asStr, read_channelConfig, Option.bind_eq_bind, Option.bind_some]
    exact ih (fun other listed => members other (mem_cons_of_mem _ listed)) _

/-- The policy for AI applications that every bundle carries, as the agent holds it. -/
def agentAiApp (blockedApps : List Text) : AiAppPolicy :=
  ⟨true, false, 9 / 10, 1 / 2, .high, blockedApps⟩

theorem float_blockConfidence : float (.num "0.9") = some (9 / 10) := by decide +kernel

theorem float_minReportConfidence : float (.num "0.5") = some (1 / 2) := by decide +kernel

theorem read_aiApp (blockedApps : List Text) :
    AiAppPolicy.read
      ({ defaultEndpointAiAppPolicy with blockedApps } : EndpointAiAppPolicy).toJson =
      some (agentAiApp blockedApps) := by
  have apps : (blockedApps.map writeText).mapM readText = some blockedApps :=
    mapM_read_map fun app _ => readText_writeText app
  by_cases none : blockedApps = []
  · simp [AiAppPolicy.read, EndpointAiAppPolicy.toJson, defaultEndpointAiAppPolicy, required,
      defaulted, valuesAt, Serde.bool, unitEnum, float_blockConfidence,
      float_minReportConfidence, none, agentAiApp]
  · simp [AiAppPolicy.read, EndpointAiAppPolicy.toJson, defaultEndpointAiAppPolicy, required,
      defaulted, valuesAt, Serde.bool, unitEnum, vec, float_blockConfidence,
      float_minReportConfidence, none, apps, agentAiApp]

theorem valuesAt_optional {α : Type} (key name : String) (write : α → Json) (value : Option α) :
    valuesAt key (value.map fun value => (name, write value)).toList =
      if name = key then (value.map write).toList else [] := by
  cases value with
  | none => simp
  | some value =>
    by_cases same : name = key
    · simp [valuesAt, same]
    · simp [valuesAt, same]

variable {rules : List EndpointDlpRule}

theorem read_policy (checked : ∀ rule ∈ rules, rule.Checked)
    (channels : Assoc DlpChannel ChannelConfig) (model : Option EndpointDlpModel)
    (blockedApps : List Text) :
    ∃ stored, read (bundlePolicy rules channels model blockedApps).toJson =
      some ⟨1, .endpoint, .dlp, rules.map agentRule, [], stored,
        some (agentAiApp blockedApps)⟩ := by
  have rulesRead : (rules.map EndpointDlpRule.toJson).mapM DlpRule.read =
      some (rules.map agentRule) := by
    rw [mapM_eq_some_iff, forall₂_map_left_iff, forall₂_map_right_iff, forall₂_same]
    exact fun rule listed => read_rule (checked rule listed)
  have versionRead : unsigned 4294967296 (.num (Nat.repr 1)) = some 1 := by decide
  have targetRead : unitEnum BundleTarget.ofName (.str Policy.BundleTarget.endpoint.asStr) =
      some .endpoint := rfl
  have domainRead : unitEnum Policy.EnforcementDomain.ofName (.str endpointDomain) =
      some .dlp := rfl
  have aiRead : option AiAppPolicy.read
      ({ defaultEndpointAiAppPolicy with blockedApps } : EndpointAiAppPolicy).toJson =
        some (some (agentAiApp blockedApps)) := by
    rw [← Option.map_some, ← read_aiApp]
    rfl
  obtain ⟨stored, channelsRead⟩ := exists_readChannels channels
  rw [EndpointDlpPolicy.toJson, bundlePolicy, Dlp.DlpPolicy.read]
  by_cases none : channels.entries = []
  · simp [defaulted, valuesAt_cons_of_ne, valuesAt_optional, none, vec,
      endpointSchemaVersion, rulesRead, versionRead, targetRead, domainRead, aiRead]
  · simp [defaulted, valuesAt_cons_of_ne, valuesAt_optional, none, vec,
      endpointSchemaVersion, rulesRead, versionRead, targetRead, domainRead, aiRead, channelsRead]

/-- Ids that are there and differ pass. -/
theorem checkIds_eq_ok {empty duplicate : String} {ids : List Text} (named : ∀ id ∈ ids, id ≠ [])
    (distinct : (ids ++ seen).Nodup) : checkIds empty duplicate seen ids = .ok () := by
  induction ids generalizing seen with
  | nil => rfl
  | cons id rest ih =>
    rw [forall_mem_cons] at named
    have fresh : id ∉ seen := fun taken =>
      (nodup_cons.mp distinct).1 (mem_append_right _ taken)
    rw [checkIds, if_neg named.1, if_neg fresh]
    exact ih named.2 (nodup_middle.mpr distinct)

theorem validateRules_eq_ok (checked : ∀ rule ∈ rules, rule.Checked)
    (distinct : (rules.map EndpointDlpRule.id ++ seen).Nodup) :
    validateRules seen rules = .ok () := by
  induction rules generalizing seen with
  | nil => rfl
  | cons rule rest ih =>
    rw [forall_mem_cons] at checked
    have fresh : rule.id ∉ seen := fun taken =>
      (nodup_cons.mp distinct).1 (mem_append_right _ taken)
    rw [validateRules, if_neg checked.1.named, if_neg fresh, checked.1.type, if_neg (by decide)]
    exact ih checked.2 (nodup_middle.mpr distinct)

theorem checkDatasets_eq_ok (rules : List EndpointDlpRule) :
    checkDatasets [] (rules.map agentRule) = .ok () := by
  induction rules with
  | nil => rfl
  | cons rule rest ih =>
    have other : (agentRule rule).patternType ≠ .edm := by
      change agentType rule.patternType ≠ .edm
      cases rule.patternType <;> exact PatternType.noConfusion
    rw [map_cons, checkDatasets, if_neg fun edm => other edm.1]
    exact ih

section

variable (checked : ∀ rule ∈ rules, rule.Checked) (distinct : (rules.map EndpointDlpRule.id).Nodup)
  (channels : Assoc DlpChannel ChannelConfig) (model : Option EndpointDlpModel)
  (blockedApps : List Text)
include checked distinct channels model blockedApps

/-- **The agent takes the document and has the rules that were projected.** -/
theorem fromBundleJson_policy : ∃ policy, fromBundleJson
      (bundlePolicy rules channels model blockedApps).toJson = .ok policy ∧
    policy.rules = rules.map agentRule ∧ policy.edmDatasets = [] := by
  obtain ⟨stored, read⟩ := read_policy checked channels model blockedApps
  have ids : (rules.map agentRule).map DlpRule.id = rules.map EndpointDlpRule.id := by
    rw [map_map]
    rfl
  have named : ∀ id ∈ rules.map EndpointDlpRule.id, id ≠ [] := by
    intro id listed
    obtain ⟨rule, member, rfl⟩ := mem_map.mp listed
    exact (checked rule member).named
  have confident : (agentAiApp blockedApps).check = .ok () := by
    have block : checkConfidence "block_confidence" (9 / 10) = .ok () := if_pos (by norm_num)
    have report : checkConfidence "min_report_confidence" (1 / 2) = .ok () := if_pos (by norm_num)
    rw [AiAppPolicy.check, agentAiApp, block, report]
    rfl
  refine ⟨⟨1, .endpoint, .dlp, rules.map agentRule, [], stored, some (agentAiApp blockedApps)⟩, ?_,
    rfl, rfl⟩
  have valid : validate ⟨1, .endpoint, .dlp, rules.map agentRule, [], stored,
      some (agentAiApp blockedApps)⟩ = .ok () := by
    rw [validate, if_neg (by simp), if_neg (by simp),
      if_neg (by simp [maxSupportedSchemaVersion]), ids,
      checkIds_eq_ok named (by rwa [append_nil])]
    rw [checkDatasets_eq_ok]
    exact confident
  rw [fromBundleJson, read]
  dsimp only
  rw [valid]
  rfl

theorem validate_bundlePolicy :
    validateEndpointPolicy (bundlePolicy rules channels model blockedApps) = .ok () := by
  have block : validateConfidence "block_confidence" "0.9" = .ok () := by
    rw [validateConfidence, float_blockConfidence]
    exact if_neg (by norm_num)
  have report : validateConfidence "min_report_confidence" "0.5" = .ok () := by
    rw [validateConfidence, float_minReportConfidence]
    exact if_neg (by norm_num)
  rw [validateEndpointPolicy, bundlePolicy, if_neg (by simp), if_neg (by simp),
    if_neg (by simp), validateRules_eq_ok checked (by rwa [append_nil])]
  simp only [defaultEndpointAiAppPolicy, block, report]
  rfl

end

/-! ## Enforcement -/

theorem hexDigitValue_of_isHexDigit {c : Char} (digit : isHexDigit c) :
    (hexDigitValue c).isSome := by
  rw [isHexDigit] at digit
  rw [hexDigitValue]
  split
  · rfl
  · split
    · rfl
    · split
      · rfl
      · simp_all

variable {data : Text}

/-- What the service lets through as a hash, the agent reads as one. -/
theorem exists_parseSimhashHex (digits : isHex16 data) :
    ∃ code, parseSimhashHex data = some code := by
  rw [isHex16, isHexLen, Bool.and_eq_true, all_eq_true] at digits
  obtain ⟨size, each⟩ := digits
  have unsigned : Text.stripPrefix ['+'] data = none := by
    rw [Text.stripPrefix, if_neg]
    intro signed
    obtain ⟨rest, rfl⟩ := isPrefixOf_iff_prefix.mp signed
    exact absurd (each '+' (mem_append_left _ mem_cons_self)) (by decide)
  have values : (data.mapM hexDigitValue).isSome :=
    isSome_mapM_iff.mpr fun c listed => hexDigitValue_of_isHexDigit (each c listed)
  obtain ⟨digits, parsed⟩ := Option.isSome_iff_exists.mp values
  rw [parseSimhashHex, if_neg (not_not.mpr (beq_iff_eq.mp size)), unsigned,
    Option.getD_none, parsed]
  exact ⟨_, rfl⟩

theorem exists_fromWire {name : Text}
    (known : (endpointEntityClasses.any fun known => known.toList = name)) :
    ∃ kind, EntityClass.fromWire name = some kind := by
  have each : ∀ known ∈ endpointEntityClasses,
      (EntityClass.fromWire known.toList).isSome := by decide
  obtain ⟨wire, listed, same⟩ := any_eq_true.mp known
  rw [← of_decide_eq_true same]
  exact Option.isSome_iff_exists.mp (each wire listed)

/-- What the service lets through as a list of classes, the agent reads as one. -/
theorem exists_parseEntityClasses (valid : validEntityClassCsv data) :
    ∃ targets, parseEntityClasses data = .ok targets := by
  rw [validEntityClassCsv, Bool.and_eq_true, all_eq_true] at valid
  obtain ⟨known, some⟩ := valid
  have loop : ∀ (names : List Text) (seen : List EntityClass),
      (∀ name ∈ names, ∃ kind, EntityClass.fromWire name = .some kind) →
      ∃ kinds, names.foldlM addEntityClass seen = .ok kinds ∧
        (names ≠ [] ∨ seen ≠ [] → kinds ≠ []) := by
    intro names
    induction names with
    | nil => exact fun seen _ => ⟨seen, rfl, fun either => either.resolve_left fun no => no rfl⟩
    | cons name rest ih =>
      intro seen each
      obtain ⟨kind, wire⟩ := each name mem_cons_self
      obtain ⟨kinds, folded, kept⟩ := ih (if kind ∈ seen then seen else seen ++ [kind])
        fun other listed => each other (mem_cons_of_mem _ listed)
      refine ⟨kinds, ?_, fun _ => kept (.inr ?_)⟩
      · rw [foldlM_cons, addEntityClass, wire]
        exact folded
      · split
        case isTrue listed => exact ne_nil_of_mem listed
        case isFalse => simp
  obtain ⟨kinds, folded, kept⟩ := loop (commaParts data) [] fun name listed =>
    exists_fromWire (known name listed)
  have nonempty : commaParts data ≠ [] := by
    intro none
    rw [none] at some
    cases some
  refine ⟨kinds, ?_⟩
  rw [parseEntityClasses, folded]
  exact if_neg (kept (.inl nonempty))

theorem checked_payload {type : DlpRuleType} (valid : validEndpointPatternData type data) :
    match type with
    | .fingerprint => isHex16 data
    | .mlNer => validEntityClassCsv data
    | _ => True := by
  unfold validEndpointPatternData at valid
  split at valid
  case isTrue => cases valid
  cases type with
  | fingerprint => exact valid
  | mlNer => exact valid
  | _ => exact trivial

/-- The data of the rule is such that the agent compiles the rule by itself. Fingerprints, labels
and classes have been checked before they get here. -/
def WorksAlone (libraries : Libraries) (rule : EndpointDlpRule) : Prop :=
  match rule.patternType with
  | .regex => ∃ regex, libraries.regexNew (resolvePattern rule.patternData) = .ok regex
  | .keyword => commaParts rule.patternData ≠ []
  | _ => True

theorem compiles_agentRule_iff {libraries : Libraries} (checked : rule.Checked) :
    Compiles libraries [] (agentRule rule) ↔ WorksAlone libraries rule := by
  obtain ⟨id, name, type, data, severity, action, channels⟩ := rule
  have payload := checked_payload checked.data
  cases type with
  | fingerprint => exact iff_of_true (exists_parseSimhashHex payload) trivial
  | mlNer => exact iff_of_true (exists_parseEntityClasses payload) trivial
  | other => cases checked.type
  | _ => exact Iff.rfl

/-- The repositories answer. That no model is assigned is an answer. -/
structure Service.Answers (service : Service) : Prop where
  model : ∀ error, service.assignedModel = some (.error error) → error = .notFound
  blockedApps : ∀ cause, service.blockedApps ≠ some (.error cause)

theorem exists_endpointModel (answers : service.Answers) (rules : List EndpointDlpRule)
    : ∃ model, service.endpointModel rules = .ok model := by
  rw [Service.endpointModel]
  split
  case h_1 => exact ⟨none, rfl⟩
  case h_2 assigned registry =>
    split
    case isFalse => exact ⟨none, rfl⟩
    cases assigned with
    | ok model => exact ⟨_, rfl⟩
    | error error =>
      obtain rfl := answers.model error registry
      exact ⟨none, rfl⟩

/-- Where the repositories answer, there is a document, of the rules that were projected. -/
theorem exists_compileEndpointBundle (answers : service.Answers)
    (channels : Option (Assoc DlpChannel ChannelConfig)) :
    ∃ model blockedApps, service.compileEndpointBundle channels =
      .ok (bundlePolicy service.endpointRules (channels.getD defaultEndpointChannelConfig) model
        blockedApps).toJson := by
  obtain ⟨model, assigned⟩ := exists_endpointModel answers service.endpointRules
  obtain ⟨blockedApps, blocked⟩ : ∃ blockedApps, service.loadBlockedApps = .ok blockedApps := by
    rw [Service.loadBlockedApps]
    split
    case h_1 => exact ⟨[], rfl⟩
    case h_2 cause failed => exact absurd failed (answers.blockedApps cause)
    case h_3 blocked _ => exact ⟨blocked, rfl⟩
  refine ⟨model, blockedApps, ?_⟩
  have valid := validate_bundlePolicy (fun _ listed => checked_of_mem listed)
    (nodup_endpointRules_ids service) (channels.getD defaultEndpointChannelConfig) model blockedApps
  rw [Service.compileEndpointBundle, assigned]
  rw [blocked]
  change (validateEndpointPolicy (bundlePolicy service.endpointRules
    (channels.getD defaultEndpointChannelConfig) model blockedApps) >>= _) = _
  rw [valid]
  rfl

theorem mem_endpointRules {source : DlpRule} {place : Nat}
    (stored : policy ∈ service.policies.table.rows) (enabled : policy.enabled)
    (listed : policy.rules[place]? = some source) (paths : path ∈ endpointMatchPaths source)
    (projected : endpointRule policy source place path = some rule) :
    rule ∈ service.endpointRules := by
  refine mem_append_left _ (mem_flatMap.mpr ⟨policy, ?_, mem_flatMap.mpr
    ⟨(source, place), ?_, mem_endpointRulesOf.mpr ⟨path, paths, projected⟩⟩⟩)
  · rw [mem_filter, PolicyTable.listEnabled, mem_insertionSort, mem_filter]
    exact ⟨⟨stored, enabled⟩, enabled⟩
  · rw [mem_zipIdx_iff_getElem?]
    exact listed

/-- The agent takes the document and compiles all of its rules, and every rule of an enabled policy
whose payload can work has its place in the classifier. -/
def Service.Enforced (service : Service) (libraries : Libraries)
    (channels : Option (Assoc DlpChannel ChannelConfig)) (maxScanBytes : Nat)
    (mlDetector : Text → List Entity) : Prop :=
  ∃ document policy classifier, service.compileEndpointBundle channels = .ok document ∧
    fromBundleJson document = .ok policy ∧ policy.rules = service.endpointRules.map agentRule ∧
    compileWithModelEdm libraries policy.rules policy.edmDatasets maxScanBytes mlDetector =
      .ok classifier ∧
    classifier.tables.ruleCount = service.endpointRules.length ∧
    ∀ stored ∈ service.policies.table.rows, stored.enabled = true →
      ∀ (place : Nat) (source : DlpRule), stored.rules[place]? = some source →
      ∀ path ∈ endpointMatchPaths source,
        validEndpointPatternData source.type path.patternData = true →
        ∃ rule, endpointRule stored source place path = some rule ∧
          classifier.tables.Holds classifier.edmDatasets (agentRule rule)

/-- Every projected expression compiles and every projected dictionary has a word, and the set of
the expressions and the automaton of the words can be built. -/
structure Service.Buildable (service : Service) (libraries : Libraries) : Prop where
  alone : ∀ rule ∈ service.endpointRules, WorksAlone libraries rule
  regexSet : ∃ set, libraries.regexSetNew
    ((service.endpointRules.map agentRule).flatMap expressionsOf) = .ok set
  automaton : (service.endpointRules.map agentRule).flatMap (wordsOf libraries) = [] ∨
    ∃ machine, libraries.automatonNew
      ((service.endpointRules.map agentRule).flatMap (wordsOf libraries)) = .ok machine

theorem compilable_iff {libraries : Libraries} :
    Compilable libraries (service.endpointRules.map agentRule) ↔ service.Buildable libraries := by
  have each : (∀ rule ∈ service.endpointRules.map agentRule, Compiles libraries [] rule) ↔
      ∀ rule ∈ service.endpointRules, WorksAlone libraries rule := by
    rw [forall_mem_map]
    exact forall₂_congr fun _ listed => compiles_agentRule_iff (checked_of_mem listed)
  constructor
  · exact fun compilable => ⟨each.mp compilable.each, compilable.regexSet, compilable.automaton⟩
  · exact fun buildable => ⟨each.mpr buildable.alone, buildable.regexSet, buildable.automaton⟩

/-- **A bundle is enforced exactly when its expressions and dictionaries can be built.** The
document is taken in any case, as it has the projected rules in it. -/
theorem endpoint_bundle_enforced_iff (libraries : Libraries) (service : Service)
    (channels : Option (Assoc DlpChannel ChannelConfig)) (maxScanBytes : Nat)
    (mlDetector : Text → List Entity) (answers : service.Answers) :
    service.Enforced libraries channels maxScanBytes mlDetector ↔ service.Buildable libraries := by
  obtain ⟨model, blockedApps, document⟩ := exists_compileEndpointBundle answers channels
  obtain ⟨policy, accepted, rules, datasets⟩ :=
    fromBundleJson_policy (fun _ listed => checked_of_mem listed) (nodup_endpointRules_ids service)
      (channels.getD defaultEndpointChannelConfig) model blockedApps
  rw [← compilable_iff, ← exists_compile_iff maxScanBytes mlDetector]
  constructor
  · rintro ⟨other, taken, classifier, bundle, read, -, compiled, -⟩
    obtain rfl := Except.ok.inj (document.symm.trans bundle)
    obtain rfl := Except.ok.inj (accepted.symm.trans read)
    exact ⟨classifier, by rwa [rules, datasets] at compiled⟩
  · rintro ⟨classifier, compiled⟩
    have loaded := loaded_of_compile compiled
    refine ⟨_, policy, classifier, document, accepted, rules, ?_, ?_, ?_⟩
    · rw [rules, datasets]
      exact compiled
    · rw [loaded.filled.counted, length_map]
    · intro stored row enabled place source listed path paths valid
      refine ⟨_, if_pos valid, loaded.filled.holds _ (mem_map_of_mem ?_)⟩
      exact mem_endpointRules row enabled listed paths (if_pos valid)

/-! ## A dictionary without a word -/

def failure {α : Type} : Except DlpError α → Option DlpError
  | .ok _ => none
  | .error error => some error

def secrets : DlpPolicy where
  id := ⟨replicate 16 1, rfl⟩
  name := "secrets".toList
  rules := [⟨.keyword, "secret".toList, []⟩]
  action := .block
  enabled := true
  createdAt := 1

def blanks : DlpPolicy where
  id := ⟨replicate 16 2, rfl⟩
  name := "blanks".toList
  rules := [⟨.keyword, ",".toList, []⟩]
  action := .log
  enabled := true
  createdAt := 2

def secretService : Service where
  policies := ⟨⟨[secrets], by decide⟩, by decide⟩
  fingerprints := none
  assignedModel := none
  blockedApps := none

def mixedService : Service where
  policies := ⟨⟨[secrets, blanks], by decide⟩, by decide⟩
  fingerprints := none
  assignedModel := none
  blockedApps := none

theorem answers_of_none (model : service.assignedModel = none) (apps : service.blockedApps = none)
    : service.Answers where
  model error registry := by
    rw [model] at registry
    cases registry
  blockedApps cause := by
    rw [apps]
    simp

theorem secrets_enforced :
    secretService.Enforced asciiLibraries none 1048576 (fun _ => []) := by
  have rules : secretService.endpointRules =
      [⟨secrets.id.text ++ ":0".toList, "secrets".toList, .keyword, "secret".toList, .critical,
        .block, []⟩] := by
    decide +kernel
  refine (endpoint_bundle_enforced_iff asciiLibraries secretService none 1048576 (fun _ => [])
    (answers_of_none rfl rfl)).mpr ⟨?_, ⟨_, rfl⟩, .inr ⟨_, rfl⟩⟩
  intro rule listed
  rw [rules, mem_singleton] at listed
  rw [listed]
  change commaParts "secret".toList ≠ []
  decide +kernel

/-- The two policies are created one after the other, the bundle is built and taken, and then does
not compile: the rule that would by itself is not enforced. -/
theorem blank_dictionary_disables_bundle :
    (PolicyTable.empty.createPolicy secrets.id secrets >>= fun policies =>
      policies.createPolicy blanks.id blanks) = .ok mixedService.policies ∧
    ∃ document policy, mixedService.compileEndpointBundle none = .ok document ∧
      fromBundleJson document = .ok policy ∧
      failure (compileWithModelEdm asciiLibraries policy.rules policy.edmDatasets 1048576
          fun _ => []) =
        some (.ruleCompile (blanks.id.text ++ ":0".toList) "keyword dictionary is empty") ∧
      failure (compileWithModelEdm asciiLibraries (policy.rules.take 1) policy.edmDatasets 1048576
          fun _ => []) = none := by
  refine ⟨rfl, ?_⟩
  have answers : mixedService.Answers := answers_of_none rfl rfl
  obtain ⟨model, blockedApps, document⟩ := exists_compileEndpointBundle answers none
  obtain ⟨policy, accepted, rules, datasets⟩ :=
    fromBundleJson_policy (fun _ listed => checked_of_mem listed)
      (nodup_endpointRules_ids mixedService) _ model blockedApps
  refine ⟨_, policy, document, accepted, ?_, ?_⟩
  · rw [rules, datasets]
    decide +kernel
  · rw [rules, datasets]
    decide +kernel

end Control
end ShieldNet.Dlp
