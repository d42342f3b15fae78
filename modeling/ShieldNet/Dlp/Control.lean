import ShieldNet.Edge.Puller
import ShieldNet.Dlp.Classifier

/-!
# The endpoint bundle of the control plane

`internal/service/dlp/{service,endpoint}.go` over the table `dlp_policies`: the
policies of a tenant are created and patched one by one, and the enabled ones are
projected together with the registered fingerprints onto the one document that
the tenant's agents load.

The rows are those of one tenant. A description is never read, and the document
is the tree that `json.Marshal` writes.
-/

namespace ShieldNet.Dlp

open List
namespace Control

open Text (byteLength)
open Edge (hexEncode)
open Identity (RepositoryError)
open Policy (BundleTarget)

/-! ## Policies -/

structure Uuid where
  bytes : List UInt8
  size : bytes.length = 16
  deriving DecidableEq

def Uuid.zero : Uuid := ⟨replicate 16 0, rfl⟩

def Uuid.text (id : Uuid) : Text :=
  let digits := hexEncode id.bytes
  digits.take 8 ++ '-' :: ((digits.drop 8).take 4 ++ '-' :: ((digits.drop 12).take 4 ++
    '-' :: ((digits.drop 16).take 4 ++ '-' :: digits.drop 20)))

inductive DlpAction where
  | log
  | block
  | encrypt
  | redact
  | other (name : String)

inductive DlpRuleType where
  | regex
  | mipLabel
  | fingerprint
  | keyword
  | mlNer
  | other (name : String)
  deriving DecidableEq

def DlpRuleType.asStr : DlpRuleType → String
  | .regex => "regex"
  | .mipLabel => "mip_label"
  | .fingerprint => "fingerprint"
  | .keyword => "keyword"
  | .mlNer => "ml_ner"
  | .other name => name

structure DlpRule where
  type : DlpRuleType
  pattern : Text
  sensitivityLevel : Text

structure DlpPolicy where
  id : Uuid
  name : Text
  rules : List DlpRule
  action : DlpAction
  enabled : Bool
  createdAt : Nat

/-- `nil` leaves a column as it is. -/
structure DlpPolicyPatch where
  name : Option Text
  rules : Option (List DlpRule)
  action : Option DlpAction
  enabled : Option Bool

def validAction : DlpAction → Bool
  | .log | .block | .encrypt | .redact => true
  | .other _ => false

def validRuleType : DlpRuleType → Bool
  | .regex | .mipLabel | .fingerprint | .keyword | .mlNer => true
  | .other _ => false

def DlpPolicy.accepted (policy : DlpPolicy) : Bool :=
  validAction policy.action && policy.rules.all fun rule => validRuleType rule.type

structure PolicyTable where
  table : Table DlpPolicy.id
  accepted : ∀ policy ∈ table.rows, policy.accepted = true

def PolicyTable.empty : PolicyTable := ⟨Table.empty, fun _ listed => absurd listed not_mem_nil⟩

def DlpPolicyPatch.apply (patch : DlpPolicyPatch) (policy : DlpPolicy) : DlpPolicy where
  id := policy.id
  name := patch.name.getD policy.name
  rules := patch.rules.getD policy.rules
  action := patch.action.getD policy.action
  enabled := patch.enabled.getD policy.enabled
  createdAt := policy.createdAt

def DlpPolicyPatch.accepted (patch : DlpPolicyPatch) : Bool := patch.action.all validAction &&
    patch.rules.all fun rules => rules.all fun rule => validRuleType rule.type

theorem DlpPolicyPatch.accepted_apply {patch : DlpPolicyPatch} {policy : DlpPolicy}
    (patched : patch.accepted) (stored : policy.accepted) :
    (patch.apply policy).accepted := by
  obtain ⟨name, rules, action, enabled⟩ := patch
  simp only [accepted, DlpPolicy.accepted, apply, Bool.and_eq_true] at patched stored ⊢
  constructor
  · cases action with
    | none => exact stored.1
    | some action => exact patched.1
  · cases rules with
    | none => exact stored.2
    | some rules => exact patched.2

namespace PolicyTable

variable (policies : PolicyTable)

/-- `CreatePolicy`. The id is `uuid.New`'s where the caller gives none. -/
def createPolicy (minted : Uuid) (policy : DlpPolicy) : Except RepositoryError PolicyTable :=
  if policy.name = [] then .error .invalidArgument
  else if policy.rules = [] then .error .invalidArgument
  else if valid : policy.accepted = true then
    let id := if policy.id = Uuid.zero then minted else policy.id
    match inserted : policies.table.insert? { policy with id } with
    | none => .error .conflict
    | some table =>
      .ok {
        table
        accepted := by
          intro stored listed
          rw [(Table.mem_rows_insert? inserted).2, mem_append, mem_singleton] at listed
          rcases listed with old | rfl
          · exact policies.accepted stored old
          · exact valid }
  else .error .invalidArgument

def updatePolicy (id : Uuid) (patch : DlpPolicyPatch) : Except RepositoryError PolicyTable :=
  if valid : patch.accepted = true then
    if policies.table.find? id = none then .error .notFound
    else .ok {
      table := policies.table.modify id patch.apply fun _ same => same
      accepted := by
        intro policy listed
        obtain ⟨old, stored, rfl⟩ := Table.mem_modify.mp listed
        split
        · exact DlpPolicyPatch.accepted_apply valid (policies.accepted old stored)
        · exact policies.accepted old stored }
  else .error .invalidArgument

def deletePolicy (id : Uuid) : Except RepositoryError PolicyTable :=
  if policies.table.find? id = none then .error .notFound
  else .ok {
    table := {
      rows := policies.table.rows.filter fun policy => policy.id ≠ id
      distinct := (filter_sublist.map _).nodup policies.table.distinct }
    accepted := fun policy listed => policies.accepted policy (mem_filter.mp listed).1 }

def listEnabled : List DlpPolicy :=
  (policies.table.rows.filter DlpPolicy.enabled).insertionSort fun one two =>
    one.createdAt < two.createdAt ∨ one.createdAt = two.createdAt ∧ one.id.bytes ≤ two.id.bytes

end PolicyTable

/-! ## Projection -/

structure EndpointDlpRule where
  id : Text
  name : Text
  patternType : DlpRuleType
  patternData : Text
  severity : Severity
  action : RuleAction
  channels : List DlpChannel
  deriving DecidableEq

structure EndpointMatch where
  idSuffix : Text
  patternData : Text

/-- A label rule matches by label or by sensitivity. -/
def endpointMatchPaths (rule : DlpRule) : List EndpointMatch :=
  if rule.type = .mipLabel ∧ rule.pattern ≠ [] ∧ rule.sensitivityLevel ≠ [] then
    [⟨":label".toList, rule.pattern⟩, ⟨":sens".toList, rule.sensitivityLevel⟩]
  else if rule.type = .mipLabel ∧ rule.pattern = [] then [⟨[], rule.sensitivityLevel⟩]
  else [⟨[], rule.pattern⟩]

def endpointEntityClasses : List String :=
  ["person_name", "address", "phone_number", "bank_account", "medical_record", "legal_document",
    "medical_record_number", "driver_license", "tax_id", "date_of_birth", "passport_number",
    "national_id"]

def validEntityClassCsv (data : Text) : Bool :=
  let names := commaParts data
  names.all (fun name => endpointEntityClasses.any fun known => known.toList = name) &&
    !names.isEmpty

def isHexDigit (c : Char) : Bool :=
  ('0' ≤ c && c ≤ '9') || ('a' ≤ c && c ≤ 'f') || ('A' ≤ c && c ≤ 'F')

def isHexLen (data : Text) (size : Nat) : Bool := byteLength data == size && data.all isHexDigit

def isHex16 (data : Text) : Bool := isHexLen data 16

def validEndpointPatternData (type : DlpRuleType) (data : Text) : Bool :=
  if data = [] then false
  else match type with
    | .fingerprint => isHex16 data
    | .mlNer => validEntityClassCsv data
    | _ => true

def endpointAction : DlpAction → RuleAction
  | .block | .encrypt => .block
  | .redact => .warn
  | .log => .log
  | .other _ => .log

def endpointSeverity : DlpAction → Severity
  | .block | .encrypt => .critical
  | .redact => .high
  | .log => .medium
  | .other _ => .medium

/-- The endpoint rule of one match path, if its payload can work. -/
def endpointRule (policy : DlpPolicy) (rule : DlpRule) (place : Nat) (path : EndpointMatch) :
    Option EndpointDlpRule :=
  if validEndpointPatternData rule.type path.patternData then
    some {
      id := policy.id.text ++ ':' :: (Nat.toDigits 10 place ++ path.idSuffix)
      name := policy.name
      patternType := rule.type
      patternData := path.patternData
      severity := endpointSeverity policy.action
      action := endpointAction policy.action
      channels := [] }
  else none

def endpointRulesOf (policy : DlpPolicy) (entry : DlpRule × Nat) : List EndpointDlpRule :=
  (endpointMatchPaths entry.1).filterMap (endpointRule policy entry.1 entry.2)

def policyRules (policy : DlpPolicy) : List EndpointDlpRule :=
  policy.rules.zipIdx.flatMap (endpointRulesOf policy)

def compileEndpointRules (policies : List DlpPolicy) : List EndpointDlpRule :=
  (policies.filter DlpPolicy.enabled).flatMap policyRules

/-! ## Fingerprints -/

structure DlpFingerprint where
  id : Uuid
  name : Text
  hash : List UInt8
  registeredAt : Nat

def listAll (fingerprints : Table DlpFingerprint.id) : List DlpFingerprint :=
  fingerprints.rows.insertionSort fun one two =>
    one.registeredAt < two.registeredAt ∨
      one.registeredAt = two.registeredAt ∧ one.id.bytes ≤ two.id.bytes

def fingerprintRule (fingerprint : DlpFingerprint) : EndpointDlpRule where
  id := "fingerprint:".toList ++ fingerprint.id.text
  name := fingerprint.name
  patternType := .fingerprint
  patternData := hexEncode fingerprint.hash
  severity := .high
  action := .warn
  channels := []

/-- The loop of `fingerprintRules`. `seen` is the pattern data that has a rule. -/
def newFingerprintRules : List Text → List DlpFingerprint → List EndpointDlpRule
  | _, [] => []
  | seen, fingerprint :: rest =>
    if fingerprint.hash.length ≠ 8 then newFingerprintRules seen rest
    else if hexEncode fingerprint.hash ∈ seen then newFingerprintRules seen rest
    else fingerprintRule fingerprint ::
      newFingerprintRules (hexEncode fingerprint.hash :: seen) rest

def fingerprintRules (fingerprints : Option (Table DlpFingerprint.id))
    (existing : List EndpointDlpRule) : List EndpointDlpRule :=
  match fingerprints with
  | none => []
  | some fingerprints =>
    let policyDerived := existing.filter fun rule => rule.patternType = .fingerprint
    newFingerprintRules (policyDerived.map fun rule => Text.asciiLower rule.patternData)
      (listAll fingerprints)

/-! ## The document -/

inductive DlpModelStatus where
  | draft
  | validated
  | retired
  deriving DecidableEq

structure EndpointDlpModel where
  version : Int
  entityClasses : List Text
  objectKey : Text
  sizeBytes : Int
  sha256 : Text
  signature : Text

structure DlpModel where
  status : DlpModelStatus
  descriptor : EndpointDlpModel

structure EndpointAiAppPolicy where
  enabled : Bool
  blockOptIn : Bool
  blockConfidence : String
  minReportConfidence : String
  coachSeverityFloor : Severity
  blockedApps : List Text

/-- `DefaultEndpointAiAppPolicy`, with the numbers as they are written. -/
def defaultEndpointAiAppPolicy : EndpointAiAppPolicy where
  enabled := true
  blockOptIn := false
  blockConfidence := "0.9"
  minReportConfidence := "0.5"
  coachSeverityFloor := .high
  blockedApps := []

structure EndpointDlpPolicy where
  schemaVersion : Nat
  target : BundleTarget
  domain : String
  rules : List EndpointDlpRule
  channels : Assoc DlpChannel ChannelConfig
  model : Option EndpointDlpModel
  aiApp : Option EndpointAiAppPolicy

inductive ServiceError where
  | repository (error : RepositoryError)
  | invalidArgument (detail : String)
  | loadBlockedApps (cause : String)

structure Service where
  policies : PolicyTable
  fingerprints : Option (Table DlpFingerprint.id)
  assignedModel : Option (Except RepositoryError DlpModel)
  blockedApps : Option (Except String (List Text))

def defaultEndpointChannelConfig : Assoc DlpChannel ChannelConfig where
  entries := [(.clipboard, ⟨true, none⟩), (.fileWrite, ⟨true, none⟩), (.print, ⟨true, none⟩),
    (.usbTransfer, ⟨true, none⟩), (.browserUpload, ⟨true, none⟩)]
  distinct := by decide

variable (service : Service) (rules : List EndpointDlpRule)

def Service.endpointModel : Except ServiceError (Option EndpointDlpModel) :=
  match service.assignedModel with
  | none => .ok none
  | some assigned =>
    if rules.any fun rule => rule.patternType = .mlNer then
      match assigned with
      | .error .notFound => .ok none
      | .error error => .error (.repository error)
      | .ok model => .ok (if model.status = .validated then some model.descriptor else none)
    else .ok none

/-- The rules of a policy have an id, each its own, and a known type. `seen` are the ids so far. -/
def validateRules (seen : List Text) : List EndpointDlpRule → Except ServiceError Unit
  | [] => .ok ()
  | rule :: rest =>
    if rule.id = [] then .error (.invalidArgument "endpoint DLP rule with empty id")
    else if rule.id ∈ seen then
      .error (.invalidArgument ("duplicate endpoint DLP rule id " ++ debugText rule.id))
    else if validRuleType rule.patternType = false then
      .error (.invalidArgument ("unknown endpoint DLP rule type " ++
        debugText rule.patternType.asStr.toList))
    else validateRules (rule.id :: seen) rest

/-- A confidence that the document carries lies between zero and one. -/
def validateConfidence (name text : String) : Except ServiceError Unit :=
  match Serde.float (.num text) with
  | none => .ok ()
  | some value =>
    if value < 0 ∨ 1 < value then
      .error (.invalidArgument ("endpoint DLP ai_app " ++ name ++ " " ++ text ++ " out of [0,1]"))
    else .ok ()

def endpointSchemaVersion : Nat := 1

def endpointDomain : String := "dlp"

def validateEndpointPolicy (policy : EndpointDlpPolicy) : Except ServiceError Unit :=
  if policy.target ≠ .endpoint then
    .error (.invalidArgument ("endpoint DLP policy target must be endpoint, got " ++
      debugText policy.target.asStr.toList))
  else if policy.domain ≠ endpointDomain then
    .error (.invalidArgument ("endpoint DLP policy domain must be dlp, got " ++
      debugText policy.domain.toList))
  else if endpointSchemaVersion < policy.schemaVersion then
    .error (.invalidArgument ("endpoint DLP schema version " ++ toString policy.schemaVersion ++
      " exceeds supported " ++ toString endpointSchemaVersion))
  else do
    validateRules [] policy.rules
    match policy.aiApp with
    | none => .ok ()
    | some ai => do
        validateConfidence "block_confidence" ai.blockConfidence
        validateConfidence "min_report_confidence" ai.minReportConfidence

/-! ## Writing -/

def writeText (text : Text) : Json := .str (String.ofList text)

def EndpointDlpRule.toJson (rule : EndpointDlpRule) : Json :=
  .obj [("id", writeText rule.id), ("name", writeText rule.name),
    ("pattern_type", .str rule.patternType.asStr), ("pattern_data", writeText rule.patternData),
    ("severity", .str rule.severity.asStr), ("action", .str rule.action.asStr),
    ("channels", .arr (rule.channels.map fun channel => .str channel.asStr))]

def channelConfigToJson (config : ChannelConfig) : Json :=
  .obj (("enabled", .bool config.enabled) ::
    (config.actionOverride.map fun action => ("action_override", Json.str action.asStr)).toList)

variable (channels : Assoc DlpChannel ChannelConfig)

/-- The keys of a map are written in their order. -/
def channelsToJson : Json := .obj ((channels.entries.map fun entry =>
    (entry.1.asStr, channelConfigToJson entry.2)).insertionSort fun one two => one.1 ≤ two.1)

def EndpointDlpModel.toJson (model : EndpointDlpModel) : Json :=
  .obj [("version", .num (toString model.version)),
    ("entity_classes", .arr (model.entityClasses.map writeText)),
    ("object_key", writeText model.objectKey), ("size_bytes", .num (toString model.sizeBytes)),
    ("sha256", writeText model.sha256), ("signature", writeText model.signature)]

def EndpointAiAppPolicy.toJson (ai : EndpointAiAppPolicy) : Json :=
  .obj ([("enabled", .bool ai.enabled), ("block_opt_in", .bool ai.blockOptIn),
    ("block_confidence", .num ai.blockConfidence),
    ("min_report_confidence", .num ai.minReportConfidence),
    ("coach_severity_floor", .str ai.coachSeverityFloor.asStr)] ++
    if ai.blockedApps = [] then [] else [("blocked_apps", .arr (ai.blockedApps.map writeText))])

/-- `json.Marshal`; what is empty and may be omitted is. -/
def EndpointDlpPolicy.toJson (policy : EndpointDlpPolicy) : Json :=
  .obj ([("schema_version", .num (toString policy.schemaVersion)),
    ("target", .str policy.target.asStr), ("domain", .str policy.domain),
    ("rules", .arr (policy.rules.map EndpointDlpRule.toJson))] ++
    (if policy.channels.entries = [] then [] else [("channels", channelsToJson policy.channels)]) ++
    (policy.model.map fun model => ("model", EndpointDlpModel.toJson model)).toList ++
    (policy.aiApp.map fun ai => ("ai_app", EndpointAiAppPolicy.toJson ai)).toList)

def Service.endpointRules : List EndpointDlpRule :=
  let rules := compileEndpointRules service.policies.listEnabled
  rules ++ fingerprintRules service.fingerprints rules

def Service.loadBlockedApps : Except ServiceError (List Text) :=
  match service.blockedApps with
  | none => .ok []
  | some (.error cause) => .error (.loadBlockedApps cause)
  | some (.ok blocked) => .ok blocked

def bundlePolicy (model : Option EndpointDlpModel) (blockedApps : List Text)
    : EndpointDlpPolicy where
  schemaVersion := endpointSchemaVersion
  target := .endpoint
  domain := endpointDomain
  rules := rules
  channels := channels
  model := model
  aiApp := some { defaultEndpointAiAppPolicy with blockedApps }

def Service.compileEndpointBundle (channels : Option (Assoc DlpChannel ChannelConfig))
    : Except ServiceError Json := do
  let rules := service.endpointRules
  let model ← service.endpointModel rules
  let blockedApps ← service.loadBlockedApps
  let policy := bundlePolicy rules (channels.getD defaultEndpointChannelConfig) model blockedApps
  validateEndpointPolicy policy
  .ok policy.toJson

end Control
end ShieldNet.Dlp
