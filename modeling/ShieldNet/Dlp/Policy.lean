import ShieldNet.Lib.Assoc
import ShieldNet.Policy.Bundle

/-!
# The endpoint policy as the agent reads it

`crates/sng-dlp/src/{rules,channels,policy}.rs`: a detection rule, the
configuration of a channel, and the policy document of the endpoint bundle with
the checks that follow its decoding. A policy that fails any of them is refused
as a whole.

The structs are read from objects, the form every producer writes.
-/

namespace ShieldNet.Dlp

open Serde

open Policy (BundleTarget EnforcementDomain)

/-! ## Rules and channels -/

inductive PatternType where
  | regex
  | keyword
  | fingerprint
  | edm
  | mipLabel
  | mlNer
  deriving DecidableEq

def PatternType.ofName : String → Option PatternType
  | "regex" => some .regex
  | "keyword" => some .keyword
  | "fingerprint" => some .fingerprint
  | "edm" => some .edm
  | "mip_label" => some .mipLabel
  | "ml_ner" => some .mlNer
  | _ => none

/-- `Severity`, the least sensitive first. -/
inductive Severity where
  | low
  | medium
  | high
  | critical
  deriving DecidableEq

def Severity.asStr : Severity → String
  | .low => "low"
  | .medium => "medium"
  | .high => "high"
  | .critical => "critical"

def Severity.ofName : String → Option Severity
  | "low" => some .low
  | "medium" => some .medium
  | "high" => some .high
  | "critical" => some .critical
  | _ => none

/-- `RuleAction`, the least strict first. -/
inductive RuleAction where
  | log
  | warn
  | block
  deriving DecidableEq

def RuleAction.asStr : RuleAction → String
  | .log => "log"
  | .warn => "warn"
  | .block => "block"

def RuleAction.ofName : String → Option RuleAction
  | "log" => some .log
  | "warn" => some .warn
  | "block" => some .block
  | _ => none

inductive DlpChannel where
  | clipboard
  | fileWrite
  | print
  | usbTransfer
  | browserUpload
  deriving DecidableEq

def DlpChannel.asStr : DlpChannel → String
  | .clipboard => "clipboard"
  | .fileWrite => "file_write"
  | .print => "print"
  | .usbTransfer => "usb_transfer"
  | .browserUpload => "browser_upload"

def DlpChannel.ofName : String → Option DlpChannel
  | "clipboard" => some .clipboard
  | "file_write" => some .fileWrite
  | "print" => some .print
  | "usb_transfer" => some .usbTransfer
  | "browser_upload" => some .browserUpload
  | _ => none

@[simp] theorem Severity.ofName_asStr (severity : Severity) :
    Severity.ofName severity.asStr = some severity := by
  cases severity <;> rfl

@[simp] theorem RuleAction.ofName_asStr (action : RuleAction) :
    RuleAction.ofName action.asStr = some action := by
  cases action <;> rfl

@[simp] theorem DlpChannel.ofName_asStr (channel : DlpChannel) :
    DlpChannel.ofName channel.asStr = some channel := by
  cases channel <;> rfl

structure DlpRule where
  id : Text
  name : Text
  patternType : PatternType
  patternData : Text
  severity : Severity
  action : RuleAction
  channels : List DlpChannel
  deriving DecidableEq

/-- An empty list stands for every channel. -/
def DlpRule.appliesTo (rule : DlpRule) (channel : DlpChannel) : Bool :=
  rule.channels.isEmpty || rule.channels.contains channel

structure ChannelConfig where
  enabled : Bool
  actionOverride : Option RuleAction

def ChannelConfig.fallback : ChannelConfig := ⟨true, none⟩

/-! ## The policy -/

/-- Salted digests, as hex. -/
structure EdmDataset where
  id : Text
  name : Text
  salt : Text
  windowSizes : List Nat
  digests : List Text

structure AiAppPolicy where
  enabled : Bool
  blockOptIn : Bool
  blockConfidence : ℚ
  minReportConfidence : ℚ
  coachSeverityFloor : Severity
  blockedApps : List Text

structure DlpPolicy where
  schemaVersion : Nat
  target : BundleTarget
  domain : EnforcementDomain
  rules : List DlpRule
  edmDatasets : List EdmDataset
  channels : Assoc DlpChannel ChannelConfig
  aiApp : Option AiAppPolicy

def DlpPolicy.channelConfig (policy : DlpPolicy) (channel : DlpChannel) : ChannelConfig :=
  (policy.channels.get? channel).getD .fallback

/-! ## Reading -/

def readText (document : Json) : Option Text := (string document).map String.toList

def DlpRule.read : Json → Option DlpRule
  | .obj members => do
      let id ← required readText "id" members
      let name ← required readText "name" members
      let patternType ← required (unitEnum PatternType.ofName) "pattern_type" members
      let patternData ← required readText "pattern_data" members
      let severity ← required (unitEnum Severity.ofName) "severity" members
      let action ← required (unitEnum RuleAction.ofName) "action" members
      let channels ← defaulted [] (vec (unitEnum DlpChannel.ofName)) "channels" members
      some ⟨id, name, patternType, patternData, severity, action, channels⟩
  | _ => none

def ChannelConfig.read : Json → Option ChannelConfig
  | .obj members => do
      let enabled ← required bool "enabled" members
      let actionOverride ← defaulted none
        (option (unitEnum RuleAction.ofName)) "action_override" members
      some ⟨enabled, actionOverride⟩
  | _ => none

def EdmDataset.read : Json → Option EdmDataset
  | .obj members => do
      let id ← required readText "id" members
      let name ← required readText "name" members
      let salt ← required readText "salt" members
      let windowSizes ← required (vec (unsigned (2 ^ 64))) "window_sizes" members
      let digests ← required (vec readText) "digests" members
      some ⟨id, name, salt, windowSizes, digests⟩
  | _ => none

def AiAppPolicy.read : Json → Option AiAppPolicy
  | .obj members => do
      let enabled ← required bool "enabled" members
      let blockOptIn ← required bool "block_opt_in" members
      let blockConfidence ← required float "block_confidence" members
      let minReportConfidence ← required float "min_report_confidence" members
      let floor ← required (unitEnum Severity.ofName) "coach_severity_floor" members
      let blockedApps ← defaulted [] (vec readText) "blocked_apps" members
      some ⟨enabled, blockOptIn, blockConfidence, minReportConfidence, floor, blockedApps⟩
  | _ => none

/-- The configured channels; a key that is repeated counts with its last value. -/
def readChannels : Json → Option (Assoc DlpChannel ChannelConfig)
  | .obj members =>
    members.foldlM (fun stored member => do
      let channel ← DlpChannel.ofName member.1
      let config ← ChannelConfig.read member.2
      some (stored.set channel config)) Assoc.empty
  | _ => none

def BundleTarget.ofName : String → Option BundleTarget
  | "edge" => some .edge
  | "endpoint" => some .endpoint
  | "cloud" => some .cloud
  | "mobile" => some .mobile
  | _ => none

/-- `serde_json::from_slice::<DlpPolicy>`; members it does not know are skipped. -/
def DlpPolicy.read : Json → Option DlpPolicy
  | .obj members => do
      let schemaVersion ← defaulted 1 (unsigned (2 ^ 32)) "schema_version" members
      let target ← defaulted .endpoint (unitEnum BundleTarget.ofName) "target" members
      let domain ← defaulted .dlp (unitEnum EnforcementDomain.ofName) "domain" members
      let rules ← defaulted [] (vec DlpRule.read) "rules" members
      let edmDatasets ← defaulted [] (vec EdmDataset.read) "edm_datasets" members
      let channels ← defaulted Assoc.empty readChannels "channels" members
      let aiApp ← defaulted none (option AiAppPolicy.read) "ai_app" members
      some ⟨schemaVersion, target, domain, rules, edmDatasets, channels, aiApp⟩
  | _ => none

/-! ## Checks -/

inductive DlpError where
  | ruleCompile (ruleId : Text) (reason : String)
  | policyDecode
  | policyTargetMismatch (got : String)
  | policyInvalid (reason : String)
  | modelLoad (reason : String)
  | modelSignatureInvalid (reason : String)
  deriving DecidableEq

/-- How `{:?}` prints a text, up to the characters it cannot print as they are. -/
def debugText (text : Text) : String := String.ofList ('"' :: text.flatMap (fun c =>
    if c = '"' ∨ c = '\\' then ['\\', c]
    else if c = '\n' then ['\\', 'n'] else if c = '\r' then ['\\', 'r']
    else if c = '\t' then ['\\', 't'] else [c]) ++ ['"'])

/-- Every id is there and none occurs twice. `seen` are the ids so far. -/
def checkIds (empty duplicate : String) (seen : List Text) : List Text → Except DlpError Unit
  | [] => .ok ()
  | id :: rest =>
    if id = [] then .error (.policyInvalid empty)
    else if id ∈ seen then .error (.policyInvalid (duplicate ++ debugText id))
    else checkIds empty duplicate (id :: seen) rest

/-- Every rule that matches exact data names a registered dataset. -/
def checkDatasets (datasets : List EdmDataset) : List DlpRule → Except DlpError Unit
  | [] => .ok ()
  | rule :: rest =>
    if rule.patternType = .edm ∧ rule.patternData ∉ datasets.map EdmDataset.id then
      .error (.policyInvalid ("edm rule " ++ debugText rule.id ++ " references unknown dataset " ++
        debugText rule.patternData))
    else checkDatasets datasets rest

def checkConfidence (name : String) (value : ℚ) : Except DlpError Unit :=
  if 0 ≤ value ∧ value ≤ 1 then .ok ()
  else .error (.policyInvalid ("ai_app " ++ name ++ " " ++ toString value ++ " out of [0,1]"))

def AiAppPolicy.check (ai : AiAppPolicy) : Except DlpError Unit := do
  checkConfidence "block_confidence" ai.blockConfidence
  checkConfidence "min_report_confidence" ai.minReportConfidence

def domainName : EnforcementDomain → String
  | .ngfw => "ngfw"
  | .swg => "swg"
  | .dns => "dns"
  | .ztna => "ztna"
  | .sdwan => "sdwan"
  | .dlp => "dlp"

def maxSupportedSchemaVersion : Nat := 1

def DlpPolicy.validate (policy : DlpPolicy) : Except DlpError Unit :=
  if policy.target ≠ .endpoint then .error (.policyTargetMismatch policy.target.asStr)
  else if policy.domain ≠ .dlp then
    .error (.policyInvalid ("expected dlp domain, got " ++ domainName policy.domain))
  else if maxSupportedSchemaVersion < policy.schemaVersion then
    .error (.policyInvalid ("schema version " ++ toString policy.schemaVersion ++
      " exceeds supported " ++ toString maxSupportedSchemaVersion))
  else do
    checkIds "rule with empty id" "duplicate rule id " [] (policy.rules.map DlpRule.id)
    checkIds "edm dataset with empty id" "duplicate edm dataset id " []
      (policy.edmDatasets.map EdmDataset.id)
    checkDatasets policy.edmDatasets policy.rules
    (policy.aiApp.map AiAppPolicy.check).getD (.ok ())

def DlpPolicy.fromBundleJson (document : Json) : Except DlpError DlpPolicy :=
  match DlpPolicy.read document with
  | none => .error .policyDecode
  | some policy => do
      policy.validate
      .ok policy

end ShieldNet.Dlp
