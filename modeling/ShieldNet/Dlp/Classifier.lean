import ShieldNet.Lib.Search
import ShieldNet.Dlp.Builtin
import ShieldNet.Dlp.Policy

/-!
# The content classifier

`crates/sng-dlp/src/classifier.rs`: the rules of a policy are compiled together,
all expressions into one set and all dictionaries into one automaton, and a rule
that does not compile fails the whole. The classifier then runs the detectors
over a content and reports what they hit.

The libraries below it are given by what they document. The tables are only ever
appended to (`addRule_extends`), so that what a rule has put there stays
(`RuleTables.Holds.mono`) and a hit of the automaton is one of the rule whose
dictionary has the word (`keywordHit_eq`).

The confidence of a match and the kind of document are left out: no action
depends on them.
-/

namespace ShieldNet.Dlp

open Search List

open Text (byteLength)

/-! ## What the classifier rests on -/

inductive EntityClass where
  | personName
  | address
  | phoneNumber
  | bankAccount
  | medicalRecord
  | legalDocument
  | medicalRecordNumber
  | driverLicense
  | taxId
  | dateOfBirth
  | passportNumber
  | nationalId
  deriving DecidableEq

def EntityClass.all : List EntityClass :=
  [.personName, .address, .phoneNumber, .bankAccount, .medicalRecord, .legalDocument,
    .medicalRecordNumber, .driverLicense, .taxId, .dateOfBirth, .passportNumber, .nationalId]

def EntityClass.asWire : EntityClass → String
  | .personName => "person_name"
  | .address => "address"
  | .phoneNumber => "phone_number"
  | .bankAccount => "bank_account"
  | .medicalRecord => "medical_record"
  | .legalDocument => "legal_document"
  | .medicalRecordNumber => "medical_record_number"
  | .driverLicense => "driver_license"
  | .taxId => "tax_id"
  | .dateOfBirth => "date_of_birth"
  | .passportNumber => "passport_number"
  | .nationalId => "national_id"

def EntityClass.fromWire (name : Text) : Option EntityClass :=
  all.find? fun kind => kind.asWire.toList = name

structure Entity where
  kind : EntityClass
  offset : Nat
  length : Nat

structure Libraries where
  Regex : Type
  /-- `Regex::new` -/
  regexNew : Text → Except String Regex
  /-- `find_iter`: what lies before each match, backwards, and what it takes. -/
  findIter : Regex → Text → List (Text × Text)
  RegexSet : Type
  regexSetNew : List Text → Except String RegexSet
  setMatches : RegexSet → Text → List Nat
  Automaton : Type
  /-- `AhoCorasick::builder().build` -/
  automatonNew : List Text → Except String Automaton
  findWords : Automaton → Text → List Hit
  scan_findWords : ∀ {words : List Text} {automaton : Automaton} {text : Text},
    automatonNew words = .ok automaton → (∀ word ∈ words, word ≠ []) →
    Scan words text 0 (findWords automaton text)
  CompiledEdm : Type
  edmFromDataset : EdmDataset → Except String CompiledEdm
  edmMatches : CompiledEdm → Text → Bool
  /-- `String::from_utf8_lossy` -/
  fromUtf8Lossy : List UInt8 → Text
  /-- `nfc` -/
  nfc : Text → Text
  /-- `to_lowercase` -/
  toLowercase : Text → Text
  toLowercase_ne_nil : ∀ {text : Text}, text ≠ [] → toLowercase text ≠ []
  simhash : List UInt8 → BitVec 64
  /-- `validator_for` -/
  validatorFor : Text → Option (Text → Bool)

inductive DevicePosture where
  | managed
  | nonCompliant
  | unmanaged
  | unknown

structure ContentMetadata where
  filename : Option Text
  contentType : Option Text
  source : Option Text
  mipLabels : List Text
  devicePosture : DevicePosture
  localHour : Option UInt8

def ContentMetadata.fallback : ContentMetadata := ⟨none, none, none, [], .unknown, none⟩

structure RuleMatch where
  ruleId : Text
  patternType : PatternType
  severity : Severity
  action : RuleAction
  offset : Option Nat
  length : Option Nat
  deriving DecidableEq

structure RuleMeta where
  id : Text
  severity : Severity
  action : RuleAction
  channels : List DlpChannel

open RuleMeta

def RuleMeta.fromRule (rule : DlpRule) : RuleMeta :=
  ⟨rule.id, rule.severity, rule.action, rule.channels⟩

def RuleMeta.appliesTo (info : RuleMeta) (channel : DlpChannel) : Bool :=
  info.channels.isEmpty || info.channels.contains channel

def RuleMeta.hit (info : RuleMeta) (type : PatternType) (span : Option (Nat × Nat)) : RuleMatch :=
  ⟨info.id, type, info.severity, info.action, span.map Prod.fst, span.map Prod.snd⟩

/-! ## Pattern data -/

variable (data : Text)

def resolvePattern : Text := ((builtinPattern (String.ofList data)).map String.toList).getD data

/-- The parts of a list, trimmed, without those that are blank. -/
def commaParts : List Text := ((data.splitOn ',').map Text.trimSpace).filter (· ≠ [])

def hexDigitValue (c : Char) : Option Nat :=
  if '0' ≤ c ∧ c ≤ '9' then some (c.toNat - '0'.toNat)
  else if 'a' ≤ c ∧ c ≤ 'f' then some (c.toNat - 'a'.toNat + 10)
  else if 'A' ≤ c ∧ c ≤ 'F' then some (c.toNat - 'A'.toNat + 10)
  else none

/-- `parse_simhash_hex`; `from_str_radix` takes a leading plus. -/
def parseSimhashHex : Option (BitVec 64) :=
  if byteLength data ≠ 16 then none
  else (((Text.stripPrefix ['+'] data).getD data).mapM hexDigitValue).map fun digits =>
    BitVec.ofNat 64 (digits.foldl (fun value digit => 16 * value + digit) 0)

def addEntityClass (seen : List EntityClass) (name : Text) : Except String (List EntityClass) :=
  match EntityClass.fromWire name with
  | none => .error ("ml_ner pattern_data lists unknown entity class " ++ debugText name)
  | some kind => .ok (if kind ∈ seen then seen else seen ++ [kind])

def parseEntityClasses : Except String (List EntityClass) := do
  let kinds ← (commaParts data).foldlM addEntityClass []
  if kinds = [] then
    .error "ml_ner pattern_data must list at least one entity class (e.g. \"person_name,bank_account\")"
  else .ok kinds

/-! ## Compiling -/

section Compile

variable (libraries : Libraries)

structure RegexEntry where
  info : RuleMeta
  regex : libraries.Regex
  validator : Option (Text → Bool)

structure MipEntry where
  info : RuleMeta
  label : Text

structure EdmEntry where
  info : RuleMeta
  dataset : Nat

structure MlEntry where
  info : RuleMeta
  targets : List EntityClass

/-- The tables that the rules fill. Those that are looked up by one index are in step. -/
structure RuleTables where
  regexEntries : List (RegexEntry libraries) := []
  regexPatterns : List Text := []
  keywordPatterns : List Text := []
  keywordPatToRule : List Nat := []
  keywordMetas : List RuleMeta := []
  fingerprints : List (RuleMeta × BitVec 64) := []
  edmEntries : List EdmEntry := []
  mipEntries : List MipEntry := []
  mlEntries : List MlEntry := []
  regexInStep : regexEntries.length = regexPatterns.length := by rfl
  keywordInStep : keywordPatToRule.length = keywordPatterns.length := by rfl

/-- `credit_card` has the check of its own. -/
def validatorOf (data : Text) : Option (Text → Bool) :=
  if data = "credit_card".toList then some luhnValid else libraries.validatorFor data

def keywordEntries (data : Text) : List Text := (commaParts data).map libraries.toLowercase

variable {libraries}

namespace RuleTables

def addRule (datasets : List (Text × libraries.CompiledEdm)) (tables : RuleTables libraries)
    (rule : DlpRule) : Except DlpError (RuleTables libraries) :=
  let info := fromRule rule
  match rule.patternType with
  | .regex =>
    match libraries.regexNew (resolvePattern rule.patternData) with
    | .error reason => .error (.ruleCompile rule.id reason)
    | .ok regex =>
      .ok { tables with
        regexEntries := tables.regexEntries ++
          [⟨info, regex, validatorOf libraries rule.patternData⟩]
        regexPatterns := tables.regexPatterns ++ [resolvePattern rule.patternData]
        regexInStep := by simp [tables.regexInStep] }
  | .keyword =>
    let words := keywordEntries libraries rule.patternData
    if words = [] then .error (.ruleCompile rule.id "keyword dictionary is empty")
    else
      .ok { tables with
        keywordPatterns := tables.keywordPatterns ++ words
        keywordPatToRule := tables.keywordPatToRule ++
          replicate words.length tables.keywordMetas.length
        keywordMetas := tables.keywordMetas ++ [info]
        keywordInStep := by simp [tables.keywordInStep] }
  | .fingerprint =>
    match parseSimhashHex rule.patternData with
    | none =>
      .error (.ruleCompile rule.id
        ("fingerprint pattern_data must be 16-char hex, got " ++ debugText rule.patternData))
    | some code => .ok { tables with fingerprints := tables.fingerprints ++ [(info, code)] }
  | .edm =>
    match datasets.findIdx? fun dataset => dataset.1 = rule.patternData with
    | none =>
      .error (.ruleCompile rule.id
        ("edm rule references unknown dataset " ++ debugText rule.patternData))
    | some dataset => .ok { tables with edmEntries := tables.edmEntries ++ [⟨info, dataset⟩] }
  | .mipLabel =>
    .ok { tables with mipEntries := tables.mipEntries ++ [⟨info, rule.patternData⟩] }
  | .mlNer =>
    match parseEntityClasses rule.patternData with
    | .error reason => .error (.ruleCompile rule.id reason)
    | .ok targets => .ok { tables with mlEntries := tables.mlEntries ++ [⟨info, targets⟩] }

def ruleCount (tables : RuleTables libraries) : Nat :=
  tables.regexEntries.length + tables.keywordMetas.length + tables.fingerprints.length +
    tables.edmEntries.length + tables.mipEntries.length + tables.mlEntries.length

end RuleTables

variable (libraries)

def addDataset (compiled : List (Text × libraries.CompiledEdm)) (dataset : EdmDataset) :
    Except DlpError (List (Text × libraries.CompiledEdm)) :=
  let label := "<edm:".toList ++ dataset.id ++ ">".toList
  match libraries.edmFromDataset dataset with
  | .error reason => .error (.ruleCompile label reason)
  | .ok matcher =>
    if dataset.id ∈ compiled.map Prod.fst then
      .error (.ruleCompile label ("duplicate edm dataset id " ++ debugText dataset.id))
    else .ok (compiled ++ [(dataset.id, matcher)])

structure ContentClassifier where
  tables : RuleTables libraries
  regexSet : libraries.RegexSet
  keywordAc : Option libraries.Automaton
  edmDatasets : List (Text × libraries.CompiledEdm)
  /-- `MlNerDetector::detect` -/
  mlDetector : Text → List Entity
  maxScanBytes : Nat

/-- A library error under the name of a rule that stands for all. -/
def compileStep {α : Type} (label : String) : Except String α → Except DlpError α
  | .ok value => .ok value
  | .error reason => .error (.ruleCompile label.toList reason)

/-- No automaton is built without a word. -/
def buildAutomaton (words : List Text) : Except DlpError (Option libraries.Automaton) :=
  if words = [] then .ok none
  else (compileStep "<keyword-automaton>" (libraries.automatonNew words)).map some

def compileWithModelEdm (rules : List DlpRule) (edmDatasets : List EdmDataset) (maxScanBytes : Nat)
    (mlDetector : Text → List Entity) : Except DlpError (ContentClassifier libraries) := do
  let datasets ← edmDatasets.foldlM (addDataset libraries) []
  let tables ← rules.foldlM (RuleTables.addRule datasets) {}
  let regexSet ← compileStep "<regex-set>" (libraries.regexSetNew tables.regexPatterns)
  let keywordAc ← buildAutomaton libraries tables.keywordPatterns
  .ok ⟨tables, regexSet, keywordAc, datasets, mlDetector, maxScanBytes⟩

end Compile

/-! ## Classifying -/

variable {libraries : Libraries}

namespace ContentClassifier

variable (classifier : ContentClassifier libraries) (channel : DlpChannel)

def regexHits (entry : RegexEntry libraries) (text : Text) : List RuleMatch :=
  (libraries.findIter entry.regex text).filterMap fun found =>
    if entry.validator.all fun valid => valid found.2 then
      some (entry.info.hit .regex (some (byteLength found.1, byteLength found.2)))
    else none

variable (text : Text)

def scanRegex : List RuleMatch :=
  if classifier.tables.regexEntries.isEmpty then []
  else (libraries.setMatches classifier.regexSet text).flatMap fun index =>
    match classifier.tables.regexEntries[index]? with
    | none => []
    | some entry => if entry.info.appliesTo channel then regexHits entry text else []

def keywordHit (folded : Text) (hit : Hit) : Option RuleMatch := do
  let place ← classifier.tables.keywordPatToRule[hit.word]?
  let info ← classifier.tables.keywordMetas[place]?
  if info.appliesTo channel then
    some (info.hit .keyword
      (some (byteLength (folded.take hit.start),
        byteLength ((folded.take hit.stop).drop hit.start))))
  else none

/-- The channels of a rule are looked at only once it has been hit. -/
def scanKeywords : List RuleMatch :=
  match classifier.keywordAc with
  | none => []
  | some automaton =>
    let folded := libraries.toLowercase text
    (libraries.findWords automaton folded).filterMap (keywordHit classifier channel folded)

def hammingDistance (one two : BitVec 64) : Nat :=
  ((List.range 64).filter fun place => (one ^^^ two).getLsbD place).length

variable (content : List UInt8)

/-- `scan_fingerprints`, with the index by what it answers: every registered code within the
distance. -/
def scanFingerprints : List RuleMatch :=
  classifier.tables.fingerprints.filterMap fun (info, code) =>
    if hammingDistance code (libraries.simhash content) ≤ 12 ∧ info.appliesTo channel then
      some (info.hit .fingerprint none)
    else none

def scanEdm : List RuleMatch := classifier.tables.edmEntries.filterMap fun entry =>
    if entry.info.appliesTo channel ∧ (classifier.edmDatasets[entry.dataset]?).any fun dataset =>
          libraries.edmMatches dataset.2 text then
      some (entry.info.hit .edm none)
    else none

def scanMipLabels (metadata : ContentMetadata) : List RuleMatch :=
  classifier.tables.mipEntries.filterMap fun entry =>
    if entry.info.appliesTo channel ∧ entry.label ∈ metadata.mipLabels then
      some (entry.info.hit .mipLabel none)
    else none

def scanMl : List RuleMatch := classifier.tables.mlEntries.flatMap fun entry =>
    if entry.info.appliesTo channel then
      (classifier.mlDetector text).filterMap fun entity =>
        if entity.kind ∈ entry.targets then
          some (entry.info.hit .mlNer (some (entity.offset, entity.length)))
        else none
    else []

def scannedText : Text :=
  libraries.nfc (libraries.fromUtf8Lossy (content.take classifier.maxScanBytes))

def classify (metadata : ContentMetadata) : List RuleMatch :=
  let text := classifier.scannedText content
  classifier.scanRegex channel text ++ classifier.scanKeywords channel text ++
    classifier.scanFingerprints channel content ++ classifier.scanEdm channel text ++
    classifier.scanMipLabels channel metadata ++ classifier.scanMl channel text

end ContentClassifier

/-! ## What compiling a rule does to the tables -/

namespace RuleTables

variable {datasets : List (Text × libraries.CompiledEdm)} {tables next : RuleTables libraries}
  {rule : DlpRule}

def Compiles (libraries : Libraries) (datasets : List (Text × libraries.CompiledEdm))
    (rule : DlpRule) : Prop :=
  match rule.patternType with
  | .regex => ∃ regex, libraries.regexNew (resolvePattern rule.patternData) = .ok regex
  | .keyword => commaParts rule.patternData ≠ []
  | .fingerprint => ∃ code, parseSimhashHex rule.patternData = some code
  | .edm => rule.patternData ∈ datasets.map Prod.fst
  | .mipLabel => True
  | .mlNer => ∃ targets, parseEntityClasses rule.patternData = .ok targets

/-- The rule has its place in the table of its detector. -/
def Holds (datasets : List (Text × libraries.CompiledEdm)) (tables : RuleTables libraries)
    (rule : DlpRule) : Prop :=
  match rule.patternType with
  | .regex => ∃ (regex : libraries.Regex) (index : Nat),
      libraries.regexNew (resolvePattern rule.patternData) = .ok regex ∧
      tables.regexPatterns[index]? = some (resolvePattern rule.patternData) ∧
      tables.regexEntries[index]? =
        some (⟨.fromRule rule, regex, validatorOf libraries rule.patternData⟩ :
          RegexEntry libraries)
  | .keyword => ∃ place : Nat, tables.keywordMetas[place]? = some (fromRule rule) ∧
      ∀ word ∈ keywordEntries libraries rule.patternData, ∃ index : Nat,
        tables.keywordPatterns[index]? = some word ∧ tables.keywordPatToRule[index]? = some place
  | .fingerprint => ∃ code, parseSimhashHex rule.patternData = some code ∧
      (fromRule rule, code) ∈ tables.fingerprints
  | .edm => ∃ (index : Nat) (dataset : Text × libraries.CompiledEdm),
      datasets[index]? = some dataset ∧ dataset.1 = rule.patternData ∧
      (⟨.fromRule rule, index⟩ : EdmEntry) ∈ tables.edmEntries
  | .mipLabel => (⟨.fromRule rule, rule.patternData⟩ : MipEntry) ∈ tables.mipEntries
  | .mlNer => ∃ targets, parseEntityClasses rule.patternData = .ok targets ∧
      (⟨.fromRule rule, targets⟩ : MlEntry) ∈ tables.mlEntries

structure Extends (tables next : RuleTables libraries) : Prop where
  regexEntries : tables.regexEntries <+: next.regexEntries
  regexPatterns : tables.regexPatterns <+: next.regexPatterns
  keywordPatterns : tables.keywordPatterns <+: next.keywordPatterns
  keywordPatToRule : tables.keywordPatToRule <+: next.keywordPatToRule
  keywordMetas : tables.keywordMetas <+: next.keywordMetas
  fingerprints : tables.fingerprints <+: next.fingerprints
  edmEntries : tables.edmEntries <+: next.edmEntries
  mipEntries : tables.mipEntries <+: next.mipEntries
  mlEntries : tables.mlEntries <+: next.mlEntries

theorem getElem?_of_prefix {α : Type} {shorter longer : List α} {index : Nat} {value : α}
    (extended : shorter <+: longer) (stands : shorter[index]? = some value) :
    longer[index]? = some value := by
  obtain ⟨tail, rfl⟩ := extended
  rw [getElem?_append_left (List.getElem?_eq_some_iff.mp stands).1]
  exact stands

theorem Holds.mono (holds : tables.Holds datasets rule) (extended : tables.Extends next) :
    next.Holds datasets rule := by
  unfold Holds at holds ⊢
  split at holds
  case h_1 =>
    obtain ⟨regex, index, compiled, pattern, entry⟩ := holds
    exact ⟨regex, index, compiled, getElem?_of_prefix extended.regexPatterns pattern,
      getElem?_of_prefix extended.regexEntries entry⟩
  case h_2 =>
    obtain ⟨place, info, words⟩ := holds
    refine ⟨place, getElem?_of_prefix extended.keywordMetas info, fun word listed => ?_⟩
    obtain ⟨index, pattern, owner⟩ := words word listed
    exact ⟨index, getElem?_of_prefix extended.keywordPatterns pattern,
      getElem?_of_prefix extended.keywordPatToRule owner⟩
  case h_3 =>
    obtain ⟨code, parsed, listed⟩ := holds
    exact ⟨code, parsed, extended.fingerprints.subset listed⟩
  case h_4 =>
    obtain ⟨index, dataset, registered, named, listed⟩ := holds
    exact ⟨index, dataset, registered, named, extended.edmEntries.subset listed⟩
  case h_5 => exact extended.mipEntries.subset holds
  case h_6 =>
    obtain ⟨targets, parsed, listed⟩ := holds
    exact ⟨targets, parsed, extended.mlEntries.subset listed⟩

def expressionsOf (rule : DlpRule) : List Text :=
  if rule.patternType = .regex then [resolvePattern rule.patternData] else []

def wordsOf (libraries : Libraries) (rule : DlpRule) : List Text :=
  if rule.patternType = .keyword then keywordEntries libraries rule.patternData else []

/-- The rule, once for each of its words. -/
def ownersOf (libraries : Libraries) (rule : DlpRule) : List DlpRule :=
  (wordsOf libraries rule).map fun _ => rule

/-- What a rule that compiled has done: it has its place, and nothing else has changed. -/
structure Added (datasets : List (Text × libraries.CompiledEdm)) (tables : RuleTables libraries)
    (rule : DlpRule) (next : RuleTables libraries) : Prop where
  extended : tables.Extends next
  holds : next.Holds datasets rule
  counted : next.ruleCount = tables.ruleCount + 1
  regexPatterns : next.regexPatterns = tables.regexPatterns ++ expressionsOf rule
  keywordPatterns : next.keywordPatterns = tables.keywordPatterns ++ wordsOf libraries rule
  keywords : rule.patternType = .keyword ∧
      next.keywordPatterns = tables.keywordPatterns ++ keywordEntries libraries rule.patternData ∧
      next.keywordPatToRule = tables.keywordPatToRule ++
        replicate (keywordEntries libraries rule.patternData).length
          tables.keywordMetas.length ∧
      next.keywordMetas = tables.keywordMetas ++ [.fromRule rule] ∨
    next.keywordPatterns = tables.keywordPatterns ∧
      next.keywordPatToRule = tables.keywordPatToRule ∧ next.keywordMetas = tables.keywordMetas

theorem holds_of_addRule (compiled : tables.addRule datasets rule = .ok next) :
    next.Holds datasets rule := by
  rw [addRule] at compiled
  cases type : rule.patternType <;> simp only [type, Holds] at compiled ⊢
  case regex =>
    split at compiled
    case h_1 => cases compiled
    case h_2 regex built =>
      cases compiled
      exact ⟨regex, tables.regexEntries.length, built, by simp [tables.regexInStep], by simp⟩
  case keyword =>
    obtain ⟨-, compiled⟩ := ite_error_eq_ok compiled
    cases compiled
    refine ⟨tables.keywordMetas.length, by simp, fun word listed => ?_⟩
    obtain ⟨place, inside, rfl⟩ := mem_iff_getElem.mp listed
    refine ⟨tables.keywordPatterns.length + place, by simp [inside], ?_⟩
    rw [← tables.keywordInStep]
    simp [inside]
  case fingerprint =>
    split at compiled
    case h_1 => cases compiled
    case h_2 code parsed =>
      cases compiled
      exact ⟨code, parsed, by simp⟩
  case edm =>
    split at compiled
    case h_1 => cases compiled
    case h_2 index found =>
      cases compiled
      obtain ⟨inside, named, -⟩ := findIdx?_eq_some_iff_getElem.mp found
      exact ⟨index, datasets[index], by simp [inside], of_decide_eq_true named, by simp⟩
  case mipLabel =>
    cases compiled
    simp
  case mlNer =>
    split at compiled
    case h_1 => cases compiled
    case h_2 targets parsed =>
      cases compiled
      exact ⟨targets, parsed, by simp⟩

/-- **Every rule that compiles finds its place behind the others.** -/
theorem added_of_addRule (compiled : tables.addRule datasets rule = .ok next) :
    Added datasets tables rule next := by
  have holds := holds_of_addRule compiled
  rw [addRule] at compiled
  cases type : rule.patternType <;> simp only [type] at compiled
  case keyword =>
    obtain ⟨-, compiled⟩ := ite_error_eq_ok compiled
    cases compiled
    refine ⟨?_, holds, ?_, by simp [expressionsOf, type], by simp [wordsOf, type],
      .inl ⟨type, rfl, rfl, rfl⟩⟩
    · constructor <;> simp
    · simp [ruleCount]
      omega
  all_goals try split at compiled
  all_goals cases compiled
  all_goals
    refine ⟨?_, holds, ?_, by simp [expressionsOf, type], by simp [wordsOf, type],
      .inr ⟨rfl, rfl, rfl⟩⟩
    · constructor <;> simp
    · simp [ruleCount]
      omega

theorem exists_addRule_iff (tables : RuleTables libraries) :
    (∃ next, tables.addRule datasets rule = .ok next) ↔ Compiles libraries datasets rule := by
  unfold Compiles
  rw [addRule]
  cases type : rule.patternType <;> simp only
  case regex =>
    split
    case h_1 reason failed => simp [failed]
    case h_2 regex built => simp [built]
  case keyword =>
    have words :
        keywordEntries libraries rule.patternData = [] ↔ commaParts rule.patternData = [] :=
      map_eq_nil_iff
    split
    case isTrue nothing => simp [words.mp nothing]
    case isFalse some => simp [mt words.mpr some]
  case fingerprint =>
    split
    case h_1 failed => simp [failed]
    case h_2 code parsed => simp [parsed]
  case edm =>
    split
    case h_1 missing =>
      rw [findIdx?_eq_none_iff] at missing
      simp only [reduceCtorEq, exists_false, false_iff, mem_map, not_exists, not_and]
      exact fun dataset listed named => of_decide_eq_false (missing dataset listed) named
    case h_2 index found =>
      obtain ⟨inside, named, -⟩ := findIdx?_eq_some_iff_getElem.mp found
      simp only [Except.ok.injEq, exists_eq', true_iff]
      exact mem_map.mpr ⟨_, getElem_mem inside, of_decide_eq_true named⟩
  case mipLabel => simp
  case mlNer =>
    split
    case h_1 reason failed => simp [failed]
    case h_2 targets parsed => simp [parsed]

structure Filled (datasets : List (Text × libraries.CompiledEdm)) (rules : List DlpRule)
    (tables : RuleTables libraries) : Prop where
  holds : ∀ rule ∈ rules, tables.Holds datasets rule
  counted : tables.ruleCount = rules.length
  regexPatterns : tables.regexPatterns = rules.flatMap expressionsOf
  keywordPatterns : tables.keywordPatterns = rules.flatMap (wordsOf libraries)
  /-- A word of the automaton stands for the rule whose dictionary has it. -/
  owners : tables.keywordPatToRule.map (tables.keywordMetas[·]?) =
    (rules.flatMap (ownersOf libraries)).map fun rule => some (fromRule rule)

theorem Filled.empty : Filled datasets [] ({} : RuleTables libraries) where
  holds _ listed := absurd listed not_mem_nil
  counted := rfl
  regexPatterns := rfl
  keywordPatterns := rfl
  owners := rfl

variable {rules : List DlpRule}

theorem Added.owners (added : Added datasets tables rule next)
    (owners : tables.keywordPatToRule.map (tables.keywordMetas[·]?) =
      (rules.flatMap (ownersOf libraries)).map fun rule => some (fromRule rule)) :
    next.keywordPatToRule.map (next.keywordMetas[·]?) =
      ((rules ++ [rule]).flatMap (ownersOf libraries)).map fun rule => some (fromRule rule) := by
  rw [flatMap_append, flatMap_singleton, map_append, ← owners]
  rcases added.keywords with ⟨type, -, places, infos⟩ | ⟨patterns, places, infos⟩
  · rw [places, infos, map_append]
    refine congrArg₂ _ (map_congr_left fun place listed => ?_) ?_
    · -- the places of the earlier words are among the earlier rules
      have known : tables.keywordMetas[place]? ∈
          tables.keywordPatToRule.map (tables.keywordMetas[·]?) := mem_map_of_mem listed
      rw [owners] at known
      obtain ⟨owner, -, info⟩ := mem_map.mp known
      exact getElem?_append_left (List.getElem?_eq_some_iff.mp info.symm).1
    · rw [ownersOf, wordsOf, if_pos type, map_map, map_replicate,
        getElem?_append_right (Nat.le_refl _), Nat.sub_self]
      exact (map_const' ..).symm
  · have nothing : wordsOf libraries rule = [] :=
      append_right_eq_self.mp (added.keywordPatterns.symm.trans patterns)
    rw [places, infos, ownersOf, nothing]
    exact (append_nil _).symm

theorem Filled.added (filled : Filled datasets rules tables)
    (added : Added datasets tables rule next) : Filled datasets (rules ++ [rule]) next where
  holds other listed := by
    rcases mem_append.mp listed with earlier | last
    · exact (filled.holds other earlier).mono added.extended
    · rw [mem_singleton.mp last]
      exact added.holds
  counted := by
    rw [added.counted, filled.counted, length_append, length_singleton]
  regexPatterns := by
    rw [added.regexPatterns, filled.regexPatterns, flatMap_append, flatMap_singleton]
  keywordPatterns := by
    rw [added.keywordPatterns, filled.keywordPatterns, flatMap_append, flatMap_singleton]
  owners := added.owners filled.owners

/-- **The loop over the rules fills the tables with all of them.** -/
theorem filled_of_foldlM (compiled : rules.foldlM (addRule datasets) {} = .ok tables) :
    Filled datasets rules tables := by
  refine foldlM_eq_ok_induction (R := Filled datasets) ?_ Filled.empty compiled
  intro seen before rule after filled round
  exact filled.added (added_of_addRule round)

/-- **The loop over the rules succeeds when each of them compiles, and only then.** -/
theorem exists_foldlM_iff (tables : RuleTables libraries) :
    (∃ filled, rules.foldlM (addRule datasets) tables = .ok filled) ↔
      ∀ rule ∈ rules, Compiles libraries datasets rule := by
  induction rules generalizing tables with
  | nil => exact iff_of_true ⟨tables, rfl⟩ fun _ listed => absurd listed not_mem_nil
  | cons rule rules ih =>
    rw [foldlM_cons, forall_mem_cons, ← exists_addRule_iff tables]
    constructor
    · rintro ⟨filled, ran⟩
      obtain ⟨next, round, rest⟩ := bind_eq_ok ran
      exact ⟨⟨next, round⟩, (ih next).mp ⟨filled, rest⟩⟩
    · rintro ⟨⟨next, round⟩, others⟩
      rw [round]
      exact (ih next).mpr others

end RuleTables

/-! ## The compiled classifier -/

open RuleTables (Compiles Filled expressionsOf wordsOf ownersOf)

/-- What a classifier that was compiled from rules and datasets has in it. -/
structure ContentClassifier.Loaded (rules : List DlpRule) (maxScanBytes : Nat)
    (mlDetector : Text → List Entity) (classifier : ContentClassifier libraries) : Prop where
  filled : Filled classifier.edmDatasets rules classifier.tables
  regexSet : libraries.regexSetNew (rules.flatMap expressionsOf) = .ok classifier.regexSet
  keywordAc : match classifier.keywordAc with
    | none => rules.flatMap (wordsOf libraries) = []
    | some automaton => libraries.automatonNew (rules.flatMap (wordsOf libraries)) = .ok automaton
  maxScanBytes : classifier.maxScanBytes = maxScanBytes
  mlDetector : classifier.mlDetector = mlDetector

theorem compileStep_eq_ok {α : Type} {label : String} {step : Except String α} {value : α}
    (succeeded : compileStep label step = .ok value) : step = .ok value := by
  cases step with
  | error reason => cases succeeded
  | ok other => exact congrArg Except.ok (Except.ok.inj succeeded)

variable {rules : List DlpRule} {edmDatasets : List EdmDataset} {maxScanBytes : Nat}
  {mlDetector : Text → List Entity} {classifier : ContentClassifier libraries}

/-- **A compiled classifier has all the rules in it.** -/
theorem loaded_of_compile
    (compiled : compileWithModelEdm libraries rules edmDatasets maxScanBytes mlDetector =
      .ok classifier) : classifier.Loaded rules maxScanBytes mlDetector := by
  obtain ⟨datasets, -, compiled⟩ := bind_eq_ok compiled
  obtain ⟨tables, ruled, compiled⟩ := bind_eq_ok compiled
  obtain ⟨regexSet, set, compiled⟩ := bind_eq_ok compiled
  obtain ⟨keywordAc, automaton, compiled⟩ := bind_eq_ok compiled
  cases compiled
  have filled := RuleTables.filled_of_foldlM ruled
  rw [filled.regexPatterns] at set
  rw [filled.keywordPatterns] at automaton
  refine ⟨filled, compileStep_eq_ok set, ?_, rfl, rfl⟩
  rw [buildAutomaton] at automaton
  split at automaton
  case isTrue nothing =>
    cases automaton
    exact nothing
  cases built : libraries.automatonNew (rules.flatMap (wordsOf libraries)) with
  | error reason =>
    rw [built] at automaton
    cases automaton
  | ok machine =>
    rw [built] at automaton
    cases automaton
    exact rfl

/-- Each of the rules compiles, and what they share can be built. -/
structure Compilable (libraries : Libraries) (rules : List DlpRule) : Prop where
  each : ∀ rule ∈ rules, Compiles libraries [] rule
  regexSet : ∃ set, libraries.regexSetNew (rules.flatMap expressionsOf) = .ok set
  automaton : rules.flatMap (wordsOf libraries) = [] ∨
    ∃ machine, libraries.automatonNew (rules.flatMap (wordsOf libraries)) = .ok machine

/-- **The rules compile together when each of them does and the shared tables can be built**, and
only then. -/
theorem exists_compile_iff (maxScanBytes : Nat) (mlDetector : Text → List Entity) :
    (∃ classifier, compileWithModelEdm libraries rules [] maxScanBytes mlDetector =
      .ok classifier) ↔ Compilable libraries rules := by
  constructor
  · rintro ⟨classifier, compiled⟩
    have loaded := loaded_of_compile compiled
    obtain ⟨datasets, registered, compiled⟩ := bind_eq_ok compiled
    cases registered
    obtain ⟨tables, ruled, -⟩ := bind_eq_ok compiled
    refine ⟨(RuleTables.exists_foldlM_iff {}).mp ⟨tables, ruled⟩, ⟨_, loaded.regexSet⟩, ?_⟩
    have automaton := loaded.keywordAc
    split at automaton
    case h_1 => exact .inl automaton
    case h_2 machine _ => exact .inr ⟨machine, automaton⟩
  · rintro ⟨each, ⟨regexSet, set⟩, automaton⟩
    obtain ⟨tables, ruled⟩ := (RuleTables.exists_foldlM_iff {}).mpr each
    have filled := RuleTables.filled_of_foldlM ruled
    obtain ⟨keywordAc, built⟩ : ∃ keywordAc,
        buildAutomaton libraries (rules.flatMap (wordsOf libraries)) = .ok keywordAc := by
      rw [buildAutomaton]
      split
      case isTrue => exact ⟨none, rfl⟩
      case isFalse some =>
        obtain ⟨machine, builds⟩ := automaton.resolve_left some
        rw [builds]
        exact ⟨_, rfl⟩
    refine ⟨⟨tables, regexSet, keywordAc, [], mlDetector, maxScanBytes⟩, ?_⟩
    change (rules.foldlM (RuleTables.addRule []) {} >>= _) = _
    rw [ruled]
    change (compileStep _ (libraries.regexSetNew tables.regexPatterns) >>= _) = _
    rw [filled.regexPatterns, set]
    rw [filled.keywordPatterns, built]
    rfl

/-! ## What the automaton reports -/

theorem ne_nil_of_mem_words {word : Text} (listed : word ∈ rules.flatMap (wordsOf libraries)) :
    word ≠ [] := by
  obtain ⟨rule, -, inside⟩ := mem_flatMap.mp listed
  rw [wordsOf] at inside
  split at inside
  case isTrue =>
    obtain ⟨part, kept, rfl⟩ := mem_map.mp inside
    exact libraries.toLowercase_ne_nil (of_decide_eq_true (mem_filter.mp kept).2)
  case isFalse => cases inside

/-- A word of the automaton is in the dictionary of its owner. -/
theorem exists_owner {index : Nat} {word : Text}
    (stands : (rules.flatMap (wordsOf libraries))[index]? = some word) :
    ∃ owner ∈ rules, (rules.flatMap (ownersOf libraries))[index]? = some owner ∧
      word ∈ wordsOf libraries owner := by
  have words : rules.flatMap (wordsOf libraries) =
      (rules.flatMap fun rule => (wordsOf libraries rule).map (·, rule)).map Prod.fst := by
    simp [map_flatMap, Function.comp_def]
  have owners : rules.flatMap (ownersOf libraries) =
      (rules.flatMap fun rule => (wordsOf libraries rule).map (·, rule)).map Prod.snd := by
    simp only [map_flatMap, map_map, Function.comp_def]
    rfl
  rw [words, getElem?_map] at stands
  obtain ⟨pair, found, rfl⟩ := Option.map_eq_some_iff.mp stands
  obtain ⟨rule, listed, inside⟩ := mem_flatMap.mp (mem_of_getElem? found)
  obtain ⟨word, entry, rfl⟩ := mem_map.mp inside
  refine ⟨rule, listed, ?_, entry⟩
  rw [owners, getElem?_map, found]
  rfl

/-- Where a hit is, in bytes. -/
def hitSpan (folded : Text) (hit : Hit) : Option (Nat × Nat) :=
  some (byteLength (folded.take hit.start), byteLength ((folded.take hit.stop).drop hit.start))

namespace ContentClassifier.Loaded

variable {folded : Text} {automaton : libraries.Automaton}

variable (loaded : classifier.Loaded rules maxScanBytes mlDetector)

include loaded

/-- **A hit is one of the rule that has the word**, if that applies to the channel. -/
theorem keywordHit_eq (channel : DlpChannel) (hit : Hit) :
    classifier.keywordHit channel folded hit =
      (rules.flatMap (ownersOf libraries))[hit.word]?.bind fun owner =>
        if owner.appliesTo channel then
          some ((fromRule owner).hit .keyword (hitSpan folded hit))
        else none := by
  have owned := congrArg (·[hit.word]?) loaded.filled.owners
  simp only [getElem?_map] at owned
  rw [keywordHit]
  cases place : classifier.tables.keywordPatToRule[hit.word]? with
  | none =>
    rw [place] at owned
    rw [Option.map_eq_none_iff.mp owned.symm]
    rfl
  | some place =>
    obtain ⟨owner, found, info⟩ := Option.map_eq_some_iff.mp (place ▸ owned).symm
    rw [found]
    simp only [Option.bind_eq_bind, Option.bind_some, ← info]
    rfl

end ContentClassifier.Loaded

/-! ## Libraries for ASCII -/

/-- Expressions that are words, and the first word where several begin. -/
def asciiLibraries : Libraries where
  Regex := Text
  regexNew word := if word ≠ [] ∧ word.all Char.isAlphanum then .ok word
    else .error "regex parse error"
  findIter word text :=
    (leftmostFirst [word] 0 0 text).map fun hit => ((text.take hit.start).reverse, word)
  RegexSet := List Text
  regexSetNew patterns := .ok patterns
  setMatches patterns text := (List.range patterns.length).filter fun index =>
    (patterns[index]?).any (Text.hasInfix text)
  Automaton := List Text
  automatonNew words := .ok words
  findWords words text := leftmostFirst words 0 0 text
  scan_findWords built nonempty := by
    cases built
    exact leftmostFirst_scan nonempty _ [] 0 rfl
  CompiledEdm := EdmDataset
  edmFromDataset dataset := .ok dataset
  edmMatches _ _ := false
  fromUtf8Lossy bytes := bytes.map fun byte => Char.ofNat byte.toNat
  nfc text := text
  toLowercase := Text.asciiLower
  toLowercase_ne_nil nonempty := by simpa [Text.asciiLower] using nonempty
  simhash _ := 0
  validatorFor _ := none

end ShieldNet.Dlp
