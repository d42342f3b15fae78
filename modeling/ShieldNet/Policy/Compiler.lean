import ShieldNet.Lib.Interleaving
import ShieldNet.Policy.Compile
import ShieldNet.Policy.Repository
import ShieldNet.Policy.SigningKeys

/-!
# Compiling a tenant's policy

`Service.Compile` of `internal/service/policy/service.go` with the key service it
signs with, as calls that make one repository call a step. A compile reads the
current graph, makes sure the tenant has a key, resolves the active key once, and
then encodes, signs and stores the bundles of the four targets, one after another
and with no transaction around them.
-/

namespace ShieldNet.Policy

open Identity (Uuid nilUuid RepositoryError)

/-! ## Wiring -/

structure PolicyStore where
  tables : PolicyTables
  keys : SigningKeys

structure CompileConfig where
  texts : GoText
  /-- `canonicaliseJSON`. -/
  canonicaliseJson : Json → Json
  /-- `uuid.UUID.String`. -/
  uuidText : Uuid → String
  /-- `uuid.New`, given the ids in use. -/
  newUuid : List Uuid → Uuid
  newUuid_fresh : ∀ used, newUuid used ∉ used
  /-- `ed25519.Sign`, with the key of a seed. -/
  sign : List UInt8 → RawBundle → List UInt8

/-- What the other compilers contribute: inline-CASB rules, threat-intelligence
rules, and the steering rules of each target. -/
structure CompileSources where
  casbRules : List GoRule
  iocRules : List GoRule
  steering : Option (BundleTarget → Steering.SteeringRuleSet)

inductive SourceFault where
  | inlineCasb
  | ioc
  | malwareHashes
  | snapshotSteering
  | endpointDlp

def SourceFault.context : SourceFault → String
  | .inlineCasb => "compile inline casb rules"
  | .ioc => "compile threat-intel ioc rules"
  | .malwareHashes => "compile malware hashes"
  | .snapshotSteering => "snapshot steering"
  | .endpointDlp => "compile endpoint dlp policy"

inductive TargetFault where
  | compileSteering
  | encodeSteering
  | encode
  | sign
  | save

def TargetFault.context (fault : TargetFault) (target : BundleTarget) : String :=
  match fault with
  | .compileSteering => "compile steering rules " ++ target.asStr
  | .encodeSteering => "encode steering rules " ++ target.asStr
  | .encode => "encode " ++ target.asStr ++ " bundle"
  | .sign => "sign " ++ target.asStr ++ " bundle"
  | .save => "save " ++ target.asStr ++ " bundle"

structure CompileInput where
  /-- A repository call before the targets fails. -/
  fails : Bool
  now : Nat
  /-- `generateKey`, `Wrap` and `newKeyID`. -/
  material : KeyMaterial
  /-- `Unwrap`. -/
  unwrap : List UInt8 → Option (List UInt8)
  sources : Except SourceFault CompileSources
  /-- The work on a target fails. -/
  fault : Option TargetFault

/-! ## Bundles -/

structure PreparedSigning where
  seed : List UInt8
  keyId : String

/-- What a compile works on once it has gathered everything. -/
structure CompileJob where
  tenant : Uuid
  graph : PolicyGraph
  prepared : PreparedSigning
  sources : CompileSources

variable (config : CompileConfig)

/-- The `rules` of a document that is no typed graph. -/
def normaliseRules (document : Json) : Json :=
  match GoJson.map .null (fun json _ => some json) document StrMap.empty with
  | none => .null
  | some root => (root.get? "rules").elim .null config.canonicaliseJson

def extractDefaultAction (document : Json) : String :=
  match GoJson.struct [("default_action", GoJson.string)] document "" with
  | none => "deny"
  | some action => if action = "" then "deny" else action

variable (job : CompileJob)

/-- The typed graph with the rules folded in, if the document parses. -/
def CompileJob.typed : Option Graph :=
  match parseGraph config.texts (some job.graph.graph) with
  | .error _ => none
  | .ok parsed => some (parsed.foldIn job.sources.casbRules job.sources.iocRules)

def CompileJob.payload (target : BundleTarget) : RawBundle :=
  let steering := job.sources.steering.map fun compiled => compiled target
  match job.typed config with
  | some typed =>
    encodeBundlePayloadFor target (config.uuidText job.graph.id) job.graph.version typed steering
  | none =>
    { schemaVersion := 1, target, graphId := config.uuidText job.graph.id
      graphVersion := job.graph.version, compiler := compilerVersion
      defaultAction := extractDefaultAction job.graph.graph
      rulesJson := some (normaliseRules config job.graph.graph), steering }

def CompileJob.bundle (target : BundleTarget) (id : Uuid) : PolicyBundle where
  id
  policyGraphId := job.graph.id
  targetType := target
  bundle := job.payload config target
  signature := config.sign job.prepared.seed (job.payload config target)
  keyId := job.prepared.keyId
  createdAt := 0

/-! ## Calls -/

inductive PolicyRequest where
  | compile (tenant : Uuid)
  | rotate (tenant : Uuid)
  | revoke (tenant : Uuid) (keyId : String)

inductive PolicyCall where
  /-- `Compile`; `EnsureKey` is the steps `ensureKey` to `confirmActive`. -/
  | getCurrentGraph (tenant : Uuid)
  | ensureKey (tenant : Uuid) (graph : PolicyGraph)
  | createIfNoHistory (tenant : Uuid) (graph : PolicyGraph)
  | confirmActive (tenant : Uuid) (graph : PolicyGraph)
  | prepareSigner (tenant : Uuid) (graph : PolicyGraph)
  | gather (tenant : Uuid) (graph : PolicyGraph) (prepared : PreparedSigning)
  | save (job : CompileJob) (saved : List PolicyBundle) (target : BundleTarget)
      (rest : List BundleTarget)
  | compiled (tenant : Uuid) (result : Except ServiceError (List PolicyBundle))
  /-- `KeyService.Rotate`. -/
  | rotate (tenant : Uuid)
  | rotated (tenant : Uuid) (result : Except ServiceError PolicySigningKey)
  /-- `KeyService.Revoke`. -/
  | revoke (tenant : Uuid) (keyId : String)
  | revoked (tenant : Uuid) (keyId : String) (result : Except ServiceError PolicySigningKey)

namespace PolicyCall

def start : PolicyRequest → PolicyCall
  | .compile tenant => .getCurrentGraph tenant
  | .rotate tenant => .rotate tenant
  | .revoke tenant keyId => .revoke tenant keyId

def rotationRequired : ServiceError :=
  .wrapped "policy: no active signing key (admin rotation required after revocation)"
    (.repository .notFound)

def advance (config : CompileConfig) (input : CompileInput) (store : PolicyStore) :
    PolicyCall → PolicyStore × PolicyCall
  | .getCurrentGraph tenant =>
    if input.fails then (store, .compiled tenant (.error .unavailable))
    else
      match store.tables.getCurrentGraph tenant with
      | none => (store, .compiled tenant (.error (.repository .notFound)))
      | some graph => (store, .ensureKey tenant graph)
  | .ensureKey tenant graph =>
    if input.fails then
      (store, .compiled tenant (.error (.wrapped "ensure signing key" .unavailable)))
    else
      match store.keys.getActive tenant with
      | some _ => (store, .prepareSigner tenant graph)
      | none => (store, .createIfNoHistory tenant graph)
  | .createIfNoHistory tenant graph =>
    if input.fails then
      (store, .compiled tenant (.error (.wrapped "ensure signing key" .unavailable)))
    else
      match store.keys.createIfNoHistory store.tables.tenants tenant input.material input.now with
      | .ok (keys, _) => ({ store with keys }, .prepareSigner tenant graph)
      | .error .conflict => (store, .confirmActive tenant graph)
      | .error error =>
        (store, .compiled tenant (.error (.wrapped "ensure signing key" (.repository error))))
  | .confirmActive tenant graph =>
    match input.fails, store.keys.getActive tenant with
    | false, some _ => (store, .prepareSigner tenant graph)
    | _, _ => (store, .compiled tenant (.error (.wrapped "ensure signing key" rotationRequired)))
  | .prepareSigner tenant graph =>
    if input.fails then
      (store, .compiled tenant (.error (.wrapped "prepare signer" .unavailable)))
    else
      match store.keys.getActive tenant with
      | none =>
        (store, .compiled tenant (.error (.wrapped "prepare signer" (.repository .notFound))))
      | some active =>
        match input.unwrap active.privateKey with
        | none =>
          (store, .compiled tenant
            (.error (.wrapped "prepare signer" (.wrapped "unwrap key" .unavailable))))
        | some seed =>
          if seed.length = 32 then
            (store, .gather tenant graph { seed, keyId := active.keyId })
          else
            (store, .compiled tenant
              (.error (.wrapped "prepare signer" (.message "policy: invalid seed size"))))
  | .gather tenant graph prepared =>
    match input.sources with
    | .error fault =>
      (store, .compiled tenant (.error (.wrapped fault.context .unavailable)))
    | .ok sources =>
      -- the order of `allTargets`
      (store, .save { tenant, graph, prepared, sources } [] .edge [.endpoint, .cloud, .mobile])
  | .save job saved target rest =>
    match input.fault with
    | some fault =>
      (store, .compiled job.tenant (.error (.wrapped (fault.context target) .unavailable)))
    | none =>
      match store.tables.createBundle job.tenant (job.bundle config target
            (config.newUuid (store.tables.bundles.rows.map PolicyBundle.id))) input.now with
      | .error error =>
        (store, .compiled job.tenant
          (.error (.wrapped (TargetFault.save.context target) (.repository error))))
      | .ok (tables, bundle) =>
        match rest with
        | [] => ({ store with tables }, .compiled job.tenant (.ok (saved ++ [bundle])))
        | next :: rest => ({ store with tables }, .save job (saved ++ [bundle]) next rest)
  | .rotate tenant =>
    if input.fails then (store, .rotated tenant (.error .unavailable))
    else
      match store.keys.rotate tenant input.material input.now with
      | .error error => (store, .rotated tenant (.error (.repository error)))
      | .ok (keys, saved) => ({ store with keys }, .rotated tenant (.ok saved))
  | .revoke tenant keyId =>
    if input.fails then (store, .revoked tenant keyId (.error .unavailable))
    else
      match store.keys.revoke tenant keyId input.now with
      | .error error => (store, .revoked tenant keyId (.error (.repository error)))
      | .ok (keys, saved) => ({ store with keys }, .revoked tenant keyId (.ok saved))
  | .compiled tenant result => (store, .compiled tenant result)
  | .rotated tenant result => (store, .rotated tenant result)
  | .revoked tenant keyId result => (store, .revoked tenant keyId result)

end PolicyCall

def policyService : Service PolicyStore PolicyRequest CompileInput PolicyCall where
  start := PolicyCall.start
  advance := PolicyCall.advance config

instance : Fintype BundleTarget where
  elems := {.edge, .endpoint, .cloud, .mobile}
  complete target := by cases target <;> decide

def sampleConfig : CompileConfig where
  texts := plainGoText
  canonicaliseJson := id
  uuidText _ := "graph"
  newUuid used := used.max?.getD 0 + 1
  newUuid_fresh _ member := Nat.not_succ_le_self _ (List.le_max?_getD_of_mem member)
  sign seed _ := seed

def sampleCompileInput (keyId : String) (now : Nat) : CompileInput where
  fails := false
  now
  material := { id := now, keyId, publicKey := [1], privateKey := [2] }
  unwrap _ := some (List.replicate 32 0)
  sources := .ok { casbRules := [], iocRules := [], steering := none }
  fault := none

/-! ## What a step does -/

namespace PolicyCall

variable {config : CompileConfig} {input : CompileInput} {store stored : PolicyStore}
  {call : PolicyCall}

def tenant : PolicyCall → Uuid
  | .getCurrentGraph tenant | .ensureKey tenant _ | .createIfNoHistory tenant _
  | .confirmActive tenant _ | .prepareSigner tenant _ | .gather tenant _ _ | .compiled tenant _
  | .rotate tenant | .rotated tenant _ | .revoke tenant _ | .revoked tenant _ _ => tenant
  | .save job .. => job.tenant

def compiles : PolicyCall → Bool
  | .getCurrentGraph _ | .ensureKey .. | .createIfNoHistory .. | .confirmActive ..
  | .prepareSigner .. | .gather .. | .save .. | .compiled .. => true
  | .rotate _ | .rotated .. | .revoke .. | .revoked .. => false

def graph? : PolicyCall → Option PolicyGraph
  | .ensureKey _ graph | .createIfNoHistory _ graph | .confirmActive _ graph
  | .prepareSigner _ graph | .gather _ graph _ => some graph
  | .save job .. => some job.graph
  | .getCurrentGraph _ | .compiled .. | .rotate _ | .rotated .. | .revoke .. | .revoked .. => none

/-- The key a compile has resolved, while it goes on to sign with it. -/
def prepared? : PolicyCall → Option PreparedSigning
  | .gather _ _ prepared => some prepared
  | .save job .. => some job.prepared
  | .getCurrentGraph _ | .ensureKey .. | .createIfNoHistory .. | .confirmActive ..
  | .prepareSigner .. | .compiled .. | .rotate _ | .rotated .. | .revoke .. | .revoked .. => none

variable (config input store) in
inductive Effect : PolicyCall → PolicyStore → Prop where
  | none (call : PolicyCall) : Effect call store
  | keyCreated {tenant graph keys saved}
      (created : store.keys.createIfNoHistory store.tables.tenants tenant input.material input.now =
        .ok (keys, saved)) :
      Effect (.createIfNoHistory tenant graph) { store with keys }
  | saved {job bundles target rest tables bundle}
      (unfaulted : input.fault = .none)
      (created : store.tables.createBundle job.tenant
        (job.bundle config target (config.newUuid (store.tables.bundles.rows.map PolicyBundle.id)))
        input.now = .ok (tables, bundle)) :
      Effect (.save job bundles target rest) { store with tables }
  | rotated {tenant keys saved}
      (rotated : store.keys.rotate tenant input.material input.now = .ok (keys, saved)) :
      Effect (.rotate tenant) { store with keys }
  | revoked {tenant keyId keys saved}
      (connected : input.fails = false)
      (revoked : store.keys.revoke tenant keyId input.now = .ok (keys, saved)) :
      Effect (.revoke tenant keyId) { store with keys }

/-- What one step does to the store, to the tenant of the call, and to what the
call has read. -/
structure Stepped (config : CompileConfig) (input : CompileInput) (store : PolicyStore)
    (call : PolicyCall) (result : PolicyStore × PolicyCall) : Prop where
  effect : Effect config input store call result.1
  tenant : result.2.tenant = call.tenant
  compiles : result.2.compiles = call.compiles
  graph : ∀ graph ∈ result.2.graph?,
    call.graph? = some graph ∨ store.tables.getCurrentGraph call.tenant = some graph
  prepared : ∀ prepared ∈ result.2.prepared?, call.prepared? = some prepared ∨
    ∃ active, store.keys.getActive call.tenant = some active ∧ prepared.keyId = active.keyId

theorem Stepped.of_effect {next : PolicyCall} (effect : Effect config input store call stored)
    (tenant : next.tenant = call.tenant := by rfl)
    (compiles : next.compiles = call.compiles := by rfl)
    (graph : ∀ graph ∈ next.graph?, call.graph? = some graph := by simp [graph?])
    (prepared : ∀ prepared ∈ next.prepared?, call.prepared? = some prepared := by
      simp [prepared?]) :
    Stepped config input store call (stored, next) where
  effect
  tenant
  compiles
  graph found member := .inl (graph found member)
  prepared found member := .inl (prepared found member)

theorem advance_stepped (config : CompileConfig) (input : CompileInput) (store : PolicyStore)
    (call : PolicyCall) : Stepped config input store call (advance config input store call) := by
  cases call with
  | getCurrentGraph tenant =>
    rw [advance]
    repeat' split
    case h_2 graph found =>
      refine ⟨.none _, rfl, rfl, ?_, by simp [prepared?]⟩
      rintro _ ⟨⟩
      exact .inr found
    all_goals exact .of_effect (.none _)
  | createIfNoHistory tenant graph =>
    rw [advance]
    repeat' split
    case h_1 created => exact .of_effect (.keyCreated created)
    all_goals exact .of_effect (.none _)
  | prepareSigner tenant graph =>
    rw [advance]
    repeat' split
    case h_2.isTrue active found _ _ _ _ =>
      refine ⟨.none _, rfl, rfl, by simp [graph?], ?_⟩
      rintro _ ⟨⟩
      exact .inr ⟨active, found, rfl⟩
    all_goals exact .of_effect (.none _)
  | save job saved target rest =>
    rw [advance]
    split
    case h_1 => exact .of_effect (.none _)
    case h_2 unfaulted =>
      split
      case h_1 => exact .of_effect (.none _)
      case h_2 created =>
        split <;> exact .of_effect (.saved unfaulted created)
  | rotate tenant =>
    rw [advance]
    repeat' split
    case h_2 rotated => exact .of_effect (.rotated rotated)
    all_goals exact .of_effect (.none _)
  | revoke tenant keyId =>
    rw [advance]
    repeat' split
    case h_2 connected _ _ _ revoked =>
      exact .of_effect (.revoked (eq_false_of_ne_true connected) revoked)
    all_goals exact .of_effect (.none _)
  | compiled | rotated | revoked => exact .of_effect (.none _)
  | _ =>
    rw [advance]
    repeat' split
    all_goals exact .of_effect (.none _)

end PolicyCall
end ShieldNet.Policy
