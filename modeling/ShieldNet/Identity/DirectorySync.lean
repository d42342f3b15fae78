import ShieldNet.Identity.Groups

/-!
# Directory sync

`SyncTenant` of `internal/service/identity/idp_sync.go`: the enabled
directories of a tenant are reconciled one after another, each against the
whole user table. Users a directory lists as active are provisioned or
reactivated and get its groups; users it lists as inactive, and active users it
does not list, are off-boarded and a revocation is published for them. In
monitor mode the pass only counts.
-/

namespace ShieldNet.Identity

variable {platform : Platform}

/-! ## Reports -/

inductive SyncError where
  | noEmail (externalId : Text)
  | provision (email : Text) (cause : RepositoryError)
  | reactivate (email : Text) (cause : RepositoryError)
  | groups (email : Text) (cause : RepositoryError)
  | offboard (email : Text) (cause : RepositoryError)
  | roles (cause : RepositoryError)
  | directory (cause : String)

inductive OffboardReason where
  | deactivated
  | absent

inductive RolloutState where
  | off
  | monitor
  | enforce

structure SyncReport where
  configsProcessed : Nat := 0
  configsSkipped : Nat := 0
  usersSeen : Nat := 0
  usersProvisioned : Nat := 0
  usersOffboarded : Nat := 0
  groupsAssigned : Nat := 0
  groupsRevoked : Nat := 0
  state : Option RolloutState := none
  skipped : Bool := false
  dryRun : Bool := false
  wouldProvision : Nat := 0
  wouldOffboard : Nat := 0
  monitorErrorSamples : Nat := 0
  errors : List SyncError := []

/-- A pass so far: the tables, the revocations published, and the report. -/
structure SyncPass (platform : Platform) where
  store : Store platform
  published : List (Uuid × OffboardReason)
  report : SyncReport

def SyncPass.fail (pass : SyncPass platform) (error : SyncError) : SyncPass platform :=
  { pass with report := { pass.report with errors := pass.report.errors ++ [error] } }

/-! ## Users -/

def DirectoryUser.key (platform : Platform) (du : DirectoryUser) : Text :=
  platform.lower (Text.trimSpace du.email)

variable (store : Store platform)

def localByEmail (tenant : Uuid) : Assoc Text User :=
  (store.users.rows.filter fun user => user.tenantId = tenant).foldl
    (fun locals user => locals.set (platform.lower user.email) user) .empty

/-- An email that is taken answers with its user. -/
def provisionUser (tenant : Uuid) (du : DirectoryUser) :
    Except RepositoryError (User × Store platform) :=
  let name := if du.displayName = [] then du.email else du.displayName
  match store.createUser tenant (du.key platform) name du.externalId with
  | .ok created => .ok created
  | .error .conflict =>
    match store.getByEmail tenant (platform.lower du.email) with
    | .ok existing => .ok (existing, store)
    | .error _ => .error .conflict
  | .error e => .error e

variable (tenant : Uuid)

def offboard (known : User) (reason : OffboardReason) (pass : SyncPass platform)
    : SyncPass platform :=
  match pass.store.updateStatus tenant known.id .deleted with
  | .error e => pass.fail (.offboard known.email e)
  | .ok store =>
    { store
      published := pass.published ++ [(known.id, reason)]
      report := { pass.report with usersOffboarded := pass.report.usersOffboarded + 1 } }

/-- The groups of a user, with their counters and errors in the report. -/
def syncGroups (reconciler : RoleReconciler) (userId : Uuid) (du : DirectoryUser)
    (pass : SyncPass platform) : SyncPass platform :=
  let done := reconcileUserGroups reconciler pass.store userId du.groups
  let counted : SyncPass platform := { pass with
      store := done.store
      report := { pass.report with
        groupsAssigned := pass.report.groupsAssigned + done.groupsAssigned
        groupsRevoked := pass.report.groupsRevoked + done.groupsRevoked } }
  match done.failure with
  | some e => counted.fail (.groups (du.key platform) e)
  | none => counted

/-- Restore the local status of a user that is active upstream. -/
def reactivate (known : User) (du : DirectoryUser) (pass : SyncPass platform) : SyncPass platform :=
  if known.status = .active then pass
  else
    match pass.store.updateStatus tenant known.id .active with
    | .ok store => { pass with store }
    | .error e => pass.fail (.reactivate (du.key platform) e)

def reconcileEntry (reconciler : RoleReconciler) (locals : Assoc Text User)
    (pass : SyncPass platform) (du : DirectoryUser) : SyncPass platform :=
  if du.key platform = [] then pass.fail (.noEmail du.externalId)
  else
    let seen := { pass with report := { pass.report with usersSeen := pass.report.usersSeen + 1 } }
    match du.active, locals.get? (du.key platform) with
    | false, some known => offboard tenant known .deactivated seen
    | false, none => seen
    | true, some known => syncGroups reconciler known.id du (reactivate tenant known du seen)
    | true, none =>
      match provisionUser seen.store tenant du with
      | .error e => seen.fail (.provision (du.key platform) e)
      | .ok (user, store) =>
        syncGroups reconciler user.id du { seen with
            store
            report := { seen.report with
              usersProvisioned := seen.report.usersProvisioned + 1 } }

def seenEmails (platform : Platform) (dirUsers : List DirectoryUser) : List Text :=
  (dirUsers.map (·.key platform)).filter (· ≠ [])

/-- One local user of the sweep for users the directory no longer lists. -/
def sweepEntry (seen : List Text) (pass : SyncPass platform) (known : Text × User)
    : SyncPass platform :=
  if known.1 ∈ seen ∨ known.2.status ≠ .active then pass
  else offboard tenant known.2 .absent pass

def reconcileEnforce (dirUsers : List DirectoryUser) (pass : SyncPass platform) :
    SyncPass platform :=
  let locals := localByEmail pass.store tenant
  let built := newRoleReconciler pass.store tenant dirUsers
  match built.failure with
  | some e => SyncPass.fail { pass with store := built.store } (.roles e)
  | none =>
    let reconciled := dirUsers.foldl (reconcileEntry tenant built.reconciler locals)
      { pass with store := built.store }
    locals.entries.foldl (sweepEntry tenant (seenEmails platform dirUsers)) reconciled

/-! ## Monitor mode -/

def dryRunEntry (locals : Assoc Text User) (platform : Platform) (report : SyncReport)
    (du : DirectoryUser) : SyncReport :=
  if du.key platform = [] then
    { report with
      errors := report.errors ++ [.noEmail du.externalId]
      monitorErrorSamples := report.monitorErrorSamples + 1 }
  else
    let seen := { report with usersSeen := report.usersSeen + 1 }
    match du.active, locals.get? (du.key platform) with
    | false, some known =>
      if known.status = .active then { seen with wouldOffboard := seen.wouldOffboard + 1 }
      else seen
    | false, none => seen
    | true, some _ => seen
    | true, none => { seen with wouldProvision := seen.wouldProvision + 1 }

def reconcileDryRun (platform : Platform) (dirUsers : List DirectoryUser)
    (locals : Assoc Text User) (report : SyncReport) : SyncReport :=
  let walked := dirUsers.foldl (dryRunEntry locals platform) report
  let absent := locals.entries.filter fun known =>
    known.1 ∉ seenEmails platform dirUsers ∧ known.2.status = .active
  { walked with wouldOffboard := walked.wouldOffboard + absent.length }

def reconcile (dirUsers : List DirectoryUser) (pass : SyncPass platform) : SyncPass platform :=
  if pass.report.dryRun then
    { pass with
      report := reconcileDryRun platform dirUsers (localByEmail pass.store tenant) pass.report }
  else reconcileEnforce tenant dirUsers pass

/-! ## Tenants -/

inductive DirectoryRead where
  | noCredential
  | failed (cause : String)
  | users (dirUsers : List DirectoryUser)

structure IdpConfig where
  enabled : Bool
  read : DirectoryRead

/-- `syncConfig`, with its error collected by `SyncTenant`. -/
def syncConfig (pass : SyncPass platform) (config : IdpConfig) : SyncPass platform :=
  if !config.enabled then pass
  else
    let begun := { pass with report :=
      { pass.report with configsProcessed := pass.report.configsProcessed + 1 } }
    match config.read with
    | .noCredential =>
      { begun with report :=
        { begun.report with configsSkipped := begun.report.configsSkipped + 1 } }
    | .failed cause =>
      let samples := if begun.report.dryRun then begun.report.monitorErrorSamples + 1
        else begun.report.monitorErrorSamples
      SyncPass.fail
        { begun with report := { begun.report with monitorErrorSamples := samples } }
        (.directory cause)
    | .users dirUsers => reconcile tenant dirUsers begun

/-- `SyncTenant`, given the rollout state of a managed tenant. -/
def syncTenant (tenant : Uuid) (gate : Option RolloutState)
    (configs : List IdpConfig) : SyncPass platform :=
  match gate with
  | some .off => ⟨store, [], { state := some .off, skipped := true }⟩
  | some .monitor =>
    configs.foldl (syncConfig tenant) ⟨store, [], { state := some .monitor, dryRun := true }⟩
  | gate => configs.foldl (syncConfig tenant) ⟨store, [], { state := gate }⟩

end ShieldNet.Identity
