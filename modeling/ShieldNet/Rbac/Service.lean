import ShieldNet.Identity.Store

/-!
# Roles and authority

`internal/service/rbac/{service,msp}.go`: a tenant's requests to create a role
and to assign one, and the decisions that read the grants of a user: authority
over the platform, over a managed service provider (MSP), and over the tenants
bound to one.
-/

namespace ShieldNet.Rbac

open Identity

variable {platform : Platform}

/-! ## Requests -/

variable (store : Store platform)

def createCustomRole (tenant : Uuid) (name : Text) (scope : String) (permissions : List String)
    : Except RepositoryError (Role × Store platform) :=
  if name = [] then .error .invalidArgument
  else
    match RoleScope.ofString scope with
    | none => .error .invalidArgument
    | some known => store.createRole (some tenant) name [] permissions known

/-- The tenant of the request is only audited. -/
def assignRole (userId roleId : Uuid) (scopeId : Option Uuid) :
    Except RepositoryError (Store platform) :=
  store.assignRole ⟨userId, roleId, scopeId⟩

/-! ## Decisions -/

def rolePermits (role : Role) (permission : String) : Bool :=
  role.permissions.any fun held => held == "*" || held == permission

/-- A grant with its role: `resolveUserGrantsWithRoles`, which drops grants of
roles that are gone. -/
def resolvedGrants (userId : Uuid) : List (UserRole × Role) :=
  (store.getUserRoles userId).filterMap fun grant =>
    (store.getRole grant.roleId).map fun role => (grant, role)

def grantsMsp (msp : Uuid) (permission : String) (resolved : UserRole × Role) : Bool :=
  rolePermits resolved.2 permission && match resolved.2.scope with
    | .platform => true
    | .msp => resolved.1.scopeId == some msp
    | .tenant => false
    | .site => false

def authorizeMsp (userId msp : Uuid) (permission : String) : Except RepositoryError Bool :=
  if userId = nilUuid ∨ msp = nilUuid ∨ permission = "" then .error .invalidArgument
  else .ok ((resolvedGrants store userId).any (grantsMsp msp permission))

def authorizePlatform (userId : Uuid) (permission : String) : Except RepositoryError Bool :=
  if userId = nilUuid ∨ permission = "" then .error .invalidArgument
  else .ok ((resolvedGrants store userId).any fun resolved =>
    resolved.2.scope == .platform && rolePermits resolved.2 permission)

variable (grants : List (UserRole × Role))

def hasBroadAuthorityIn (msp : Uuid) (permission : String) : Bool :=
  grants.any (grantsMsp msp permission)

def grantedTenant (resolved : UserRole × Role) : Option Uuid :=
  resolved.1.scopeId.or resolved.2.tenantId

def authorizedTenantSet (permission : String) : List Uuid := (grants.filter fun resolved =>
    resolved.2.scope == .tenant && rolePermits resolved.2 permission).filterMap grantedTenant

/-- The bindings of an MSP that the paging loop can read. -/
def maxBindings : Nat := 5000 * 200

inductive ListError where
  | invalidArgument
  | tooManyMspBindings

/-- `ListAuthorizedTenants`, given the tenants bound to the MSP. -/
def listAuthorizedTenants (bindings : Uuid → List Uuid) (userId msp : Uuid) (permission : String)
    : Except ListError (List Uuid) :=
  if userId = nilUuid ∨ msp = nilUuid ∨ permission = "" then .error .invalidArgument
  else
    let grants := resolvedGrants store userId
    let granted := authorizedTenantSet grants permission
    if hasBroadAuthorityIn grants msp permission then
      if (bindings msp).length ≤ maxBindings then .ok (bindings msp)
      else .error .tooManyMspBindings
    else if granted = [] then .ok []
    else if (bindings msp).length ≤ maxBindings then .ok ((bindings msp).filter (· ∈ granted))
    else .error .tooManyMspBindings

end ShieldNet.Rbac
