import ShieldNet.Lib.Table
import ShieldNet.Lib.Text
import Mathlib.Algebra.Order.BigOperators.Group.List
import Mathlib.Algebra.Order.Ring.Nat
import Mathlib.Data.Char
import Mathlib.Data.List.Lex
import Mathlib.Data.List.Sort

/-!
# Users, roles and grants

The tables behind `internal/service/rbac` and `internal/service/identity`, with
the operations of `internal/repository/memory/{user,role}.go` on them. A user
table keeps each id once and each email once per tenant, in any letter case, as
`users_tenant_email_lower_idx` of the schema demands. Roles are kept by id, and
a grant is keyed by user, role and scope.

What the libraries decide is a parameter: the lower-case rune, the fresh uuid,
and how a listing by name orders roles of one name.
-/

namespace ShieldNet.Identity

open List Function

/-! ## Rows -/

abbrev Uuid := Nat

def nilUuid : Uuid := 0

inductive RoleScope where
  | platform
  | msp
  | tenant
  | site
  deriving DecidableEq

/-- The scope of a request, where the repository knows it. -/
def RoleScope.ofString : String → Option RoleScope
  | "platform" => some .platform
  | "msp" => some .msp
  | "tenant" => some .tenant
  | "site" => some .site
  | _ => none

/-- `Role`; a system role has no tenant. -/
structure Role where
  id : Uuid
  tenantId : Option Uuid
  name : Text
  externalId : Text
  permissions : List String
  scope : RoleScope

def Role.visibleTo (role : Role) (tenant : Uuid) : Bool := role.tenantId.all (· = tenant)

structure UserRole where
  userId : Uuid
  roleId : Uuid
  scopeId : Option Uuid

inductive UserStatus where
  | active
  | suspended
  | deleted
  deriving DecidableEq

structure User where
  id : Uuid
  tenantId : Uuid
  email : Text
  name : Text
  externalId : Text
  idpSubject : Text
  status : UserStatus

inductive RepositoryError where
  | invalidArgument
  | notFound
  | conflict
  deriving DecidableEq

structure Platform where
  /-- `unicode.ToLower`. -/
  runeLower : Char → Char
  runeLower_idem : ∀ c, runeLower (runeLower c) = runeLower c
  /-- `uuid.New`, given the ids in use. -/
  newUuid : List Uuid → Uuid
  newUuid_fresh : ∀ used, newUuid used ∉ used
  /-- The order of a listing by name. -/
  listOrder : List Role → List Role
  mem_listOrder : ∀ roles role, role ∈ listOrder roles ↔ role ∈ roles

def Platform.lower (platform : Platform) (text : Text) : Text := text.map platform.runeLower

theorem Platform.lower_idem (platform : Platform) (text : Text) :
    platform.lower (platform.lower text) = platform.lower text := by
  simp [Platform.lower, map_map, comp_def, platform.runeLower_idem]

/-- A platform that knows the case of ASCII letters and counts its ids. -/
def asciiPlatform : Platform where
  runeLower := Char.toLower
  runeLower_idem := Text.toLower_idem
  newUuid used := used.sum + 1
  newUuid_fresh used member := Nat.not_succ_le_self used.sum (le_sum_of_mem member)
  listOrder := insertionSort fun first second => first.name ≤ second.name
  mem_listOrder _ _ := mem_insertionSort _

/-! ## User tables -/

structure UserTable (platform : Platform) where
  rows : List User
  idsDistinct : (rows.map User.id).Nodup
  emailsDistinct : (rows.map fun user => (user.tenantId, platform.lower user.email)).Nodup

namespace UserTable

variable {platform : Platform} (table : UserTable platform)

def find (tenant : Uuid) (email : Text) : Option User :=
  table.rows.find? fun user => user.tenantId = tenant ∧ platform.lower user.email = email

def insert (user : User) (newId : user.id ∉ table.rows.map User.id)
    (newEmail : table.find user.tenantId (platform.lower user.email) = none) :
    UserTable platform where
  rows := user :: table.rows
  idsDistinct := nodup_cons.mpr ⟨newId, table.idsDistinct⟩
  emailsDistinct := by
    refine nodup_cons.mpr ⟨fun listed => ?_, table.emailsDistinct⟩
    obtain ⟨other, member, same⟩ := mem_map.mp listed
    obtain ⟨tenant, email⟩ := Prod.mk.inj same
    have different := find?_eq_none.mp newEmail other member
    simp [tenant, email] at different

def setStatus (id : Uuid) (status : UserStatus) : UserTable platform where
  rows := table.rows.map fun user => if user.id = id then { user with status } else user
  idsDistinct := by
    have same : (fun user : User => (if user.id = id then { user with status } else user).id) =
        User.id := by
      funext user
      split <;> rfl
    rw [map_map, comp_def, same]
    exact table.idsDistinct
  emailsDistinct := by
    rw [map_map]
    convert table.emailsDistinct using 2
    funext user
    simp only [comp_apply]
    split <;> rfl

variable {table : UserTable platform} {tenant : Uuid} {email : Text} {user : User}

theorem find_eq_some_iff : table.find tenant email = some user ↔
    user ∈ table.rows ∧ user.tenantId = tenant ∧ platform.lower user.email = email := by
  have found := @Table.find?_key_eq_some_iff _ _ _ _ (tenant, email) user _ table.emailsDistinct
  simp only [Prod.mk.injEq] at found
  exact found

theorem find_email_unique {other : Text} {found : User}
    (first : table.find tenant email = some user) (second : table.find tenant other = some found)
    (same : user.id = found.id) : email = other := by
  obtain ⟨member, -, lowered⟩ := find_eq_some_iff.mp first
  obtain ⟨otherMember, -, otherLowered⟩ := find_eq_some_iff.mp second
  rw [← lowered, ← otherLowered, inj_on_of_nodup_map table.idsDistinct member otherMember same]

theorem find_insert {newId : user.id ∉ table.rows.map User.id}
    {newEmail : table.find user.tenantId (platform.lower user.email) = none} :
    (table.insert user newId newEmail).find tenant email =
      if user.tenantId = tenant ∧ platform.lower user.email = email then some user
      else table.find tenant email := by
  rw [find, insert, find?_cons]
  split <;> simp_all [find]

theorem find_setStatus {id : Uuid} {status : UserStatus} :
    (table.setStatus id status).find tenant email =
      (table.find tenant email).map fun user =>
        if user.id = id then { user with status } else user := by
  rw [find, setStatus, find?_map, find]
  congr 2
  funext user
  simp only [comp_apply]
  split <;> rfl

end UserTable

/-! ## The store -/

structure Store (platform : Platform) where
  tenants : List Uuid
  users : UserTable platform
  roles : List Role
  roleIdsDistinct : (roles.map Role.id).Nodup
  userRoles : List UserRole

def sampleStore : Store asciiPlatform where
  tenants := [1]
  users := ⟨[⟨2, 1, "ann@example.com".toList, "Ann".toList, [], [], .active⟩], by decide, by decide⟩
  roles := []
  roleIdsDistinct := .nil
  userRoles := []

namespace Store

variable {platform : Platform} (store : Store platform)

def usedIds : List Uuid :=
  store.tenants ++ store.users.rows.map User.id ++ store.roles.map Role.id ++
    store.userRoles.map UserRole.userId ++ store.userRoles.map UserRole.roleId

def freshId : Uuid := platform.newUuid store.usedIds

theorem freshId_not_mem : store.freshId ∉ store.usedIds := platform.newUuid_fresh _

/-- `UserRepository.Create` of an active user. -/
def createUser (tenant : Uuid) (email name externalId : Text) :
    Except RepositoryError (User × Store platform) :=
  if tenant = nilUuid then .error .invalidArgument
  else if tenant ∉ store.tenants then .error .notFound
  else if email = [] then .error .invalidArgument
  else if vacant : store.users.find tenant (platform.lower email) = none then
    let user : User := ⟨store.freshId, tenant, email, name, externalId, externalId, .active⟩
    have newId : user.id ∉ store.users.rows.map User.id := fun used =>
      store.freshId_not_mem (by simp [usedIds, mem_map.mp used, user])
    .ok (user, { store with users := store.users.insert user newId vacant })
  else .error .conflict

def getByEmail (tenant : Uuid) (email : Text) : Except RepositoryError User :=
  match store.users.find tenant (platform.lower email) with
  | some user => .ok user
  | none => .error .notFound

/-- `UserRepository.Update` with a status only. -/
def updateStatus (tenant id : Uuid) (status : UserStatus) :
    Except RepositoryError (Store platform) :=
  if store.users.rows.any fun user => user.id = id ∧ user.tenantId = tenant then
    .ok { store with users := store.users.setStatus id status }
  else .error .notFound

def addRole (role : Role) (fresh : role.id = store.freshId) : Store platform := { store with
    roles := role :: store.roles
    roleIdsDistinct := nodup_cons.mpr ⟨fun used => store.freshId_not_mem
      (by simp [usedIds, ← fresh, mem_map.mp used]), store.roleIdsDistinct⟩ }

/-- `RoleRepository.Create`; the scope was known to the repository. -/
def createRole (tenantId : Option Uuid) (name externalId : Text) (permissions : List String)
    (scope : RoleScope) : Except RepositoryError (Role × Store platform) :=
  if name = [] then .error .invalidArgument
  else if tenantId.any (· ∉ store.tenants) then .error .notFound
  else if store.roles.any fun role => role.name = name ∧ role.tenantId = tenantId then
    .error .conflict
  else
    let role : Role := ⟨store.freshId, tenantId, name, externalId, permissions, scope⟩
    .ok (role, store.addRole role rfl)

def getRole (id : Uuid) : Option Role := store.roles.find? fun role => role.id = id

def listRoles (tenant : Uuid) : List Role :=
  platform.listOrder (store.roles.filter (·.visibleTo tenant))

def scopeIdOrZero (scopeId : Option Uuid) : Uuid := scopeId.getD nilUuid

def sameKey (first second : UserRole) : Bool :=
  first.userId = second.userId ∧ first.roleId = second.roleId ∧
    scopeIdOrZero first.scopeId = scopeIdOrZero second.scopeId

def assignRole (grant : UserRole) : Except RepositoryError (Store platform) :=
  if grant.userId ∉ store.users.rows.map User.id then .error .notFound
  else if (store.getRole grant.roleId).isNone then .error .notFound
  else if store.userRoles.any (sameKey grant) then .error .conflict
  else .ok { store with userRoles := store.userRoles ++ [grant] }

def revokeRole (grant : UserRole) : Except RepositoryError (Store platform) :=
  if store.userRoles.any (sameKey grant) then
    .ok { store with userRoles := store.userRoles.filter fun held => !sameKey grant held }
  else .error .notFound

def getUserRoles (userId : Uuid) : List UserRole :=
  store.userRoles.filter fun grant => grant.userId = userId

variable {store} {role : Role}

theorem getRole_eq_some_iff {id : Uuid} :
    store.getRole id = some role ↔ role ∈ store.roles ∧ role.id = id :=
  Table.find?_key_eq_some_iff store.roleIdsDistinct

variable {after : Store platform}

theorem createUser_eq_ok {tenant : Uuid} {email name externalId : Text} {user : User}
    (created : store.createUser tenant email name externalId = .ok (user, after)) :
    user = ⟨store.freshId, tenant, email, name, externalId, externalId, .active⟩ ∧
    ∃ (newId : user.id ∉ store.users.rows.map User.id)
      (vacant : store.users.find user.tenantId (platform.lower user.email) = none),
      after = { store with users := store.users.insert user newId vacant } := by
  unfold createUser at created
  split at created
  · cases created
  split at created
  · cases created
  split at created
  · cases created
  split at created
  case isTrue vacant =>
    cases created
    exact ⟨rfl, _, vacant, rfl⟩
  · cases created

theorem createRole_eq_ok {tenantId : Option Uuid} {name externalId : Text}
    {permissions : List String} {scope : RoleScope}
    (created : store.createRole tenantId name externalId permissions scope = .ok (role, after)) :
    role = ⟨store.freshId, tenantId, name, externalId, permissions, scope⟩ ∧
    after.users = store.users ∧ after.tenants = store.tenants ∧ after.roles = role :: store.roles ∧
    after.userRoles = store.userRoles := by
  unfold createRole at created
  split at created
  · cases created
  split at created
  · cases created
  split at created
  · cases created
  cases created
  exact ⟨rfl, rfl, rfl, rfl, rfl⟩

theorem assignRole_eq_ok {grant : UserRole} (assigned : store.assignRole grant = .ok after) :
    after = { store with userRoles := store.userRoles ++ [grant] } := by
  unfold assignRole at assigned
  split at assigned
  · cases assigned
  split at assigned
  · cases assigned
  split at assigned
  · cases assigned
  exact (Except.ok.inj assigned).symm

theorem revokeRole_eq_ok {grant : UserRole} (revoked : store.revokeRole grant = .ok after) :
    after = { store with userRoles := store.userRoles.filter fun held => !sameKey grant held } := by
  unfold revokeRole at revoked
  split at revoked
  · exact (Except.ok.inj revoked).symm
  · cases revoked

theorem mem_listRoles_iff {tenant : Uuid} :
    role ∈ store.listRoles tenant ↔ role ∈ store.roles ∧ role.visibleTo tenant := by
  rw [listRoles, platform.mem_listOrder, mem_filter]

end Store
end ShieldNet.Identity
