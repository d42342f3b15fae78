import ShieldNet.Lib.Runs
import ShieldNet.Rbac.Containment
import ShieldNet.Rbac.Service

/-!
# What tenant administration can reach

Runs of the requests a tenant makes to create and assign roles, and of passes of
its directories. `administration_stays_inside` says that a run in which what is
granted is contained in the tenant gives nobody authority outside it. Nothing in
the code keeps the grants contained: `administration_reaches_the_platform` has
two short runs that end with authority over the platform.
-/

namespace ShieldNet.Rbac

open Identity List

variable {platform : Platform} {tenant : Uuid}

/-! ## Runs -/

inductive AdminEvent where
  | createRole (name : Text) (scope : String) (permissions : List String)
  | assignRole (userId roleId : Uuid) (scopeId : Option Uuid)
  | directorySync (gate : Option RolloutState) (configs : List IdpConfig)

/-- The store after an event; a request that fails changes nothing. -/
def adminStep (tenant : Uuid) (store : Store platform) : AdminEvent → Store platform
  | .createRole name scope permissions =>
    match createCustomRole store tenant name scope permissions with
    | .ok (_, after) => after
    | .error _ => store
  | .assignRole userId roleId scopeId =>
    match assignRole store userId roleId scopeId with
    | .ok after => after
    | .error _ => store
  | .directorySync gate configs => (syncTenant store tenant gate configs).store

def GrantsInside (tenant : Uuid) (store : Store platform) : AdminEvent → Prop
  | .createRole _ _ _ => True
  | .assignRole _ roleId scopeId =>
    ∀ role, store.getRole roleId = some role → Contained tenant role scopeId
  | .directorySync _ configs => GroupsContained tenant store configs

variable {store : Store platform}

theorem adminStep_confined {event : AdminEvent} (inside : GrantsInside tenant store event) :
    Confined tenant store (adminStep tenant store event) := by
  cases event with
  | createRole name scope permissions =>
    unfold adminStep
    dsimp only
    split
    case h_1 created =>
      unfold createCustomRole at created
      split at created
      · cases created
      · split at created
        · cases created
        · exact .createRole created
    · exact .refl tenant store
  | assignRole userId roleId scopeId =>
    unfold adminStep
    dsimp only
    split
    case h_1 assigned => exact .assignRole assigned inside
    · exact .refl tenant store
  | directorySync gate configs => exact (syncTenant_synced inside gate).confined

/-- Nobody has gained authority over the platform, over an MSP, or over a
tenant other than this one. -/
structure NoOutsideGain (tenant : Uuid) (before after : Store platform) : Prop where
  platform : ∀ userId permission, authorizePlatform after userId permission = .ok true →
    authorizePlatform before userId permission = .ok true
  msp : ∀ userId msp permission, authorizeMsp after userId msp permission = .ok true →
    authorizeMsp before userId msp permission = .ok true
  tenants : ∀ bindings userId msp permission other, other ≠ tenant →
    (∃ listed, listAuthorizedTenants after bindings userId msp permission = .ok listed ∧
      other ∈ listed) →
    ∃ listed, listAuthorizedTenants before bindings userId msp permission = .ok listed ∧
      other ∈ listed

variable {permission : String} {role : Role}

theorem permissions_ne_nil_of_permits (permits : rolePermits role permission)
    : role.permissions ≠ [] := by
  rintro none
  simp [rolePermits, none] at permits

variable {grant : UserRole} {msp : Uuid}

theorem Contained.grantsMsp_false (contained : Contained tenant role grant.scopeId)
    (real : msp ≠ nilUuid)
    (permission : String) : grantsMsp msp permission (grant, role) = false := by
  rw [Bool.eq_false_iff]
  intro grants
  obtain ⟨permits, reaches⟩ := Bool.and_eq_true_iff.mp grants
  rcases contained with none | scope
  · exact permissions_ne_nil_of_permits permits none
  · cases kind : role.scope with
    | platform => simp [kind] at scope
    | msp =>
      simp only [kind] at scope reaches
      exact real (scope msp (by simpa using reaches))
    | _ => simp [kind] at reaches

variable {userId : Uuid}

theorem mem_resolvedGrants_iff : (grant, role) ∈ resolvedGrants store userId ↔
    grant ∈ store.userRoles ∧ grant.userId = userId ∧ store.getRole grant.roleId = some role := by
  constructor
  · intro listed
    obtain ⟨held, member, found⟩ := mem_filterMap.mp listed
    obtain ⟨resolved, lookup, pair⟩ := Option.map_eq_some_iff.mp found
    obtain ⟨rfl, rfl⟩ := Prod.mk.inj pair
    obtain ⟨stored, own⟩ := mem_filter.mp member
    exact ⟨stored, by simpa using own, lookup⟩
  · rintro ⟨stored, own, lookup⟩
    refine mem_filterMap.mpr ⟨grant, mem_filter.mpr ⟨stored, by simpa using own⟩, ?_⟩
    rw [lookup, Option.map_some]

variable {before after : Store platform}

theorem Confined.resolved (confined : Confined tenant before after)
    (listed : (grant, role) ∈ resolvedGrants after userId) :
    (grant, role) ∈ resolvedGrants before userId ∨ Contained tenant role grant.scopeId := by
  obtain ⟨stored, own, lookup⟩ := mem_resolvedGrants_iff.mp listed
  exact (confined grant stored role lookup).imp_left fun ⟨earlier, found⟩ =>
    mem_resolvedGrants_iff.mpr ⟨earlier, own, found⟩

theorem Confined.any_grantsMsp (confined : Confined tenant before after) (real : msp ≠ nilUuid)
    (granted : (resolvedGrants after userId).any (grantsMsp msp permission)) :
    (resolvedGrants before userId).any (grantsMsp msp permission) := by
  obtain ⟨⟨grant, role⟩, listed, grants⟩ := any_eq_true.mp granted
  rcases confined.resolved listed with earlier | contained
  · exact any_eq_true.mpr ⟨_, earlier, grants⟩
  · rw [contained.grantsMsp_false real permission] at grants
    cases grants

variable {other : Uuid}

theorem mem_authorizedTenantSet_iff {grants : List (UserRole × Role)} :
    other ∈ authorizedTenantSet grants permission ↔
      ∃ grant role, (grant, role) ∈ grants ∧ role.scope = .tenant ∧
        rolePermits role permission ∧ grant.scopeId.or role.tenantId = some other := by
  simp only [authorizedTenantSet, mem_filterMap, mem_filter, Prod.exists, grantedTenant,
    Bool.and_eq_true, beq_iff_eq, and_assoc]

theorem Confined.mem_authorizedTenantSet (confined : Confined tenant before after)
    (outside : other ≠ tenant)
    (listed : other ∈ authorizedTenantSet (resolvedGrants after userId) permission) :
    other ∈ authorizedTenantSet (resolvedGrants before userId) permission := by
  obtain ⟨grant, role, held, scope, permits, granted⟩ := mem_authorizedTenantSet_iff.mp listed
  rcases confined.resolved held with earlier | none | inside
  · exact mem_authorizedTenantSet_iff.mpr ⟨grant, role, earlier, scope, permits, granted⟩
  · exact absurd none (permissions_ne_nil_of_permits permits)
  · simp only [scope] at inside
    exact absurd (inside other granted) outside

theorem mem_listAuthorizedTenants_iff {bindings : Uuid → List Uuid} :
    (∃ listed, listAuthorizedTenants store bindings userId msp permission = .ok listed ∧
      other ∈ listed) ↔
    ¬ (userId = nilUuid ∨ msp = nilUuid ∨ permission = "") ∧
    (bindings msp).length ≤ maxBindings ∧ other ∈ bindings msp ∧
    (hasBroadAuthorityIn (resolvedGrants store userId) msp permission ∨
      other ∈ authorizedTenantSet (resolvedGrants store userId) permission) := by
  unfold listAuthorizedTenants
  split
  case isTrue invalid => simp [invalid]
  case isFalse valid =>
    dsimp only
    split
    case isTrue broad =>
      split
      case isTrue fits => simp [valid, broad, fits]
      case isFalse long => simp [long]
    case isFalse narrow =>
      split
      case isTrue none => simp [narrow, none]
      case isFalse some =>
        split
        case isTrue fits => simp [valid, narrow, fits]
        case isFalse long => simp [long]

/-- **A confined change gives nobody authority outside the tenant.** -/
theorem Confined.noOutsideGain (confined : Confined tenant before after)
    : NoOutsideGain tenant before after where
  platform := by
    intro userId permission authorized
    unfold authorizePlatform at authorized ⊢
    split at authorized
    · cases authorized
    case isFalse valid =>
      rw [if_neg valid]
      obtain ⟨⟨grant, role⟩, listed, grants⟩ := any_eq_true.mp (Except.ok.inj authorized)
      obtain ⟨scope, permits⟩ := Bool.and_eq_true_iff.mp grants
      rcases confined.resolved listed with earlier | none | inside
      · exact congrArg Except.ok (any_eq_true.mpr ⟨_, earlier, grants⟩)
      · exact absurd none (permissions_ne_nil_of_permits permits)
      · have kind : role.scope = .platform := beq_iff_eq.mp scope
        simp only [kind] at inside
  msp := by
    intro userId msp permission authorized
    unfold authorizeMsp at authorized ⊢
    split at authorized
    · cases authorized
    case isFalse valid =>
      rw [if_neg valid]
      exact congrArg Except.ok (confined.any_grantsMsp (fun none => valid (.inr (.inl none)))
        (Except.ok.inj authorized))
  tenants := by
    intro bindings userId msp permission other outside listed
    obtain ⟨valid, fits, bound, authority⟩ := mem_listAuthorizedTenants_iff.mp listed
    refine mem_listAuthorizedTenants_iff.mpr ⟨valid, fits, bound, authority.imp ?_ ?_⟩
    · exact confined.any_grantsMsp fun none => valid (.inr (.inl none))
    · exact confined.mem_authorizedTenantSet outside

/-- **Tenant administration that grants only what is contained in the tenant
yields no authority outside it**, whatever roles are created on the way. -/
theorem administration_stays_inside (platform : Platform) (tenant : Uuid) (store : Store platform)
    (events : List AdminEvent)
    (inside : AlongRun (adminStep tenant) (GrantsInside tenant) store events) :
    NoOutsideGain tenant store (events.foldl (adminStep tenant) store) := by
  have confined : Confined tenant store (events.foldl (adminStep tenant) store) :=
    inside.invariant (Confined tenant store)
      (fun _ _ confined inside => confined.trans (adminStep_confined inside)) (.refl tenant store)
  exact confined.noOutsideGain

def sampleDirectory (group : String) : List IdpConfig :=
  [⟨true, .users [⟨"a-1".toList, "ann@example.com".toList, [], true, [group.toList]⟩]⟩]

/-- A tenant role may be created, assigned and named by a group. -/
theorem helpdesk_stays_inside : NoOutsideGain 1 sampleStore
    ([.createRole "helpdesk".toList "tenant" ["ztna:read"], .assignRole 2 4 none,
      .directorySync none (sampleDirectory "Helpdesk")].foldl (adminStep 1) sampleStore) := by
  have created : (adminStep 1 sampleStore (.createRole "helpdesk".toList "tenant"
      ["ztna:read"])).roles = [⟨4, some 1, "helpdesk".toList, [], ["ztna:read"], .tenant⟩] := rfl
  have contained : Contained 1 ⟨4, some 1, "helpdesk".toList, [], ["ztna:read"], .tenant⟩ none :=
    .inr (by simp)
  refine administration_stays_inside asciiPlatform 1 sampleStore _ ⟨trivial, ?_, ?_, trivial⟩
  · intro role found
    have member := (Store.getRole_eq_some_iff.mp found).1
    rw [created, mem_singleton] at member
    exact member ▸ contained
  · intro config _ _ dirUsers _ norm _ role member _ _
    obtain rfl := mem_singleton.mp (show role ∈ [_] from member)
    exact contained

def systemStore : Store asciiPlatform := { sampleStore with
    roles := [⟨3, none, "platform_admin".toList, [], ["*"], .platform⟩]
    roleIdsDistinct := by decide }

/-- **Two requests of a tenant, or one group of its directory, end with
authority over the platform**: a custom role may have the scope of the platform,
and a group may have the name of a system role. -/
theorem administration_reaches_the_platform : ¬ NoOutsideGain 1 sampleStore
      ([.createRole "root".toList "platform" ["*"], .assignRole 2 4 none].foldl (adminStep 1)
        sampleStore) ∧
    ¬ NoOutsideGain 1 systemStore
      ([.directorySync none (sampleDirectory "Platform_Admin")].foldl (adminStep 1)
        systemStore) := by
  constructor <;> intro inside <;>
    exact absurd (inside.platform 2 "msp:write" (by decide)) (by decide)

end ShieldNet.Rbac
