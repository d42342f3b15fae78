import ShieldNet.Identity.DirectorySync

/-!
# Changes confined to a tenant

A grant is contained in a tenant when it gives nothing outside: its role holds
no permission, or is not a platform role, is not granted for an MSP, and as a
tenant role is granted for no other tenant. A change of the store is confined
when each grant it adds is contained.

A directory pass grants roles by the names of groups, and roles it creates hold
no permissions. So it is confined when each group the directories name leads to
contained roles only (`syncTenant_synced`).
-/

namespace ShieldNet.Rbac

open Identity Assoc Store List

variable {platform : Platform} {tenant : Uuid}

/-! ## Contained grants -/

/-- A grant of the role with the scope gives nothing outside the tenant. -/
def Contained (tenant : Uuid) (role : Role) (scopeId : Option Uuid) : Prop :=
  role.permissions = [] ∨ match role.scope with
    | .platform => False
    | .msp => ∀ msp ∈ scopeId, msp = nilUuid
    | .tenant => ∀ granted ∈ scopeId.or role.tenantId, granted = tenant
    | .site => True

/-- A change of the store that adds only contained grants. -/
def Confined (tenant : Uuid) (before after : Store platform) : Prop :=
  ∀ grant ∈ after.userRoles, ∀ role, after.getRole grant.roleId = some role →
    (grant ∈ before.userRoles ∧ before.getRole grant.roleId = some role) ∨
    Contained tenant role grant.scopeId

namespace Confined

variable {before between after : Store platform}

theorem refl (tenant : Uuid) (store : Store platform) : Confined tenant store store :=
  fun _ held _ found => .inl ⟨held, found⟩

theorem trans (first : Confined tenant before between) (second : Confined tenant between after) :
    Confined tenant before after := by
  intro grant held role found
  rcases second grant held role found with ⟨earlier, same⟩ | contained
  · exact first grant earlier role same
  · exact .inr contained

theorem createRole {tenantId : Option Uuid} {name externalId : Text} {permissions : List String}
    {scope : RoleScope} {role : Role}
    (created : before.createRole tenantId name externalId permissions scope = .ok (role, after)) :
    Confined tenant before after := by
  obtain ⟨rfl, -, -, roles, userRoles⟩ := createRole_eq_ok created
  intro grant held found lookup
  rw [userRoles] at held
  obtain ⟨member, same⟩ := getRole_eq_some_iff.mp lookup
  rw [roles] at member
  rcases mem_cons.mp member with rfl | earlier
  · refine absurd ?_ before.freshId_not_mem
    have used : grant.roleId ∈ before.userRoles.map UserRole.roleId := mem_map_of_mem held
    have fresh : before.freshId = grant.roleId := same
    simp only [usedIds, mem_append, fresh]
    exact .inr used
  · exact .inl ⟨held, getRole_eq_some_iff.mpr ⟨earlier, same⟩⟩

theorem assignRole {grant : UserRole} (assigned : before.assignRole grant = .ok after)
    (contained : ∀ role, before.getRole grant.roleId = some role →
      Contained tenant role grant.scopeId) : Confined tenant before after := by
  obtain rfl := assignRole_eq_ok assigned
  intro held listed role found
  rcases mem_append.mp listed with earlier | new
  · exact .inl ⟨earlier, found⟩
  · obtain rfl := mem_singleton.mp new
    exact .inr (contained role found)

end Confined

/-! ## Directory passes -/

/-- A confined change whose new roles hold no permissions. -/
structure Synced (tenant : Uuid) (before after : Store platform) : Prop where
  confined : Confined tenant before after
  roles : ∀ role ∈ after.roles, role ∈ before.roles ∨ role.permissions = []

/-- Whoever is granted the role without a scope gets nothing outside the
tenant. -/
def Harmless (tenant : Uuid) (store : Store platform) (roleId : Uuid) : Prop :=
  ∀ role, store.getRole roleId = some role → Contained tenant role none

namespace Synced

variable {before between after : Store platform}

theorem refl (tenant : Uuid) (store : Store platform) : Synced tenant store store :=
  ⟨.refl tenant store, fun _ member => .inl member⟩

theorem trans (first : Synced tenant before between) (second : Synced tenant between after) :
    Synced tenant before after := by
  refine ⟨first.confined.trans second.confined, fun role member => ?_⟩
  rcases second.roles role member with earlier | none
  · exact first.roles role earlier
  · exact .inr none

theorem ofSame (roles : after.roles = before.roles)
    (userRoles : after.userRoles = before.userRoles) :
    Synced tenant before after := by
  refine ⟨fun grant held role found => .inl ⟨userRoles ▸ held, ?_⟩, fun role member =>
    .inl (roles ▸ member)⟩
  rwa [getRole, roles] at found

theorem harmless (synced : Synced tenant before after) {roleId : Uuid}
    (harmless : Harmless tenant before roleId) : Harmless tenant after roleId := by
  intro role found
  obtain ⟨member, same⟩ := getRole_eq_some_iff.mp found
  rcases synced.roles role member with earlier | none
  · exact harmless role (getRole_eq_some_iff.mpr ⟨earlier, same⟩)
  · exact .inl none

end Synced

def isNamed (platform : Platform) (role : Role) (norm : Text) : Prop :=
  platform.normGroup role.name = norm ∨
    (role.externalId ≠ [] ∧ platform.normGroup role.externalId = norm)

/-- Each role of a name that the tenant sees is contained without a scope. -/
def NameContained (tenant : Uuid) (store : Store platform) (norm : Text) : Prop :=
  ∀ role ∈ store.roles, role.visibleTo tenant = true → isNamed platform role norm →
    Contained tenant role none

variable {norm : Text}

theorem Synced.nameContained {before after : Store platform} (synced : Synced tenant before after)
    (contained : NameContained tenant before norm) : NameContained tenant after norm := by
  intro role member visible named
  rcases synced.roles role member with earlier | none
  · exact contained role earlier visible named
  · exact .inl none

variable {id : Uuid}

/-- The index leads from a name to a role of that name. -/
theorem indexRoles_get? {existing : List Role}
    (found : (indexRoles platform existing).get? norm = some id) :
    ∃ role ∈ existing, role.id = id ∧ isNamed platform role norm := by
  refine foldlRecOn (motive := fun index : Assoc Text Uuid => ∀ norm id, index.get? norm = some id →
    ∃ role ∈ existing, role.id = id ∧ isNamed platform role norm) existing _ ?_ ?_ norm id found
  · intro norm id found
    cases found
  · intro index leads role member norm id found
    have named : ∀ {norm id}, (index.set (platform.normGroup role.name) role.id).get? norm =
        some id → ∃ role ∈ existing, role.id = id ∧ isNamed platform role norm := by
      intro norm id found
      rw [get?_set] at found
      split at found
      · exact ⟨role, member, Option.some.inj found, .inl (Eq.symm ‹_›)⟩
      · exact leads _ _ found
    split at found
    · exact named found
    case isFalse external =>
      rw [get?_set] at found
      split at found
      · exact ⟨role, member, Option.some.inj found, .inr ⟨external, Eq.symm ‹_›⟩⟩
      · exact named found

variable {store after : Store platform}

/-- A group gets a new role, or the role that has its name already. -/
theorem createGroupRole_cases {display : Text}
    (done : createGroupRole store tenant norm display = .ok (id, after)) :
    (∃ role, store.createRole (some tenant) display display [] .tenant = .ok (role, after) ∧
      role.id = id) ∨
    after = store ∧ ∃ role ∈ store.listRoles tenant, role.id = id ∧ isNamed platform role norm := by
  unfold createGroupRole at done
  split at done
  case h_1 role created made =>
    cases done
    exact .inl ⟨role, made, rfl⟩
  case h_2 =>
    split at done
    case h_1 found resolved =>
      cases done
      unfold resolveRoleByName at resolved
      split at resolved
      case h_1 role match_ =>
        exact .inr ⟨rfl, role, mem_of_find?_eq_some match_, Except.ok.inj resolved, by
          simpa [isNamed] using find?_some match_⟩
      · cases resolved
    · cases done
  · cases done

theorem NameContained.harmless (contained : NameContained tenant store norm) {role : Role}
    (listed : role ∈ store.listRoles tenant) (named : isNamed platform role norm) :
    Harmless tenant store role.id := by
  obtain ⟨member, visible⟩ := mem_listRoles_iff.mp listed
  intro other lookup
  obtain rfl := Option.some.inj ((getRole_eq_some_iff.mpr ⟨member, rfl⟩).symm.trans lookup)
  exact contained role member visible named

theorem createGroupRole_synced {display : Text} (contained : NameContained tenant store norm)
    (done : createGroupRole store tenant norm display = .ok (id, after)) :
    Synced tenant store after ∧ Harmless tenant after id := by
  rcases createGroupRole_cases done with ⟨role, made, rfl⟩ | ⟨rfl, role, listed, rfl, named⟩
  · obtain ⟨shape, -, -, roles, -⟩ := createRole_eq_ok made
    refine ⟨⟨.createRole made, fun other member => ?_⟩, fun other found => ?_⟩
    · rw [roles] at member
      rcases mem_cons.mp member with rfl | earlier
      · exact .inr (by rw [shape])
      · exact .inl earlier
    · have new : after.getRole role.id = some role :=
        getRole_eq_some_iff.mpr ⟨by rw [roles]; exact mem_cons_self, rfl⟩
      obtain rfl := Option.some.inj (new.symm.trans found)
      exact .inl (by rw [shape])
  · exact ⟨.refl tenant after, contained.harmless listed named⟩

/-- The groups resolved so far lead to harmless roles. -/
def Resolved (tenant : Uuid) (store : Store platform) (reconciler : RoleReconciler) : Prop :=
  ∀ norm id, reconciler.byName.get? norm = some id → Harmless tenant store id

variable {reconciler : RoleReconciler}

theorem Resolved.synced {store after : Store platform}
    (resolved : Resolved tenant store reconciler) (synced : Synced tenant store after) :
    Resolved tenant after reconciler :=
  fun norm id found => synced.harmless (resolved norm id found)

theorem Resolved.resolve (resolved : Resolved tenant store reconciler)
    (synced : Synced tenant store after) (harmless : Harmless tenant after id) :
    Resolved tenant after (reconciler.resolve norm id) := by
  intro other found lookup
  rw [RoleReconciler.resolve, get?_set] at lookup
  split at lookup
  · exact Option.some.inj lookup ▸ harmless
  · exact resolved.synced synced other found lookup

def NamesGroup (platform : Platform) (dirUsers : List DirectoryUser) (norm : Text) : Prop :=
  ∃ du ∈ dirUsers, du.active = true ∧ ∃ group ∈ du.groups, Text.trimSpace group ≠ [] ∧
    platform.normGroup (Text.trimSpace group) = norm

variable {dirUsers : List DirectoryUser}

theorem namesGroup_of_mem_wantedGroups {entry : Text × Text}
    (member : entry ∈ (wantedGroups platform dirUsers).entries) :
    NamesGroup platform dirUsers entry.1 := by
  obtain ⟨group, listed, nonempty, rfl⟩ := mem_wantedGroups member
  obtain ⟨du, active, inGroups⟩ := mem_flatMap.mp listed
  obtain ⟨inSnapshot, active⟩ := mem_filter.mp active
  exact ⟨du, inSnapshot, active, group, inGroups, nonempty, rfl⟩

/-- **The reconciler of a snapshot whose groups are contained leads to harmless
roles.** -/
theorem newRoleReconciler_synced {store : Store platform}
    (contained : ∀ norm, NamesGroup platform dirUsers norm → NameContained tenant store norm) :
    Synced tenant store (newRoleReconciler store tenant dirUsers).store ∧
    Resolved tenant (newRoleReconciler store tenant dirUsers).store
      (newRoleReconciler store tenant dirUsers).reconciler := by
  refine foldlRecOn (motive := fun pass : ReconcilerPass platform =>
    Synced tenant store pass.store ∧ Resolved tenant pass.store pass.reconciler)
    (wantedGroups platform dirUsers).entries _ ⟨.refl tenant store, nofun⟩ ?_
  intro pass ⟨synced, resolved⟩ group member
  have inside := contained _ (namesGroup_of_mem_wantedGroups member)
  unfold addGroup
  split
  · exact ⟨synced, resolved⟩
  · split
    case h_1 id found =>
      obtain ⟨role, listed, rfl, named⟩ := indexRoles_get? found
      exact ⟨synced, resolved.resolve (.refl tenant _)
        (synced.harmless (inside.harmless listed named))⟩
    split
    case h_1 id store made =>
      obtain ⟨created, harmless⟩ := createGroupRole_synced (synced.nameContained inside) made
      exact ⟨synced.trans created, resolved.resolve created harmless⟩
    case h_2 => exact ⟨synced, resolved⟩

theorem reconcileUserGroups_synced {store : Store platform}
    (resolved : Resolved tenant store reconciler) (userId : Uuid) (groups : List Text) :
    Synced tenant store (reconcileUserGroups reconciler store userId groups).store := by
  have regranted := reconcileUserGroups_regranted reconciler store userId groups
  refine ⟨fun grant held role found => ?_, fun role member => .inl (regranted.roles ▸ member)⟩
  rw [getRole, regranted.roles] at found
  rcases regranted.added grant held with earlier | ⟨id, wanted, rfl⟩
  · exact .inl ⟨earlier, found⟩
  · obtain ⟨group, -, known⟩ := mem_filterMap.mp (mem_dedup.mp wanted)
    split at known
    · cases known
    · exact .inr (resolved _ _ known role found)

theorem updateStatus_synced {status : UserStatus}
    (updated : store.updateStatus tenant id status = .ok after) : Synced tenant store after := by
  unfold updateStatus at updated
  split at updated
  · cases updated
    exact .ofSame rfl rfl
  · cases updated

theorem provisionUser_synced {du : DirectoryUser} {user : User}
    (provisioned : provisionUser store tenant du = .ok (user, after)) :
    Synced tenant store after := by
  unfold provisionUser at provisioned
  dsimp only at provisioned
  split at provisioned
  case h_1 created made =>
    cases provisioned
    obtain ⟨-, vacant, -, rfl⟩ := createUser_eq_ok made
    exact .ofSame rfl rfl
  case h_2 =>
    split at provisioned
    · cases provisioned
      exact .refl tenant _
    · cases provisioned
  · cases provisioned

section Passes

variable {base : Store platform} {pass : SyncPass platform}

theorem offboard_synced (synced : Synced tenant base pass.store) (known : User)
    (reason : OffboardReason) : Synced tenant base (offboard tenant known reason pass).store := by
  unfold offboard
  split
  · exact synced
  case h_2 updated => exact synced.trans (updateStatus_synced updated)

theorem reactivate_synced (synced : Synced tenant base pass.store) (known : User)
    (du : DirectoryUser) : Synced tenant base (reactivate tenant known du pass).store := by
  unfold reactivate
  split
  · exact synced
  · split
    case h_1 updated => exact synced.trans (updateStatus_synced updated)
    case h_2 => exact synced

variable {reconciler : RoleReconciler}

theorem syncGroups_synced (resolved : Resolved tenant base reconciler)
    (synced : Synced tenant base pass.store) (userId : Uuid) (du : DirectoryUser) :
    Synced tenant base (syncGroups reconciler userId du pass).store := by
  have groups := synced.trans (reconcileUserGroups_synced (resolved.synced synced) userId du.groups)
  unfold syncGroups
  dsimp only
  split <;> exact groups

theorem reconcileEntry_synced (resolved : Resolved tenant base reconciler)
    (synced : Synced tenant base pass.store) (locals : Assoc Text User) (du : DirectoryUser) :
    Synced tenant base (reconcileEntry tenant reconciler locals pass du).store := by
  unfold reconcileEntry
  split
  · exact synced
  · dsimp only
    split
    case h_1 =>
      refine offboard_synced ?_ _ _
      exact synced
    case h_2 => exact synced
    case h_3 =>
      refine syncGroups_synced resolved (reactivate_synced ?_ _ du) _ du
      exact synced
    split
    · exact synced
    case h_2 provisioned =>
      refine syncGroups_synced resolved ?_ _ du
      exact synced.trans (provisionUser_synced provisioned)

/-- **A directory whose groups are contained changes the store within the
tenant.** -/
theorem reconcile_synced
    (contained : ∀ norm, NamesGroup platform dirUsers norm → NameContained tenant base norm)
    (synced : Synced tenant base pass.store) :
    Synced tenant base (reconcile tenant dirUsers pass).store := by
  unfold reconcile
  split
  · exact synced
  · obtain ⟨built, resolved⟩ := newRoleReconciler_synced
      fun norm named => synced.nameContained (contained norm named)
    unfold reconcileEnforce
    dsimp only
    split
    · exact synced.trans built
    · refine synced.trans (built.trans (foldlRecOn (motive := fun after : SyncPass platform =>
        Synced tenant _ after.store) _ _ (foldlRecOn (motive := fun after : SyncPass platform =>
        Synced tenant _ after.store) _ _ (.refl tenant _) ?_) ?_))
      · intro after synced du _
        exact reconcileEntry_synced resolved synced _ du
      · intro after synced known _
        unfold sweepEntry
        split
        · exact synced
        · exact offboard_synced synced _ _

end Passes

def GroupsContained (tenant : Uuid) (store : Store platform) (configs : List IdpConfig) : Prop :=
  ∀ config ∈ configs, config.enabled = true → ∀ dirUsers, config.read = .users dirUsers →
    ∀ norm, NamesGroup platform dirUsers norm → NameContained tenant store norm

theorem syncTenant_synced {store : Store platform} {configs : List IdpConfig}
    (contained : GroupsContained tenant store configs) (gate : Option RolloutState) :
    Synced tenant store (syncTenant store tenant gate configs).store := by
  have loop : ∀ start : SyncPass platform, start.store = store →
      Synced tenant store (configs.foldl (syncConfig tenant) start).store := by
    intro start same
    refine foldlRecOn (motive := fun pass : SyncPass platform =>
      Synced tenant store pass.store) configs _ (same ▸ .refl tenant _) ?_
    intro pass synced config member
    unfold syncConfig
    split
    · exact synced
    case isFalse enabled =>
      split
      · exact synced
      · exact synced
      case h_3 dirUsers read =>
        refine reconcile_synced (contained config member (by simpa using enabled) dirUsers read) ?_
        exact synced
  unfold syncTenant
  split
  · exact .refl tenant store
  · exact loop _ rfl
  · exact loop _ rfl

end ShieldNet.Rbac
