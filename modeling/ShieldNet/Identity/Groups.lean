import ShieldNet.Identity.Store
import ShieldNet.Lib.Assoc
import Mathlib.Data.List.Dedup

/-!
# Directory groups as roles

`internal/service/identity/idp_sync_roles.go`: the groups a directory snapshot
names are matched to the roles the tenant sees, by name or by external id in
any letter case; a group without a role gets one. A user's grants of the roles
the directory governs are then made to follow the user's groups.
-/

namespace ShieldNet.Identity

open Text

variable {platform : Platform}

structure DirectoryUser where
  externalId : Text
  email : Text
  displayName : Text
  active : Bool
  groups : List Text

def Platform.normGroup (platform : Platform) (name : Text) : Text :=
  platform.lower (trimSpace name)

structure RoleReconciler where
  byName : Assoc Text Uuid
  managed : List Uuid

/-- The roles by normalised name and external id; a later role replaces an
earlier one. -/
def indexRoles (platform : Platform) (existing : List Role) : Assoc Text Uuid :=
  existing.foldl (fun index role =>
    let named := index.set (platform.normGroup role.name) role.id
    if role.externalId = [] then named
    else named.set (platform.normGroup role.externalId) role.id) .empty

/-- The groups of the active users, by normalised name, with the spelling seen
last. -/
def wantedGroups (platform : Platform) (dirUsers : List DirectoryUser) : Assoc Text Text :=
  (dirUsers.filter DirectoryUser.active).flatMap DirectoryUser.groups |>.foldl (fun wanted group =>
    if trimSpace group = [] then wanted
    else wanted.set (platform.normGroup (trimSpace group)) (trimSpace group)) .empty

/-- A wanted group is the trimmed name of some group, under its normalised name. -/
theorem mem_wantedGroups {dirUsers : List DirectoryUser} {entry : Text × Text}
    (member : entry ∈ (wantedGroups platform dirUsers).entries) :
    ∃ group ∈ (dirUsers.filter DirectoryUser.active).flatMap DirectoryUser.groups,
      trimSpace group ≠ [] ∧
        entry = (platform.normGroup (trimSpace group), trimSpace group) := by
  have found := Assoc.mem_entries_iff.mp member
  refine List.foldlRecOn (motive := fun wanted : Assoc Text Text => ∀ norm display,
    wanted.get? norm = some display → ∃ group ∈ _, trimSpace group ≠ [] ∧
      (norm, display) = (platform.normGroup (trimSpace group), trimSpace group))
    ((dirUsers.filter DirectoryUser.active).flatMap DirectoryUser.groups) _ ?_ ?_ _ _ found
  · intro norm display found
    cases found
  · intro wanted named group listed norm display found
    split at found
    · exact named norm display found
    case isFalse nonempty =>
      rw [Assoc.get?_set] at found
      split at found
      case isTrue same =>
        exact ⟨group, listed, nonempty, Prod.ext same (Option.some.inj found).symm⟩
      case isFalse => exact named norm display found

variable (store : Store platform) (tenant : Uuid)

def resolveRoleByName (norm : Text) : Except RepositoryError Uuid :=
  match (store.listRoles tenant).find? fun role =>
    platform.normGroup role.name = norm ∨
      (role.externalId ≠ [] ∧ platform.normGroup role.externalId = norm) with
  | some role => .ok role.id
  | none => .error .notFound

/-- The role of a group that no role is indexed for: it is created, or found
again when the name is taken. -/
def createGroupRole (norm display : Text) : Except RepositoryError (Uuid × Store platform) :=
  match store.createRole (some tenant) display display [] .tenant with
  | .ok (role, created) => .ok (role.id, created)
  | .error .conflict =>
    match resolveRoleByName store tenant norm with
    | .ok id => .ok (id, store)
    | .error _ => .error .conflict
  | .error e => .error e

/-- What `newRoleReconciler` has built; after a failure nothing more is done. -/
structure ReconcilerPass (platform : Platform) where
  reconciler : RoleReconciler
  store : Store platform
  failure : Option RepositoryError

def RoleReconciler.resolve (reconciler : RoleReconciler) (norm : Text) (id : Uuid) :
    RoleReconciler :=
  ⟨reconciler.byName.set norm id, id :: reconciler.managed⟩

def addGroup (index : Assoc Text Uuid) (pass : ReconcilerPass platform) (group : Text × Text)
    : ReconcilerPass platform :=
  if pass.failure.isSome then pass
  else
    match index.get? group.1 with
    | some id => { pass with reconciler := pass.reconciler.resolve group.1 id }
    | none =>
      match createGroupRole pass.store tenant group.1 group.2 with
      | .ok (id, store) => { pass with reconciler := pass.reconciler.resolve group.1 id, store }
      | .error e => { pass with failure := some e }

def newRoleReconciler (dirUsers : List DirectoryUser) : ReconcilerPass platform :=
  let existing := store.listRoles tenant
  let sourced := (existing.filter (·.externalId ≠ [])).map Role.id
  (wantedGroups platform dirUsers).entries.foldl (addGroup tenant (indexRoles platform existing))
    ⟨⟨.empty, sourced⟩, store, none⟩

def wantedRoles (platform : Platform) (reconciler : RoleReconciler) (groups : List Text) :
    List Uuid :=
  (groups.filterMap fun group =>
    if platform.normGroup group = [] then none
    else reconciler.byName.get? (platform.normGroup group)).dedup

/-- What `reconcileUserGroups` has done; after a failure nothing more is done. -/
structure GroupPass (platform : Platform) where
  store : Store platform
  groupsAssigned : Nat
  groupsRevoked : Nat
  failure : Option RepositoryError

/-- One round of the assigning loop: a grant that exists already counts as
made. -/
def assignWanted (userId : Uuid) (pass : GroupPass platform) (roleId : Uuid) : GroupPass platform :=
  if pass.failure.isSome then pass
  else
    match pass.store.assignRole ⟨userId, roleId, none⟩ with
    | .ok store => { pass with store, groupsAssigned := pass.groupsAssigned + 1 }
    | .error .conflict => { pass with groupsAssigned := pass.groupsAssigned + 1 }
    | .error e => { pass with failure := some e }

/-- One round of the revoking loop: a grant that is missing counts as revoked. -/
def revokeUnwanted (userId : Uuid) (pass : GroupPass platform) (roleId : Uuid) :
    GroupPass platform :=
  if pass.failure.isSome then pass
  else
    match pass.store.revokeRole ⟨userId, roleId, none⟩ with
    | .ok store => { pass with store, groupsRevoked := pass.groupsRevoked + 1 }
    | .error .notFound => { pass with groupsRevoked := pass.groupsRevoked + 1 }
    | .error e => { pass with failure := some e }

def reconcileUserGroups (reconciler : RoleReconciler) (store : Store platform) (userId : Uuid)
    (groups : List Text) : GroupPass platform :=
  let want := wantedRoles platform reconciler groups
  let held := ((store.getUserRoles userId).map UserRole.roleId).dedup
  let assigned := (want.filter (· ∉ held)).foldl (assignWanted userId) ⟨store, 0, 0, none⟩
  (held.filter fun id => id ∉ want ∧ id ∈ reconciler.managed).foldl (revokeUnwanted userId)
    assigned

/-- Only grants change, and what is added grants the user one of the roles
without a scope. -/
structure Regranted (userId : Uuid) (ids : List Uuid) (before after : Store platform) : Prop where
  users : after.users = before.users
  tenants : after.tenants = before.tenants
  roles : after.roles = before.roles
  added : ∀ grant ∈ after.userRoles,
    grant ∈ before.userRoles ∨ ∃ id ∈ ids, grant = ⟨userId, id, none⟩

open List

/-- **The sync of a user's groups only regrants**, whether it fails or not. -/
theorem reconcileUserGroups_regranted (reconciler : RoleReconciler) (store : Store platform)
    (userId : Uuid) (groups : List Text) :
    Regranted userId (wantedRoles platform reconciler groups) store
      (reconcileUserGroups reconciler store userId groups).store := by
  let Kept (pass : GroupPass platform) : Prop :=
    Regranted userId (wantedRoles platform reconciler groups) store pass.store
  refine foldlRecOn (motive := Kept) _ _ (foldlRecOn (motive := Kept) _ _
    ⟨rfl, rfl, rfl, fun _ => .inl⟩ ?_) ?_
  · intro pass kept roleId wanted
    unfold assignWanted
    split
    · exact kept
    split
    case h_1 assigned =>
      obtain rfl := Store.assignRole_eq_ok assigned
      refine { kept with added := fun grant held => ?_ }
      rcases mem_append.mp held with earlier | new
      · exact kept.added grant earlier
      · exact .inr ⟨roleId, (mem_filter.mp wanted).1, mem_singleton.mp new⟩
    all_goals exact kept
  · intro pass kept roleId _
    unfold revokeUnwanted
    split
    · exact kept
    split
    case h_1 revoked =>
      obtain rfl := Store.revokeRole_eq_ok revoked
      exact { kept with added := fun grant held => kept.added grant (mem_filter.mp held).1 }
    all_goals exact kept

end ShieldNet.Identity
