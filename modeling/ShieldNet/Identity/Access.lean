import ShieldNet.Identity.DirectorySync
import ShieldNet.Identity.Seats

/-!
# Who keeps access after a sync

A pass over the directories of a tenant does to the user of each email what the
directories do to a seat, one after another (`syncTenant_seat`). So whether the
users some directory lists as active keep access is read off the seats:
`listed_user_keeps_access_iff` says that this takes the agreement of all
directories, and `second_directory_offboards` is a user whom one directory lists
as active and another, which does not list the user at all, off-boards.
-/

namespace ShieldNet.Identity

open UserTable Assoc SyncPass Seat List

variable {platform : Platform} {tenant : Uuid}

/-! ## Seats of a pass -/

def SyncPass.seat (pass : SyncPass platform) (tenant : Uuid) (email : Text) : Seat where
  status := (pass.store.users.find tenant email).map User.status
  revoked := (pass.store.users.find tenant email).any fun user =>
    pass.published.any fun entry => entry.1 = user.id

/-- The tenant exists, only users were revoked, and the pass is no dry run. -/
structure SyncPass.Sound (pass : SyncPass platform) (tenant : Uuid) : Prop where
  tenant : tenant ∈ pass.store.tenants
  published : ∀ entry ∈ pass.published, entry.1 ∈ pass.store.users.rows.map User.id
  enforcing : pass.report.dryRun = false

/-- A part of a pass changes the seats in a certain way and keeps the ids of the
users. -/
structure Reseated (tenant : Uuid) (before after : SyncPass platform)
    (change : Text → Seat → Seat) : Prop where
  sound : after.Sound tenant
  ids : ∀ email user, before.store.users.find tenant email = some user →
    ∃ later, after.store.users.find tenant email = some later ∧ later.id = user.id
  seat : ∀ email, after.seat tenant email = change email (before.seat tenant email)

variable {before after : SyncPass platform}

theorem Reseated.trans {between : SyncPass platform} {first second : Text → Seat → Seat}
    (one : Reseated tenant before between first)
    (two : Reseated tenant between after second) :
    Reseated tenant before after fun email seat => second email (first email seat) where
  sound := two.sound
  ids email user found := by
    obtain ⟨middle, there, same⟩ := one.ids email user found
    obtain ⟨later, kept, again⟩ := two.ids email middle there
    exact ⟨later, kept, again.trans same⟩
  seat email := by rw [two.seat, one.seat]

theorem Reseated.congr {change other : Text → Seat → Seat}
    (reseated : Reseated tenant before after change)
    (same : ∀ email, change email (before.seat tenant email) =
      other email (before.seat tenant email)) : Reseated tenant before after other where
  sound := reseated.sound
  ids := reseated.ids
  seat email := by rw [reseated.seat, same]

/-- What leaves users, tenants and revocations alone changes no seat. -/
theorem Reseated.unchanged (sound : before.Sound tenant)
    (users : after.store.users = before.store.users)
    (tenants : after.store.tenants = before.store.tenants)
    (published : after.published = before.published)
    (dryRun : after.report.dryRun = before.report.dryRun) :
    Reseated tenant before after fun _ seat => seat where
  sound := ⟨tenants ▸ sound.tenant, by rw [published, users]; exact sound.published,
    dryRun.trans sound.enforcing⟩
  ids email user found := ⟨user, users ▸ found, rfl⟩
  seat email := by rw [SyncPass.seat, SyncPass.seat, users, published]

/-! ## Groups -/

def Store.SamePeople (before after : Store platform) : Prop :=
  after.users = before.users ∧ after.tenants = before.tenants

open Store

theorem Store.SamePeople.trans {before between after : Store platform}
    (one : before.SamePeople between) (two : between.SamePeople after) : before.SamePeople after :=
  ⟨two.1.trans one.1, two.2.trans one.2⟩

variable {pass : SyncPass platform}

variable (sound : pass.Sound tenant)

include sound in
theorem syncGroups_reseated (reconciler : RoleReconciler) (userId : Uuid) (du : DirectoryUser) :
    Reseated tenant pass (syncGroups reconciler userId du pass) fun _ seat => seat := by
  have regranted := reconcileUserGroups_regranted reconciler pass.store userId du.groups
  unfold syncGroups
  dsimp only
  split <;> exact .unchanged sound regranted.users regranted.tenants rfl rfl

/-- A group always gets a role: where the name is taken, it is found. -/
theorem createGroupRole_ok {store : Store platform} (known : tenant ∈ store.tenants)
    {norm display : Text} (nonempty : display ≠ []) (named : platform.normGroup display = norm) :
    ∃ id after, createGroupRole store tenant norm display = .ok (id, after) ∧
      store.SamePeople after := by
  by_cases taken : store.roles.any fun role => role.name = display ∧ role.tenantId = some tenant
  case pos =>
    have conflict : store.createRole (some tenant) display display [] .tenant =
        .error .conflict := by
      rw [createRole, if_neg nonempty, if_neg (by simp [known]), if_pos taken]
    obtain ⟨role, member, same⟩ := any_eq_true.mp taken
    obtain ⟨name, own⟩ := of_decide_eq_true same
    have listed : role ∈ store.listRoles tenant :=
      mem_listRoles_iff.mpr ⟨member, by simp [Role.visibleTo, own]⟩
    obtain ⟨found, resolves⟩ : ∃ found, (store.listRoles tenant).find? (fun role =>
        platform.normGroup role.name = norm ∨
          (role.externalId ≠ [] ∧ platform.normGroup role.externalId = norm)) = some found :=
      Option.isSome_iff_exists.mp (find?_isSome.mpr ⟨role, listed, by simp [name, named]⟩)
    exact ⟨found.id, store, by simp only [createGroupRole, conflict, resolveRoleByName, resolves],
      rfl, rfl⟩
  case neg =>
    refine ⟨store.freshId, store.addRole ⟨store.freshId, some tenant, display, display, [], .tenant⟩
      rfl, ?_, rfl, rfl⟩
    rw [createGroupRole, createRole, if_neg nonempty, if_neg (by simp [known]), if_neg taken]

variable {dirUsers : List DirectoryUser}

/-- **The reconciler of an existing tenant is always built.** -/
theorem newRoleReconciler_ok {store : Store platform} (known : tenant ∈ store.tenants)
    (dirUsers : List DirectoryUser) :
    (newRoleReconciler store tenant dirUsers).failure = none ∧
    store.SamePeople (newRoleReconciler store tenant dirUsers).store := by
  refine foldlRecOn (motive := fun pass : ReconcilerPass platform =>
    pass.failure = none ∧ store.SamePeople pass.store)
    (wantedGroups platform dirUsers).entries _ ⟨rfl, rfl, rfl⟩ ?_
  intro pass ⟨fine, people⟩ group member
  obtain ⟨_, -, nonempty, rfl⟩ := mem_wantedGroups member
  unfold addGroup
  split
  · exact ⟨fine, people⟩
  · split
    · exact ⟨fine, people⟩
    case h_2 =>
      have here : tenant ∈ pass.store.tenants := people.2 ▸ known
      obtain ⟨id, after, made, same⟩ := createGroupRole_ok here nonempty rfl
      simp only [made]
      exact ⟨fine, people.trans same⟩

/-! ## Users -/

variable {email : Text} {user : User}

theorem updateStatus_of_found {store : Store platform}
    (found : store.users.find tenant email = some user) (status : UserStatus) :
    store.updateStatus tenant user.id status =
      .ok { store with users := store.users.setStatus user.id status } := by
  obtain ⟨member, own, -⟩ := find_eq_some_iff.mp found
  have present : store.users.rows.any (fun other => other.id = user.id ∧ other.tenantId = tenant) =
      true := any_eq_true.mpr ⟨user, member, by simp [own]⟩
  rw [updateStatus, if_pos present]

theorem setStatus_find {table : UserTable platform} (found : table.find tenant email = some user)
    (status : UserStatus) (other : Text) :
    (table.setStatus user.id status).find tenant other =
      if other = email then some { user with status } else table.find tenant other := by
  rw [find_setStatus]
  split
  case isTrue same => rw [same, found, Option.map_some, if_pos rfl]
  case isFalse different =>
    cases there : table.find tenant other with
    | none => rfl
    | some holder =>
      have distinct : holder.id ≠ user.id := fun same =>
        different (find_email_unique there found same)
      rw [Option.map_some, if_neg distinct]

theorem setStatus_ids (table : UserTable platform) (id : Uuid) (status : UserStatus) :
    (table.setStatus id status).rows.map User.id = table.rows.map User.id := by
  simp only [setStatus, map_map]
  congr 1
  funext user
  simp only [Function.comp_apply]
  split <;> rfl

/-- A pass in which the status of one user was set, and that user perhaps
revoked. -/
structure StatusSet (tenant : Uuid) (before after : SyncPass platform) (user : User)
    (status : UserStatus) (revoked : List OffboardReason) : Prop where
  users : after.store.users = before.store.users.setStatus user.id status
  tenants : after.store.tenants = before.store.tenants
  published : after.published = before.published ++ revoked.map fun reason => (user.id, reason)
  dryRun : after.report.dryRun = before.report.dryRun

theorem StatusSet.reseated {status : UserStatus} {revoked : List OffboardReason}
    (set : StatusSet tenant before after user status revoked)
    (sound : before.Sound tenant) {email : Text}
    (found : before.store.users.find tenant email = some user) :
    Reseated tenant before after fun other seat =>
      if other = email then ⟨some status, seat.revoked || !revoked.isEmpty⟩ else seat where
  sound := by
    refine ⟨set.tenants ▸ sound.tenant, fun entry listed => ?_, set.dryRun.trans sound.enforcing⟩
    rw [set.users, setStatus_ids]
    rw [set.published] at listed
    rcases mem_append.mp listed with earlier | new
    · exact sound.published entry earlier
    · obtain ⟨reason, -, rfl⟩ := mem_map.mp new
      exact mem_map_of_mem (find_eq_some_iff.mp found).1
  ids other holder there := by
    rw [set.users, setStatus_find found]
    split
    case isTrue same =>
      rw [same, found] at there
      cases there
      exact ⟨_, rfl, rfl⟩
    case isFalse => exact ⟨holder, there, rfl⟩
  seat other := by
    rw [seat, seat, set.users, setStatus_find found, set.published]
    split
    case isTrue same =>
      rw [same, found]
      congr 2
      cases revoked <;> simp
    case isFalse different =>
      cases there : before.store.users.find tenant other with
      | none => rfl
      | some holder =>
        have distinct : user.id ≠ holder.id := fun same =>
          different (find_email_unique there found same.symm)
        simp [distinct]

section

variable {known : User} (sound : pass.Sound tenant)
  (found : pass.store.users.find tenant email = some user) (same : user.id = known.id)
include sound found same

theorem offboard_reseated (reason : OffboardReason) :
    Reseated tenant pass (offboard tenant known reason pass) fun other seat =>
      if other = email then seat.offboard else seat := by
  have set : StatusSet tenant pass (offboard tenant known reason pass) user .deleted [reason] := by
    unfold offboard
    rw [← same, updateStatus_of_found found]
    exact ⟨rfl, rfl, rfl, rfl⟩
  apply (set.reseated sound found).congr
  intro other
  split
  case isTrue here => simp [Seat.offboard, seat, here, found]
  case isFalse => rfl

theorem reactivate_reseated (du : DirectoryUser) :
    Reseated tenant pass (reactivate tenant known du pass) fun other seat =>
      if other = email then list (some known.status) seat true else seat := by
  unfold reactivate
  split
  case isTrue active =>
    have unchanged : Reseated tenant pass pass fun _ seat => seat :=
      .unchanged sound rfl rfl rfl rfl
    apply unchanged.congr
    intro other
    rw [active]
    split <;> rfl
  case isFalse inactive =>
    rw [← same, updateStatus_of_found found]
    have set : StatusSet tenant pass
        { pass with store := { pass.store with
          users := pass.store.users.setStatus user.id .active } } user .active [] :=
      ⟨rfl, rfl, (append_nil _).symm, rfl⟩
    apply (set.reseated sound found).congr
    intro other
    split
    case isTrue here =>
      cases known : known.status with
      | active => exact absurd known inactive
      | _ => simp [list, seat, here, found]
    case isFalse => rfl

end

theorem lower_key (du : DirectoryUser) : platform.lower (du.key platform) = du.key platform :=
  platform.lower_idem _

variable {du : DirectoryUser}

/-- A user is provisioned where the email is free; where it is taken the tables
stay as they are. -/
theorem provisionUser_cases {store : Store platform} (real : tenant ≠ nilUuid)
    (known : tenant ∈ store.tenants) (nonempty : du.key platform ≠ []) :
    (store.users.find tenant (du.key platform) = none ∧ ∃ user after,
      provisionUser store tenant du = .ok (user, after) ∧
      user.id = store.freshId ∧ user.tenantId = tenant ∧ user.email = du.key platform ∧
      user.status = .active ∧ after.tenants = store.tenants ∧
      ∃ newId newEmail, after.users = store.users.insert user newId newEmail) ∨
    (store.users.find tenant (du.key platform) ≠ none ∧
      ∀ user after, provisionUser store tenant du = .ok (user, after) → after = store) := by
  by_cases vacant : store.users.find tenant (du.key platform) = none
  case pos =>
    refine .inl ⟨vacant, ?_⟩
    have lowered : store.users.find tenant (platform.lower (du.key platform)) = none := by
      rw [lower_key, vacant]
    cases made : store.createUser tenant (du.key platform)
      (if du.displayName = [] then du.email else du.displayName) du.externalId with
    | error e => simp [createUser, real, known, nonempty, lowered] at made
    | ok created =>
      obtain ⟨user, after⟩ := created
      refine ⟨user, after, by simp only [provisionUser, made], ?_⟩
      obtain ⟨rfl, newId, newEmail, rfl⟩ := createUser_eq_ok made
      exact ⟨rfl, rfl, rfl, rfl, rfl, newId, newEmail, rfl⟩
  case neg =>
    refine .inr ⟨vacant, fun user after provisioned => ?_⟩
    have taken : store.createUser tenant (du.key platform)
        (if du.displayName = [] then du.email else du.displayName) du.externalId =
        .error .conflict := by
      rw [createUser, if_neg real, if_neg (not_not.mpr known), if_neg nonempty,
        dif_neg (by rw [lower_key]; exact vacant)]
    simp only [provisionUser, taken] at provisioned
    split at provisioned
    · exact (Prod.mk.inj (Except.ok.inj provisioned)).2.symm
    · cases provisioned

theorem insert_reseated (sound : before.Sound tenant)
    {newId : user.id ∉ before.store.users.rows.map User.id}
    {newEmail : before.store.users.find user.tenantId (platform.lower user.email) = none}
    (own : user.tenantId = tenant) {email : Text} (lowered : platform.lower user.email = email)
    (users : after.store.users = before.store.users.insert user newId newEmail)
    (tenants : after.store.tenants = before.store.tenants)
    (published : after.published = before.published)
    (dryRun : after.report.dryRun = before.report.dryRun) :
    Reseated tenant before after fun other seat =>
      if other = email then ⟨some user.status, seat.revoked⟩ else seat where
  sound := by
    refine ⟨tenants ▸ sound.tenant, fun entry listed => ?_, dryRun.trans sound.enforcing⟩
    rw [users]
    exact mem_cons_of_mem _ (sound.published entry (published ▸ listed))
  ids other holder there := by
    have different : ¬ (user.tenantId = tenant ∧ platform.lower user.email = other) := by
      rintro ⟨-, rfl⟩
      rw [own, there] at newEmail
      cases newEmail
    exact ⟨holder, by rw [users, find_insert, if_neg different, there], rfl⟩
  seat other := by
    rw [seat, seat, users, find_insert, published]
    by_cases here : other = email
    case pos =>
      have free : before.store.users.find tenant other = none := by
        rw [here, ← lowered, ← own, newEmail]
      rw [if_pos ⟨own, lowered.trans here.symm⟩, if_pos here, free]
      simp only [Option.map_some, Option.any_some, Option.any_none]
      congr 1
      rw [Bool.eq_false_iff]
      intro revoked
      obtain ⟨entry, listed, same⟩ := any_eq_true.mp revoked
      exact newId (of_decide_eq_true same ▸ sound.published entry listed)
    case neg =>
      rw [if_neg fun same => here (lowered ▸ same.2.symm), if_neg here]

/-- Provisioning takes the seat of the email where it is free. -/
theorem provisionUser_reseated (sound : before.Sound tenant) (real : tenant ≠ nilUuid)
    (nonempty : du.key platform ≠ [])
    (provisioned : provisionUser before.store tenant du = .ok (user, after.store))
    (published : after.published = before.published)
    (dryRun : after.report.dryRun = before.report.dryRun) :
    Reseated tenant before after fun other seat =>
      if other = du.key platform then list none seat true else seat := by
  rcases provisionUser_cases real sound.tenant nonempty with
    ⟨vacant, made, store, succeeds, -, own, email, active, tenants, newId, newEmail, users⟩ |
    ⟨taken, same⟩
  · obtain ⟨rfl, rfl⟩ := Prod.mk.inj (Except.ok.inj (provisioned.symm.trans succeeds))
    have lowered : platform.lower user.email = du.key platform := by rw [email, lower_key]
    apply (insert_reseated sound own lowered users tenants published dryRun).congr
    intro other
    split
    case isTrue here => simp [list, seat, here, vacant, active]
    case isFalse => rfl
  · have store := same _ _ provisioned
    have unchanged : Reseated tenant before after fun _ seat => seat :=
      .unchanged sound (by rw [store]) (by rw [store]) published dryRun
    apply unchanged.congr
    intro other
    split
    case isTrue here =>
      obtain ⟨holder, found⟩ := Option.ne_none_iff_exists'.mp taken
      simp [list, seat, here, found]
    case isFalse => rfl

include sound in
theorem taken_of_provisionUser_error (real : tenant ≠ nilUuid)
    (nonempty : du.key platform ≠ []) {cause : RepositoryError}
    (failed : provisionUser pass.store tenant du = .error cause) :
    list none (pass.seat tenant (du.key platform)) true = pass.seat tenant (du.key platform) := by
  rcases provisionUser_cases real sound.tenant nonempty with ⟨-, _, _, succeeds, -⟩ | ⟨taken, -⟩
  · rw [succeeds] at failed
    cases failed
  · obtain ⟨holder, found⟩ := Option.ne_none_iff_exists'.mp taken
    simp [list, seat, found]

/-! ## One directory -/

/-- The users a directory found when it began are still there. -/
def Knows (locals : Assoc Text User) (pass : SyncPass platform) (tenant : Uuid) : Prop :=
  ∀ email known, locals.get? email = some known →
    ∃ user, pass.store.users.find tenant email = some user ∧ user.id = known.id

variable {locals : Assoc Text User}

theorem Reseated.knows {change : Text → Seat → Seat}
    (reseated : Reseated tenant before after change)
    (knows : Knows locals before tenant) : Knows locals after tenant := by
  intro email known there
  obtain ⟨user, found, same⟩ := knows email known there
  obtain ⟨later, kept, again⟩ := reseated.ids email user found
  exact ⟨later, kept, again.trans same⟩

def entryChange (platform : Platform) (locals : Assoc Text User) (du : DirectoryUser)
    (email : Text) (seat : Seat) : Seat :=
  if du.key platform = email ∧ email ≠ [] then
    list ((locals.get? email).map User.status) seat du.active
  else seat

theorem Reseated.ofEntry (nonempty : du.key platform ≠ []) {known : Option User}
    (found : locals.get? (du.key platform) = known) {active : Bool} (listed : du.active = active)
    (reseated : Reseated tenant before after fun other seat =>
      if other = du.key platform then list (known.map User.status) seat active else seat) :
    Reseated tenant before after (entryChange platform locals du) := by
  apply reseated.congr
  intro other
  rw [entryChange]
  by_cases here : other = du.key platform
  · subst here
    rw [if_pos rfl, if_pos ⟨rfl, nonempty⟩, found, listed]
  · rw [if_neg here, if_neg fun same => here same.1.symm]

include sound in
/-- **An entry is a listing of its email.** -/
theorem reconcileEntry_reseated (real : tenant ≠ nilUuid)
    (knows : Knows locals pass tenant) (reconciler : RoleReconciler) (du : DirectoryUser) :
    Reseated tenant pass (reconcileEntry tenant reconciler locals pass du)
      (entryChange platform locals du) := by
  unfold reconcileEntry
  split
  case isTrue empty =>
    have unchanged : Reseated tenant pass (pass.fail (.noEmail du.externalId)) fun _ seat => seat :=
      .unchanged sound rfl rfl rfl rfl
    apply unchanged.congr
    intro other
    rw [entryChange, if_neg fun same => same.2 (same.1 ▸ empty)]
  case isFalse nonempty =>
    dsimp only
    have seenSound : Sound { pass with report :=
        { pass.report with usersSeen := pass.report.usersSeen + 1 } } tenant :=
      ⟨sound.tenant, sound.published, sound.enforcing⟩
    split
    case h_1 known inactive found =>
      obtain ⟨user, there, same⟩ := knows _ _ found
      have done := offboard_reseated seenSound there same .deactivated
      exact .ofEntry nonempty found inactive ⟨done.sound, done.ids, done.seat⟩
    case h_2 inactive found =>
      have unchanged := Reseated.unchanged seenSound rfl rfl rfl rfl
      refine .ofEntry nonempty found inactive ⟨seenSound, unchanged.ids, fun other => ?_⟩
      split <;> rfl
    case h_3 known active found =>
      obtain ⟨user, there, same⟩ := knows _ _ found
      have first := reactivate_reseated seenSound there same du
      have done := first.trans (syncGroups_reseated first.sound reconciler known.id du)
      exact .ofEntry nonempty found active ⟨done.sound, done.ids, done.seat⟩
    case h_4 active found =>
      split
      case h_1 cause failed =>
        have unchanged := Reseated.unchanged seenSound rfl rfl rfl rfl
        refine .ofEntry nonempty found active ⟨⟨sound.tenant, sound.published, sound.enforcing⟩,
          unchanged.ids, fun other => ?_⟩
        split
        case isTrue here =>
          rw [here]
          exact (taken_of_provisionUser_error sound real nonempty failed).symm
        case isFalse => rfl
      case h_2 user store provisioned =>
        have first : Reseated tenant pass { pass with
              store
              report := { pass.report with
                usersSeen := pass.report.usersSeen + 1
                usersProvisioned := pass.report.usersProvisioned + 1 } } fun other seat =>
            if other = du.key platform then list none seat true else seat :=
          provisionUser_reseated sound real nonempty provisioned rfl rfl
        have done := first.trans (syncGroups_reseated first.sound reconciler user.id du)
        exact .ofEntry nonempty found active ⟨done.sound, done.ids, done.seat⟩

def listings (platform : Platform) (email : Text) (dirUsers : List DirectoryUser) : List Bool :=
  (dirUsers.filter fun du => du.key platform = email ∧ email ≠ []).map DirectoryUser.active

theorem foldl_entryChange (locals : Assoc Text User) (email : Text) (seat : Seat)
    (dirUsers : List DirectoryUser) :
    dirUsers.foldl (fun seat du => entryChange platform locals du email seat) seat =
      (listings platform email dirUsers).foldl
        (list ((locals.get? email).map User.status)) seat := by
  induction dirUsers generalizing seat with
  | nil => rfl
  | cons du rest ih =>
    rw [foldl_cons, ih, listings, listings, entryChange]
    by_cases here : du.key platform = email ∧ email ≠ []
    · rw [if_pos here, filter_cons_of_pos (by simpa using here), map_cons, foldl_cons]
    · rw [if_neg here, filter_cons_of_neg (by simpa using here)]

include sound in
theorem foldl_reconcileEntry_reseated (real : tenant ≠ nilUuid)
    (knows : Knows locals pass tenant) (reconciler : RoleReconciler)
    (dirUsers : List DirectoryUser) :
    Reseated tenant pass (dirUsers.foldl (reconcileEntry tenant reconciler locals) pass)
      fun email seat => (listings platform email dirUsers).foldl
        (list ((locals.get? email).map User.status)) seat := by
  suffices walked : Reseated tenant pass
      (dirUsers.foldl (reconcileEntry tenant reconciler locals) pass) fun email seat =>
        dirUsers.foldl (fun seat du => entryChange platform locals du email seat) seat by
    simpa only [foldl_entryChange] using walked
  induction dirUsers generalizing pass with
  | nil => exact .unchanged sound rfl rfl rfl rfl
  | cons du rest ih =>
    have first := reconcileEntry_reseated sound real knows reconciler du
    exact first.trans (ih first.sound (first.knows knows))

theorem mem_seenEmails_iff :
    email ∈ seenEmails platform dirUsers ↔ listings platform email dirUsers ≠ [] := by
  rw [seenEmails, listings, ne_eq, map_eq_nil_iff, filter_eq_nil_iff]
  simp only [mem_filter, mem_map, decide_eq_true_eq]
  push Not
  constructor
  · rintro ⟨⟨du, member, rfl⟩, nonempty⟩
    exact ⟨du, member, rfl, nonempty⟩
  · rintro ⟨du, member, same, nonempty⟩
    exact ⟨⟨du, member, same⟩, nonempty⟩

/-! ## The sweep -/

include sound in
theorem sweepEntry_reseated {known : Text × User}
    (there : ∃ user, pass.store.users.find tenant known.1 = some user ∧ user.id = known.2.id)
    (seen : List Text) :
    Reseated tenant pass (sweepEntry tenant seen pass known) fun email seat =>
      if email = known.1 ∧ email ∉ seen ∧ known.2.status = .active then seat.offboard
      else seat := by
  obtain ⟨user, found, same⟩ := there
  unfold sweepEntry
  split
  case isTrue kept =>
    have unchanged : Reseated tenant pass pass fun _ seat => seat :=
      .unchanged sound rfl rfl rfl rfl
    apply unchanged.congr
    intro other
    rw [if_neg]
    rintro ⟨rfl, absent, active⟩
    exact kept.elim absent fun inactive => inactive active
  case isFalse swept =>
    obtain ⟨absent, active⟩ := not_or.mp swept
    apply (offboard_reseated sound found same .absent).congr
    intro other
    exact if_congr ⟨fun here => ⟨here, here ▸ absent, not_not.mp active⟩, And.left⟩ rfl rfl

theorem Seat.offboard_offboard (seat : Seat) : seat.offboard.offboard = seat.offboard := by
  cases status : seat.status <;> simp [offboard, status]

include sound in
theorem foldl_sweepEntry_reseated {entries : List (Text × User)}
    (there : ∀ known ∈ entries, ∃ user, pass.store.users.find tenant known.1 = some user ∧
      user.id = known.2.id)
    (seen : List Text) :
    Reseated tenant pass (entries.foldl (sweepEntry tenant seen) pass) fun email seat =>
      if entries.any fun known => email = known.1 ∧ email ∉ seen ∧ known.2.status = .active then
        seat.offboard
      else seat := by
  induction entries generalizing pass with
  | nil => exact .unchanged sound rfl rfl rfl rfl
  | cons known rest ih =>
    rw [forall_mem_cons] at there
    have first := sweepEntry_reseated sound there.1 seen
    have still : ∀ later ∈ rest, ∃ user,
        (sweepEntry tenant seen pass known).store.users.find tenant later.1 = some user ∧
        user.id = later.2.id := by
      intro later member
      obtain ⟨user, found, same⟩ := there.2 later member
      obtain ⟨kept, again, id⟩ := first.ids _ _ found
      exact ⟨kept, again, id.trans same⟩
    apply (first.trans (ih first.sound still)).congr
    intro email
    rw [any_cons]
    by_cases here : email = known.1 ∧ email ∉ seen ∧ known.2.status = .active
    · simp only [if_pos here, decide_eq_true here, Bool.true_or, if_true,
        offboard_offboard, ite_self]
    · simp only [if_neg here, decide_eq_false here, Bool.false_or]

/-! ## The users a directory finds -/

variable (store : Store platform)

theorem localByEmail_get? (email : Text) :
    (localByEmail store tenant).get? email = store.users.find tenant email := by
  have distinct : ((store.users.rows.filter fun user => user.tenantId = tenant).map
      fun user => platform.lower user.email).Nodup := by
    have pairs : ((store.users.rows.filter fun user => user.tenantId = tenant).map
        fun user => (user.tenantId, platform.lower user.email)).Nodup :=
      (filter_sublist.map _).nodup store.users.emailsDistinct
    refine Nodup.of_map (Prod.mk tenant) ?_
    rw [map_map, map_congr_left fun user member => ?_]
    · exact pairs
    · rw [← of_decide_eq_true (mem_filter.mp member).2]
      rfl
  rw [localByEmail, get?_foldl_set _ _ distinct, get?_empty, Option.or_none,
    find?_filter, Option.map_id', find]
  simp

theorem any_localByEmail (email : Text) (seen : List Text) :
    ((localByEmail store tenant).entries.any fun known =>
      email = known.1 ∧ email ∉ seen ∧ known.2.status = .active) ↔
    email ∉ seen ∧ (store.users.find tenant email).map User.status = some .active := by
  rw [any_eq_true]
  constructor
  · rintro ⟨⟨key, user⟩, member, holds⟩
    obtain ⟨rfl, absent, active⟩ := of_decide_eq_true holds
    rw [mem_entries_iff, localByEmail_get?] at member
    exact ⟨absent, by rw [member, Option.map_some, active]⟩
  · rintro ⟨absent, active⟩
    obtain ⟨user, found, status⟩ := Option.map_eq_some_iff.mp active
    rw [← localByEmail_get?] at found
    exact ⟨(email, user), mem_entries_iff.mpr found, decide_eq_true ⟨rfl, absent, status⟩⟩

include sound in
/-- **A directory reconciles each seat with its listings of the email.** -/
theorem reconcileEnforce_reseated (real : tenant ≠ nilUuid) (dirUsers : List DirectoryUser) :
    Reseated tenant pass (reconcileEnforce tenant dirUsers pass) fun email seat =>
      seat.reconcile (listings platform email dirUsers) := by
  obtain ⟨fine, users, tenants⟩ := newRoleReconciler_ok sound.tenant dirUsers
  have begun : Reseated tenant pass
      { pass with store := (newRoleReconciler pass.store tenant dirUsers).store }
      fun _ seat => seat := .unchanged sound users tenants rfl rfl
  have found : Knows (localByEmail pass.store tenant) pass tenant := by
    intro email known there
    exact ⟨known, localByEmail_get? pass.store email ▸ there, rfl⟩
  have walked := begun.trans (foldl_reconcileEntry_reseated begun.sound real (begun.knows found)
    (newRoleReconciler pass.store tenant dirUsers).reconciler dirUsers)
  have swept := foldl_sweepEntry_reseated walked.sound
    (fun known member => walked.knows found known.1 known.2 (mem_entries_iff.mp member))
    (seenEmails platform dirUsers)
  unfold reconcileEnforce
  simp only [fine]
  apply (walked.trans swept).congr
  intro email
  simp only [any_localByEmail, localByEmail_get?]
  simp only [mem_seenEmails_iff, not_not]
  rfl

/-! ## All directories of a tenant -/

/-- The snapshots that are reconciled: those of the enabled directories that
have a credential and could be read. -/
def snapshots (configs : List IdpConfig) : List (List DirectoryUser) :=
  configs.filterMap fun config =>
    match config.enabled, config.read with
    | true, .users dirUsers => some dirUsers
    | _, _ => none

def enforces (gate : Option RolloutState) : Prop := gate ≠ some .off ∧ gate ≠ some .monitor

include sound in
theorem syncConfig_reseated (real : tenant ≠ nilUuid) (config : IdpConfig) :
    Reseated tenant pass (syncConfig tenant pass config) fun email seat =>
      seat.run ((snapshots [config]).map (listings platform email)) := by
  obtain ⟨enabled, read⟩ := config
  cases enabled with
  | false => exact .unchanged sound rfl rfl rfl rfl
  | true =>
    cases read with
    | users dirUsers =>
      have begun : Reseated tenant pass { pass with report :=
          { pass.report with configsProcessed := pass.report.configsProcessed + 1 } }
          fun _ seat => seat := .unchanged sound rfl rfl rfl rfl
      have done := begun.trans (reconcileEnforce_reseated begun.sound real dirUsers)
      have enforced : syncConfig tenant pass ⟨true, .users dirUsers⟩ =
          reconcileEnforce tenant dirUsers { pass with report :=
            { pass.report with configsProcessed := pass.report.configsProcessed + 1 } } :=
        if_neg (Bool.eq_false_iff.mp sound.enforcing)
      rw [enforced]
      exact done
    | _ => exact .unchanged sound rfl rfl rfl rfl

include sound in
theorem foldl_syncConfig_reseated (real : tenant ≠ nilUuid) (configs : List IdpConfig) :
    Reseated tenant pass (configs.foldl (syncConfig tenant) pass) fun email seat =>
      seat.run ((snapshots configs).map (listings platform email)) := by
  induction configs generalizing pass with
  | nil => exact .unchanged sound rfl rfl rfl rfl
  | cons config rest ih =>
    have first := syncConfig_reseated sound real config
    have parts : snapshots (config :: rest) = snapshots [config] ++ snapshots rest :=
      filterMap_append (l := [config])
    apply (first.trans (ih first.sound)).congr
    intro email
    rw [parts, map_append, run, run, run, foldl_append]

/-- **A pass over the directories of a tenant runs each seat through their
listings.** -/
theorem syncTenant_seat {store : Store platform} (known : tenant ∈ store.tenants)
    (real : tenant ≠ nilUuid) {gate : Option RolloutState} (enforcing : enforces gate)
    (configs : List IdpConfig) (email : Text) :
    (syncTenant store tenant gate configs).seat tenant email =
      run ⟨(store.users.find tenant email).map User.status, false⟩
        ((snapshots configs).map (listings platform email)) := by
  have begun : Sound ⟨store, [], { state := gate }⟩ tenant := ⟨known, nofun, rfl⟩
  have started : (⟨store, [], { state := gate }⟩ : SyncPass platform).seat tenant email =
      ⟨(store.users.find tenant email).map User.status, false⟩ := by
    rw [seat]
    cases store.users.find tenant email <;> rfl
  have passed : syncTenant store tenant gate configs =
      configs.foldl (syncConfig tenant) ⟨store, [], { state := gate }⟩ := by
    obtain ⟨notOff, notMonitor⟩ := enforcing
    unfold syncTenant
    split
    · contradiction
    · contradiction
    · rfl
  rw [passed, (foldl_syncConfig_reseated begun real configs).seat, started]

/-! ## Access -/

def ActiveUser (pass : SyncPass platform) (tenant : Uuid) (email : Text) : Prop :=
  ∃ user, pass.store.users.find tenant email = some user ∧ user.status = .active

/-- Some reconciled directory lists the email, trimmed and in lower case, as
active. -/
def ListedActive (platform : Platform) (configs : List IdpConfig) (email : Text) : Prop :=
  ∃ dirUsers ∈ snapshots configs, ∃ du ∈ dirUsers,
    du.active = true ∧ du.key platform = email ∧ email ≠ []

/-- A revocation was published for the user of the email. -/
def Revoked (pass : SyncPass platform) (tenant : Uuid) (email : Text) : Prop :=
  ∃ user reason, pass.store.users.find tenant email = some user ∧ (user.id, reason) ∈ pass.published

/-- The pass leaves the user of the email active exactly when some directory
lists the email as active, and publishes no revocation for such a user. -/
def KeepsAccess (tenant : Uuid) (gate : Option RolloutState) (configs : List IdpConfig)
    (email : Text) : Prop :=
  (ActiveUser (syncTenant store tenant gate configs) tenant email ↔
    ListedActive platform configs email) ∧
  (ListedActive platform configs email →
    ¬ Revoked (syncTenant store tenant gate configs) tenant email)

theorem activeUser_iff :
    ActiveUser pass tenant email ↔ (pass.seat tenant email).status = some .active :=
  Option.map_eq_some_iff.symm

theorem revoked_iff : Revoked pass tenant email ↔ (pass.seat tenant email).revoked := by
  rw [seat, Option.any_eq_true]
  constructor
  · rintro ⟨user, reason, found, published⟩
    exact ⟨user, found, any_eq_true.mpr ⟨_, published, by simp⟩⟩
  · rintro ⟨user, found, published⟩
    obtain ⟨⟨id, reason⟩, member, same⟩ := any_eq_true.mp published
    obtain rfl := of_decide_eq_true same
    exact ⟨user, reason, found, member⟩

theorem listedActive_iff {configs : List IdpConfig} : ListedActive platform configs email ↔
    ∃ list ∈ (snapshots configs).map (listings platform email), true ∈ list := by
  constructor
  · rintro ⟨dirUsers, snapshot, du, member, active, same⟩
    exact ⟨_, mem_map_of_mem snapshot, mem_map.mpr
      ⟨du, mem_filter.mpr ⟨member, decide_eq_true same⟩, active⟩⟩
  · rintro ⟨list, mapped, listed⟩
    obtain ⟨dirUsers, snapshot, rfl⟩ := mem_map.mp mapped
    obtain ⟨du, kept, active⟩ := mem_map.mp listed
    obtain ⟨member, same⟩ := mem_filter.mp kept
    exact ⟨dirUsers, snapshot, du, member, active, of_decide_eq_true same⟩

/-- The directories agree that the user of the email is active. -/
def DirectoriesAgree (tenant : Uuid) (configs : List IdpConfig) (email : Text) : Prop :=
  Agree ((store.users.find tenant email).map User.status)
    ((snapshots configs).map (listings platform email))

/-- **The user of an email that some directory lists as active keeps access
exactly when all directories agree on it.** -/
theorem listed_user_keeps_access_iff (store : Store platform) (tenant : Uuid)
    (known : tenant ∈ store.tenants) (real : tenant ≠ nilUuid) (gate : Option RolloutState)
    (enforcing : enforces gate) (configs : List IdpConfig) (synced : snapshots configs ≠ [])
    (email : Text) :
    KeepsAccess store tenant gate configs email ↔
      (ListedActive platform configs email → DirectoriesAgree store tenant configs email) := by
  have seat := syncTenant_seat known real enforcing configs email
  rw [KeepsAccess, activeUser_iff, revoked_iff, seat, DirectoriesAgree, ← run_keeps_iff, Keeps]
  by_cases listed : ListedActive platform configs email
  case pos => simp only [listed, iff_true, true_imp_iff, Bool.not_eq_true]
  case neg =>
    have idle := run_unlisted ⟨(store.users.find tenant email).map User.status, false⟩
      (mt map_eq_nil_iff.mp synced) fun list member active =>
        listed (listedActive_iff.mpr ⟨list, member, active⟩)
    simp only [listed, idle, false_imp_iff, and_true]

def directoryOf (emails : List String) : IdpConfig :=
  ⟨true, .users (emails.map fun email => ⟨email.toList, email.toList, [], true, []⟩)⟩

theorem user_of_both_directories_keeps_access : KeepsAccess sampleStore 1 none
    [directoryOf ["ann@example.com", "bob@example.com"], directoryOf [" Ann@Example.com"]]
    "ann@example.com".toList := by
  refine (listed_user_keeps_access_iff sampleStore 1 (by decide) (by decide) none
    ⟨by decide, by decide⟩ _ (by simp [snapshots, directoryOf]) _).mpr fun _ => ?_
  change Agree (some .active) [[true], [true]]
  simp [Agree, OnlyActive]

/-- **A directory off-boards the users that only another directory lists**: the
first lists the user as active, the second does not list the user at all. -/
theorem second_directory_offboards : ¬ KeepsAccess sampleStore 1 none
    [directoryOf ["ann@example.com"], directoryOf ["bob@example.com"]]
    "ann@example.com".toList := by
  intro keeps
  have gone : seat (syncTenant sampleStore 1 none
      [directoryOf ["ann@example.com"], directoryOf ["bob@example.com"]]) 1
      "ann@example.com".toList = ⟨some .deleted, true⟩ := by decide
  have listed : ListedActive asciiPlatform
      [directoryOf ["ann@example.com"], directoryOf ["bob@example.com"]]
      "ann@example.com".toList :=
    ⟨_, .head _, _, .head _, rfl, by decide, by decide⟩
  have active := activeUser_iff.mp (keeps.1.mpr listed)
  cases active

end ShieldNet.Identity
