import ShieldNet.Lib.Runs
import ShieldNet.Identity.Access

/-!
# What monitor mode predicts

`reconcileDryRun` counts what `reconcile` would do. The counts are those of an enforcing
pass exactly when the directory deactivates only active users, and lists an email with
blanks around it again only where it finds the user it has provisioned for it
(`monitor_predicts_enforcement_iff`). The off-boarding of a suspended user is counted by the
enforcing pass alone (`suspended_user_not_predicted`).
-/

namespace ShieldNet.Identity

open List

/-- The users provisioned and off-boarded, and those that would have been. -/
def SyncReport.done (report : SyncReport) : Nat × Nat :=
  (report.usersProvisioned, report.usersOffboarded)

def SyncReport.predicted (report : SyncReport) : Nat × Nat :=
  (report.wouldProvision, report.wouldOffboard)

/-- Both modes count the entry, or none does, after earlier ones: an inactive entry has no local
user or an active one, and where an earlier entry has provisioned the email there is a user under
the email as it is written. -/
structure DirectoryUser.Predictable (platform : Platform) (find : Text → Option User)
    (earlier : List DirectoryUser) (du : DirectoryUser) : Prop where
  offboarded : du.active = false → du.key platform ≠ [] →
    ∀ user ∈ find (du.key platform), user.status = .active
  provisioned : du.active = true → du.key platform ≠ [] → find (du.key platform) = none →
    true ∈ listings platform (du.key platform) earlier →
    (find (platform.lower du.email)).isSome ∨
      true ∈ listings platform (platform.lower du.email) earlier

variable {platform : Platform} {tenant : Uuid} {pass : SyncPass platform}
  {locals : Assoc Text User} {du : DirectoryUser}

theorem predictable_of_inactive {find : Text → Option User} {earlier : List DirectoryUser}
    (inactive : du.active = false) : du.Predictable platform find earlier ↔
      (du.key platform ≠ [] → ∀ user ∈ find (du.key platform), user.status = .active) := by
  refine ⟨fun predictable => predictable.offboarded inactive, fun offboarded => ?_⟩
  exact ⟨fun _ => offboarded, fun active => absurd (inactive.symm.trans active) Bool.false_ne_true⟩

theorem predictable_of_active {find : Text → Option User} {earlier : List DirectoryUser}
    (active : du.active = true) : du.Predictable platform find earlier ↔
      (du.key platform ≠ [] → find (du.key platform) = none →
        true ∈ listings platform (du.key platform) earlier →
        (find (platform.lower du.email)).isSome ∨
          true ∈ listings platform (platform.lower du.email) earlier) := by
  refine ⟨fun predictable => predictable.provisioned active, fun provisioned => ?_⟩
  exact ⟨fun inactive => absurd (inactive.symm.trans active) Bool.false_ne_true,
    fun _ => provisioned⟩

theorem done_syncGroups (reconciler : RoleReconciler) (userId : Uuid) :
    (syncGroups reconciler userId du pass).report.done = pass.report.done := by
  unfold syncGroups
  dsimp only
  split <;> rfl

theorem done_reactivate {known : User} :
    (reactivate tenant known du pass).report.done = pass.report.done := by
  unfold reactivate
  repeat' split
  all_goals rfl

/-- A user is provisioned where the email is free, and found where it is taken as it is
written. -/
theorem exists_provisionUser_iff {store : Store platform} (real : tenant ≠ nilUuid)
    (present : tenant ∈ store.tenants) (nonempty : du.key platform ≠ []) :
    (∃ provisioned, provisionUser store tenant du = .ok provisioned) ↔
      store.users.find tenant (du.key platform) = none ∨
        (store.users.find tenant (platform.lower du.email)).isSome := by
  rcases provisionUser_cases real present nonempty with
    ⟨vacant, user, after, succeeds, -⟩ | ⟨taken, -⟩
  · exact iff_of_true ⟨_, succeeds⟩ (.inl vacant)
  · have conflict : ∀ name, store.createUser tenant (du.key platform) name du.externalId =
        .error .conflict := by
      intro name
      simp [Store.createUser, real, present, nonempty, lower_key, taken]
    rw [provisionUser, conflict, Store.getByEmail, platform.lower_idem]
    cases store.users.find tenant (platform.lower du.email) with
    | none => simp [taken]
    | some holder => simp

/-- Walking over the listings of an email leaves a user there who was there before, or whom an
active listing has provisioned. -/
theorem isSome_status_foldl_list (known : Option UserStatus) (listings : List Bool) (seat : Seat) :
    (listings.foldl (Seat.list known) seat).status.isSome ↔
      seat.status.isSome ∨ known = none ∧ true ∈ listings := by
  induction listings generalizing seat with
  | nil => simp
  | cons active rest ih =>
    rw [foldl_cons, ih]
    cases active <;> rcases known with _ | (_ | _ | _) <;> simp [Seat.list, Seat.offboard]

section

variable (sound : pass.Sound tenant) (knows : Knows locals pass tenant)
include sound knows

theorem done_foldl_sweepEntry (seen : List Text) {entries : List (Text × User)}
    (listed : ∀ known ∈ entries, locals.get? known.1 = some known.2) :
    (entries.foldl (sweepEntry tenant seen) pass).report.done =
      (pass.report.done.1, pass.report.done.2 + (entries.filter fun known =>
        known.1 ∉ seen ∧ known.2.status = .active).length) := by
  induction entries generalizing pass with
  | nil => rfl
  | cons known rest ih =>
    rw [forall_mem_cons] at listed
    obtain ⟨user, found, own⟩ := knows _ _ listed.1
    have swept := sweepEntry_reseated sound ⟨user, found, own⟩ seen
    rw [foldl_cons, ih swept.sound (swept.knows knows) listed.2, filter_cons, sweepEntry]
    by_cases kept : known.1 ∈ seen ∨ known.2.status ≠ .active
    · rw [if_pos kept, if_neg (by simpa [imp_iff_not_or] using kept)]
    · rw [if_neg kept, if_pos (by simpa [imp_iff_not_or] using kept), length_cons, offboard, ← own,
        updateStatus_of_found found]
      exact congrArg (Prod.mk _) (Nat.add_right_comm ..)

variable (real : tenant ≠ nilUuid) (reconciler : RoleReconciler)
include real

/-- **An entry is counted by both modes exactly when it is predictable**; else monitor mode counts
a user too many as provisioned, or one too few as off-boarded. -/
theorem counts_reconcileEntry (du : DirectoryUser) (report : SyncReport)
    {earlier : List DirectoryUser}
    (history : ∀ email, (pass.store.users.find tenant email).isSome ↔
      (locals.get? email).isSome ∨ true ∈ listings platform email earlier) :
    ∃ predicted done : Nat × Nat,
      (dryRunEntry locals platform report du).predicted = report.predicted + predicted ∧
      (reconcileEntry tenant reconciler locals pass du).report.done = pass.report.done + done ∧
      done.1 ≤ predicted.1 ∧ predicted.2 ≤ done.2 ∧
      (predicted = done ↔ du.Predictable platform locals.get? earlier) := by
  unfold dryRunEntry reconcileEntry
  split
  case isTrue empty =>
    exact ⟨0, 0, rfl, rfl, le_rfl, le_rfl, iff_of_true rfl
      ⟨fun _ nonempty => absurd empty nonempty, fun _ nonempty => absurd empty nonempty⟩⟩
  case isFalse nonempty =>
    dsimp only
    split
    case h_1 known inactive there =>
      obtain ⟨user, found, own⟩ := knows _ _ there
      rw [predictable_of_inactive inactive, offboard, ← own, updateStatus_of_found found, there]
      split
      case isTrue active =>
        exact ⟨(0, 1), (0, 1), rfl, rfl, le_rfl, le_rfl, iff_of_true rfl (by simp [active])⟩
      case isFalse other =>
        exact ⟨0, (0, 1), rfl, rfl, le_rfl, Nat.zero_le _,
          iff_of_false (by decide) (by simp [nonempty, other])⟩
    case h_2 inactive absent =>
      rw [predictable_of_inactive inactive, absent]
      exact ⟨0, 0, rfl, rfl, le_rfl, le_rfl, iff_of_true rfl (by simp)⟩
    case h_3 known active there =>
      rw [predictable_of_active active, there]
      refine ⟨0, 0, rfl, ?_, le_rfl, le_rfl, iff_of_true rfl (by simp)⟩
      rw [done_syncGroups, done_reactivate]
      rfl
    case h_4 active absent =>
      have vacant : pass.store.users.find tenant (du.key platform) = none ↔
          true ∉ listings platform (du.key platform) earlier := by
        rw [← Option.isNone_iff_eq_none, ← Option.not_isSome, Bool.not_eq_true',
          ← Bool.not_eq_true, history, absent]
        simp
      have predictable : du.Predictable platform locals.get? earlier ↔
          ∃ provisioned, provisionUser pass.store tenant du = .ok provisioned := by
        rw [predictable_of_active active, exists_provisionUser_iff real sound.tenant nonempty,
          vacant, history, ← imp_iff_not_or]
        simp [nonempty, absent]
      rw [predictable]
      cases outcome : provisionUser pass.store tenant du with
      | error cause =>
        exact ⟨(1, 0), 0, rfl, rfl, Nat.zero_le _, le_rfl, iff_of_false (by decide) (by simp)⟩
      | ok provisioned =>
        refine ⟨(1, 0), (1, 0), rfl, ?_, le_rfl, le_rfl, iff_of_true rfl ⟨_, rfl⟩⟩
        rw [done_syncGroups]
        rfl

end

section

variable (sound : pass.Sound tenant)
  (same : ∀ email, pass.store.users.find tenant email = locals.get? email)
include same

theorem knows_of_find : Knows locals pass tenant :=
  fun email user there => ⟨user, (same email).trans there, rfl⟩

include sound

/-- The users there after some entries are those of the start, and those whom the entries list as
active. -/
theorem isSome_find_foldl_reconcileEntry (real : tenant ≠ nilUuid) (reconciler : RoleReconciler)
    (earlier : List DirectoryUser) (email : Text) :
    ((earlier.foldl (reconcileEntry tenant reconciler locals) pass).store.users.find
        tenant email).isSome ↔
      (locals.get? email).isSome ∨ true ∈ listings platform email earlier := by
  have seat := (foldl_reconcileEntry_reseated sound real (knows_of_find same) reconciler
    earlier).seat email
  have status := congrArg (fun seat => seat.status.isSome = true) seat
  simp only [isSome_status_foldl_list, SyncPass.seat, Option.isSome_map, same] at status
  rw [status]
  cases locals.get? email <;> simp

/-- **The counts of the entries are the same exactly when each is predictable.** -/
theorem counts_foldl_reconcileEntry (real : tenant ≠ nilUuid) (reconciler : RoleReconciler)
    (report : SyncReport) (begun : report.predicted = pass.report.done)
    (dirUsers : List DirectoryUser) :
    let predicted := (dirUsers.foldl (dryRunEntry locals platform) report).predicted
    let done := (dirUsers.foldl (reconcileEntry tenant reconciler locals) pass).report.done
    done.1 ≤ predicted.1 ∧ predicted.2 ≤ done.2 ∧ (predicted = done ↔
      AlongRun remember (fun earlier du => du.Predictable platform locals.get? earlier) []
        dirUsers) := by
  induction dirUsers using reverseRecOn with
  | nil => exact ⟨begun ▸ le_rfl, begun ▸ le_rfl, iff_of_true begun trivial⟩
  | append_singleton earlier du ih =>
    obtain ⟨provisioned, offboarded, counted⟩ := ih
    have left := foldl_reconcileEntry_reseated sound real (knows_of_find same) reconciler earlier
    obtain ⟨predicted, done, would, did, fewer, more, exact⟩ :=
      counts_reconcileEntry left.sound (left.knows (knows_of_find same)) real reconciler du
        (earlier.foldl (dryRunEntry locals platform) report)
        (isSome_find_foldl_reconcileEntry sound same real reconciler earlier)
    rw [alongRun_append, ← counted, foldl_remember, nil_append]
    simp only [foldl_append, foldl_cons, foldl_nil, would, did, AlongRun, and_true, ← exact]
    simp only [Prod.ext_iff, Prod.fst_add, Prod.snd_add]
    omega

end

/-- **Monitor mode predicts enforcement exactly when every entry is predictable** after those
before it; it changes and publishes nothing. -/
theorem monitor_predicts_enforcement_iff (store : Store platform) (tenant : Uuid)
    (present : tenant ∈ store.tenants) (real : tenant ≠ nilUuid) (dirUsers : List DirectoryUser) :
    let monitored := syncTenant store tenant (some .monitor) [⟨true, .users dirUsers⟩]
    (monitored.report.predicted =
        (syncTenant store tenant (some .enforce) [⟨true, .users dirUsers⟩]).report.done ∧
      monitored.store = store ∧ monitored.published = []) ↔
    ∀ earlier du later, dirUsers = earlier ++ du :: later →
      du.Predictable platform (store.users.find tenant) earlier := by
  obtain ⟨fine, users, tenants⟩ := newRoleReconciler_ok present dirUsers
  let built := newRoleReconciler store tenant dirUsers
  let locals := localByEmail store tenant
  let start : SyncPass platform :=
    ⟨built.store, [], { state := some .enforce, configsProcessed := 1 }⟩
  let report : SyncReport := { state := some .monitor, dryRun := true, configsProcessed := 1 }
  have sound : start.Sound tenant := ⟨tenants ▸ present, nofun, rfl⟩
  have found : locals.get? = store.users.find tenant := funext (localByEmail_get? store)
  have same : ∀ email, start.store.users.find tenant email = locals.get? email := fun email => by
    rw [found]
    exact congrArg (·.find tenant email) users
  have left :=
    foldl_reconcileEntry_reseated sound real (knows_of_find same) built.reconciler dirUsers
  have swept := done_foldl_sweepEntry left.sound (left.knows (knows_of_find same))
    (seenEmails platform dirUsers) fun known member => Assoc.mem_entries_iff.mp member
  have enforced : syncTenant store tenant (some .enforce) [⟨true, .users dirUsers⟩] =
      locals.entries.foldl (sweepEntry tenant (seenEmails platform dirUsers))
        (dirUsers.foldl (reconcileEntry tenant built.reconciler locals) start) := by
    simp [syncTenant, syncConfig, reconcile, reconcileEnforce, fine, start, built, locals]
  have walked :=
    (counts_foldl_reconcileEntry sound same real built.reconciler report rfl dirUsers).2.2
  rw [found, alongRun_remember_iff] at walked
  rw [← walked, enforced, swept]
  refine (and_iff_left ⟨rfl, rfl⟩).trans ?_
  rw [Prod.ext_iff, Prod.ext_iff]
  exact and_congr_right fun _ => Nat.add_right_cancel_iff

/-- Ann leaves, and Bob comes under an email with a blank. -/
def exchange : List DirectoryUser :=
  [⟨[], "ann@example.com".toList, [], false, []⟩, ⟨[], " bob@example.com".toList, [], true, []⟩]

theorem exchange_predicted :
    (syncTenant sampleStore 1 (some .monitor) [⟨true, .users exchange⟩]).report.predicted =
      (syncTenant sampleStore 1 (some .enforce) [⟨true, .users exchange⟩]).report.done :=
  ((monitor_predicts_enforcement_iff sampleStore 1 (by decide) (by decide) exchange).mpr
    (alongRun_remember_iff.mp ⟨⟨by decide, by decide⟩, ⟨by decide, by decide⟩, trivial⟩)).1

def suspendedStore : Store asciiPlatform :=
  { sampleStore with users := sampleStore.users.setStatus 2 .suspended }

/-- **A suspended user who leaves is off-boarded unpredicted.** -/
theorem suspended_user_not_predicted :
    (syncTenant suspendedStore 1 (some .monitor) [⟨true, .users exchange⟩]).report.predicted =
        (1, 0) ∧
      (syncTenant suspendedStore 1 (some .enforce) [⟨true, .users exchange⟩]).report.done =
        (1, 1) := by
  decide

end ShieldNet.Identity
